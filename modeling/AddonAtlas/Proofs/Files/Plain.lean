import AddonAtlas.Proofs.Files.Change
import AddonAtlas.Proofs.Files.Resolve
import AddonAtlas.Proofs.Files.Walk

/-!
# Disks without links

On a plain disk, one without links and with proper names, a path stands for the place of its names,
whatever stands there (`IsPlain.resolve_eq`).  Changes keep a disk plain.
-/

namespace AddonAtlas.Files

open Entry

theorem linkFree_of_linksIn {top : Entry} (h : linksIn top = []) : top.LinkFree := by
  intro location target hnode
  have hmem := mem_linksIn (nodeAt_eq_link_iff.1 hnode)
  rw [h] at hmem
  cases hmem

section Follow

variable {top : Entry} {followLast : Bool} {links : Nat} {location : Location} {names : List String}

theorem not_link_of_lookup (hfree : top.LinkFree) {entries : List (String × Entry)} {name : String}
    (hat : top.at? location = some (.folder entries)) (target : String) :
    entries.lookup name ≠ some (.link target) := by
  intro hname
  rw [← at?_concat hat] at hname
  exact hfree _ target (nodeAt_eq_link_iff.2 hname)

theorem follow_ne_tooManyLinks (hfree : top.LinkFree) :
    follow top followLast links location names ≠ .error .tooManyLinks := by
  fun_induction follow top followLast links location names with
  | case3 _ _ _ _ _ _ _ ih | case4 _ _ _ _ _ _ _ _ ih | case10 _ _ _ _ _ _ _ _ _ _ _ ih => exact ih
  | case8 _ _ _ _ hat _ _ target hname | case9 _ _ _ _ hat _ _ target hname =>
    exact absurd hname (not_link_of_lookup hfree hat target)
  | case1 | case2 | case5 | case6 | case7 | case11 | case12 => simp

/-- A name is free only if it is one of those that were followed. -/
theorem mem_of_follow_free (hfree : top.LinkFree) {folder : Location} {name : String}
    (h : follow top followLast links location names = .ok (.free folder name)) : name ∈ names := by
  fun_induction follow top followLast links location names with
  | case3 _ _ _ _ _ _ _ ih | case4 _ _ _ _ _ _ _ _ ih | case10 _ _ _ _ _ _ _ _ _ _ _ ih =>
    exact List.mem_cons_of_mem _ (ih h)
  | case9 _ _ _ _ hat _ _ target hname =>
    exact absurd hname (not_link_of_lookup hfree hat target)
  | case5 =>
    cases h
    exact List.mem_cons_self
  | case1 | case2 | case6 | case7 | case8 | case11 | case12 => simp at h

end Follow

namespace Disk

/-- A disk without links, on which all names can be used. -/
structure IsPlain (disk : Disk) : Prop where
  sound : disk.top.isSound
  linkFree : disk.top.LinkFree

variable {disk before after : Disk} {path folder : Path}

/-! ## Paths -/

theorem find_ne_tooManyLinks (hfree : disk.top.LinkFree) (path : Path) :
    disk.find path ≠ .error .tooManyLinks := by
  intro hfind
  unfold find at hfind
  by_cases hclean : path.isClean
  · rw [spot_eq hclean] at hfind
    cases hfollow : follow disk.top true linkLimit (disk.start path) path.parts with
    | ok spot => cases spot <;> simp [hfollow] at hfind
    | error refusal =>
      simp only [hfollow, Except.error.injEq] at hfind
      exact follow_ne_tooManyLinks hfree (hfind ▸ hfollow)
  · rw [spot, if_pos (by simpa [Path.isClean] using hclean)] at hfind
    cases hfind

theorem IsPlain.resolve_eq (h : disk.IsPlain) (path : Path) :
    disk.resolve path = if path.isClean then
      .ok { root := "/", parts := plainLocation (disk.start path) path.parts }
    else .error (.system ⟨.nullByte, path.text⟩) := by
  by_cases hclean : path.isClean
  · rw [if_pos hclean, ← resolvedLocation_of_linkFree h.linkFree]
    exact Disk.resolve_eq hclean (find_ne_tooManyLinks h.linkFree _)
  · rw [if_neg hclean, resolve, if_pos (by simpa [Path.isClean] using hclean)]

theorem IsPlain.resolve_grows (h : before.IsPlain) (h' : after.IsPlain) (hgrows : Grows before after)
    (path : Path) : after.resolve path = before.resolve path := by
  rw [h.resolve_eq, h'.resolve_eq, hgrows.start]

theorem Grows.expand (hgrows : Grows before after) (path : Path) :
    after.expand path = before.expand path := by
  unfold Disk.expand
  rw [hgrows.home]

theorem IsPlain.spot_ne_link (h : disk.IsPlain) (path : Path) (followLast : Bool) (place : Location)
    (target : String) : disk.spot path followLast ≠ .ok (.taken place (.link target)) := by
  intro hspot
  rw [spot_eq (isClean_of_spot hspot)] at hspot
  exact h.linkFree place target (nodeAt_eq_link_iff.2 (at?_of_follow_taken hspot))

theorem IsPlain.isUsable_of_free (h : disk.IsPlain) {followLast : Bool} {place : Location}
    {name : String} (hspot : disk.spot path followLast = .ok (.free place name)) :
    isUsable name := by
  have hclean := isClean_of_spot hspot
  rw [spot_eq hclean] at hspot
  obtain ⟨-, -, hdot, hup⟩ := follow_free hspot
  have hmem := mem_of_follow_free h.linkFree hspot
  exact isUsable_iff.2 ⟨hdot, hup, Path.isClean_iff.1 hclean name hmem⟩

/-! ## Files -/

/-- The place to which a path from the top leads. -/
theorem IsPlain.place_eq (h : disk.IsPlain) {location place : Location}
    (husable : ∀ name ∈ location, isUsable name) {e : Entry}
    (hfind : disk.find { root := "/", parts := location } = .ok (place, e)) : place = location := by
  obtain ⟨-, -, hplace, -⟩ := (find_eq_ok_iff_of_linkFree h.linkFree).1 hfind
  rw [plainLocation_of_usable husable] at hplace
  exact hplace

theorem IsPlain.hasFile_iff (h : disk.IsPlain) {location : Location}
    (husable : ∀ name ∈ location, isUsable name) :
    disk.hasFile { root := "/", parts := location } ↔
      ∃ content, disk.top.nodeAt location = some (.file content) := by
  rw [Disk.hasFile_iff]
  constructor
  · rintro ⟨place, content, hfind⟩
    obtain rfl := h.place_eq husable hfind
    exact ⟨content, nodeAt_eq_file_iff.2 (at?_of_find hfind)⟩
  · rintro ⟨content, hnode⟩
    exact ⟨location, content, find_place h.sound rfl (nodeAt_eq_file_iff.1 hnode) (by simp)⟩

/-- The files below a place are listed, unless a folder on the way is left out. -/
theorem IsPlain.mem_filesBelow (h : disk.IsPlain) {location : Location}
    (husable : ∀ name ∈ location, isUsable name) {skips : String → Bool} {names : List String} :
    names ∈ disk.filesBelow skips { root := "/", parts := location } ↔
      names ≠ [] ∧ (∀ name ∈ names.dropLast, skips name = false) ∧
        ∃ content, disk.top.nodeAt (location ++ names) = some (.file content) := by
  constructor
  · intro hnames
    obtain ⟨place, entries, hfind⟩ := hasFolder_of_mem_filesBelow hnames
    obtain rfl := h.place_eq husable hfind
    obtain ⟨hskips, hlisted⟩ := (Disk.mem_filesBelow h.sound hfind).1 hnames
    refine ⟨(names_of_mem_filesBelow h.sound hnames).1, hskips, ?_⟩
    cases hat : disk.top.at? (place ++ names) with
    | none => simp [hat, IsListed] at hlisted
    | some e =>
      cases e with
      | file content => exact ⟨content, nodeAt_eq_file_iff.2 hat⟩
      | link target => exact absurd (nodeAt_eq_link_iff.2 hat) (h.linkFree _ target)
      | folder entries => simp [hat, IsListed] at hlisted
  · rintro ⟨hne, hskips, content, hnode⟩
    have hat := nodeAt_eq_file_iff.1 hnode
    obtain ⟨entries, hfolder⟩ := exists_folder_of_at?_append hat hne
    have hfind : disk.find { root := "/", parts := location } = .ok (location, .folder entries) :=
      find_place h.sound rfl hfolder (by simp)
    refine (Disk.mem_filesBelow h.sound hfind).2 ⟨hskips, ?_⟩
    rw [hat]
    trivial

theorem readLossy_of_nodeAt (hsound : disk.top.isSound) {location : Location} {content : ByteArray}
    (hnode : disk.top.nodeAt location = some (.file content)) :
    disk.readLossy { root := "/", parts := location } =
      .ok (Text.unifyLineEnds (Text.decodeLossy content.toList)) := by
  have hfind : disk.find { root := "/", parts := location } = .ok (location, .file content) :=
    find_place hsound rfl (nodeAt_eq_file_iff.1 hnode) (by simp)
  unfold readLossy readBytes
  rw [hfind]
  rfl

/-! ## Changes -/

theorem IsPlain.put (h : disk.IsPlain) {place : Location} {name : String} {entry : Entry}
    (hfolder : disk.top.nodeAt place = some .folder) (hname : isUsable name)
    (hsound : entry.isSound) (hbare : entry.IsBare) (hlink : ∀ target, entry ≠ .link target)
    (hfree : disk.top.nodeAt (place ++ [name]) ≠ some .folder) :
    (disk.put place name entry).IsPlain := by
  refine ⟨isSound_put h.sound hname hsound, ?_⟩
  intro location target hnode
  unfold Disk.put at hnode
  rw [nodeAt_put hfolder hbare hfree] at hnode
  by_cases hlocation : location = place ++ [name]
  · rw [if_pos hlocation, Option.some.injEq, node_eq_link_iff] at hnode
    exact hlink target hnode
  · rw [if_neg hlocation] at hnode
    exact h.linkFree location target hnode

theorem IsPlain.makeFolder (h : disk.IsPlain) (hmake : disk.makeFolder path = .ok after) :
    after.IsPlain := by
  unfold Disk.makeFolder at hmake
  cases hspot : disk.spot path false with
  | error refusal => simp [hspot] at hmake
  | ok spot =>
    cases spot with
    | taken place e => simp [hspot] at hmake
    | free place name =>
      have husable := h.isUsable_of_free hspot
      simp only [hspot, Except.ok.injEq] at hmake
      subst hmake
      rw [spot_eq (isClean_of_spot hspot)] at hspot
      obtain ⟨hfolder, hfree, -, -⟩ := follow_free hspot
      refine h.put hfolder husable (by simp [isSound, areSound]) isBare_emptyFolder (by simp) ?_
      rw [nodeAt_eq_none_iff.2 hfree]
      simp

theorem IsPlain.foldersFrom {size : Nat} (h : disk.IsPlain)
    (hmake : outcome (Change.foldersFrom size path) disk = (.ok (), after)) : after.IsPlain := by
  have hfolder {path : Path} {disk after : Disk} (h : disk.IsPlain)
      (hmake : outcome (Change.folder path) disk = (.ok (), after)) : after.IsPlain := by
    rw [Change.outcome_folder] at hmake
    cases hone : disk.makeFolder path with
    | ok made =>
      simp only [hone, Prod.mk.injEq, true_and] at hmake
      exact hmake ▸ h.makeFolder hone
    | error refusal =>
      by_cases hhas : disk.hasFolder path
      · simp only [hone, hhas, if_true, Prod.mk.injEq, true_and] at hmake
        exact hmake ▸ h
      · simp [hone, hhas] at hmake
  induction size generalizing path disk after with
  | zero => exact hfolder h hmake
  | succ size ih =>
    by_cases hone : disk.makeFolder path = .error .notFound
    · rw [Change.outcome_foldersFrom_of_notFound hone] at hmake
      by_cases hparts : path.parts.isEmpty
      · simp [hparts] at hmake
      · rw [if_neg hparts, outcome_bind_eq_ok_iff] at hmake
        obtain ⟨_, middle, hparent, hlast⟩ := hmake
        exact hfolder (ih h hparent) hlast
    · rw [Change.outcome_foldersFrom hone] at hmake
      exact hfolder h hmake

theorem IsPlain.writeFile_below (h : disk.IsPlain) (hfound : disk.hasFolder folder) {name : String}
    (hname : isUsable name) {content : ByteArray}
    (hwrite : disk.writeFile (folder.below [name]) content = .ok after) : after.IsPlain := by
  obtain ⟨place, entries, hplace⟩ := hasFolder_iff.1 hfound
  have hlink : ∀ target, disk.top.at? (place ++ [name]) ≠ some (.link target) :=
    fun target hat => h.linkFree _ target (nodeAt_eq_link_iff.2 hat)
  obtain ⟨hfree, rfl⟩ := eq_put_of_writeFile hplace hname hlink hwrite
  exact h.put (nodeAt_eq_folder_iff.2 ⟨entries, at?_of_find hplace⟩) hname rfl
    (isBare_file content) (by simp) hfree

/-- Where the folder is there, no folder on the way to it is new. -/
theorem IsPlain.nodeAt_of_spares (h : before.IsPlain) (h' : after.IsPlain)
    (hgrows : Grows before after) (hfound : before.hasFolder folder) {location : Location}
    (hspares : Spares before after folder location) :
    after.top.nodeAt location = before.top.nodeAt location := by
  rcases hspares with hsame | ⟨hnone, -, size, e, hfind⟩
  · exact hsame
  · obtain ⟨place, entries, hplace⟩ := hasFolder_iff.1 hfound
    obtain ⟨-, hway, hlast, hat⟩ := (find_eq_ok_iff_of_linkFree h.linkFree).1 hplace
    obtain ⟨-, -, hlocation, -⟩ := (find_eq_ok_iff_of_linkFree h'.linkFree).1 hfind
    rw [hgrows.start] at hlocation
    change location = plainLocation (before.start folder) (folder.parts.take size) at hlocation
    have hfolder : before.top.nodeAt location = some .folder := by
      rw [hlocation]
      by_cases hsize : size < folder.parts.length
      · exact hway size hsize
      · rw [List.take_of_length_le (by omega), ← hlast]
        exact nodeAt_eq_folder_iff.2 ⟨entries, hat⟩
    rw [hnone] at hfolder
    cases hfolder

/-! ## Folders that are made on the way -/

/-- The way of a path passes a place, as its names say. -/
def Passes (disk : Disk) (path : Path) (place : Location) : Prop :=
  IsPassed (disk.start path) path.parts place

/-- Making the folder of a path, with those above it, makes one at a place: nothing stands there, and
the way of the path passes it. -/
def Makes (disk : Disk) (path : Path) (place : Location) : Prop :=
  disk.top.nodeAt place = none ∧ disk.Passes path place

theorem IsPlain.passes_of_onWay (h : disk.IsPlain) {location : Location}
    (hway : disk.OnWay path location) : disk.Passes path location := by
  obtain ⟨size, e, hfind⟩ := hway
  obtain ⟨-, -, hlocation, -⟩ := (find_eq_ok_iff_of_linkFree h.linkFree).1 hfind
  change location = plainLocation (disk.start path) (path.parts.take size) at hlocation
  by_cases hsize : size ≤ path.parts.length
  · exact ⟨size, hsize, hlocation⟩
  · rw [List.take_of_length_le (by omega)] at hlocation
    exact ⟨path.parts.length, Nat.le_refl _, by rw [List.take_length, hlocation]⟩

section Grown

variable (h : before.IsPlain) (h' : after.IsPlain) (hgrows : Grows before after)
  (hspares : ∀ location, after.top.nodeAt location = some .folder →
    Spares before after folder location)
  (hapart : ∀ place, before.Makes folder place → ¬ before.Passes path place)

include h' hgrows hspares hapart

/-- A folder that a path passes was there before, if none was made on its way. -/
theorem IsPlain.folder_of_grown {location : Location} (hpassed : before.Passes path location)
    (hnode : after.top.nodeAt location = some .folder) :
    before.top.nodeAt location = some .folder := by
  rcases hspares location hnode with hsame | ⟨hnone, -, honWay⟩
  · exact hsame.symm.trans hnode
  · have hmakes := h'.passes_of_onWay honWay
    unfold Passes at hmakes
    rw [hgrows.start] at hmakes
    exact absurd hpassed (hapart location ⟨hnone, hmakes⟩)

include h

theorem IsPlain.hasFolder_of_grown (hfound : after.hasFolder path) : before.hasFolder path := by
  obtain ⟨place, entries, hfind⟩ := hasFolder_iff.1 hfound
  obtain ⟨hclean, hway, hplace, hat⟩ := (find_eq_ok_iff_of_linkFree h'.linkFree).1 hfind
  rw [hgrows.start] at hway hplace
  have hlast : before.top.nodeAt place = some .folder := by
    refine h'.folder_of_grown hgrows hspares hapart ?_ (nodeAt_eq_folder_iff.2 ⟨entries, hat⟩)
    rw [hplace]
    exact isPassed_last _ _
  obtain ⟨entries', hat'⟩ := nodeAt_eq_folder_iff.1 hlast
  refine hasFolder_iff.2 ⟨place, entries', (find_eq_ok_iff_of_linkFree h.linkFree).2
    ⟨hclean, fun size hsize => ?_, hplace, hat'⟩⟩
  exact h'.folder_of_grown hgrows hspares hapart ⟨size, hsize.le, rfl⟩ (hway size hsize)

/-- What a path leads to was there before, if no folder was made on its way and nothing else has come
to stand at its end. -/
theorem IsPlain.has_of_grown
    (hlast : Spares before after folder (plainLocation (before.start path) path.parts))
    (hfound : after.has path) : before.has path := by
  obtain ⟨place, e, hfind⟩ := has_iff.1 hfound
  by_cases hfolder : ∃ entries, e = .folder entries
  · obtain ⟨entries, rfl⟩ := hfolder
    obtain ⟨place, entries, hfind⟩ := hasFolder_iff.1
      (h.hasFolder_of_grown h' hgrows hspares hapart (hasFolder_iff.2 ⟨place, entries, hfind⟩))
    exact has_iff.2 ⟨place, _, hfind⟩
  · obtain ⟨hclean, hway, hplace, hat⟩ := (find_eq_ok_iff_of_linkFree h'.linkFree).1 hfind
    rw [hgrows.start] at hway hplace
    have hnode : after.top.nodeAt place = some e.node := nodeAt_eq_some_iff.2 ⟨e, hat, rfl⟩
    obtain ⟨e', hat', -⟩ : ∃ e', before.top.at? place = some e' ∧ e'.node = e.node := by
      rw [← hplace] at hlast
      rcases hlast with hsame | ⟨-, hmade, -⟩
      · exact nodeAt_eq_some_iff.1 (hsame.symm.trans hnode)
      · rw [hmade, Option.some.injEq, eq_comm, node_eq_folder_iff] at hnode
        exact absurd hnode hfolder
    refine has_iff.2 ⟨place, e', (find_eq_ok_iff_of_linkFree h.linkFree).2
      ⟨hclean, fun size hsize => ?_, hplace, hat'⟩⟩
    exact h'.folder_of_grown hgrows hspares hapart ⟨size, hsize.le, rfl⟩ (hway size hsize)

end Grown

/-- A folder in a folder was there before, unless it was made. -/
theorem IsPlain.hasFolder_below_of_grown (h' : after.IsPlain) (hgrows : Grows before after)
    {root : Location} {entries : List (String × Entry)}
    (hroot : before.find path = .ok (root, .folder entries)) {name : String} {place : Location}
    {entries' : List (String × Entry)}
    (hfind : after.find (path.below [name]) = .ok (place, .folder entries'))
    (hspares : Spares before after folder place)
    (hapart : before.Makes folder place → place.dropLast ≠ before.resolvedLocation path) :
    before.hasFolder (path.below [name]) := by
  obtain ⟨entries'', hroot'⟩ := hgrows.find_folder hroot
  obtain ⟨-, -, hplace, -⟩ := (find_eq_ok_iff_of_linkFree h'.linkFree).1 hroot'
  obtain ⟨hclean, -, hbelow, hat⟩ := (find_eq_ok_iff_of_linkFree h'.linkFree).1 hfind
  change place = plainLocation (after.start path) (path.parts ++ [name]) at hbelow
  rw [plainLocation_concat, ← hplace] at hbelow
  rcases hspares with hsame | ⟨hnone, -, honWay⟩
  · rw [nodeAt_eq_folder_iff.2 ⟨entries', hat⟩, hbelow] at hsame
    obtain ⟨inner, hfind⟩ := find_below_folder hroot hclean hsame.symm
    exact hasFolder_iff.2 ⟨_, inner, hfind⟩
  · have hmakes := h'.passes_of_onWay honWay
    unfold Passes at hmakes
    rw [hgrows.start] at hmakes
    refine absurd ?_ (hapart ⟨hnone, hmakes⟩)
    rw [hbelow] at hnone
    obtain ⟨hdot, hup⟩ :=
      proper_of_none (nodeAt_eq_folder_iff.2 ⟨entries, at?_of_find hroot⟩) hnone
    rw [hbelow, plainLocation_name hdot hup, List.dropLast_concat, resolvedLocation_of_find hroot]

end Disk

end AddonAtlas.Files
