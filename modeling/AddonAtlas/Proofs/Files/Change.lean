import AddonAtlas.Files.Change
import AddonAtlas.Proofs.Files.Lookup

/-!
# What changes do to a disk

Every change makes the tree of a disk grow.  Making a folder with those above it adds folders on the
way of its path, where nothing stood, and nothing else (`gains_folders`); afterwards the path leads to
a folder.  Writing a file into a folder changes the one place of that file, unless a link stands there
(`writeFile_below`).
-/

namespace AddonAtlas

/-! ## Steps that may fail -/

section Steps

variable {ε σ α β : Type} {x : ExceptT ε (StateM σ) α} {f : α → ExceptT ε (StateM σ) β}

/-- What a step yields in a state, and the state that it leaves. -/
def outcome (x : ExceptT ε (StateM σ) α) (s : σ) : Except ε α × σ :=
  x.run s

theorem outcome_bind (x : ExceptT ε (StateM σ) α) (f : α → ExceptT ε (StateM σ) β) (s : σ) :
    outcome (x >>= f) s = match outcome x s with
      | (.ok a, s') => outcome (f a) s'
      | (.error e, s') => (.error e, s') := by
  change (match outcome x s with | (r, s') => ExceptT.bindCont f r s') = _
  rcases outcome x s with ⟨_ | _, _⟩ <;> rfl

theorem outcome_bind_eq_ok_iff {s s'' : σ} {b : β} :
    outcome (x >>= f) s = (.ok b, s'') ↔
      ∃ a s', outcome x s = (.ok a, s') ∧ outcome (f a) s' = (.ok b, s'') := by
  rw [outcome_bind]
  rcases outcome x s with ⟨_ | a, s'⟩ <;> simp

theorem outcome_bind_eq_error_iff {s s'' : σ} {e : ε} :
    outcome (x >>= f) s = (.error e, s'') ↔
      outcome x s = (.error e, s'') ∨
        ∃ a s', outcome x s = (.ok a, s') ∧ outcome (f a) s' = (.error e, s'') := by
  rw [outcome_bind]
  rcases outcome x s with ⟨_ | a, s'⟩ <;> simp

@[simp]
theorem outcome_pure (a : α) (s : σ) :
    outcome (pure a : ExceptT ε (StateM σ) α) s = (.ok a, s) := rfl

@[simp]
theorem outcome_throw (e : ε) (s : σ) :
    outcome (throw e : ExceptT ε (StateM σ) α) s = (.error e, s) := rfl

end Steps

namespace Files

open Entry

namespace Disk

/-- The tree of a disk grows; where paths start stays, and so does the memory for files. -/
structure Grows (before after : Disk) : Prop where
  top : Entry.Grows before.top after.top
  here : after.here = before.here
  home : after.home = before.home
  grants : after.grants = before.grants

theorem Grows.refl (disk : Disk) : Grows disk disk :=
  ⟨Entry.Grows.refl _, rfl, rfl, rfl⟩

theorem Grows.trans {a b c : Disk} (hab : Grows a b) (hbc : Grows b c) : Grows a c :=
  ⟨hab.top.trans hbc.top, hbc.here.trans hab.here, hbc.home.trans hab.home,
    hbc.grants.trans hab.grants⟩

theorem Grows.start {before after : Disk} (h : Grows before after) (path : Path) :
    after.start path = before.start path := by
  rw [Disk.start, Disk.start, h.here]

theorem Grows.find {before after : Disk} (hgrows : Grows before after) {path : Path}
    {place : Location} {e : Entry} (h : before.find path = .ok (place, e)) :
    ∃ e', after.find path = .ok (place, e') ∧ e.node.Alike e'.node := by
  obtain ⟨hclean, h⟩ := find_eq_ok_iff_follow.1 h
  obtain ⟨e', h', halike⟩ := follow_grows hgrows.top h
  refine ⟨e', find_eq_ok_iff_follow.2 ⟨hclean, ?_⟩, halike⟩
  rw [hgrows.start]
  exact h'

theorem Grows.find_folder {before after : Disk} (hgrows : Grows before after) {path : Path}
    {place : Location} {entries : List (String × Entry)}
    (h : before.find path = .ok (place, .folder entries)) :
    ∃ entries', after.find path = .ok (place, .folder entries') := by
  obtain ⟨e', h', halike⟩ := hgrows.find h
  cases e' with
  | folder entries' => exact ⟨entries', h'⟩
  | file | link => simp [node, Node.Alike] at halike

/-- Putting a file or an empty folder at a free name changes that one place, and the path leads to
it. -/
theorem put_free {disk : Disk} {path : Path} {followLast : Bool} {folder : Location}
    {name : String} {entry : Entry} (h : disk.spot path followLast = .ok (.free folder name))
    (hbare : entry.IsBare) (hlink : ∀ target, entry ≠ .link target) :
    Grows disk (disk.put folder name entry) ∧
      (disk.put folder name entry).find path = .ok (folder ++ [name], entry) ∧
      ∀ location, (disk.put folder name entry).top.nodeAt location =
        if location = folder ++ [name] then some entry.node else disk.top.nodeAt location := by
  have hclean := isClean_of_spot h
  rw [spot_eq hclean] at h
  obtain ⟨hfolder, hfree, -, -⟩ := follow_free h
  have hnone : disk.top.nodeAt (folder ++ [name]) = none := nodeAt_eq_none_iff.2 hfree
  have hgrows : Grows disk (disk.put folder name entry) :=
    ⟨grows_put hfolder hbare (by simp [hnone]), rfl, rfl, rfl⟩
  refine ⟨hgrows, ?_, nodeAt_put hfolder hbare (by simp [hnone])⟩
  rw [find_eq_ok_iff_follow]
  refine ⟨hclean, follow_filled hgrows.top (fun _ => rfl) h ?_ hlink⟩
  exact at?_put hfolder []

/-! ## Folders -/

/-- A place to which the path or one above it leads. -/
def OnWay (disk : Disk) (path : Path) (location : Location) : Prop :=
  ∃ size e, disk.find (path.upTo size) = .ok (location, e)

theorem OnWay.grows {before after : Disk} (hgrows : Grows before after) {path : Path}
    {location : Location} (h : before.OnWay path location) : after.OnWay path location := by
  obtain ⟨size, e, h⟩ := h
  obtain ⟨e', h', -⟩ := hgrows.find h
  exact ⟨size, e', h'⟩

theorem OnWay.of_parent {disk : Disk} {path : Path} {location : Location}
    (h : disk.OnWay path.parent location) : disk.OnWay path location := by
  obtain ⟨size, e, h⟩ := h
  refine ⟨min size (path.parts.length - 1), e, ?_⟩
  have hpath : path.parent.upTo size = path.upTo (min size (path.parts.length - 1)) := by
    simp [Path.parent, Path.upTo, List.dropLast_eq_take, List.take_take]
  rw [← hpath]
  exact h

/-- A place at which nothing has changed, or a folder on the way of a path was made. -/
def Spares (before after : Disk) (path : Path) (location : Location) : Prop :=
  after.top.nodeAt location = before.top.nodeAt location ∨
    before.top.nodeAt location = none ∧ after.top.nodeAt location = some .folder ∧
      after.OnWay path location

theorem Spares.nodeAt_of_some {before after : Disk} {path : Path} {location : Location}
    (h : Spares before after path location) {node : Node}
    (hnode : before.top.nodeAt location = some node) : after.top.nodeAt location = some node := by
  rcases h with hsame | ⟨hnone, -⟩
  · exact hsame.trans hnode
  · rw [hnone] at hnode
    cases hnode

theorem Spares.trans {a b c : Disk} {path path' : Path} {location : Location}
    (hab : Spares a b path' location) (hbc : Spares b c path location) (hgrows : Grows b c)
    (hway : c.OnWay path' location → c.OnWay path location) : Spares a c path location := by
  rcases hbc with hsame | ⟨hnone, hfolder, honWay⟩
  · rcases hab with hsame' | ⟨hnone, hfolder, honWay⟩
    · exact Or.inl (hsame.trans hsame')
    · exact Or.inr ⟨hnone, hsame.trans hfolder, hway (honWay.grows hgrows)⟩
  · rcases hab with hsame' | ⟨-, hfolder', -⟩
    · exact Or.inr ⟨hsame'.symm.trans hnone, hfolder, honWay⟩
    · rw [hnone] at hfolder'
      cases hfolder'

/-- The disk has gained folders on the way of a path, where nothing stood, and nothing else; the path
leads to a folder. -/
structure Gains (before after : Disk) (path : Path) : Prop where
  grows : Grows before after
  found : after.hasFolder path
  rest : ∀ location, Spares before after path location

theorem Gains.trans {a b c : Disk} {path path' : Path} (hab : Gains a b path')
    (hbc : Gains b c path)
    (hway : ∀ location, c.OnWay path' location → c.OnWay path location) : Gains a c path where
  grows := hab.grows.trans hbc.grows
  found := hbc.found
  rest location := (hab.rest location).trans (hbc.rest location) hbc.grows (hway location)

theorem gains_of_hasFolder {disk : Disk} {path : Path} (h : disk.hasFolder path) :
    Gains disk disk path :=
  ⟨Grows.refl disk, h, fun _ => Or.inl rfl⟩

theorem gains_makeFolder {disk disk' : Disk} {path : Path} (h : disk.makeFolder path = .ok disk') :
    Gains disk disk' path := by
  rw [makeFolder] at h
  cases hspot : disk.spot path false with
  | error r => simp [hspot] at h
  | ok spot =>
    cases spot with
    | taken place e => simp [hspot] at h
    | free folder name =>
      simp only [hspot, Except.ok.injEq] at h
      subst h
      obtain ⟨hgrows, hfind, hnode⟩ := put_free hspot isBare_emptyFolder (by simp)
      have hnone : disk.top.nodeAt (folder ++ [name]) = none := by
        rw [spot_eq (isClean_of_spot hspot)] at hspot
        exact nodeAt_eq_none_iff.2 (follow_free hspot).2.1
      refine ⟨hgrows, hasFolder_iff.2 ⟨_, _, hfind⟩, fun location => ?_⟩
      rw [Spares, hnode]
      by_cases hlocation : location = folder ++ [name]
      · subst hlocation
        refine Or.inr ⟨hnone, if_pos rfl, path.parts.length, .folder [], ?_⟩
        rw [Path.upTo_length]
        exact hfind
      · exact Or.inl (if_neg hlocation)

/-! ## Files -/

/-- Only a path with a forbidden character is refused for it. -/
theorem refusal_of_readLossy {disk : Disk} {path : Path} (hclean : path.isClean)
    {fault : SystemFault} (h : disk.readLossy path = .error fault) : fault.refusal ≠ .nullByte := by
  have hfind : disk.find path ≠ .error .nullByte := find_ne_nullByte hclean
  unfold readLossy readBytes at h
  cases hpath : disk.find path with
  | ok found =>
    obtain ⟨place, e⟩ := found
    rw [hpath] at h
    cases e with
    | file content => simp [bind, Except.bind, pure, Except.pure] at h
    | link target | folder entries =>
      simp only [bind, Except.bind, Except.error.injEq] at h
      exact h ▸ by simp
  | error r =>
    rw [hpath] at h hfind
    simp only [bind, Except.bind, Except.error.injEq] at h
    exact h ▸ by simpa using hfind

theorem grows_writeFile {disk disk' : Disk} {path : Path} {content : ByteArray}
    (hstart : ∀ target, disk.top.at? (disk.start path) ≠ some (.link target))
    (h : disk.writeFile path content = .ok disk') : Grows disk disk' := by
  rw [writeFile] at h
  cases hspot : disk.spot path with
  | error r => simp [hspot] at h
  | ok spot =>
    cases spot with
    | free folder name =>
      simp only [hspot, Except.ok.injEq] at h
      exact h ▸ (put_free hspot (isBare_file content) (by simp)).1
    | taken place e =>
      obtain ⟨-, hfollow⟩ := find_eq_ok_iff_follow.1 (find_eq_ok_iff.2 hspot)
      have hlink := not_link_of_follow hstart hfollow
      have hat := at?_of_follow_taken hfollow
      cases e with
      | link target => exact absurd rfl (hlink target)
      | folder entries => simp [hspot, isFolder] at h
      | file old =>
        simp only [hspot, isFolder, Bool.false_eq_true, if_false, Except.ok.injEq] at h
        subst h
        rcases List.eq_nil_or_concat place with rfl | ⟨folder, name, rfl⟩
        · -- a file at the top stays as it is
          have htop : disk.top = .file old := by simpa using hat
          have hput : (disk.put [] "" (.file content)).top = disk.top := by
            rw [Disk.put, htop]
            rfl
          exact ⟨hput ▸ Entry.Grows.refl _, rfl, rfl, rfl⟩
        · rw [List.concat_eq_append] at hat ⊢
          have hfolder := nodeAt_eq_folder_iff.2 (exists_folder_of_at?_append hat (by simp))
          have hnode := nodeAt_eq_file_iff.2 hat
          simp only [List.dropLast_concat, List.getLast?_concat, Option.getD_some]
          exact ⟨grows_put hfolder (isBare_file content) (by simp [hnode, node, Node.Alike]), rfl,
            rfl, rfl⟩

/-- Writing a file into a folder, where neither a folder nor a link stands, changes that one
place. -/
theorem writeFile_below {disk : Disk} {path : Path} {place : Location}
    {entries : List (String × Entry)} (h : disk.find path = .ok (place, .folder entries))
    {name : String} (hname : isUsable name)
    (hlink : ∀ target, disk.top.at? (place ++ [name]) ≠ some (.link target))
    (hfolder : disk.top.nodeAt (place ++ [name]) ≠ some .folder) (content : ByteArray) :
    disk.writeFile (path.below [name]) content =
      .ok (disk.put place name (.file content)) := by
  have hspot := spot_below h hname hlink true
  rw [writeFile, hspot]
  cases hat : disk.top.at? (place ++ [name]) with
  | none => rfl
  | some e =>
    have he : e.isFolder = false := by
      cases e with
      | folder inner => exact absurd (nodeAt_eq_folder_iff.2 ⟨inner, hat⟩) hfolder
      | file | link => rfl
    simp [he]

/-- Writing a file into a folder, where no link stands, puts it there. -/
theorem eq_put_of_writeFile {disk after : Disk} {path : Path} {place : Location}
    {entries : List (String × Entry)} (h : disk.find path = .ok (place, .folder entries))
    {name : String} (hname : isUsable name)
    (hlink : ∀ target, disk.top.at? (place ++ [name]) ≠ some (.link target)) {content : ByteArray}
    (hwrite : disk.writeFile (path.below [name]) content = .ok after) :
    disk.top.nodeAt (place ++ [name]) ≠ some .folder ∧
      after = disk.put place name (.file content) := by
  have hfolder : disk.top.nodeAt (place ++ [name]) ≠ some .folder := by
    intro hnode
    obtain ⟨inner, hat⟩ := nodeAt_eq_folder_iff.1 hnode
    rw [writeFile, spot_below h hname hlink, hat] at hwrite
    simp [isFolder] at hwrite
  rw [writeFile_below h hname hlink hfolder, Except.ok.injEq] at hwrite
  exact ⟨hfolder, hwrite.symm⟩

end Disk

namespace Change

theorem outcome_folder (path : Path) (disk : Disk) :
    outcome (folder path) disk = match disk.makeFolder path with
      | .ok disk' => (.ok (), disk')
      | .error r => if disk.hasFolder path then (.ok (), disk) else (.error ⟨r, path.text⟩, disk) := by
  change outcome (match disk.makeFolder path with
    | .ok disk' => (set disk' : Change PUnit)
    | .error r => do unless (← get).hasFolder path do throw (⟨r, path.text⟩ : SystemFault)) disk = _
  cases disk.makeFolder path with
  | ok disk' => rfl
  | error r =>
    change outcome (if disk.hasFolder path then pure () else throw ⟨r, path.text⟩ : Change Unit)
      disk = _
    cases disk.hasFolder path <;> rfl

theorem gains_folder {path : Path} {disk disk' : Disk}
    (h : outcome (folder path) disk = (.ok (), disk')) : Disk.Gains disk disk' path := by
  rw [outcome_folder] at h
  cases hmake : disk.makeFolder path with
  | ok made =>
    simp only [hmake, Prod.mk.injEq, true_and] at h
    exact h ▸ Disk.gains_makeFolder hmake
  | error r =>
    cases hfolder : disk.hasFolder path with
    | false => simp [hmake, hfolder] at h
    | true =>
      simp only [hmake, hfolder, if_true, Prod.mk.injEq, true_and] at h
      exact h ▸ Disk.gains_of_hasFolder hfolder

theorem outcome_foldersFrom_succ (size : Nat) (path : Path) (disk : Disk) :
    outcome (foldersFrom (size + 1) path) disk = outcome (match disk.makeFolder path with
      | .error .notFound => do
        if path.parts.isEmpty then throw ⟨.notFound, path.text⟩
        foldersFrom size path.parent
        folder path
      | _ => folder path : Change Unit) disk :=
  rfl

theorem outcome_foldersFrom_of_notFound {size : Nat} {path : Path} {disk : Disk}
    (h : disk.makeFolder path = .error .notFound) :
    outcome (foldersFrom (size + 1) path) disk =
      if path.parts.isEmpty then (.error ⟨.notFound, path.text⟩, disk)
      else outcome (do foldersFrom size path.parent; folder path : Change Unit) disk := by
  rw [outcome_foldersFrom_succ, h]
  cases path.parts.isEmpty <;> rfl

theorem outcome_foldersFrom {size : Nat} {path : Path} {disk : Disk}
    (h : disk.makeFolder path ≠ .error .notFound) :
    outcome (foldersFrom size path) disk = outcome (folder path) disk := by
  cases size with
  | zero => rfl
  | succ size =>
    rw [outcome_foldersFrom_succ]
    cases hmake : disk.makeFolder path with
    | ok made => rfl
    | error r =>
      cases r with
      | notFound => exact absurd hmake h
      | _ => rfl

/-- Making a folder with those above it adds the folders on the way that are missing. -/
theorem gains_foldersFrom {size : Nat} {path : Path} {disk disk' : Disk}
    (h : outcome (foldersFrom size path) disk = (.ok (), disk')) : Disk.Gains disk disk' path := by
  induction size generalizing path disk disk' with
  | zero => exact gains_folder h
  | succ size ih =>
    by_cases hmake : disk.makeFolder path = .error .notFound
    · rw [outcome_foldersFrom_of_notFound hmake] at h
      cases hparts : path.parts.isEmpty with
      | true => simp [hparts] at h
      | false =>
        simp only [hparts, Bool.false_eq_true, if_false, outcome_bind_eq_ok_iff] at h
        obtain ⟨_, middle, hparent, hfolder⟩ := h
        exact (ih hparent).trans (gains_folder hfolder) fun location => Disk.OnWay.of_parent
    · rw [outcome_foldersFrom hmake] at h
      exact gains_folder h

theorem gains_folders {path : Path} {disk disk' : Disk}
    (h : outcome (folders path) disk = (.ok (), disk')) : Disk.Gains disk disk' path :=
  gains_foldersFrom h

/-- Nothing has to be done for a folder that is there. -/
theorem outcome_foldersFrom_of_hasFolder {size : Nat} {path : Path} {disk : Disk}
    (h : disk.hasFolder path) : outcome (foldersFrom size path) disk = (.ok (), disk) := by
  obtain ⟨place, entries, hfind⟩ := Disk.hasFolder_iff.1 h
  obtain ⟨hclean, hfollow⟩ := Disk.find_eq_ok_iff_follow.1 hfind
  obtain ⟨place', e, htaken⟩ := exists_taken_of_follow hfollow
  have hmake : disk.makeFolder path = .error .alreadyThere := by
    rw [Disk.makeFolder, Disk.spot_eq hclean, htaken]
  rw [outcome_foldersFrom (by simp [hmake]), outcome_folder, hmake]
  simp [h]

end Change

/-! ## Folders that can be made -/

/-- A folder, or nothing, stands at every place from a first one on to which names lead. -/
def IsOpenWay (top : Entry) (location : Location) (names : List String) : Prop :=
  ∀ size ≤ names.length, top.nodeAt (plainLocation location (names.take size)) = none ∨
    top.nodeAt (plainLocation location (names.take size)) = some .folder

theorem IsOpenWay.last {top : Entry} {location : Location} {names : List String}
    (h : IsOpenWay top location names) : top.nodeAt (plainLocation location names) = none ∨
      top.nodeAt (plainLocation location names) = some .folder := by
  simpa using h names.length (Nat.le_refl _)

theorem IsOpenWay.init {top : Entry} {location : Location} {names : List String} {name : String}
    (h : IsOpenWay top location (names ++ [name])) : IsOpenWay top location names := by
  intro size hsize
  have := h size (by simp; omega)
  rwa [List.take_append_of_le_length hsize] at this

/-- The places to which names lead from a first one on, itself included. -/
def IsPassed (location : Location) (names : List String) (place : Location) : Prop :=
  ∃ size ≤ names.length, place = plainLocation location (names.take size)

theorem IsPassed.concat {location place : Location} {names : List String}
    (h : IsPassed location names place) (name : String) :
    IsPassed location (names ++ [name]) place := by
  obtain ⟨size, hsize, rfl⟩ := h
  refine ⟨size, by simp; omega, ?_⟩
  rw [List.take_append_of_le_length hsize]

theorem isPassed_last (location : Location) (names : List String) :
    IsPassed location names (plainLocation location names) :=
  ⟨names.length, Nat.le_refl _, by rw [List.take_length]⟩

namespace Disk

theorem below_nil (path : Path) : path.below [] = path := by
  simp [Path.below]

theorem below_below (path : Path) (names rest : List String) :
    (path.below names).below rest = path.below (names ++ rest) := by
  simp [Path.below]

/-- The way on from a folder. -/
theorem exists_spot_below {disk : Disk} {path : Path} {place : Location} {e : Entry}
    (h : disk.find path = .ok (place, e)) : ∃ links, ∀ followLast rest, rest ≠ [] →
      (path.below rest).isClean → disk.spot (path.below rest) followLast =
        follow disk.top followLast links place rest := by
  obtain ⟨-, hfollow⟩ := find_eq_ok_iff_follow.1 h
  obtain ⟨links, happend⟩ := exists_follow_append hfollow
  refine ⟨links, fun followLast rest hrest hclean => ?_⟩
  rw [spot_eq hclean]
  exact happend followLast rest hrest

theorem find_below_folder {disk : Disk} {path : Path} {place : Location}
    {entries : List (String × Entry)} (h : disk.find path = .ok (place, .folder entries))
    {name : String} (hclean : (path.below [name]).isClean)
    (hfolder : disk.top.nodeAt (plainLocation place [name]) = some .folder) :
    ∃ entries', disk.find (path.below [name]) = .ok (plainLocation place [name], .folder entries') := by
  obtain ⟨entries', hat⟩ := nodeAt_eq_folder_iff.1 hfolder
  obtain ⟨links, hspot⟩ := exists_spot_below h
  have hplace := nodeAt_eq_folder_iff.2 ⟨entries, at?_of_find h⟩
  refine ⟨entries', find_eq_ok_iff.2 ?_⟩
  rw [hspot true [name] (by simp) hclean]
  by_cases hdot : name = "."
  · subst hdot
    rw [follow_dot hplace]
    exact follow_nil hat
  · by_cases hup : name = ".."
    · subst hup
      rw [follow_up hplace]
      exact follow_nil hat
    · rw [plainLocation_name hdot hup] at hat ⊢
      rw [follow_enter hdot hup hat (by simp)]
      exact follow_nil hat

theorem find_below_file {disk : Disk} {path : Path} {place : Location}
    {entries : List (String × Entry)} (h : disk.find path = .ok (place, .folder entries))
    {name : String} (hname : isUsable name) {content : ByteArray}
    (hfile : disk.top.at? (place ++ [name]) = some (.file content)) :
    disk.find (path.below [name]) = .ok (place ++ [name], .file content) := by
  have hlink : ∀ target, disk.top.at? (place ++ [name]) ≠ some (.link target) := by
    simp [hfile]
  rw [find_eq_ok_iff, spot_below h hname hlink, hfile]

/-- Where no folder stands one name further, that name is a proper one. -/
theorem proper_of_none {top : Entry} {place : Location} (hplace : top.nodeAt place = some .folder)
    {name : String} (hnone : top.nodeAt (plainLocation place [name]) = none) :
    name ≠ "." ∧ name ≠ ".." := by
  constructor
  · rintro rfl
    rw [plainLocation_dot, hplace] at hnone
    cases hnone
  · rintro rfl
    rw [plainLocation_up, nodeAt_dropLast hplace] at hnone
    cases hnone

theorem isClean_below {path : Path} {names rest : List String}
    (h : (path.below (names ++ rest)).isClean) : (path.below names).isClean := by
  simp only [Path.isClean, Path.below, Bool.not_eq_true', List.any_append, Bool.or_eq_false_iff]
    at h ⊢
  exact ⟨h.1, h.2.1⟩

/-- On an open way, either all folders are there, or what lies behind the way is not found. -/
theorem find_or_notFound {disk : Disk} {start : Path} {location : Location}
    {entries : List (String × Entry)} (hstart : disk.find start = .ok (location, .folder entries))
    {names : List String} (hopen : IsOpenWay disk.top location names)
    (hclean : (start.below names).isClean) :
    (∃ entries', disk.find (start.below names) =
      .ok (plainLocation location names, .folder entries')) ∨
    ∀ followLast rest, rest ≠ [] → (start.below (names ++ rest)).isClean →
      disk.spot (start.below (names ++ rest)) followLast = .error .notFound := by
  induction names using List.reverseRecOn with
  | nil =>
    rw [below_nil, plainLocation_nil]
    exact Or.inl ⟨entries, hstart⟩
  | append_singleton names name ih =>
    rcases ih hopen.init (isClean_below hclean) with ⟨entries', hfind⟩ | hmissing
    · have hplace := nodeAt_eq_folder_iff.2 ⟨entries', at?_of_find hfind⟩
      have hlast := hopen.last
      rw [plainLocation_concat] at hlast ⊢
      rcases hlast with hnone | hfolder
      · refine Or.inr fun followLast rest hrest hclean' => ?_
        obtain ⟨hdot, hup⟩ := proper_of_none hplace hnone
        obtain ⟨links, hspot⟩ := exists_spot_below hfind
        rw [plainLocation_name hdot hup, nodeAt_eq_none_iff] at hnone
        rw [List.append_assoc, ← below_below] at hclean' ⊢
        rw [hspot followLast _ (by simp) hclean']
        rw [List.singleton_append, follow_missing hdot hup hplace hnone,
          if_neg (by simpa using hrest)]
      · rw [← below_below] at hclean ⊢
        exact Or.inl (find_below_folder hfind hclean hfolder)
    · refine Or.inr fun followLast rest hrest hclean' => ?_
      rw [List.append_assoc] at hclean' ⊢
      exact hmissing followLast _ (by simp) hclean'

/-- One more folder on an open way can be made, and nothing else changes. -/
theorem outcome_folder_below {disk : Disk} {path : Path} {place : Location}
    {entries : List (String × Entry)} (h : disk.find path = .ok (place, .folder entries))
    {name : String} (hclean : (path.below [name]).isClean)
    (hopen : disk.top.nodeAt (plainLocation place [name]) = none ∨
      disk.top.nodeAt (plainLocation place [name]) = some .folder) :
    ∃ after, outcome (Change.folder (path.below [name])) disk = (.ok (), after) ∧
      Grows disk after ∧ (∃ entries', after.find (path.below [name]) =
        .ok (plainLocation place [name], .folder entries')) ∧
      ∀ location, after.top.nodeAt location = disk.top.nodeAt location ∨
        after.top.nodeAt location = some .folder ∧ location = plainLocation place [name] := by
  rcases hopen with hnone | hfolder
  · have hplace := nodeAt_eq_folder_iff.2 ⟨entries, at?_of_find h⟩
    obtain ⟨hdot, hup⟩ := proper_of_none hplace hnone
    rw [plainLocation_name hdot hup] at hnone ⊢
    obtain ⟨links, hspot⟩ := exists_spot_below h
    have hfree : disk.spot (path.below [name]) false = .ok (.free place name) := by
      rw [hspot false [name] (by simp) hclean,
        follow_missing hdot hup hplace (nodeAt_eq_none_iff.1 hnone)]
      rfl
    obtain ⟨hgrows, hfind, hnode⟩ := put_free hfree isBare_emptyFolder (by simp)
    refine ⟨disk.put place name (.folder []), ?_, hgrows, ⟨[], hfind⟩, fun location => ?_⟩
    · rw [Change.outcome_folder, makeFolder, hfree]
    · rw [hnode]
      by_cases hlocation : location = place ++ [name]
      · exact Or.inr ⟨if_pos hlocation, hlocation⟩
      · exact Or.inl (if_neg hlocation)
  · obtain ⟨entries', hfind⟩ := find_below_folder h hclean hfolder
    have hhas := hasFolder_iff.2 ⟨_, entries', hfind⟩
    have hfolder : outcome (Change.foldersFrom 0 (path.below [name])) disk = (.ok (), disk) :=
      Change.outcome_foldersFrom_of_hasFolder hhas
    exact ⟨disk, hfolder, Grows.refl disk, ⟨entries', hfind⟩, fun _ => Or.inl rfl⟩

/-- The folders on an open way can all be made. -/
theorem outcome_foldersFrom_below {disk : Disk} {start : Path} {location : Location}
    {entries : List (String × Entry)} (hstart : disk.find start = .ok (location, .folder entries))
    {names : List String} (hopen : IsOpenWay disk.top location names)
    (hclean : (start.below names).isClean) {size : Nat} (hsize : names.length ≤ size) :
    ∃ after, outcome (Change.foldersFrom size (start.below names)) disk = (.ok (), after) ∧
      Grows disk after ∧ (∃ entries', after.find (start.below names) =
        .ok (plainLocation location names, .folder entries')) ∧
      ∀ place, after.top.nodeAt place = disk.top.nodeAt place ∨
        after.top.nodeAt place = some .folder ∧ IsPassed location names place := by
  induction names using List.reverseRecOn generalizing size with
  | nil =>
    rw [below_nil, plainLocation_nil]
    have hhas := hasFolder_iff.2 ⟨location, entries, hstart⟩
    exact ⟨disk, Change.outcome_foldersFrom_of_hasFolder hhas, Grows.refl disk, ⟨entries, hstart⟩,
      fun _ => Or.inl rfl⟩
  | append_singleton names name ih =>
    have hinit := isClean_below hclean
    have hparent : (start.below (names ++ [name])).parent = start.below names := by
      simp [Path.parent, Path.below, ← List.append_assoc]
    have hlast := hopen.last
    have hpassed := isPassed_last location (names ++ [name])
    rw [plainLocation_concat] at hlast hpassed ⊢
    rw [← below_below] at hclean hparent ⊢
    have hsize' : ∃ size', size = size' + 1 := ⟨size - 1, by simp at hsize; omega⟩
    obtain ⟨size, rfl⟩ := hsize'
    by_cases hmake : disk.makeFolder ((start.below names).below [name]) = .error .notFound
    · -- the folders before are made first
      obtain ⟨made, hmade, hgrows, ⟨entries', hfind⟩, hrest⟩ :=
        ih hopen.init hinit (show names.length ≤ size by simpa using hsize)
      obtain ⟨after, hafter, hgrows', hfind', hrest'⟩ := outcome_folder_below hfind hclean (by
        rcases hrest (plainLocation (plainLocation location names) [name]) with hsame | hfolder
        · rwa [hsame]
        · exact Or.inr hfolder.1)
      refine ⟨after, ?_, hgrows.trans hgrows', hfind', fun place => ?_⟩
      · rw [Change.outcome_foldersFrom_of_notFound hmake, if_neg (by simp [Path.below]), hparent,
          outcome_bind, hmade]
        exact hafter
      · rcases hrest' place with hsame | ⟨hfolder, rfl⟩
        · rw [hsame]
          exact (hrest place).imp_right fun h => ⟨h.1, h.2.concat name⟩
        · exact Or.inr ⟨hfolder, hpassed⟩
    · -- the folder before must be there
      rcases find_or_notFound hstart hopen.init hinit with ⟨entries', hfind⟩ | hmissing
      · obtain ⟨after, hafter, hgrows, hfind', hrest⟩ := outcome_folder_below hfind hclean hlast
        rw [Change.outcome_foldersFrom hmake]
        refine ⟨after, hafter, hgrows, hfind', fun place => ?_⟩
        refine (hrest place).imp_right ?_
        rintro ⟨hfolder, rfl⟩
        exact ⟨hfolder, hpassed⟩
      · rw [below_below] at hclean hmake
        rw [makeFolder, hmissing false [name] (by simp) hclean] at hmake
        exact absurd rfl hmake

end Disk

end Files

end AddonAtlas
