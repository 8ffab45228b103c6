import AddonAtlas.Files.Walk
import AddonAtlas.Proofs.Files.Lookup
import AddonAtlas.Proofs.Text.Order

/-!
# What a walk lists, and in which order

In a sound tree a walk lists every file below its start that no skipped folder hides
(`mem_filesBelow`), in a strict order: the files of a folder by name, before those of its subfolders
(`pairwise_filesBelow`).  So a listing is determined by what it lists (`filesBelow_eq_of_mem_iff`).
-/

namespace AddonAtlas.Files

open Entry

theorem Entry.folderInduction {P : Entry → Prop} (file : ∀ content, P (.file content))
    (link : ∀ target, P (.link target))
    (folder : ∀ entries, (∀ entry ∈ entries, P entry.2) → P (.folder entries)) : ∀ e, P e
  | .file content => file content
  | .link target => link target
  | .folder entries => folder entries fun entry hentry =>
    have hlt : sizeOf entry.2 < sizeOf (Entry.folder entries) := by
      have hentries := List.sizeOf_lt_of_mem hentry
      have hentry : sizeOf entry = 1 + sizeOf entry.1 + sizeOf entry.2 := by
        cases entry
        rfl
      simp only [Entry.folder.sizeOf_spec]
      omega
    Entry.folderInduction file link folder entry.2
termination_by e => sizeOf e
decreasing_by exact hlt

/-! ## The order of a walk -/

/-- One file is listed before another. -/
def WalksBefore : List String → List String → Prop
  | [a], [b] => a < b
  | [_], _ :: _ :: _ => True
  | a :: a' :: as, b :: b' :: bs => a < b ∨ a = b ∧ WalksBefore (a' :: as) (b' :: bs)
  | _, _ => False

theorem WalksBefore.asymm {a b : List String} (hab : WalksBefore a b) : ¬ WalksBefore b a := by
  induction a, b using WalksBefore.induct with
  | case1 a b =>
    rw [WalksBefore] at hab ⊢
    exact not_lt_of_gt hab
  | case2 a b b' bs => simp [WalksBefore]
  | case3 a a' as b b' bs ih =>
    rw [WalksBefore] at hab ⊢
    rintro (hba | ⟨heq, hba⟩)
    · rcases hab with hlt | ⟨heq, -⟩
      · exact absurd hba (not_lt_of_gt hlt)
      · exact absurd hba (heq ▸ lt_irrefl a)
    · rcases hab with hlt | ⟨-, hab⟩
      · exact absurd hlt (heq ▸ lt_irrefl b)
      · exact ih hab hba
  | case4 => simp_all [WalksBefore]

instance : Std.Asymm WalksBefore := ⟨fun _ _ => WalksBefore.asymm⟩

theorem walksBefore_cons (name : String) {a b : List String} (h : WalksBefore a b) :
    WalksBefore (name :: a) (name :: b) := by
  cases a with
  | nil => simp [WalksBefore] at h
  | cons x xs =>
    cases b with
    | nil => cases xs <;> simp [WalksBefore] at h
    | cons y ys =>
      rw [WalksBefore]
      exact Or.inr ⟨rfl, h⟩

theorem walksBefore_append (before : List String) {a b : List String} (h : WalksBefore a b) :
    WalksBefore (before ++ a) (before ++ b) := by
  induction before with
  | nil => exact h
  | cons name before ih => exact walksBefore_cons name ih

theorem walksBefore_of_lt {name name' : String} (h : name < name') (before : List String)
    {a b : List String} (hab : a = [] ↔ b = []) :
    WalksBefore (before ++ name :: a) (before ++ name' :: b) := by
  apply walksBefore_append
  cases a with
  | nil =>
    rw [hab.1 rfl]
    exact h
  | cons x xs =>
    cases b with
    | nil => simp at hab
    | cons y ys => exact Or.inl h

theorem walksBefore_file (name name' : String) (before : List String) {b : List String}
    (hb : b ≠ []) : WalksBefore (before ++ [name]) (before ++ name' :: b) := by
  apply walksBefore_append
  obtain ⟨x, xs, rfl⟩ := List.exists_cons_of_ne_nil hb
  trivial

/-! ## Findings -/

variable {skips : String → Bool} {leadsToFolder : List String → Bool}

theorem findings_eq_map (before : List String) (entries : List (String × Entry)) :
    findings skips leadsToFolder before entries =
      entries.map fun entry => findingAt skips leadsToFolder before entry.1 entry.2 := by
  induction entries with
  | nil => rw [findings, List.map_nil]
  | cons entry rest ih => rw [findings, List.map_cons, ih]

theorem name_findingAt (before : List String) (name : String) (e : Entry) :
    (findingAt skips leadsToFolder before name e).name = name := by
  cases e <;> rw [findingAt] <;> split <;> rfl

theorem mem_inOrder {all : List Finding} {names : List String} :
    names ∈ inOrder all ↔ ∃ finding ∈ all, names ∈ finding.files := by
  simp only [inOrder, List.mem_append, List.mem_flatMap, List.mem_filter, List.mem_mergeSort]
  constructor
  · rintro (⟨finding, ⟨hmem, -⟩, hnames⟩ | ⟨finding, ⟨hmem, -⟩, hnames⟩) <;>
      exact ⟨finding, hmem, hnames⟩
  · rintro ⟨finding, hmem, hnames⟩
    cases hfolder : finding.isFolder with
    | false => exact Or.inl ⟨finding, ⟨hmem, by simp [hfolder]⟩, hnames⟩
    | true => exact Or.inr ⟨finding, ⟨hmem, hfolder⟩, hnames⟩

/-- Does a walk list what stands at some names? -/
def IsListed (leadsToFolder : List String → Bool) (names : List String) : Option Entry → Prop
  | some (.file _) => True
  | some (.link _) => leadsToFolder names = false
  | _ => False

/-- A folder itself is not listed. -/
theorem exists_cons_of_isListed {entries : List (String × Entry)} {names rest : List String}
    (h : IsListed leadsToFolder names ((Entry.folder entries).at? rest)) :
    ∃ n tail, rest = n :: tail := by
  cases rest with
  | nil => simp [IsListed] at h
  | cons n tail => exact ⟨n, tail, rfl⟩

/-- Nothing stands below an entry that is no folder. -/
theorem eq_nil_of_isListed {e : Entry} (he : ∀ entries, e ≠ .folder entries)
    {names rest : List String} (h : IsListed leadsToFolder names (e.at? rest)) : rest = [] := by
  cases rest with
  | nil => rfl
  | cons n rest =>
    cases e with
    | folder entries => exact absurd rfl (he entries)
    | file | link => simp [at?_cons, child?, IsListed] at h

/-- What a walk lists below a folder, if that is known for the entries of the folder. -/
theorem mem_inOrder_of {entries : List (String × Entry)} (hnodup : (entries.map (·.1)).Nodup)
    {before names : List String}
    (h : ∀ entry ∈ entries, names ∈ (findingAt skips leadsToFolder before entry.1 entry.2).files ↔
      ∃ rest, names = before ++ entry.1 :: rest ∧
        (∀ n ∈ (entry.1 :: rest).dropLast, skips n = false) ∧
        IsListed leadsToFolder names (entry.2.at? rest)) :
    names ∈ inOrder (findings skips leadsToFolder before entries) ↔
      ∃ rest, names = before ++ rest ∧ (∀ n ∈ rest.dropLast, skips n = false) ∧
        IsListed leadsToFolder names ((Entry.folder entries).at? rest) := by
  rw [mem_inOrder, findings_eq_map]
  constructor
  · rintro ⟨finding, hfinding, hnames⟩
    obtain ⟨entry, hentry, rfl⟩ := List.mem_map.1 hfinding
    obtain ⟨rest, rfl, hskips, hlisted⟩ := (h entry hentry).1 hnames
    refine ⟨entry.1 :: rest, rfl, hskips, ?_⟩
    rw [at?_cons, child?, (lookup_eq_some_iff hnodup).2 hentry]
    exact hlisted
  · rintro ⟨rest, rfl, hskips, hlisted⟩
    obtain ⟨n, rest, rfl⟩ := exists_cons_of_isListed hlisted
    rw [at?_cons, child?] at hlisted
    cases hlookup : entries.lookup n with
    | none => simp [hlookup, IsListed] at hlisted
    | some e =>
      have hentry := mem_of_lookup hlookup
      rw [hlookup, Option.bind_some] at hlisted
      refine ⟨_, List.mem_map.2 ⟨_, hentry, rfl⟩, ?_⟩
      exact (h (n, e) hentry).2 ⟨rest, rfl, hskips, hlisted⟩

theorem mem_findingAt {e : Entry} (hsound : e.isSound) {before : List String} {name : String}
    {names : List String} :
    names ∈ (findingAt skips leadsToFolder before name e).files ↔
      ∃ rest, names = before ++ name :: rest ∧ (∀ n ∈ (name :: rest).dropLast, skips n = false) ∧
        IsListed leadsToFolder names (e.at? rest) := by
  induction e using Entry.folderInduction generalizing before name with
  | file content =>
    rw [findingAt]
    constructor
    · intro h
      obtain rfl : names = before ++ [name] := by simpa using h
      exact ⟨[], rfl, by simp, trivial⟩
    · rintro ⟨rest, rfl, -, hlisted⟩
      obtain rfl := eq_nil_of_isListed (by simp) hlisted
      simp
  | link target =>
    rw [findingAt]
    constructor
    · intro h
      split at h
      · simp at h
      · next hleads =>
        obtain rfl : names = before ++ [name] := by simpa using h
        exact ⟨[], rfl, by simp, by simpa [IsListed] using hleads⟩
    · rintro ⟨rest, rfl, -, hlisted⟩
      obtain rfl := eq_nil_of_isListed (by simp) hlisted
      have hleads : leadsToFolder (before ++ [name]) = false := hlisted
      simp [hleads]
  | folder entries ih =>
    obtain ⟨hnodup, hall⟩ := isSound_folder_iff.1 hsound
    rw [findingAt]
    cases hskip : skips name with
    | true =>
      rw [if_pos rfl]
      constructor
      · simp
      · rintro ⟨rest, rfl, hskips, hlisted⟩
        obtain ⟨n, rest, rfl⟩ := exists_cons_of_isListed hlisted
        simp [hskip] at hskips
    | false =>
      rw [if_neg (by simp)]
      simp only
      rw [mem_inOrder_of hnodup fun entry hentry => ih entry hentry (hall entry hentry).2]
      constructor
      · rintro ⟨rest, rfl, hskips, hlisted⟩
        obtain ⟨n, rest, rfl⟩ := exists_cons_of_isListed hlisted
        refine ⟨n :: rest, by simp, ?_, hlisted⟩
        rw [List.dropLast_cons_cons, List.forall_mem_cons]
        exact ⟨hskip, hskips⟩
      · rintro ⟨rest, rfl, hskips, hlisted⟩
        obtain ⟨n, rest, rfl⟩ := exists_cons_of_isListed hlisted
        rw [List.dropLast_cons_cons, List.forall_mem_cons] at hskips
        exact ⟨n :: rest, by simp, hskips.2, hlisted⟩

/-- Findings with different names are put in order, if the files of each of them are. -/
theorem pairwise_inOrder {all : List Finding} (before : List String)
    (hnodup : (all.map (·.name)).Nodup) (hfiles : ∀ finding ∈ all, finding.files.Pairwise WalksBefore)
    (hnames : ∀ finding ∈ all, ∀ names ∈ finding.files, ∃ rest,
      names = before ++ finding.name :: rest ∧ (rest = [] ↔ finding.isFolder = false)) :
    (inOrder all).Pairwise WalksBefore := by
  have hperm := List.mergeSort_perm all fun a b => decide (a.name ≤ b.name)
  have hle := Text.pairwise_mergeSort_key (fun finding : Finding => finding.name) all
  rw [inOrder]
  generalize all.mergeSort (fun a b => decide (a.name ≤ b.name)) = sorted at hperm hle
  have hlt : sorted.Pairwise fun a b => a.name < b.name := by
    have hne : sorted.Pairwise fun a b => a.name ≠ b.name :=
      List.pairwise_map.1 ((hperm.map Finding.name).nodup_iff.2 hnodup)
    exact (hle.and hne).imp fun h => lt_of_le_of_ne h.1 h.2
  have hmem : ∀ finding ∈ sorted, finding ∈ all := fun finding => hperm.mem_iff.1
  -- findings of one kind stand in the order of their names
  have hkind (kind : Finding → Bool)
      (hsame : ∀ a b, kind a → kind b → a.isFolder = b.isFolder) :
      ((sorted.filter kind).flatMap (·.files)).Pairwise WalksBefore := by
    refine List.pairwise_flatMap.2 ⟨fun a ha => hfiles a (hmem a (List.mem_of_mem_filter ha)), ?_⟩
    refine (hlt.filter kind).imp_of_mem fun {a b} ha hb hab x hx y hy => ?_
    rw [List.mem_filter] at ha hb
    obtain ⟨rest, rfl, hrest⟩ := hnames a (hmem a ha.1) x hx
    obtain ⟨rest', rfl, hrest'⟩ := hnames b (hmem b hb.1) y hy
    exact walksBefore_of_lt hab before (by rw [hrest, hrest', hsame a b ha.2 hb.2])
  refine List.pairwise_append.2 ⟨hkind _ (by simp_all), hkind _ (by simp_all), ?_⟩
  intro x hx y hy
  obtain ⟨a, ha, hx⟩ := List.mem_flatMap.1 hx
  obtain ⟨b, hb, hy⟩ := List.mem_flatMap.1 hy
  rw [List.mem_filter] at ha hb
  obtain ⟨rest, rfl, hrest⟩ := hnames a (hmem a ha.1) x hx
  obtain ⟨rest', rfl, hrest'⟩ := hnames b (hmem b hb.1) y hy
  obtain rfl : rest = [] := hrest.2 (by simpa using ha.2)
  exact walksBefore_file a.name b.name before fun hnil => by simp [hrest'.1 hnil] at hb

theorem exists_of_mem_findingAt {e : Entry} (hsound : e.isSound) {before : List String}
    {name : String} {names : List String}
    (h : names ∈ (findingAt skips leadsToFolder before name e).files) :
    ∃ rest, names = before ++ name :: rest ∧
      (rest = [] ↔ (findingAt skips leadsToFolder before name e).isFolder = false) := by
  obtain ⟨rest, rfl, -, hlisted⟩ := (mem_findingAt hsound).1 h
  refine ⟨rest, rfl, ?_⟩
  cases e with
  | file content =>
    cases rest with
    | nil => simp [findingAt]
    | cons n rest => simp [at?_cons, child?, IsListed] at hlisted
  | link target =>
    cases rest with
    | nil =>
      have hleads : leadsToFolder (before ++ [name]) = false := hlisted
      simp [findingAt, hleads]
    | cons n rest => simp [at?_cons, child?, IsListed] at hlisted
  | folder entries =>
    have hfolder : (findingAt skips leadsToFolder before name (.folder entries)).isFolder := by
      rw [findingAt]
      split <;> rfl
    cases rest with
    | nil => simp [IsListed] at hlisted
    | cons n rest => simp [hfolder]

/-- What a walk lists below a sound folder is in order, if that holds for its entries. -/
theorem pairwise_inOrder_of {entries : List (String × Entry)}
    (hsound : (Entry.folder entries).isSound) {before : List String}
    (h : ∀ entry ∈ entries,
      (findingAt skips leadsToFolder before entry.1 entry.2).files.Pairwise WalksBefore) :
    (inOrder (findings skips leadsToFolder before entries)).Pairwise WalksBefore := by
  obtain ⟨hnodup, hall⟩ := isSound_folder_iff.1 hsound
  rw [findings_eq_map]
  refine pairwise_inOrder before ?_ ?_ ?_
  · rw [List.map_map]
    have hmap : (entries.map (Finding.name ∘ fun entry =>
        findingAt skips leadsToFolder before entry.1 entry.2)) = entries.map (·.1) :=
      List.map_congr_left fun entry _ => name_findingAt before entry.1 entry.2
    rwa [hmap]
  · exact List.forall_mem_map.2 h
  · refine List.forall_mem_map.2 fun entry hentry names hnames => ?_
    rw [name_findingAt]
    exact exists_of_mem_findingAt (hall entry hentry).2 hnames

theorem pairwise_findingAt {e : Entry} (hsound : e.isSound) (before : List String)
    (name : String) :
    (findingAt skips leadsToFolder before name e).files.Pairwise WalksBefore := by
  induction e using Entry.folderInduction generalizing before name with
  | file content =>
    rw [findingAt]
    exact List.pairwise_singleton _ _
  | link target =>
    rw [findingAt]
    split
    · exact List.Pairwise.nil
    · exact List.pairwise_singleton _ _
  | folder entries ih =>
    rw [findingAt]
    split
    · exact List.Pairwise.nil
    · exact pairwise_inOrder_of hsound fun entry hentry =>
        ih entry hentry ((isSound_folder_iff.1 hsound).2 entry hentry).2 _ _

/-! ## Listings -/

/-- What is taken from a list of paths, by what is left of the limit. -/
theorem toList_takeWanted {wanted : Path → Bool} {limit : Int} {found : Array Path}
    (paths : List Path) (hroom : found.size < limit) :
    (takeWanted wanted limit found paths).1.toList =
      found.toList ++ (paths.filter wanted).take (limit.toNat - found.size) := by
  induction paths generalizing found with
  | nil => simp [takeWanted]
  | cons path paths ih =>
    unfold takeWanted
    split
    · next hwanted =>
      have hleft : limit.toNat - found.size = limit.toNat - (found.push path).size + 1 := by
        rw [Array.size_push]
        omega
      rw [List.filter_cons_of_pos hwanted, hleft, List.take_succ_cons]
      dsimp only
      split
      · next hfull =>
        have hnone : limit.toNat - (found.push path).size = 0 := by omega
        rw [hnone, List.take_zero, Array.toList_push]
      · next hfull =>
        rw [ih (Int.lt_of_not_ge hfull), Array.toList_push, List.append_assoc]
        rfl
    · next hwanted => rw [List.filter_cons_of_neg hwanted, ih hroom]

namespace Disk

/-- A walk lists the files below its start that no skipped folder hides. -/
theorem mem_filesBelow {disk : Disk} (hsound : disk.top.isSound) {skips : String → Bool}
    {root : Path} {location : Location} {entries : List (String × Entry)}
    (hroot : disk.find root = .ok (location, .folder entries)) {names : List String} :
    names ∈ disk.filesBelow skips root ↔ (∀ n ∈ names.dropLast, skips n = false) ∧
      IsListed disk.leadsToFolder (location ++ names) (disk.top.at? (location ++ names)) := by
  have hat := at?_of_find hroot
  have hfolder := (sound_at? hsound hat).1
  have hlisted (e : Option Entry) :
      IsListed (fun names => disk.leadsToFolder (location ++ names)) names e ↔
        IsListed disk.leadsToFolder (location ++ names) e := by
    rcases e with _ | _ | _ | _ <;> rfl
  rw [filesBelow, hroot]
  simp only
  rw [mem_inOrder_of (isSound_folder_iff.1 hfolder).1 fun entry hentry =>
    mem_findingAt ((isSound_folder_iff.1 hfolder).2 entry hentry).2]
  simp [at?_append, hat, hlisted]

/-- A listing is in order. -/
theorem pairwise_filesBelow {disk : Disk} (hsound : disk.top.isSound) (skips : String → Bool)
    (root : Path) : (disk.filesBelow skips root).Pairwise WalksBefore := by
  rw [filesBelow]
  split
  · next location entries hroot =>
    have hfolder := (sound_at? hsound (at?_of_find hroot)).1
    exact pairwise_inOrder_of hfolder fun entry hentry =>
      pairwise_findingAt ((isSound_folder_iff.1 hfolder).2 entry hentry).2 _ _
  · exact List.Pairwise.nil

/-- Two listings with the same files are the same. -/
theorem filesBelow_eq_of_mem_iff {disk disk' : Disk} (hsound : disk.top.isSound)
    (hsound' : disk'.top.isSound) {skips : String → Bool} {root root' : Path}
    (h : ∀ names, names ∈ disk.filesBelow skips root ↔ names ∈ disk'.filesBelow skips root') :
    disk.filesBelow skips root = disk'.filesBelow skips root' :=
  (pairwise_filesBelow hsound skips root).eq_of_mem_iff (pairwise_filesBelow hsound' skips root') h

/-- Only below a folder anything is listed. -/
theorem hasFolder_of_mem_filesBelow {disk : Disk} {skips : String → Bool} {root : Path}
    {names : List String} (h : names ∈ disk.filesBelow skips root) :
    ∃ location entries, disk.find root = .ok (location, .folder entries) := by
  rw [filesBelow] at h
  split at h
  · next location entries hroot => exact ⟨location, entries, hroot⟩
  · cases h

/-- A listing stops where the limit is reached, and so it is the start of the list of all files that are
wanted. -/
theorem listFiles_eq (disk : Disk) (skips : String → Bool) (wanted : Path → Bool) (limit : Int)
    (root : Path) : disk.listFiles skips wanted limit root =
      (((disk.filesBelow skips root).map root.below).filter wanted).take limit.toNat := by
  unfold listFiles takeFiles
  split
  · next hlimit => rw [Int.toNat_of_nonpos hlimit, List.take_zero]
  · next hlimit =>
    have hroom : ((#[] : Array Path).size : Int) < limit := by simpa using hlimit
    rw [toList_takeWanted _ hroom]
    rfl

theorem mem_listFiles {disk : Disk} {skips : String → Bool} {wanted : Path → Bool} {limit : Int}
    {root path : Path} (h : path ∈ disk.listFiles skips wanted limit root) :
    ∃ names ∈ disk.filesBelow skips root, path = root.below names := by
  rw [listFiles_eq] at h
  have hpath := (List.mem_filter.1 (List.mem_of_mem_take h)).1
  obtain ⟨names, hnames, rfl⟩ := List.mem_map.1 hpath
  exact ⟨names, hnames, rfl⟩

theorem length_listFiles_le (disk : Disk) (skips : String → Bool) (wanted : Path → Bool)
    (limit : Int) (root : Path) : (disk.listFiles skips wanted limit root).length ≤ limit.toNat := by
  rw [listFiles_eq]
  exact List.length_take_le _ _

theorem listFiles_of_not_hasFolder {disk : Disk} {root : Path} (h : ¬ disk.hasFolder root)
    (skips : String → Bool) (wanted : Path → Bool) (limit : Int) :
    disk.listFiles skips wanted limit root = [] := by
  rw [List.eq_nil_iff_forall_not_mem]
  intro path hpath
  obtain ⟨names, hnames, -⟩ := mem_listFiles hpath
  exact h (hasFolder_iff.2 (hasFolder_of_mem_filesBelow hnames))

/-- A listed file stands below its folder, and its names can be used. -/
theorem names_of_mem_filesBelow {disk : Disk} (hsound : disk.top.isSound) {skips : String → Bool}
    {root : Path} {names : List String} (h : names ∈ disk.filesBelow skips root) :
    names ≠ [] ∧ ∀ name ∈ names, isUsable name := by
  obtain ⟨location, entries, hroot⟩ := hasFolder_of_mem_filesBelow h
  have hlisted := ((mem_filesBelow hsound hroot).1 h).2
  cases hat : disk.top.at? (location ++ names) with
  | none =>
    rw [hat] at hlisted
    exact hlisted.elim
  | some e =>
    refine ⟨?_, fun name hname => (sound_at? hsound hat).2 name (List.mem_append_right _ hname)⟩
    rintro rfl
    rw [List.append_nil, at?_of_find hroot] at hlisted
    exact hlisted

/-- The path of a listed file holds no forbidden character. -/
theorem isClean_of_mem_listFiles {disk : Disk} (hsound : disk.top.isSound)
    {skips : String → Bool} {wanted : Path → Bool} {limit : Int} {root path : Path}
    (h : path ∈ disk.listFiles skips wanted limit root) : path.isClean := by
  obtain ⟨names, hnames, rfl⟩ := mem_listFiles h
  obtain ⟨location, entries, hroot⟩ := hasFolder_of_mem_filesBelow hnames
  exact Path.isClean_below_of_isUsable (find_eq_ok_iff_follow.1 hroot).1
    (names_of_mem_filesBelow hsound hnames).2

end Disk

end AddonAtlas.Files
