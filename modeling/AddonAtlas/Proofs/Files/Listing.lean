import AddonAtlas.Proofs.Files.Change
import AddonAtlas.Proofs.Files.Walk

/-!
# Listings

A listing with a limit is the start of one list (`listFiles_eq_take`): the list of all files below the
folder that no excluded folder hides and that are wanted, each once, the files of a folder by name and
before those of its subfolders.  The order in which the folders of a disk keep their entries makes no
difference: a tree whose folders are reordered has the same nodes (`Reordered.nodeAt`), so every path
leads to the same place, and the same files are listed.
-/

namespace AddonAtlas.Files

open Entry

/-! ## The order of entries -/

namespace Entry

/-- The same tree, though its folders may keep their entries in another order. -/
inductive Reordered : Entry → Entry → Prop
  | refl (e : Entry) : Reordered e e
  | folder {entries entries' : List (String × Entry)} (h : entries.Perm entries') :
      Reordered (.folder entries) (.folder entries')
  | inside (before after : List (String × Entry)) (name : String) {e e' : Entry}
      (h : Reordered e e') :
      Reordered (.folder (before ++ (name, e) :: after)) (.folder (before ++ (name, e') :: after))
  | trans {a b c : Entry} (hab : Reordered a b) (hbc : Reordered b c) : Reordered a c

theorem Reordered.isSound {e e' : Entry} (h : Reordered e e') (hsound : e.isSound) :
    e'.isSound := by
  induction h with
  | refl e => exact hsound
  | folder hperm =>
    obtain ⟨hnodup, hall⟩ := isSound_folder_iff.1 hsound
    refine isSound_folder_iff.2 ⟨(hperm.map _).nodup_iff.1 hnodup, fun entry hentry => ?_⟩
    exact hall entry (hperm.mem_iff.2 hentry)
  | inside before after name h ih =>
    obtain ⟨hnodup, hall⟩ := isSound_folder_iff.1 hsound
    refine isSound_folder_iff.2 ⟨by simpa using hnodup, fun entry hentry => ?_⟩
    rcases List.mem_append.1 hentry with hbefore | hrest
    · exact hall entry (List.mem_append_left _ hbefore)
    · rcases List.mem_cons.1 hrest with rfl | hafter
      · have hname := hall (name, _) (List.mem_append_right _ List.mem_cons_self)
        exact ⟨hname.1, ih hname.2⟩
      · exact hall entry (List.mem_append_right _ (List.mem_cons_of_mem _ hafter))
  | trans _ _ ihab ihbc => exact ihbc (ihab hsound)

theorem lookup_of_perm {entries entries' : List (String × Entry)} (hperm : entries.Perm entries')
    (hnodup : (entries.map (·.1)).Nodup) (name : String) :
    entries'.lookup name = entries.lookup name := by
  refine Option.ext fun e => ?_
  rw [lookup_eq_some_iff hnodup, lookup_eq_some_iff ((hperm.map _).nodup_iff.1 hnodup)]
  exact hperm.mem_iff.symm

/-- Reordered trees have the same nodes. -/
theorem Reordered.nodeAt {e e' : Entry} (h : Reordered e e') (hsound : e.isSound)
    (location : Location) : e'.nodeAt location = e.nodeAt location := by
  induction h generalizing location with
  | refl e => rfl
  | folder hperm =>
    cases location with
    | nil => rfl
    | cons name rest =>
      unfold Entry.nodeAt
      rw [at?_cons, at?_cons, child?, child?, lookup_of_perm hperm (isSound_folder_iff.1 hsound).1]
  | inside before after name h ih =>
    have hinner := ((isSound_folder_iff.1 hsound).2 (name, _)
      (List.mem_append_right _ List.mem_cons_self)).2
    cases location with
    | nil => rfl
    | cons n rest =>
      unfold Entry.nodeAt
      rw [at?_cons, at?_cons, child?, child?, List.lookup_append, List.lookup_append,
        lookup_cons_named, lookup_cons_named]
      cases before.lookup n with
      | some found => rfl
      | none =>
        by_cases hname : n = name
        · rw [if_pos hname, if_pos hname]
          exact ih hinner rest
        · rw [if_neg hname, if_neg hname]
  | trans hab hbc ihab ihbc =>
    exact (ihbc (hab.isSound hsound) location).trans (ihab hsound location)

end Entry

namespace Disk

/-- Two disks with the same nodes at all places, on which paths start at the same place. -/
structure SameNodes (disk disk' : Disk) : Prop where
  here : disk'.here = disk.here
  nodeAt : ∀ location, disk'.top.nodeAt location = disk.top.nodeAt location

variable {disk disk' : Disk}

theorem SameNodes.symm (h : SameNodes disk disk') : SameNodes disk' disk :=
  ⟨h.here.symm, fun location => (h.nodeAt location).symm⟩

/-- Paths lead to the same folders. -/
theorem SameNodes.find_folder (h : SameNodes disk disk') {path : Path} {place : Location}
    {entries : List (String × Entry)} (hfind : disk.find path = .ok (place, .folder entries)) :
    ∃ entries', disk'.find path = .ok (place, .folder entries') := by
  have hgrows : Grows disk { disk' with home := disk.home, grants := disk.grants } :=
    ⟨fun location node hnode => ⟨node, (h.nodeAt location).trans hnode, Node.Alike.refl node⟩,
      h.here, rfl, rfl⟩
  exact hgrows.find_folder hfind

theorem SameNodes.hasFolder_iff (h : SameNodes disk disk') (path : Path) :
    disk'.hasFolder path ↔ disk.hasFolder path := by
  rw [Disk.hasFolder_iff, Disk.hasFolder_iff]
  constructor
  · rintro ⟨place, entries, hfind⟩
    exact ⟨place, h.symm.find_folder hfind⟩
  · rintro ⟨place, entries, hfind⟩
    exact ⟨place, h.find_folder hfind⟩

/-! ## What is listed -/

/-- A file below a folder, which is neither a folder nor a link to one; no folder on the way to it has
an excluded name. -/
def IsFileBelow (disk : Disk) (excluded : List String) (root : Path) (names : List String) : Prop :=
  ∃ location entries, disk.find root = .ok (location, .folder entries) ∧
    (∀ folder ∈ names.dropLast, folder ∉ alwaysSkipped ∧ folder ∉ excluded) ∧
    ((∃ content, disk.top.nodeAt (location ++ names) = some (.file content)) ∨
      ∃ target, disk.top.nodeAt (location ++ names) = some (.link target) ∧
        ¬ disk.hasFolder { root := "/", parts := location ++ names })

theorem skipsFolder_eq_false_iff {excluded : List String} {name : String} :
    skipsFolder excluded name = false ↔ name ∉ alwaysSkipped ∧ name ∉ excluded := by
  simp [skipsFolder]

theorem isListed_iff {location : Location} :
    IsListed disk.leadsToFolder location (disk.top.at? location) ↔
      (∃ content, disk.top.nodeAt location = some (.file content)) ∨
        ∃ target, disk.top.nodeAt location = some (.link target) ∧
          ¬ disk.hasFolder { root := "/", parts := location } := by
  simp only [nodeAt_eq_file_iff, nodeAt_eq_link_iff]
  cases hat : disk.top.at? location with
  | none => simp [IsListed]
  | some e => cases e <;> simp [IsListed, leadsToFolder]

theorem mem_filesBelow_iff (hsound : disk.top.isSound) {excluded : List String} {root : Path}
    {names : List String} : names ∈ disk.filesBelow (skipsFolder excluded) root ↔
      disk.IsFileBelow excluded root names := by
  constructor
  · intro hnames
    obtain ⟨location, entries, hroot⟩ := hasFolder_of_mem_filesBelow hnames
    obtain ⟨hskips, hlisted⟩ := (mem_filesBelow hsound hroot).1 hnames
    exact ⟨location, entries, hroot,
      fun folder hfolder => skipsFolder_eq_false_iff.1 (hskips folder hfolder),
      isListed_iff.1 hlisted⟩
  · rintro ⟨location, entries, hroot, hskips, hlisted⟩
    exact (mem_filesBelow hsound hroot).2
      ⟨fun folder hfolder => skipsFolder_eq_false_iff.2 (hskips folder hfolder),
        isListed_iff.2 hlisted⟩

theorem SameNodes.isFileBelow (h : SameNodes disk disk') {excluded : List String} {root : Path}
    {names : List String} (hfile : disk.IsFileBelow excluded root names) :
    disk'.IsFileBelow excluded root names := by
  obtain ⟨location, entries, hroot, hskips, hlisted⟩ := hfile
  obtain ⟨entries', hroot'⟩ := h.find_folder hroot
  refine ⟨location, entries', hroot', hskips, ?_⟩
  rw [h.nodeAt, h.hasFolder_iff]
  exact hlisted

/-- A listing depends on the nodes of a disk only. -/
theorem SameNodes.listFiles (h : SameNodes disk disk') (hsound : disk.top.isSound)
    (hsound' : disk'.top.isSound) (excluded : List String) (wanted : Path → Bool) (limit : Int)
    (root : Path) : disk'.listFiles (skipsFolder excluded) wanted limit root =
      disk.listFiles (skipsFolder excluded) wanted limit root := by
  have hfiles : disk'.filesBelow (skipsFolder excluded) root =
      disk.filesBelow (skipsFolder excluded) root := by
    refine filesBelow_eq_of_mem_iff hsound' hsound fun names => ?_
    rw [mem_filesBelow_iff hsound, mem_filesBelow_iff hsound']
    exact ⟨h.symm.isFileBelow, h.isFileBelow⟩
  rw [Disk.listFiles_eq, Disk.listFiles_eq, hfiles]

/-- A listing is the start of the list of all files below a folder that are wanted and that no excluded
folder hides: each of them once, the files of a folder by name, then those of its subfolders by name.
It does not depend on the order in which the entries of folders are kept. -/
theorem listFiles_eq_take {disk : Disk} (hsound : disk.top.isSound) (excluded : List String)
    (wanted : Path → Bool) (root : Path) :
    ∃ all : List (List String),
      (∀ names, names ∈ all ↔ disk.IsFileBelow excluded root names ∧ wanted (root.below names)) ∧
      all.Nodup ∧ all.Pairwise WalksBefore ∧
      (∀ limit, disk.listFiles (skipsFolder excluded) wanted limit root =
        (all.take limit.toNat).map root.below) ∧
      (∀ limit ≤ 0, disk.listFiles (skipsFolder excluded) wanted limit root = []) ∧
      ∀ top, Reordered disk.top top → ∀ limit,
        ({ disk with top } : Disk).listFiles (skipsFolder excluded) wanted limit root =
          disk.listFiles (skipsFolder excluded) wanted limit root := by
  have horder := pairwise_filesBelow hsound (skipsFolder excluded) root
  have hlist (limit : Int) : disk.listFiles (skipsFolder excluded) wanted limit root =
      (((disk.filesBelow (skipsFolder excluded) root).filter
        (wanted ∘ root.below)).take limit.toNat).map root.below := by
    rw [listFiles_eq, List.filter_map, List.map_take]
  refine ⟨(disk.filesBelow (skipsFolder excluded) root).filter (wanted ∘ root.below),
    fun names => ?_, ?_, horder.filter _, hlist, fun limit hlimit => ?_, fun top htop limit => ?_⟩
  · rw [List.mem_filter, mem_filesBelow_iff hsound]
    rfl
  · -- no file is listed before itself
    refine (horder.filter _).imp fun {a b} hab heq => ?_
    subst heq
    exact hab.asymm hab
  · rw [hlist, Int.toNat_of_nonpos hlimit]
    rfl
  · have hsame : SameNodes disk { disk with top } := ⟨rfl, htop.nodeAt hsound⟩
    exact hsame.listFiles hsound (htop.isSound hsound) excluded wanted limit root

/-- A folder with a file, a link that leads nowhere, a link to a folder, and two folders, one of which
is never entered. -/
def listingSample : Disk where
  top := .folder [("src", .folder [
    ("views", .folder [("form.xml", .file "<odoo/>".toUTF8)]),
    (".git", .folder [("config", .file "".toUTF8)]),
    ("old", .link "views"),
    ("lost.xml", .link "missing"),
    ("data.xml", .file "<odoo/>".toUTF8)])]

theorem isSound_listingSample : listingSample.top.isSound := by
  simp only [listingSample, isSound, areSound, isUsable, String.contains_char_eq]
  decide +kernel

theorem isFileBelow_listingSample {excluded names : List String} :
    listingSample.IsFileBelow excluded { root := "/", parts := ["src"] } names ↔
      (∀ folder ∈ names.dropLast, folder ∉ alwaysSkipped ∧ folder ∉ excluded) ∧
      ((∃ content, listingSample.top.nodeAt ("src" :: names) = some (.file content)) ∨
        ∃ target, listingSample.top.nodeAt ("src" :: names) = some (.link target) ∧
          ¬ listingSample.hasFolder { root := "/", parts := "src" :: names }) := by
  obtain ⟨inner, hat⟩ : ∃ inner, listingSample.top.at? ["src"] = some (.folder inner) := ⟨_, rfl⟩
  have hfind : listingSample.find { root := "/", parts := ["src"] } = .ok (["src"], .folder inner) :=
    find_place isSound_listingSample rfl hat (by simp)
  constructor
  · rintro ⟨location, entries, hroot, hfile⟩
    obtain ⟨rfl, -⟩ := Prod.mk.inj (Except.ok.inj (hfind.symm.trans hroot))
    exact hfile
  · exact fun hfile => ⟨["src"], inner, hfind, hfile⟩

theorem listFiles_eq_take_sample : listingSample.top.isSound ∧ ∃ all : List (List String),
    ["data.xml"] ∈ all ∧ ["lost.xml"] ∈ all ∧ ["views", "form.xml"] ∈ all ∧ ["old"] ∉ all ∧
    [".git", "config"] ∉ all ∧ all.Nodup ∧ all.Pairwise WalksBefore ∧
    ∀ limit, listingSample.listFiles (skipsFolder []) (fun _ => true) limit
        { root := "/", parts := ["src"] } =
      (all.take limit.toNat).map (Path.below { root := "/", parts := ["src"] }) := by
  obtain ⟨all, hall, hnodup, horder, hlist, -, -⟩ :=
    listFiles_eq_take isSound_listingSample [] (fun _ => true) { root := "/", parts := ["src"] }
  simp only [isFileBelow_listingSample, and_true] at hall
  have hlost : ¬ listingSample.hasFolder { root := "/", parts := ["src", "lost.xml"] } := by
    rw [show listingSample.hasFolder { root := "/", parts := ["src", "lost.xml"] } = false by cbv]
    simp
  have hold : listingSample.hasFolder { root := "/", parts := ["src", "old"] } := by cbv
  refine ⟨isSound_listingSample, all, ?_, ?_, ?_, ?_, ?_, hnodup, horder, hlist⟩
  · exact (hall _).2 ⟨by simp, .inl ⟨_, rfl⟩⟩
  · exact (hall _).2 ⟨by simp, .inr ⟨_, rfl, hlost⟩⟩
  · exact (hall _).2 ⟨by simp [alwaysSkipped], .inl ⟨_, rfl⟩⟩
  · intro h
    obtain ⟨-, ⟨content, hfile⟩ | ⟨target, -, hnot⟩⟩ := (hall _).1 h
    · cases hfile
    · exact hnot hold
  · intro h
    exact ((hall _).1 h).1 ".git" List.mem_cons_self |>.1 List.mem_cons_self

end Disk

end AddonAtlas.Files
