import AddonAtlas.Proofs.Files.Listing
import AddonAtlas.Proofs.Run.Inventory
import AddonAtlas.Proofs.Tally
import AddonAtlas.Proofs.Text.Scan

/-!
# The extensions of sampled files

A name has a suffix if something stands before its last dot and something behind it (`hasSuffix_iff`).
A file counts under its suffix in small letters, or under one text for all files without a suffix
(`extensionOf_eq_iff`).  The statistics of some files describe them (`Describes`): they tell how many
files there are and how many count under the most frequent extensions, and these numbers add up to all
files unless an extension is left out (`describes_extensionStats`).  The files of a module are sampled
from the start of a walk through its folder (`IsSample`), and `sampleExtensions_describes` puts this
together.
-/

namespace AddonAtlas

open Files Text

/-! ## Suffixes -/

namespace Files.Path

/-- The suffix of a name is what stands from its last dot on, where neither the dot stands first nor
last. -/
def HasSuffix (name suffix : String) : Prop :=
  ∃ stem ext : List Char, stem ≠ [] ∧ ext ≠ [] ∧ '.' ∉ ext ∧ name.toList = stem ++ '.' :: ext ∧
    suffix = .ofList ('.' :: ext)

/-- Read backwards, a text without a dot goes up to the first dot. -/
theorem span_reverse_append {ext rest : List Char} (hdot : '.' ∉ ext)
    (hrest : ∀ c ∈ rest.head?, c = '.') :
    (ext.reverse ++ rest).span (· != '.') = (ext.reverse, rest) := by
  apply span_append_run
  · intro c hc
    rw [bne_iff_ne]
    rintro rfl
    exact hdot (List.mem_reverse.1 hc)
  · intro c hc
    rw [hrest c hc]
    rfl

theorem suffixOf_of_notMem {name : String} (h : '.' ∉ name.toList) : suffixOf name = "" := by
  have hspan := span_reverse_append h (by simp : ∀ c ∈ ([] : List Char).head?, c = '.')
  rw [List.append_nil] at hspan
  rw [suffixOf, hspan]

theorem suffixOf_of_split {name : String} {stem ext : List Char} (hdot : '.' ∉ ext)
    (hname : name.toList = stem ++ '.' :: ext) :
    suffixOf name = if stem = [] ∨ ext = [] then "" else .ofList ('.' :: ext) := by
  have hreverse : name.toList.reverse = ext.reverse ++ '.' :: stem.reverse := by
    rw [hname, List.reverse_append, List.reverse_cons, List.append_assoc, List.singleton_append]
  rw [suffixOf, hreverse, span_reverse_append hdot (by simp)]
  cases hstem : stem.reverse with
  | nil => simp [List.reverse_eq_nil_iff.1 hstem]
  | cons c rest =>
    have hne : stem ≠ [] := by
      rintro rfl
      cases hstem
    simp [hne]

/-- A name with a dot is split at the last one. -/
theorem exists_split_of_mem {text : List Char} (h : '.' ∈ text) :
    ∃ stem ext : List Char, text = stem ++ '.' :: ext ∧ '.' ∉ ext := by
  obtain ⟨back, front, hsplit, hback⟩ := List.eq_append_cons_of_mem (List.mem_reverse.2 h)
  refine ⟨front.reverse, back.reverse, ?_, by simpa using hback⟩
  rw [← List.reverse_reverse text, hsplit]
  simp

theorem hasSuffix_iff {name suffix : String} :
    HasSuffix name suffix ↔ suffixOf name = suffix ∧ suffix ≠ "" := by
  constructor
  · rintro ⟨stem, ext, hstem, hext, hdot, hname, rfl⟩
    rw [suffixOf_of_split hdot hname, if_neg (by simp [hstem, hext])]
    exact ⟨rfl, by simp⟩
  · rintro ⟨rfl, hne⟩
    by_cases hmem : '.' ∈ name.toList
    · obtain ⟨stem, ext, hname, hdot⟩ := exists_split_of_mem hmem
      rw [suffixOf_of_split hdot hname] at hne ⊢
      split at hne
      · exact absurd rfl hne
      · next hproper =>
        rw [not_or] at hproper
        rw [if_neg (not_or.2 hproper)]
        exact ⟨stem, ext, hproper.1, hproper.2, hdot, hname, rfl⟩
    · exact absurd (suffixOf_of_notMem hmem) hne

end Files.Path

/-! ## Extensions -/

theorem Text.lowerFrom_eq_append (before done text : List Char) :
    lowerFrom before done text = done.reverse ++ lowerFrom before [] text := by
  induction text generalizing before done with
  | nil => simp [lowerFrom]
  | cons c text ih =>
    rw [lowerFrom, ih, lowerFrom, ih _ ((lowerAt before c text).reverse ++ [])]
    simp

theorem Text.lowerString_dot (ext : List Char) :
    lowerString (.ofList ('.' :: ext)) = .ofList ('.' :: lowerFrom ['.'] [] ext) := by
  rw [lowerString, String.toList_ofList, lower, lowerFrom, lowerFrom_eq_append]
  rfl

namespace Addon

/-- A file counts under its suffix in small letters, or under `[no_ext]` if it has none. -/
def CountsUnder (path : Path) (ext : String) : Prop :=
  (∃ suffix, Path.HasSuffix path.name suffix ∧ ext = lowerString suffix) ∨
    (∀ suffix, ¬ Path.HasSuffix path.name suffix) ∧ ext = "[no_ext]"

theorem extensionOf_of_hasSuffix {path : Path} {suffix : String}
    (h : Path.HasSuffix path.name suffix) : extensionOf path = lowerString suffix := by
  rw [extensionOf, (Path.hasSuffix_iff.1 h).1]
  obtain ⟨stem, ext, -, -, -, -, rfl⟩ := h
  rw [lowerString_dot]
  split
  · next hempty => simp at hempty
  · rfl

theorem extensionOf_of_not_hasSuffix {path : Path}
    (h : ∀ suffix, ¬ Path.HasSuffix path.name suffix) : extensionOf path = "[no_ext]" := by
  have hempty : Path.suffixOf path.name = "" := by
    by_contra hne
    exact h _ (Path.hasSuffix_iff.2 ⟨rfl, hne⟩)
  rw [extensionOf, hempty]
  rfl

/-- Every file counts under one extension. -/
theorem extensionOf_eq_iff {path : Path} {ext : String} :
    extensionOf path = ext ↔ CountsUnder path ext := by
  by_cases h : ∃ suffix, Path.HasSuffix path.name suffix
  · obtain ⟨suffix, hsuffix⟩ := h
    rw [extensionOf_of_hasSuffix hsuffix]
    constructor
    · rintro rfl
      exact .inl ⟨suffix, hsuffix, rfl⟩
    · rintro (⟨suffix', hsuffix', rfl⟩ | ⟨hnone, -⟩)
      · rw [← (Path.hasSuffix_iff.1 hsuffix).1, (Path.hasSuffix_iff.1 hsuffix').1]
      · exact absurd hsuffix (hnone suffix)
  · rw [not_exists] at h
    rw [extensionOf_of_not_hasSuffix h]
    constructor
    · rintro rfl
      exact .inr ⟨h, rfl⟩
    · rintro (⟨suffix, hsuffix, -⟩ | ⟨-, rfl⟩)
      · exact absurd hsuffix (h suffix)
      · rfl

instance (path : Path) (ext : String) : Decidable (CountsUnder path ext) :=
  decidable_of_iff (extensionOf path = ext) extensionOf_eq_iff

/-! ## Statistics -/

/-- How many files count under an extension. -/
def numberUnder (files : List Path) (ext : String) : Nat :=
  files.countP fun path => decide (CountsUnder path ext)

/-- The extensions under which some file counts. -/
def extensions (files : List Path) : Set String :=
  {ext | ∃ path ∈ files, CountsUnder path ext}

/-- Statistics describe some files: they tell how many there are and rank the extensions by how many
files count under them, as many extensions as are wanted.  The numbers add up to that of all files
exactly if no extension is left out. -/
structure Describes (stats : Nat × List (String × Nat)) (limit : Nat) (files : List Path) : Prop where
  total : stats.1 = files.length
  count : ∀ entry ∈ stats.2, entry.1 ∈ extensions files ∧ entry.2 = numberUnder files entry.1
  ranks : stats.2.Pairwise RanksBefore
  length : stats.2.length = min limit (extensions files).ncard
  behind : ∀ ext ∈ extensions files, ext ∉ stats.2.map (·.1) →
    ∀ entry ∈ stats.2, RanksBefore entry (ext, numberUnder files ext)
  sum_le : (stats.2.map (·.2)).sum ≤ stats.1
  sum_eq_iff : (stats.2.map (·.2)).sum = stats.1 ↔ (extensions files).ncard ≤ limit

theorem mem_extensions {files : List Path} {ext : String} :
    ext ∈ extensions files ↔ ext ∈ files.map extensionOf := by
  simp only [extensions, Set.mem_ofPred_eq, List.mem_map, extensionOf_eq_iff]

theorem ncard_extensions (files : List Path) :
    (extensions files).ncard = (files.map extensionOf).toFinset.card := by
  have hset : extensions files = ↑(files.map extensionOf).toFinset := by
    ext ext
    rw [mem_extensions, Finset.mem_coe, List.mem_toFinset]
  rw [hset, Set.ncard_coe_finset]

theorem numberUnder_eq_count (files : List Path) (ext : String) :
    numberUnder files ext = (Tally.mk (files.map extensionOf)).count ext := by
  rw [Tally.count, List.count_eq_countP, List.countP_map]
  refine List.countP_congr fun path _ => ?_
  simp [extensionOf_eq_iff]

theorem describes_extensionStats (limit : Nat) (files : List Path) :
    Describes (extensionStats limit files) limit files := by
  have hsum := Tally.sum_top_add (Tally.mk (files.map extensionOf)) limit
  have heq := Tally.sum_top_eq_iff (Tally.mk (files.map extensionOf)) limit
  have hlength := Tally.length_top (Tally.mk (files.map extensionOf)) limit
  simp only [List.length_map] at hsum heq
  refine { total := rfl, count := fun entry hentry => ?_, ranks := Tally.pairwise_top _ limit,
           length := ?_, behind := fun ext hext hout entry hentry => ?_,
           sum_le := ?_, sum_eq_iff := ?_ }
  · rw [mem_extensions, numberUnder_eq_count]
    exact Tally.mem_names_of_mem_top hentry
  · rw [ncard_extensions]
    exact hlength
  · rw [numberUnder_eq_count]
    exact Tally.ranksBefore_of_notMem_top (mem_extensions.1 hext) hout hentry
  · exact (Nat.le_add_right _ _).trans_eq hsum
  · rw [ncard_extensions]
    exact heq

/-! ## Samples -/

open Run

/-- A sample of the files below a folder: the first ones of a walk that lists all of them that no
excluded folder hides. -/
def IsSample (disk : Disk) (excluded : List String) (folder : Path) (limit : Nat)
    (sample : List Path) : Prop :=
  ∃ all : List (List String), (∀ names, names ∈ all ↔ disk.IsFileBelow excluded folder names) ∧
    all.Pairwise WalksBefore ∧ sample = (all.take limit).map folder.below

theorem isSample_listFiles {disk : Disk} (hsound : disk.top.isSound) (excluded : List String)
    (folder : Path) (limit : Int) :
    IsSample disk excluded folder limit.toNat
      (disk.listFiles (skipsFolder excluded) (fun _ => true) limit folder) := by
  refine ⟨disk.filesBelow (skipsFolder excluded) folder, fun names => Disk.mem_filesBelow_iff hsound,
    Disk.pairwise_filesBelow hsound _ folder, ?_⟩
  rw [Disk.listFiles_eq, List.filter_true, List.map_take]

/-- Whatever was noted before, the extensions of a module are told from a sample of its files: the first
ones of a walk, as many as both limits allow. -/
theorem sampleExtensions_describes {disk : Disk} (hsound : disk.top.isSound) (scope : Scope)
    (limits : Settings.Limits) (folder : Path) (notes : Notes) :
    ∃ sample stats after,
      IsSample disk scope.skippedFolders folder (min (limits .extensionSampleFiles) scope.files)
        sample ∧
      outcome (sampleExtensions scope limits folder disk) notes = (.ok stats, after) ∧
      Describes stats (limits .topExtensions) sample := by
  have hyields : Scan.Yields disk (sampleExtensions scope limits folder) _ := yields_sampleExtensions
  obtain ⟨after, hout, -⟩ := hyields notes
  refine ⟨_, _, after, ?_, hout, describes_extensionStats _ _⟩
  have hsample := isSample_listFiles hsound scope.skippedFolders folder
    (min (limits .extensionSampleFiles) scope.files)
  rwa [show (min (limits .extensionSampleFiles) scope.files : Int).toNat =
    min (limits .extensionSampleFiles) scope.files by omega] at hsample

/-- A module with a suffix in capitals, a name that starts with a dot, one that ends with a dot, and one
without a dot. -/
def extensionSample : Disk where
  top := .folder [("stock", .folder [
    ("models", .folder [("stock.tar.py", .file "".toUTF8), ("Move.PY", .file "".toUTF8)]),
    (".hidden", .file "".toUTF8),
    ("notes.", .file "".toUTF8),
    ("README", .file "".toUTF8),
    ("view.xml", .file "".toUTF8)])]

def extensionFolder : Path where
  root := "/"
  parts := ["stock"]

/-- Two extensions are wanted. -/
def extensionLimits : Settings.Limits
  | .topExtensions => 2
  | limit => limit.usual

theorem isSound_extensionSample : extensionSample.top.isSound := by
  simp only [extensionSample, Entry.isSound, Entry.areSound, Entry.isUsable,
    String.contains_char_eq]
  decide +kernel

theorem listFiles_extensionSample :
    extensionSample.listFiles (Scope.skips {}) (fun _ => true) 450 extensionFolder =
      [[".hidden"], ["README"], ["notes."], ["view.xml"], ["models", "Move.PY"],
        ["models", "stock.tar.py"]].map extensionFolder.below := by
  obtain ⟨inner, hat⟩ : ∃ inner, extensionSample.top.at? ["stock"] = some (.folder inner) := ⟨_, rfl⟩
  have hfind : extensionSample.find extensionFolder = .ok (["stock"], .folder inner) :=
    Disk.find_place isSound_extensionSample rfl hat (by simp)
  cases hat
  rw [Disk.listFiles_eq, Disk.filesBelow, hfind]
  simp [findings, findingAt, inOrder, Scope.skips, skipsFolder, alwaysSkipped, usuallySkipped,
    List.mergeSort, List.MergeSort.Internal.splitInTwo]

theorem extensionStats_extensionSample :
    extensionStats 2 ([[".hidden"], ["README"], ["notes."], ["view.xml"], ["models", "Move.PY"],
      ["models", "stock.tar.py"]].map extensionFolder.below) =
      (6, [("[no_ext]", 3), (".py", 2)]) := by
  have hmap : ([[".hidden"], ["README"], ["notes."], ["view.xml"], ["models", "Move.PY"],
      ["models", "stock.tar.py"]].map extensionFolder.below).map extensionOf =
      ["[no_ext]", "[no_ext]", "[no_ext]", ".xml", ".py", ".py"] := by decide +kernel
  rw [extensionStats, hmap]
  simp [Tally.top, Tally.ranked, Tally.counts, List.mergeSort, List.MergeSort.Internal.splitInTwo,
    List.splitBy, List.splitBy.loop]

theorem sampleExtensions_describes_sample : extensionSample.top.isSound ∧ ∃ sample after,
    IsSample extensionSample usuallySkipped extensionFolder 450 sample ∧
    outcome (sampleExtensions {} extensionLimits extensionFolder extensionSample) {} =
      (.ok (6, [("[no_ext]", 3), (".py", 2)]), after) ∧
    Describes (6, [("[no_ext]", 3), (".py", 2)]) 2 sample := by
  obtain ⟨sample, stats, after, hsample, hout, hstats⟩ := sampleExtensions_describes
    isSound_extensionSample {} extensionLimits extensionFolder {}
  have hyields : Scan.Yields extensionSample (sampleExtensions {} extensionLimits extensionFolder)
      (6, [("[no_ext]", 3), (".py", 2)]) := by
    rw [← extensionStats_extensionSample, ← listFiles_extensionSample]
    exact yields_sampleExtensions
  obtain ⟨after', hout', -⟩ := hyields {}
  obtain ⟨hresult, -⟩ := Prod.mk.inj (hout.symm.trans hout')
  obtain rfl := Except.ok.inj hresult
  exact ⟨isSound_extensionSample, sample, after, hsample, hout, hstats⟩

end Addon

end AddonAtlas
