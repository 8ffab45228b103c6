import AddonAtlas.Proofs.Run.Inventory
import AddonAtlas.Proofs.Tally

/-!
# The module map of a repository

A scan finds one module for each manifest that is listed (`moduleAt`), or gives up because it asks for
more characters of a manifest than can be asked for at once (`meets_collect_moduleAt`).  The map of
these modules agrees with them (`ModuleMap.Shows`): it has them in a strict order, since folders with
different names have different paths (`relativeText_below_inj`), and its ranking counts for each
dependency the modules that have it (`shows_ofModules`).  `collect_shows` puts this together.
-/

namespace AddonAtlas

open Files Text

theorem Source.pairwise_listField (name text : List Char) : (listField name text).Pairwise (· < ·) := by
  unfold listField
  split
  · exact .nil
  · exact pairwise_distinctSorted _

/-! ## Paths as texts -/

namespace Files

mutual

/-- No name in a tree holds a slash. -/
def Entry.isSlashFree : Entry → Bool
  | .folder entries => Entry.areSlashFree entries
  | _ => true

def Entry.areSlashFree : List (String × Entry) → Bool
  | [] => true
  | (name, e) :: rest => !name.toList.contains '/' && Entry.isSlashFree e && Entry.areSlashFree rest

end

theorem Entry.areSlashFree_iff {entries : List (String × Entry)} :
    areSlashFree entries ↔ ∀ entry ∈ entries, '/' ∉ entry.1.toList ∧ isSlashFree entry.2 := by
  induction entries with
  | nil => simp [areSlashFree]
  | cons entry entries ih =>
    obtain ⟨name, e⟩ := entry
    simp [areSlashFree, ih, and_assoc]

theorem Entry.slashFree_at? {top e : Entry} {location : Location} (hfree : top.isSlashFree)
    (h : top.at? location = some e) : ∀ name ∈ location, '/' ∉ name.toList := by
  induction location generalizing top with
  | nil => simp
  | cons name rest ih =>
    rw [at?_cons] at h
    obtain ⟨child, hchild, hrest⟩ := Option.bind_eq_some_iff.1 h
    cases top with
    | file | link => simp [child?] at hchild
    | folder entries =>
      rw [isSlashFree, areSlashFree_iff] at hfree
      obtain ⟨hname, hchild⟩ := hfree _ (mem_of_lookup hchild)
      exact List.forall_mem_cons.2 ⟨hname, ih hchild hrest⟩

theorem Path.relativeText_below (start : Path) (names : List String) :
    relativeText start (start.below names) = if names = [] then "." else "/".intercalate names := by
  have hnames : namesFrom? start (start.below names) = some names := by
    simp [namesFrom?, below]
  rw [relativeText, hnames]
  cases names with
  | nil => rfl
  | cons name names => simp [Path.text]

/-- Names without a slash are read off their path. -/
theorem Path.splitOn_intercalate {names : List String} (hne : names ≠ [])
    (hslash : ∀ name ∈ names, '/' ∉ name.toList) :
    ("/".intercalate names).toList.splitOn '/' = names.map String.toList := by
  rw [String.toList_intercalate]
  exact List.splitOn_intercalate '/' (List.forall_mem_map.2 hslash) (by simpa using hne)

theorem Path.intercalate_ne_dot {names : List String} (hne : names ≠ [])
    (hnames : ∀ name ∈ names, name ≠ "." ∧ '/' ∉ name.toList) : "/".intercalate names ≠ "." := by
  intro h
  have hsplit := splitOn_intercalate hne fun name hname => (hnames name hname).2
  rw [h] at hsplit
  have hdot : ".".toList.splitOn '/' = [".".toList] := by decide
  rw [hdot] at hsplit
  obtain ⟨name, hname⟩ : ∃ name, names = [name] := by
    rw [← List.length_eq_one_iff]
    simpa using (congrArg List.length hsplit).symm
  subst hname
  refine (hnames name (by simp)).1 (String.toList_inj.1 ?_)
  simpa using hsplit.symm

/-- Below a folder, different names give different paths. -/
theorem Path.relativeText_below_inj {start : Path} {names names' : List String}
    (hnames : ∀ name ∈ names, name ≠ "." ∧ '/' ∉ name.toList)
    (hnames' : ∀ name ∈ names', name ≠ "." ∧ '/' ∉ name.toList)
    (h : relativeText start (start.below names) = relativeText start (start.below names')) :
    names = names' := by
  rw [relativeText_below, relativeText_below] at h
  by_cases hne : names = []
  · by_cases hne' : names' = []
    · rw [hne, hne']
    · rw [if_pos hne, if_neg hne'] at h
      exact absurd h.symm (intercalate_ne_dot hne' hnames')
  · by_cases hne' : names' = []
    · rw [if_neg hne, if_pos hne'] at h
      exact absurd h (intercalate_ne_dot hne hnames)
    · rw [if_neg hne, if_neg hne'] at h
      have hsplit := splitOn_intercalate hne fun name hname => (hnames name hname).2
      rw [h, splitOn_intercalate hne' fun name hname => (hnames' name hname).2] at hsplit
      exact (List.map_injective_iff.2 fun _ _ => String.toList_inj.1) hsplit.symm

/-- Files of one name that are listed stand in folders with different paths. -/
theorem Disk.pairwise_relativeText_parent {disk : Disk} (hsound : disk.top.isSound)
    (hfree : disk.top.isSlashFree) (skips : String → Bool) (name : String) (limit : Int) (root : Path) :
    (disk.listFiles skips (·.name == name) limit root).Pairwise fun a b =>
      Path.relativeText root a.parent ≠ Path.relativeText root b.parent := by
  have hnames : ∀ names ∈ disk.filesBelow skips root, names ≠ [] ∧
      ∀ n ∈ names.dropLast, n ≠ "." ∧ '/' ∉ n.toList := by
    intro names hmem
    obtain ⟨hne, husable⟩ := names_of_mem_filesBelow hsound hmem
    obtain ⟨location, entries, hroot⟩ := hasFolder_of_mem_filesBelow hmem
    have hlisted := ((mem_filesBelow hsound hroot).1 hmem).2
    refine ⟨hne, fun n hn => ?_⟩
    have hn := List.mem_of_mem_dropLast hn
    refine ⟨(Entry.isUsable_iff.1 (husable n hn)).1, ?_⟩
    cases hat : disk.top.at? (location ++ names) with
    | none =>
      rw [hat] at hlisted
      exact hlisted.elim
    | some e => exact Entry.slashFree_at? hfree hat n (List.mem_append_right _ hn)
  have hparent (names : List String) (hne : names ≠ []) :
      (root.below names).parent = root.below names.dropLast := by
    simp [Path.parent, Path.below, List.dropLast_append_of_ne_nil hne]
  have hlast (names : List String) (hne : names ≠ []) (h : (root.below names).name == name) :
      names.dropLast ++ [name] = names := by
    have hget : (names.getLast?).getD "" = name := by
      simpa [Path.name, Path.below, List.getLast?_append_of_ne_nil _ hne] using h
    rw [List.getLast?_eq_some_getLast hne, Option.getD_some] at hget
    rw [← hget, List.dropLast_append_getLast hne]
  rw [listFiles_eq]
  refine List.Pairwise.take ?_
  rw [List.pairwise_filter, List.pairwise_map]
  refine (pairwise_filesBelow hsound skips root).imp_of_mem fun {a b} ha hb hab hwanted hwanted' h => ?_
  obtain ⟨hne, hproper⟩ := hnames a ha
  obtain ⟨hne', hproper'⟩ := hnames b hb
  rw [hparent a hne, hparent b hne'] at h
  have hsame : a = b := by
    rw [← hlast a hne hwanted, ← hlast b hne' hwanted',
      Path.relativeText_below_inj hproper hproper' h]
  subst hsame
  exact hab.asymm hab

end Files

/-! ## The map of some modules -/

namespace Addon

/-- Modules are ordered by name, first without regard to case, and then by path. -/
def Module.Before (a b : Module) : Prop :=
  foldString a.name < foldString b.name ∨ foldString a.name = foldString b.name ∧
    (a.name < b.name ∨ a.name = b.name ∧ a.path < b.path)

/-- How many modules have a dependency. -/
def dependents (modules : List Module) (name : String) : Nat :=
  modules.countP fun m => decide (name ∈ m.depends)

namespace ModuleMap

/-- A map shows some modules: it lists each of them once, in order, and ranks the names on which most
of them depend, as many as are wanted. -/
structure Shows (found : ModuleMap) (limit : Nat) (modules : List Module) : Prop where
  perm : found.modules.Perm modules
  order : found.modules.Pairwise Module.Before
  count : ∀ entry ∈ found.dependencies, 1 ≤ entry.2 ∧ entry.2 = dependents found.modules entry.1
  ranks : found.dependencies.Pairwise RanksBefore
  length : found.dependencies.length =
    min limit (found.modules.flatMap (·.depends)).toFinset.card
  behind : ∀ name ∈ found.modules.flatMap (·.depends), name ∉ found.dependencies.map (·.1) →
    ∀ entry ∈ found.dependencies, RanksBefore entry (name, dependents found.modules name)

theorem before_of_le {a b : Module} (hpath : a.path ≠ b.path)
    (h : Key.le (nameKey a.name ++ [a.path]) (nameKey b.name ++ [b.path]) = true) : a.Before b := by
  simp only [nameKey, List.cons_append, List.nil_append, Key.le, beq_iff_eq, hpath, if_false] at h
  by_cases hfold : foldString a.name = foldString b.name
  · rw [if_pos hfold] at h
    refine .inr ⟨hfold, ?_⟩
    by_cases hname : a.name = b.name
    · rw [if_pos hname] at h
      exact .inr ⟨hname, lt_of_le_of_ne (by simpa using h) hpath⟩
    · rw [if_neg hname] at h
      exact .inl (lt_of_le_of_ne (by simpa using h) hname)
  · rw [if_neg hfold] at h
    exact .inl (lt_of_le_of_ne (by simpa using h) hfold)

/-- The map of modules with different paths shows them. -/
theorem shows_ofModules (limit : Nat) {modules : List Module}
    (hpaths : modules.Pairwise fun a b => a.path ≠ b.path) :
    (ofModules limit modules).Shows limit modules := by
  have hperm : (ofModules limit modules).modules.Perm modules := sortOn_perm _ modules
  have hcount (name : String) : dependents (ofModules limit modules).modules name =
      Tally.count (modules.foldl (fun t m => t.addDistinct m.depends) {}) name := by
    rw [dependents, hperm.countP_eq, Tally.count_foldl_addDistinct]
    exact (Nat.zero_add _).symm
  have hnames (name : String) : name ∈ (ofModules limit modules).modules.flatMap (·.depends) ↔
      name ∈ (modules.foldl (fun t m => t.addDistinct m.depends) ({} : Tally)).names := by
    rw [Tally.mem_names_foldl_addDistinct]
    simp [hperm.mem_iff]
  have hlength : (ofModules limit modules).dependencies.length =
      min limit ((ofModules limit modules).modules.flatMap (·.depends)).toFinset.card := by
    rw [show (ofModules limit modules).dependencies = Tally.top _ limit from rfl, Tally.length_top]
    congr 2
    ext name
    rw [List.mem_toFinset, List.mem_toFinset, hnames]
  refine { perm := hperm, order := ?_, count := ?_, ranks := Tally.pairwise_top _ _,
           length := hlength, behind := ?_ }
  · have hpaths := (hperm.pairwise_iff fun hab => Ne.symm hab).2 hpaths
    exact (hpaths.and (pairwise_sortOn _ modules)).imp fun h => before_of_le h.1 h.2
  · intro entry hentry
    obtain ⟨hname, hentry⟩ := Tally.mem_names_of_mem_top hentry
    rw [hcount]
    refine ⟨?_, hentry⟩
    rw [hentry]
    exact List.count_pos_iff.2 hname
  · intro name hname hout entry hentry
    rw [hcount]
    exact Tally.ranksBefore_of_notMem_top ((hnames name).1 hname) hout hentry

end ModuleMap

/-! ## The module of a manifest -/

section Collect

open Run Scan

variable (disk : Disk) (scope : Scope) (limits : Settings.Limits) (repository : Path)

/-- The manifests that are looked at. -/
def listedManifests : List Path :=
  disk.listFiles scope.skips (·.name == scope.manifestName) scope.manifests repository

/-- A file is in reach: what is asked of it can be counted, and there is memory for it, or the file cannot
be read anyway. -/
def InReach (limit : Nat) (path : Path) : Prop :=
  limit < readLimit ∧ disk.grants path limit ∨ ∃ fault, disk.readLossy path = .error fault

/-- Why a file that is not in reach is not read. -/
def refusalOf (limit : Nat) : ReadRefusal :=
  if readLimit ≤ limit then .tooLarge else .noMemory

/-- The text of a manifest as far as it is wanted, and none if it cannot be read. -/
def manifestText (limit : Nat) (manifest : Path) : List Char :=
  match disk.readLossy manifest with
  | .ok text => text.take limit
  | .error _ => []

/-- The module that a manifest stands for. -/
def moduleAt (manifest : Path) : Module :=
  let content := manifestText disk (limits .manifestChars) manifest
  let stats := extensionStats (limits .topExtensions) (disk.listFiles scope.skips (fun _ => true)
    (min (limits .extensionSampleFiles) scope.files) manifest.parent)
  { name := manifest.parent.name
    path := Path.relativeText repository manifest.parent
    folder := manifest.parent
    depends := Source.listField "depends".toList content
    dataFiles := Source.listField "data".toList content
    demoFiles := Source.listField "demo".toList content
    sampledFiles := stats.1
    extensions := stats.2 }

variable {disk scope limits repository} {E : Fault → Prop}

theorem meets_readText_manifestText {limit : Nat} {path : Path} (hclean : path.isClean)
    (hE : InReach disk limit path ∨ E (.read (refusalOf limit))) :
    Meets disk (readText path limit) (fun text => InReach disk limit path ∧
      text = manifestText disk limit path) E := by
  intro notes
  rw [outcome_readText]
  unfold InReach manifestText at *
  cases hread : disk.readLossy path with
  | ok text =>
    cases hrefusal : readRefusal? disk path limit with
    | none => exact ⟨.inl (readRefusal?_eq_none_iff.1 hrefusal), rfl⟩
    | some refusal =>
      obtain ⟨hout, rfl⟩ := readRefusal?_eq_some_iff.1 hrefusal
      rw [hread] at hE
      exact hE.resolve_left (by simpa using hout)
  | error fault =>
    have hnull : ¬ (fault.refusal == .nullByte) = true := by
      simpa using Disk.refusal_of_readLossy hclean hread
    simp [hnull]

theorem meets_moduleOf_moduleAt {manifest : Path} (hclean : manifest.isClean)
    (hE : InReach disk (limits .manifestChars) manifest ∨
      E (.read (refusalOf (limits .manifestChars)))) :
    Meets disk (moduleOf scope limits repository manifest) (fun m =>
      InReach disk (limits .manifestChars) manifest ∧
        moduleAt disk scope limits repository manifest = m) E := by
  refine (meets_readText_manifestText hclean hE).bind fun content hcontent => ?_
  obtain ⟨hreach, rfl⟩ := hcontent
  refine yields_sampleExtensions.meets.bind fun stats hstats => ?_
  rw [hstats]
  exact meets_pure ⟨hreach, rfl⟩

variable (scope limits) in
/-- A scan finds the module of each manifest, or a manifest that is out of reach. -/
theorem meets_collect_moduleAt (hsound : disk.top.isSound) (hfolder : disk.hasFolder repository) :
    Meets disk (collect scope limits repository) (fun found =>
      (∀ manifest ∈ listedManifests disk scope repository,
        InReach disk (limits .manifestChars) manifest) ∧
      found = .ofModules (limits .topDependencies) ((listedManifests disk scope repository).map
        (moduleAt disk scope limits repository)))
      (fun fault => (∃ manifest ∈ listedManifests disk scope repository,
        ¬ InReach disk (limits .manifestChars) manifest) ∧
        fault = .read (refusalOf (limits .manifestChars))) := by
  refine (yields_manifests hfolder).meets.bind fun listed hlisted => ?_
  subst hlisted
  refine (meets_mapM fun manifest hmanifest => meets_moduleOf_moduleAt
    (Disk.isClean_of_mem_listFiles hsound hmanifest) ?_).bind fun modules hmodules => ?_
  · by_cases hreach : InReach disk (limits .manifestChars) manifest
    · exact .inl hreach
    · exact .inr ⟨⟨manifest, hmanifest, hreach⟩, rfl⟩
  · obtain ⟨hreach, hmodules⟩ := (List.forall₂_and_left _ _).1 hmodules
    rw [← List.forall₂_map_left_iff, List.forall₂_eq_eq_eq] at hmodules
    subst hmodules
    exact meets_say.bind fun _ _ => meets_pure ⟨hreach, rfl⟩

/-- The modules of a repository, however its manifests look: one for each manifest that is listed, in
a strict order, with the names that the manifest lists in increasing order, and a ranking that agrees
with them.  Only a manifest that is out of reach keeps a scan from finding them. -/
theorem collect_shows (hsound : disk.top.isSound) (hfree : disk.top.isSlashFree)
    (hfolder : disk.hasFolder repository) (notes : Notes) :
    ((∀ manifest ∈ listedManifests disk scope repository,
        InReach disk (limits .manifestChars) manifest) →
      ∃ found after, outcome (collect scope limits repository disk) notes = (.ok found, after) ∧
        found.Shows (limits .topDependencies)
          ((listedManifests disk scope repository).map (moduleAt disk scope limits repository)) ∧
        ∀ m ∈ found.modules, m.depends.Pairwise (· < ·) ∧ m.dataFiles.Pairwise (· < ·) ∧
          m.demoFiles.Pairwise (· < ·)) ∧
    ((∃ manifest ∈ listedManifests disk scope repository,
        ¬ InReach disk (limits .manifestChars) manifest) →
      ∃ after, outcome (collect scope limits repository disk) notes =
        (.error (.read (refusalOf (limits .manifestChars))), after)) := by
  have hmeets := meets_collect_moduleAt scope limits hsound hfolder notes
  rcases hout : outcome (collect scope limits repository disk) notes with ⟨fault | found, after⟩
  · rw [hout] at hmeets
    obtain ⟨⟨manifest, hmanifest, hreach⟩, rfl⟩ := hmeets
    exact ⟨fun hall => absurd (hall manifest hmanifest) hreach, fun _ => ⟨after, rfl⟩⟩
  · rw [hout] at hmeets
    obtain ⟨hreach, rfl⟩ := hmeets
    refine ⟨fun _ => ⟨_, after, rfl, ?_, ?_⟩, fun ⟨manifest, hmanifest, hnot⟩ =>
      absurd (hreach manifest hmanifest) hnot⟩
    · refine ModuleMap.shows_ofModules _ (List.pairwise_map.2 ?_)
      exact Disk.pairwise_relativeText_parent hsound hfree _ _ _ _
    · intro m hm
      obtain ⟨manifest, -, rfl⟩ := List.mem_map.1 ((sortOn_perm _ _).mem_iff.1 hm)
      have hfield := Source.pairwise_listField
      exact ⟨hfield _ _, hfield _ _, hfield _ _⟩

end Collect

/-! ## A repository -/

section Sample

open Run Scan

/-- A repository with two modules whose names differ in case only, and the memory that is granted. -/
def moduleSample (grants : Path → Nat → Bool) : Disk where
  top := .folder [("repo", .folder [
    ("sale", .folder [("__manifest__.py", .file "\x7b'depends': ['web', 'base']\x7d".toUTF8)]),
    ("Sale", .folder [("__manifest__.py", .file "\x7b'depends': ['base', 'base']\x7d".toUTF8)])])]
  grants := grants

def moduleRepository : Path where
  root := "/"
  parts := ["repo"]

/-- One dependency is ranked, and so many characters of a manifest are read. -/
def sampleLimits (chars : Nat) : Settings.Limits
  | .manifestChars => chars
  | .topDependencies => 1
  | limit => limit.usual

variable (grants : Path → Nat → Bool)

theorem isSound_moduleSample : (moduleSample grants).top.isSound := by
  simp only [moduleSample, Entry.isSound, Entry.areSound, Entry.isUsable, String.contains_char_eq]
  decide +kernel

theorem hasFolder_moduleSample : (moduleSample grants).hasFolder moduleRepository := by cbv

theorem listedManifests_moduleSample : listedManifests (moduleSample grants) {} moduleRepository =
    [moduleRepository.below ["Sale", "__manifest__.py"],
      moduleRepository.below ["sale", "__manifest__.py"]] := by cbv

theorem collect_shows_sample :
    ((moduleSample fun _ _ => true).top.isSound ∧ (moduleSample fun _ _ => true).top.isSlashFree ∧
      (moduleSample fun _ _ => true).hasFolder moduleRepository) ∧
    ∃ found after, outcome (collect {} (sampleLimits 60) moduleRepository
        (moduleSample fun _ _ => true)) {} = (.ok found, after) ∧
      found.Shows 1 ([moduleRepository.below ["Sale", "__manifest__.py"],
        moduleRepository.below ["sale", "__manifest__.py"]].map
          (moduleAt (moduleSample fun _ _ => true) {} (sampleLimits 60) moduleRepository)) ∧
      ∀ m ∈ found.modules, m.depends.Pairwise (· < ·) ∧ m.dataFiles.Pairwise (· < ·) ∧
        m.demoFiles.Pairwise (· < ·) := by
  have hsound := isSound_moduleSample fun _ _ => true
  have hfree : (moduleSample fun _ _ => true).top.isSlashFree := by decide +kernel
  have hfolder := hasFolder_moduleSample fun _ _ => true
  have hreach : ∀ manifest ∈ listedManifests (moduleSample fun _ _ => true) {} moduleRepository,
      InReach (moduleSample fun _ _ => true) (sampleLimits 60 .manifestChars) manifest :=
    fun _ _ => .inl ⟨by decide, rfl⟩
  have hshows := (collect_shows hsound hfree hfolder {}).1 hreach
  rw [listedManifests_moduleSample] at hshows
  exact ⟨⟨hsound, hfree, hfolder⟩, hshows⟩

variable {grants}

/-- No modules are found where more characters of a manifest are asked for than can be counted, or than
there is memory for. -/
theorem not_collects_moduleSample {chars : Nat}
    (h : ¬ (chars < readLimit ∧ grants (moduleRepository.below ["sale", "__manifest__.py"]) chars)) :
    ¬ ∃ found after, outcome (collect {} (sampleLimits chars) moduleRepository
      (moduleSample grants)) {} = (.ok found, after) := by
  have hsound := isSound_moduleSample grants
  rintro ⟨found, after, hfound⟩
  have hreach := ((meets_collect_moduleAt _ _ hsound (hasFolder_moduleSample grants)).ok hfound).1
    (moduleRepository.below ["sale", "__manifest__.py"]) (by rw [listedManifests_moduleSample]; simp)
  rcases hreach with hreach | ⟨fault, hfault⟩
  · exact h hreach
  · have hfind : (moduleSample grants).find (moduleRepository.below ["sale", "__manifest__.py"]) =
        .ok (_, _) := Disk.find_place hsound rfl rfl (by simp)
    rw [Disk.readLossy, Disk.readBytes, hfind] at hfault
    cases hfault

/-- A limit may be too large to be counted, or for the memory that is there. -/
theorem collect_fails_out_of_reach :
    (¬ ∃ found after, outcome (collect {} (sampleLimits 9223372036854775808) moduleRepository
      (moduleSample fun _ _ => true)) {} = (.ok found, after)) ∧
    ¬ ∃ found after, outcome (collect {} (sampleLimits 4611686018427387904) moduleRepository
      (moduleSample fun _ chars => chars < 1099511627776)) {} = (.ok found, after) :=
  ⟨not_collects_moduleSample (by decide), not_collects_moduleSample (by decide)⟩

end Sample

end Addon

end AddonAtlas
