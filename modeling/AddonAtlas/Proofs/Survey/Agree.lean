import AddonAtlas.Proofs.Files.Plain
import AddonAtlas.Proofs.Survey.Chart

/-!
# What surveys depend on

A survey depends on the files below the folders of its modules and on nothing else: on two disks with
the same files there it comes to the same chart and the same diagnostics (`agree_runWith`).  How the
files of its jobs are read makes no difference, as long as they are read alike.
-/

namespace AddonAtlas.Survey

open Addon Files Run Run.Scan

/-- Two disks hold the same files below a path: a listing of any folder there is the same, and so is the
text of each file, and there is as much memory for it. -/
structure SameFiles (disk disk' : Disk) (root : Path) : Prop where
  grants : disk.grants = disk'.grants
  listed : ∀ skips names, (∀ name ∈ names, Entry.isUsable name) →
    disk.filesBelow skips (root.below names) = disk'.filesBelow skips (root.below names)
  read : ∀ skips names, (∀ name ∈ names, Entry.isUsable name) →
    ∀ rest ∈ disk.filesBelow skips (root.below names),
      disk.readLossy ((root.below names).below rest) = disk'.readLossy ((root.below names).below rest)
  isFile : ∀ names, (∀ name ∈ names, Entry.isUsable name) →
    disk.hasFile (root.below names) = disk'.hasFile (root.below names)
  readFile : ∀ names, (∀ name ∈ names, Entry.isUsable name) → disk.hasFile (root.below names) →
    disk.readLossy (root.below names) = disk'.readLossy (root.below names)

theorem SameFiles.refl (disk : Disk) (root : Path) : SameFiles disk disk root :=
  ⟨rfl, fun _ _ _ => rfl, fun _ _ _ _ _ => rfl, fun _ _ => rfl, fun _ _ _ => rfl⟩

theorem SameFiles.below {disk disk' : Disk} {root : Path} (h : SameFiles disk disk' root)
    {names : List String} (hnames : ∀ name ∈ names, Entry.isUsable name) :
    SameFiles disk disk' (root.below names) := by
  have hall {rest : List String} (hrest : ∀ name ∈ rest, Entry.isUsable name) :
      ∀ name ∈ names ++ rest, Entry.isUsable name :=
    List.forall_mem_append.2 ⟨hnames, hrest⟩
  refine ⟨h.grants, fun skips rest hrest => ?_, fun skips rest hrest => ?_, fun rest hrest => ?_,
    fun rest hrest => ?_⟩ <;> rw [Disk.below_below]
  · exact h.listed skips _ (hall hrest)
  · exact h.read skips _ (hall hrest)
  · exact h.isFile _ (hall hrest)
  · exact h.readFile _ (hall hrest)

theorem SameFiles.listFiles {disk disk' : Disk} {root : Path} (h : SameFiles disk disk' root)
    (skips : String → Bool) (wanted : Path → Bool) (limit : Int) :
    disk.listFiles skips wanted limit root = disk'.listFiles skips wanted limit root := by
  have hlisted := h.listed skips [] (by simp)
  rw [Disk.below_nil] at hlisted
  rw [Disk.listFiles_eq, Disk.listFiles_eq, hlisted]

/-- Without links, two disks hold the same files below a place if they have the same files there. -/
theorem sameFiles_of_plain {disk disk' : Disk} (h : disk.IsPlain) (h' : disk'.IsPlain)
    (hgrants : disk.grants = disk'.grants) {location : Location}
    (husable : ∀ name ∈ location, Entry.isUsable name)
    (hfiles : ∀ names content, disk.top.nodeAt (location ++ names) = some (.file content) ↔
      disk'.top.nodeAt (location ++ names) = some (.file content)) :
    SameFiles disk disk' { root := "/", parts := location } := by
  have hall {names : List String} (hnames : ∀ name ∈ names, Entry.isUsable name) :
      ∀ name ∈ location ++ names, Entry.isUsable name :=
    List.forall_mem_append.2 ⟨husable, hnames⟩
  have hread {names : List String} {content : ByteArray}
      (hnode : disk.top.nodeAt (location ++ names) = some (.file content)) :
      disk.readLossy { root := "/", parts := location ++ names } =
        disk'.readLossy { root := "/", parts := location ++ names } := by
    rw [Disk.readLossy_of_nodeAt h.sound hnode,
      Disk.readLossy_of_nodeAt h'.sound ((hfiles names content).1 hnode)]
  refine ⟨hgrants, fun skips names hnames => ?_, fun skips names hnames rest hrest => ?_,
    fun names hnames => ?_, fun names hnames hfile => ?_⟩
  · refine Disk.filesBelow_eq_of_mem_iff h.sound h'.sound fun rest => ?_
    unfold Path.below
    rw [h.mem_filesBelow (hall hnames), h'.mem_filesBelow (hall hnames)]
    simp only [List.append_assoc, hfiles]
  · unfold Path.below at hrest ⊢
    obtain ⟨-, -, content, hnode⟩ := (h.mem_filesBelow (hall hnames)).1 hrest
    rw [List.append_assoc] at hnode ⊢
    exact hread hnode
  · rw [Bool.eq_iff_iff]
    unfold Path.below
    rw [h.hasFile_iff (hall hnames), h'.hasFile_iff (hall hnames)]
    simp only [hfiles]
  · obtain ⟨content, hnode⟩ := (h.hasFile_iff (hall hnames)).1 hfile
    exact hread hnode

/-- The names in a module that surveys look for. -/
def surveyed : List String := ["models", "security", accessTable, "views", "controllers"]

theorem child_surveyed {folder : String} (h : folder ∈ surveyed) (path : Path) :
    path.child folder = path.below [folder] := by
  have hplain : ∀ folder ∈ surveyed, folder ≠ "" ∧ folder ≠ "." ∧ '/' ∉ folder.toList := by
    decide +kernel
  obtain ⟨hempty, hdot, hslash⟩ := hplain folder h
  exact Path.child_name hempty hdot hslash path

theorem isUsable_surveyed : ∀ folder ∈ surveyed, Entry.isUsable folder := by
  simp only [Entry.isUsable, String.contains_char_eq]
  decide +kernel

/-- Two readers come to the same results where the files that they read have the same text. -/
def ReadsAlike (disk disk' : Disk) (pool pool' : JobReader) : Prop :=
  ∀ (α : Type) (chars : Nat) (parse : Job → List Char → α) (jobs : List Job),
    (∀ job ∈ jobs, SameText disk disk' job.path) →
      Agree disk disk' (pool α chars parse jobs) (pool' α chars parse jobs)

variable {disk disk' : Disk} {pool : JobReader} {context : Context} {workers : Nat}

theorem readsAlike_oneByOne : ReadsAlike disk disk' oneByOne oneByOne := by
  intro α chars parse jobs hread
  refine agree_mapM fun job hjob => ?_
  exact (agree_readText (hread job hjob) _).bind fun text => agree_pure (parse job text)

theorem agree_readJobs (hpool : ReadsAlike disk disk' pool oneByOne) {context' : Context} {α : Type}
    {chars : Nat} {parse : Job → List Char → α} {jobs : List Job}
    (hread : ∀ job ∈ jobs, SameText disk disk' job.path) :
    Agree disk disk' (readJobs pool context chars parse jobs)
      (readJobs oneByOne context' chars parse jobs) := by
  rw [readJobs_oneByOne]
  unfold readJobs
  split
  · exact readsAlike_oneByOne α chars parse jobs hread
  · exact hpool α chars parse jobs hread

section Surveys

variable (hpool : ReadsAlike disk disk' pool oneByOne)
  (hmodules : ∀ module ∈ context.modules, SameFiles disk disk' module.folder)

include hmodules

theorem jobs_eq {folder : String} (hfolder : folder ∈ surveyed) (ending : String) (limit : Nat) :
    context.modules.flatMap (jobsOf disk context folder ending limit) =
      context.modules.flatMap (jobsOf disk' context folder ending limit) := by
  refine List.flatMap_congr fun module hmodule => ?_
  have hbelow := (hmodules module hmodule).below
    (List.forall_mem_singleton.2 (isUsable_surveyed folder hfolder))
  rw [jobsOf, jobsOf, child_surveyed hfolder, hbelow.listFiles]

theorem sameText_of_mem_jobs {folder : String} (hfolder : folder ∈ surveyed) {ending : String}
    {limit : Nat} {job : Job}
    (h : job ∈ context.modules.flatMap (jobsOf disk context folder ending limit)) :
    SameText disk disk' job.path := by
  obtain ⟨module, hmodule, hjob⟩ := List.mem_flatMap.1 h
  obtain ⟨path, hpath, rfl⟩ := List.mem_map.1 hjob
  obtain ⟨names, hnames, rfl⟩ := Disk.mem_listFiles hpath
  rw [child_surveyed hfolder] at hnames ⊢
  have hsame := hmodules module hmodule
  refine ⟨?_, by rw [hsame.grants]⟩
  exact hsame.read _ _ (by simpa using isUsable_surveyed folder hfolder) names hnames

theorem agree_moduleAccess {module : Module} (hmodule : module ∈ context.modules) :
    Agree disk disk' (moduleAccess context.limits module) (moduleAccess context.limits module) := by
  have hsame := hmodules module hmodule
  have htable := child_surveyed (show accessTable ∈ surveyed by decide)
  have hsecurity := child_surveyed (show "security" ∈ surveyed by decide)
  refine agree_read_bind ?_
  dsimp only
  have husable : ∀ name ∈ ["security"] ++ [accessTable], Entry.isUsable name := fun name hname =>
    isUsable_surveyed name (by revert name; decide)
  rw [htable, hsecurity, Disk.below_below, ← hsame.isFile _ husable]
  by_cases hfile : disk.hasFile (module.folder.below (["security"] ++ [accessTable]))
  · rw [if_pos hfile]
    refine (agree_readText ⟨hsame.readFile _ husable hfile, by rw [hsame.grants]⟩ _).bind fun text => ?_
    exact (agree_diagnose _).bind fun _ => agree_pure _
  · rw [if_neg hfile]
    exact agree_pure []

include hpool

/-- The files of one folder of every module are found and read alike. -/
theorem agree_found {folder : String} (hfolder : folder ∈ surveyed) {ending : String} {limit chars : Nat}
    {α : Type} {parse : Job → List Char → α} {next next' : List Job → List α → Scan Chart}
    (hnext : ∀ jobs found, Agree disk disk' (next jobs found) (next' jobs found)) :
    Agree disk disk'
      (jobs context folder ending limit >>= fun files =>
        readJobs pool context chars parse files >>= next files)
      (jobs { context with workers } folder ending limit >>= fun files =>
        readJobs oneByOne { context with workers } chars parse files >>= next' files) := by
  have hjobs : Yields disk' (jobs { context with workers } folder ending limit)
      (context.modules.flatMap (jobsOf disk context folder ending limit)) := by
    rw [jobs_eq hmodules hfolder]
    exact yields_jobs
  refine (yields_jobs.agree hjobs).bind_meets (E := fun _ => True) yields_jobs.meets
    fun files hfiles => ?_
  subst hfiles
  refine (agree_readJobs hpool fun job hjob => ?_).bind fun found => hnext _ found
  exact sameText_of_mem_jobs hmodules hfolder hjob

theorem agree_runWith (survey : BuiltIn) :
    Agree disk disk' (runWith pool context (.builtIn survey))
      (run { context with workers } (.builtIn survey)) := by
  cases survey with
  | models =>
    refine agree_found hpool hmodules (by decide) fun files found => ?_
    refine (agree_forM fun warning _ => agree_say.bind fun _ => agree_diagnose _).bind fun _ => ?_
    exact agree_say.bind fun _ => agree_pure _
  | access =>
    refine (agree_mapM fun module hmodule => agree_moduleAccess hmodules hmodule).bind
      fun groups => ?_
    refine agree_found hpool hmodules (by decide) fun files found => ?_
    exact agree_say.bind fun _ => agree_pure _
  | screens =>
    refine agree_found hpool hmodules (by decide) fun files found => ?_
    exact agree_say.bind fun _ => agree_pure _
  | routes =>
    refine agree_found hpool hmodules (by decide) fun files found => ?_
    exact agree_say.bind fun _ => agree_pure _

end Surveys

end AddonAtlas.Survey
