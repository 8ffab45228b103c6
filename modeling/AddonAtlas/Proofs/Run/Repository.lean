import AddonAtlas.Proofs.Run.Inventory

/-!
# Choosing a repository

`Chooses` says which path a run takes for its repository: the one that it is given, or the one with
the name it is given, or the first folder among the repositories.  The repository is that path
resolved (`meets_repositoryOf` and `yields_repositoryOf`), and it is a folder.
-/

namespace AddonAtlas.Run

open Addon Files Scan

/-- The names of the folders in a folder. -/
def folderNames (disk : Disk) (path : Path) (entries : List (String × Entry)) : List String :=
  (entries.map (·.1)).filter fun name => disk.hasFolder (path.below [name])

/-- The path of the repository to scan. -/
inductive Chooses (disk : Disk) (workspace : Path) (name : String) : Option String → Path → Prop
  | given {text : String} {path : Path} (hexpand : disk.expand (.ofText text) = .ok path)
      (hfolder : disk.hasFolder (workspace.join path)) :
      Chooses disk workspace name (some text) (workspace.join path)
  | named (hall : disk.hasFolder (workspace.child "repositories"))
      (hfolder : disk.hasFolder ((workspace.child "repositories").child name)) :
      Chooses disk workspace name none ((workspace.child "repositories").child name)
  | first {entries : List (String × Entry)} {least : String}
      (hall : disk.find? (workspace.child "repositories") = some (.folder entries))
      (hnamed : ¬ disk.hasFolder ((workspace.child "repositories").child name))
      (hmem : least ∈ folderNames disk (workspace.child "repositories") entries)
      (hleast : ∀ other ∈ folderNames disk (workspace.child "repositories") entries,
        least ≤ other) :
      Chooses disk workspace name none ((workspace.child "repositories").below [least])

theorem mergeSort_eq_cons {names rest : List String} {first : String}
    (h : (names.mergeSort fun a b => decide (a ≤ b)) = first :: rest) :
    first ∈ names ∧ ∀ other ∈ names, first ≤ other := by
  have hsorted := Text.pairwise_mergeSort_le names
  have hmem (name : String) : name ∈ names ↔ name ∈ first :: rest := by
    rw [← h, List.mem_mergeSort]
  rw [h, List.pairwise_cons] at hsorted
  refine ⟨(hmem first).2 List.mem_cons_self, fun other hother => ?_⟩
  rcases List.mem_cons.1 ((hmem other).1 hother) with rfl | hrest
  · exact le_refl other
  · exact hsorted.1 other hrest

variable {disk : Disk} {workspace repository path : Path} {name : String}
  {explicit : Option String}

theorem Chooses.hasFolder {given : Option String} (h : Chooses disk workspace name given path) :
    disk.hasFolder path := by
  cases h with
  | given _ hfolder => exact hfolder
  | named _ hfolder => exact hfolder
  | first _ _ hmem => exact (List.mem_filter.1 hmem).2

theorem Chooses.hasRepositories (h : Chooses disk workspace name none path) :
    disk.hasFolder (workspace.child "repositories") := by
  cases h with
  | named hall _ => exact hall
  | first hall _ _ _ =>
    rw [Disk.hasFolder, hall]
    rfl

theorem meets_repositoryOf :
    Meets disk (repositoryOf workspace name explicit) (fun repository => disk.has workspace ∧
      ∃ path, Chooses disk workspace name (nonEmpty? explicit) path ∧
        disk.resolve path = .ok repository) fun _ => True := by
  refine meets_read.bind fun found hfound => ?_
  rw [hfound]
  by_cases hworkspace : disk.has workspace
  · rw [if_pos hworkspace]
    have hresolve (path : Path) (h : Chooses disk workspace name (nonEmpty? explicit) path) :
        Meets disk (Scan.lift .path (disk.resolve path)) (fun repository => disk.has workspace ∧
          ∃ path, Chooses disk workspace name (nonEmpty? explicit) path ∧
            disk.resolve path = .ok repository) fun _ => True :=
      meets_lift (fun repository hok => ⟨hworkspace, path, h, hok⟩) fun _ _ => trivial
    dsimp only
    rw [show explicit.filter (· != "") = nonEmpty? explicit from rfl]
    cases hgiven : nonEmpty? explicit with
    | some text =>
      rw [hgiven] at hresolve
      refine (meets_lift (fun _ h => h) fun _ _ => trivial).bind fun path hexpand => ?_
      split
      · by_cases hfolder : disk.hasFolder (workspace.join path)
        · rw [if_pos hfolder]
          exact hresolve _ (.given hexpand hfolder)
        · rw [if_neg hfolder]
          exact meets_throw_bind trivial
      · exact meets_throw_bind trivial
    | none =>
      rw [hgiven] at hresolve
      dsimp only
      split
      · next entries hall =>
        by_cases hnamed : disk.hasFolder ((workspace.child "repositories").child name)
        · rw [if_pos hnamed]
          refine hresolve _ (.named ?_ hnamed)
          rw [Disk.hasFolder, hall]
          rfl
        · rw [if_neg hnamed]
          split
          · exact meets_throw trivial
          · next least rest hsorted =>
            obtain ⟨hmem, hleast⟩ := mergeSort_eq_cons hsorted
            refine meets_say.bind fun _ _ => ?_
            exact hresolve _ (.first hall hnamed hmem hleast)
      · exact meets_throw trivial
  · rw [if_neg hworkspace]
    exact meets_throw_bind trivial

theorem yields_repositoryOf (hworkspace : disk.has workspace)
    (hchoice : Chooses disk workspace name (nonEmpty? explicit) path)
    (hresolve : disk.resolve path = .ok repository) :
    Yields disk (repositoryOf workspace name explicit) repository := by
  refine yields_read.bind ?_
  rw [if_pos hworkspace]
  dsimp only
  rw [show explicit.filter (· != "") = nonEmpty? explicit from rfl]
  generalize nonEmpty? explicit = given at hchoice ⊢
  cases hchoice with
  | @given text path hexpand hfolder =>
    refine (yields_lift hexpand).bind ?_
    rw [if_pos (has_of_hasFolder hfolder), if_pos hfolder]
    exact yields_lift hresolve
  | named hall hfolder =>
    obtain ⟨place, entries, hfind⟩ := Disk.hasFolder_iff.1 hall
    dsimp only
    rw [Disk.find?_eq_some_iff.2 ⟨place, hfind⟩]
    dsimp only
    rw [if_pos hfolder]
    exact yields_lift hresolve
  | @first entries least hall hnamed hmem hleast =>
    dsimp only
    rw [hall]
    dsimp only
    rw [if_neg hnamed]
    cases hsorted : (folderNames disk (workspace.child "repositories") entries).mergeSort
        fun a b => decide (a ≤ b) with
    | nil =>
      have hmem : least ∈ (folderNames disk (workspace.child "repositories") entries).mergeSort
          fun a b => decide (a ≤ b) := List.mem_mergeSort.2 hmem
      rw [hsorted] at hmem
      cases hmem
    | cons first rest =>
      obtain ⟨hfirst, hbefore⟩ := mergeSort_eq_cons hsorted
      obtain rfl : first = least := le_antisymm (hbefore _ hmem) (hleast _ hfirst)
      unfold folderNames at hsorted
      rw [hsorted]
      exact yields_say.bind (yields_lift hresolve)

/-- A folder, resolved, is the place where it stands. -/
theorem exists_place_of_resolve (h : disk.hasFolder path)
    (hresolve : disk.resolve path = .ok repository) : ∃ place entries,
      disk.find path = .ok (place, .folder entries) ∧ repository = { root := "/", parts := place } := by
  obtain ⟨place, entries, hfind⟩ := Disk.hasFolder_iff.1 h
  refine ⟨place, entries, hfind, ?_⟩
  rw [Disk.resolve_eq_ok hresolve, Disk.resolvedLocation_of_find hfind]

theorem hasFolder_of_resolve (hsound : disk.top.isSound) (h : disk.hasFolder path)
    (hresolve : disk.resolve path = .ok repository) : disk.hasFolder repository := by
  obtain ⟨place, entries, hfind, rfl⟩ := exists_place_of_resolve h hresolve
  refine Disk.hasFolder_iff.2 ⟨place, entries, ?_⟩
  exact Disk.find_place hsound rfl (Disk.at?_of_find hfind) (by simp)

/-! ## Choices that stay -/

/-- In a folder without links the names of folders are those at which folders stand. -/
theorem mem_folderNames (hplain : disk.IsPlain) {place : Location} {entries : List (String × Entry)}
    (hfind : disk.find path = .ok (place, .folder entries)) :
    name ∈ folderNames disk path entries ↔
      Entry.isUsable name ∧ disk.hasFolder (path.below [name]) := by
  unfold folderNames
  rw [List.mem_filter]
  constructor
  · rintro ⟨hname, hfolder⟩
    obtain ⟨⟨_, e⟩, hentry, rfl⟩ := List.mem_map.1 hname
    have hsound := (Entry.sound_at? hplain.sound (Disk.at?_of_find hfind)).1
    exact ⟨((Entry.isSound_folder_iff.1 hsound).2 _ hentry).1, hfolder⟩
  · rintro ⟨husable, hfolder⟩
    refine ⟨?_, hfolder⟩
    have hlink : ∀ target, disk.top.at? (place ++ [name]) ≠ some (.link target) :=
      fun target hat => hplain.linkFree _ target (Entry.nodeAt_eq_link_iff.2 hat)
    obtain ⟨place', entries', hfind'⟩ := Disk.hasFolder_iff.1 hfolder
    rw [Disk.find_eq_ok_iff, Disk.spot_below hfind husable hlink] at hfind'
    cases hat : disk.top.at? (place ++ [name]) with
    | none => simp [hat] at hfind'
    | some e =>
      rw [Entry.at?_concat (Disk.at?_of_find hfind)] at hat
      exact List.mem_map.2 ⟨(name, e), Entry.mem_of_lookup hat, rfl⟩

/-- A choice stays as a disk grows, if the first folder was not chosen, or the folders among the
repositories have stayed the same. -/
theorem Chooses.of_grows {before after : Disk} (hplain : before.IsPlain) (hplain' : after.IsPlain)
    (hgrows : Disk.Grows before after) {given : Option String}
    (hstays : given = none → ¬ before.hasFolder ((workspace.child "repositories").child name) →
      ¬ after.hasFolder ((workspace.child "repositories").child name) ∧
        ∀ other, after.hasFolder ((workspace.child "repositories").below [other]) →
          before.hasFolder ((workspace.child "repositories").below [other]))
    (h : Chooses before workspace name given path) : Chooses after workspace name given path := by
  cases h with
  | given hexpand hfolder =>
    rw [← hgrows.expand] at hexpand
    exact .given hexpand (Disk.hasFolder_grows hgrows hfolder)
  | named hall hfolder =>
    exact .named (Disk.hasFolder_grows hgrows hall) (Disk.hasFolder_grows hgrows hfolder)
  | @first entries least hall hnamed hmem hleast =>
    obtain ⟨hnamed', hothers⟩ := hstays rfl hnamed
    obtain ⟨place, hfind⟩ := Disk.find?_eq_some_iff.1 hall
    obtain ⟨entries', hfind'⟩ := hgrows.find_folder hfind
    refine .first (Disk.find?_eq_some_iff.2 ⟨place, hfind'⟩) hnamed' ?_ fun other hother => ?_
    · obtain ⟨husable, hfolder⟩ := (mem_folderNames hplain hfind).1 hmem
      exact (mem_folderNames hplain' hfind').2 ⟨husable, Disk.hasFolder_grows hgrows hfolder⟩
    · obtain ⟨husable, hfolder⟩ := (mem_folderNames hplain' hfind').1 hother
      exact hleast other ((mem_folderNames hplain hfind).2 ⟨husable, hothers other hfolder⟩)

/-! ## Inventories -/

/-- An inventory is taken of what the request asks for. -/
theorem outcome_takeInventory_eq_ok_iff {setting : Setting} {request : Request} {notes after : Notes}
    {inventory : Inventory} :
    outcome (takeInventory setting request disk) notes = (.ok inventory, after) ↔
      ∃ workspace repository middle loaded folder,
        (do disk.resolve (← disk.expand (.ofText request.workspace))) = .ok workspace ∧
        outcome (repositoryOf workspace request.repositoryName request.repositoryPath disk) notes =
          (.ok repository, middle) ∧
        loadSettings setting.load disk workspace = .ok loaded ∧
        outputFolder disk workspace (nonEmpty? request.outputFolder <|>
          nonEmpty? loaded.settings.outputFolder) = .ok folder ∧
        outcome (takeStock setting request workspace repository loaded.settings folder disk) middle =
          (.ok inventory, after) := by
  simp only [takeInventory, outcome_scan_bind_eq_ok_iff, outcome_lift_eq_ok_iff, outcome_read_eq_ok_iff]
  constructor
  · rintro ⟨_, _, ⟨rfl, rfl⟩, workspace, _, ⟨hworkspace, rfl⟩, repository, middle, hrepository,
      loaded, _, ⟨hloaded, rfl⟩, folder, _, ⟨hfolder, rfl⟩, hstock⟩
    exact ⟨workspace, repository, _, loaded, folder, hworkspace, hrepository, hloaded, hfolder, hstock⟩
  · rintro ⟨workspace, repository, middle, loaded, folder, hworkspace, hrepository, hloaded, hfolder,
      hstock⟩
    exact ⟨_, _, ⟨rfl, rfl⟩, workspace, _, ⟨hworkspace, rfl⟩, repository, middle, hrepository,
      loaded, _, ⟨hloaded, rfl⟩, folder, _, ⟨hfolder, rfl⟩, hstock⟩

end AddonAtlas.Run
