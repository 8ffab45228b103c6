import AddonAtlas.Proofs.Run.Scan

/-!
# Reports on disk

Writing reports makes their folder, with those above it, and fills it with two files for each report;
nothing else on the disk changes (`Inscribes.fills`).
-/

namespace AddonAtlas

open Files Files.Entry

namespace Files.Disk

theorem hasFolder_grows {before after : Disk} (hgrows : Grows before after) {path : Path}
    (h : before.hasFolder path) : after.hasFolder path := by
  obtain ⟨place, entries, hfind⟩ := hasFolder_iff.1 h
  obtain ⟨entries', hfind'⟩ := hgrows.find_folder hfind
  exact hasFolder_iff.2 ⟨place, entries', hfind'⟩

/-- Where a path from the top leads somewhere below it, the top is a folder. -/
theorem top_ne_link {disk : Disk} {path : Path} (habsolute : path.isAbsolute)
    (h : disk.hasFolder path) (target : String) : disk.top ≠ .link target := by
  intro htop
  obtain ⟨place, entries, hfind⟩ := hasFolder_iff.1 h
  obtain ⟨-, hfollow⟩ := find_eq_ok_iff_follow.1 hfind
  rw [start, if_pos habsolute] at hfollow
  cases hparts : path.parts with
  | nil =>
    rw [hparts, follow, htop] at hfollow
    simp at hfollow
  | cons name rest =>
    rw [hparts, follow, htop] at hfollow
    simp at hfollow

/-- A folder is there, made with those above it, and files were written into it; nothing else has
changed. -/
structure Fills (before after : Disk) (folder : Path) (files : List (String × ByteArray)) :
    Prop where
  grows : Grows before after
  found : after.hasFolder folder
  written : ∀ {place entries}, after.find folder = .ok (place, .folder entries) →
    ∀ file ∈ files, after.top.at? (place ++ [file.1]) = some (.file file.2)
  rest : ∀ {place entries}, after.find folder = .ok (place, .folder entries) →
    ∀ location, (∀ file ∈ files, location ≠ place ++ [file.1]) →
      Spares before after folder location

theorem Gains.fills {before after : Disk} {folder : Path} (h : Gains before after folder) :
    Fills before after folder [] where
  grows := h.grows
  found := h.found
  written _ := by simp
  rest _ location _ := h.rest location

/-- The place of a folder stays as the disk grows. -/
theorem Grows.find_place {before after : Disk} (hgrows : Grows before after) {folder : Path}
    (hfound : before.hasFolder folder) {place : Location} {entries : List (String × Entry)}
    (h : after.find folder = .ok (place, .folder entries)) :
    ∃ entries', before.find folder = .ok (place, .folder entries') := by
  obtain ⟨place', entries', hfind⟩ := hasFolder_iff.1 hfound
  obtain ⟨entries'', hfind'⟩ := hgrows.find_folder hfind
  rw [h, Except.ok.injEq, Prod.mk.injEq] at hfind'
  exact ⟨entries', hfind'.1 ▸ hfind⟩

theorem Fills.trans {a b c : Disk} {folder : Path} {files files' : List (String × ByteArray)}
    (hab : Fills a b folder files) (hbc : Fills b c folder files')
    (hdiffer : ∀ file ∈ files, ∀ file' ∈ files', file.1 ≠ file'.1) :
    Fills a c folder (files ++ files') where
  grows := hab.grows.trans hbc.grows
  found := hbc.found
  written {place entries} hplace file hfile := by
    rcases List.mem_append.1 hfile with hfile | hfile
    · -- what was written first is not touched later
      obtain ⟨entries', hplace'⟩ := hbc.grows.find_place hab.found hplace
      have hbefore := nodeAt_eq_file_iff.2 (hab.written hplace' file hfile)
      have hother : ∀ file' ∈ files', place ++ [file.1] ≠ place ++ [file'.1] := by
        intro file' hfile' heq
        exact hdiffer file hfile file' hfile' (by simpa using heq)
      rcases hbc.rest hplace _ hother with hsame | ⟨hnone, -⟩
      · exact nodeAt_eq_file_iff.1 (hsame.trans hbefore)
      · rw [hnone] at hbefore
        cases hbefore
    · exact hbc.written hplace file hfile
  rest {place entries} hplace location hlocation := by
    obtain ⟨entries', hplace'⟩ := hbc.grows.find_place hab.found hplace
    have hfirst := hab.rest hplace' location fun file hfile =>
      hlocation file (List.mem_append_left _ hfile)
    have hsecond := hbc.rest hplace location fun file hfile =>
      hlocation file (List.mem_append_right _ hfile)
    exact hfirst.trans hsecond hbc.grows id

/-- No link stands in the folder of a path under any of these names. -/
def Linkless (disk : Disk) (folder : Path) (names : List String) : Prop :=
  ∀ place entries, disk.find folder = .ok (place, .folder entries) →
    ∀ name ∈ names, ∀ target, disk.top.nodeAt (place ++ [name]) ≠ some (.link target)

theorem Linkless.mono {disk : Disk} {folder : Path} {names names' : List String}
    (h : disk.Linkless folder names) (hnames : ∀ name ∈ names', name ∈ names) :
    disk.Linkless folder names' :=
  fun place entries hplace name hname => h place entries hplace name (hnames name hname)

/-- A link that is not there when a disk has grown was not there before. -/
theorem Linkless.before {before after : Disk} {folder : Path} {names : List String}
    (h : after.Linkless folder names) (hgrows : Grows before after) :
    before.Linkless folder names := by
  intro place entries hplace name hname target hlink
  obtain ⟨entries', hplace'⟩ := hgrows.find_folder hplace
  exact h place entries' hplace' name hname target (hgrows.top.nodeAt_link hlink)

theorem grows_writeFile_below {disk after : Disk} {folder : Path} (habsolute : folder.isAbsolute)
    (hfound : disk.hasFolder folder) {name : String} {content : ByteArray}
    (h : disk.writeFile (folder.below [name]) content = .ok after) : Grows disk after := by
  refine grows_writeFile (fun target => ?_) h
  have hbelow : disk.start (folder.below [name]) = [] := if_pos habsolute
  rw [hbelow, at?_nil, ne_eq, Option.some.injEq]
  exact top_ne_link habsolute hfound target

theorem fills_writeFile {disk after : Disk} {folder : Path} (habsolute : folder.isAbsolute)
    (hfound : disk.hasFolder folder) {name : String} (hname : isUsable name) {content : ByteArray}
    (hlinkless : after.Linkless folder [name])
    (h : disk.writeFile (folder.below [name]) content = .ok after) :
    Fills disk after folder [(name, content)] := by
  have hgrows := grows_writeFile_below habsolute hfound h
  obtain ⟨place, entries, hplace⟩ := hasFolder_iff.1 hfound
  have hlink : ∀ target, disk.top.at? (place ++ [name]) ≠ some (.link target) := by
    intro target hat
    exact hlinkless.before hgrows place entries hplace name (by simp) target
      (nodeAt_eq_link_iff.2 hat)
  obtain ⟨hfree, rfl⟩ := eq_put_of_writeFile hplace hname hlink h
  have hnode := nodeAt_put (nodeAt_eq_folder_iff.2 ⟨entries, at?_of_find hplace⟩)
    (isBare_file content) hfree
  obtain ⟨entries', hplace'⟩ := hgrows.find_folder hplace
  refine ⟨hgrows, hasFolder_iff.2 ⟨place, entries', hplace'⟩, ?_, ?_⟩
  · intro place' inner hinner file hfile
    rw [hplace', Except.ok.injEq, Prod.mk.injEq] at hinner
    obtain ⟨rfl, -⟩ := hinner
    obtain rfl : file = (name, content) := by simpa using hfile
    exact nodeAt_eq_file_iff.1 ((hnode _).trans (if_pos rfl))
  · intro place' inner hinner location hlocation
    rw [hplace', Except.ok.injEq, Prod.mk.injEq] at hinner
    obtain ⟨rfl, -⟩ := hinner
    exact Or.inl ((hnode location).trans (if_neg (hlocation _ (List.mem_singleton_self _))))

end Files.Disk

namespace Run

/-- The names of the reports of a run. -/
def reportNames : List String := Report.titles.map (·.1)

/-- The endings of the files of a report. -/
def endings : List String := [".json", ".md"]

theorem isUsable_file : ∀ name ∈ reportNames, ∀ ending ∈ endings, isUsable (name ++ ending) := by
  simp only [isUsable, String.contains_char_eq]
  decide +kernel

theorem child_file {name : String} (hname : name ∈ reportNames) {ending : String}
    (hending : ending ∈ endings) (folder : Path) :
    folder.child (name ++ ending) = folder.below [name ++ ending] := by
  have hplain : ∀ name ∈ reportNames, ∀ ending ∈ endings, name ++ ending ≠ "" ∧
      name ++ ending ≠ "." ∧ '/' ∉ (name ++ ending).toList := by decide +kernel
  obtain ⟨hempty, hdot, hslash⟩ := hplain name hname ending hending
  exact Path.child_name hempty hdot hslash folder

theorem file_inj : ∀ name ∈ reportNames, ∀ name' ∈ reportNames, ∀ ending ∈ endings,
    ∀ ending' ∈ endings, name ++ ending = name' ++ ending' → name = name' ∧ ending = ending' := by
  decide +kernel

/-- The text of the page of a report. -/
def Draft.page (draft : Draft) : String :=
  (Report.page draft.fields).toOption.getD "" ++ "\n"

/-- The files of a report with what they hold. -/
def Draft.files (draft : Draft) : List (String × ByteArray) :=
  [(draft.name ++ ".json", (Document.Value.object draft.fields).json.toUTF8),
    (draft.name ++ ".md", draft.page.toUTF8)]

theorem artifact_data {draft : Draft} (hname : draft.name ∈ reportNames) (folder : Path) :
    (draft.artifact folder).data = folder.below [draft.name ++ ".json"] :=
  child_file hname (by decide) folder

theorem artifact_page {draft : Draft} (hname : draft.name ∈ reportNames) (folder : Path) :
    (draft.artifact folder).page = folder.below [draft.name ++ ".md"] :=
  child_file hname (by decide) folder

theorem Draft.mem_map_files {draft : Draft} {file : String} :
    file ∈ draft.files.map (·.1) ↔ ∃ ending ∈ endings, file = draft.name ++ ending := by
  simp [files, endings]

/-- Reports with different names have different files. -/
theorem files_differ {draft other : Draft} (hname : draft.name ∈ reportNames)
    (hother : other.name ∈ reportNames) (hne : draft.name ≠ other.name) :
    ∀ file ∈ draft.files, ∀ file' ∈ other.files, file.1 ≠ file'.1 := by
  intro file hfile file' hfile' heq
  obtain ⟨ending, hending, hfile⟩ := Draft.mem_map_files.1 (List.mem_map_of_mem hfile)
  obtain ⟨ending', hending', hfile'⟩ := Draft.mem_map_files.1 (List.mem_map_of_mem hfile')
  rw [hfile, hfile'] at heq
  exact hne (file_inj _ hname _ hother _ hending _ hending' heq).1

/-- One report fills its folder with its two files. -/
theorem Inscribes.fills_one {folder : Path} (habsolute : folder.isAbsolute) {draft : Draft}
    {disk after : Disk} (h : Inscribes folder [draft] disk after)
    (hname : draft.name ∈ reportNames)
    (hlinkless : after.Linkless folder (draft.files.map (·.1))) :
    Disk.Fills disk after folder draft.files := by
  obtain - | ⟨hfolder, hdata, htext, hpage, hrest⟩ := h
  cases hrest
  have hjson : ".json" ∈ endings := by decide
  have hmd : ".md" ∈ endings := by decide
  rw [artifact_data hname] at hdata
  rw [artifact_page hname] at hpage
  have hgains := Change.gains_folders hfolder
  have hgrows := Disk.grows_writeFile_below habsolute hgains.found hdata
  have hfound := Disk.hasFolder_grows hgrows hgains.found
  have hgrows' := Disk.grows_writeFile_below habsolute hfound hpage
  have hlinkless' := hlinkless.before hgrows'
  have hfirst := Disk.fills_writeFile habsolute hgains.found (isUsable_file _ hname _ hjson)
    (hlinkless'.mono (by simp [Draft.files])) hdata
  have hsecond := Disk.fills_writeFile habsolute hfound (isUsable_file _ hname _ hmd)
    (hlinkless.mono (by simp [Draft.files])) hpage
  have hall := hgains.fills.trans (hfirst.trans hsecond ?_) (by simp)
  · rw [Draft.files, Draft.page, htext]
    exact hall
  · simp only [List.mem_singleton, forall_eq]
    intro heq
    have hsame := (file_inj _ hname _ hname _ hjson _ hmd heq).2
    exact absurd hsame (by decide)

theorem Inscribes.grows {folder : Path} (habsolute : folder.isAbsolute) {drafts : List Draft}
    {disk after : Disk} (h : Inscribes folder drafts disk after)
    (hnames : ∀ draft ∈ drafts, draft.name ∈ reportNames) : Disk.Grows disk after := by
  induction h with
  | nil disk => exact Disk.Grows.refl disk
  | @cons draft rest disk made filled full after page hfolder hdata htext hpage hrest ih =>
    have hname := hnames draft List.mem_cons_self
    rw [artifact_data hname] at hdata
    rw [artifact_page hname] at hpage
    have hgains := Change.gains_folders hfolder
    have hgrows := Disk.grows_writeFile_below habsolute hgains.found hdata
    have hfound := Disk.hasFolder_grows hgrows hgains.found
    have hgrows' := Disk.grows_writeFile_below habsolute hfound hpage
    have hrest' := ih fun draft hdraft => hnames draft (List.mem_cons_of_mem _ hdraft)
    exact ((hgains.grows.trans hgrows).trans hgrows').trans hrest'

/-- Reports with different names fill their folder with their files. -/
theorem Inscribes.fills {folder : Path} (habsolute : folder.isAbsolute) {drafts : List Draft}
    {disk after : Disk} (h : Inscribes folder drafts disk after)
    (hnames : ∀ draft ∈ drafts, draft.name ∈ reportNames) (hnodup : (drafts.map (·.name)).Nodup)
    (hlinkless : after.Linkless folder ((drafts.flatMap (·.files)).map (·.1)))
    (hfound : drafts = [] → disk.hasFolder folder) :
    Disk.Fills disk after folder (drafts.flatMap (·.files)) := by
  induction drafts generalizing disk with
  | nil =>
    cases h
    exact (Disk.gains_of_hasFolder (hfound rfl)).fills
  | cons draft rest ih =>
    obtain ⟨full, hfirst, hrest⟩ := inscribes_cons_iff.1 h
    have hname := hnames draft List.mem_cons_self
    have hnames' : ∀ draft ∈ rest, draft.name ∈ reportNames := fun draft hdraft =>
      hnames draft (List.mem_cons_of_mem _ hdraft)
    rw [List.map_cons, List.nodup_cons] at hnodup
    have hfills := hfirst.fills_one habsolute hname
      ((hlinkless.before (hrest.grows habsolute hnames')).mono fun name hname => by
        simp only [List.flatMap_cons, List.map_append, List.mem_append]
        exact Or.inl hname)
    have hfills' := ih hrest hnames' hnodup.2 (hlinkless.mono fun name hname => by
        simp only [List.flatMap_cons, List.map_append, List.mem_append]
        exact Or.inr hname) fun _ => hfills.found
    refine hfills.trans hfills' fun file hfile file' hfile' => ?_
    obtain ⟨other, hother, hfile'⟩ := List.mem_flatMap.1 hfile'
    have hne : draft.name ≠ other.name := fun heq =>
      hnodup.1 (List.mem_map.2 ⟨other, hother, heq.symm⟩)
    exact files_differ hname (hnames' other hother) hne file hfile file' hfile'

end Run

end AddonAtlas
