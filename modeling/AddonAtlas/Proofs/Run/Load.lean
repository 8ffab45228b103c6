import AddonAtlas.Proofs.Files.Plain
import AddonAtlas.Run.Load

/-!
# The settings of a workspace
-/

namespace AddonAtlas.Run

open Files Files.Entry

theorem isUsable_settingsFile : isUsable Settings.fileName := by
  simp only [isUsable, String.contains_char_eq]
  decide +kernel

theorem child_settingsFile (path : Path) :
    path.child Settings.fileName = path.below [Settings.fileName] :=
  Path.child_name (by decide) (by decide) (by decide +kernel) path

/-- A path asks for the settings of a folder: it leads to the folder, or to something in it that is not
a folder itself, be it there or not. -/
def AsksFor (disk : Disk) (path folder : Path) : Prop :=
  ∃ asked, disk.expand path = .ok asked ∧
    (asked = folder ∨ ¬ disk.hasFolder asked ∧ asked.parent = folder)

theorem eq_below_of_name {path : Path} (h : path.name = Settings.fileName) :
    path = path.parent.below [Settings.fileName] := by
  obtain ⟨root, parts⟩ := path
  rcases List.eq_nil_or_concat parts with rfl | ⟨init, last, rfl⟩
  · simp [Path.name, Settings.fileName] at h
  · simp only [Path.name, List.concat_eq_append, List.getLast?_concat, Option.getD_some] at h
    simp [Path.parent, Path.below, h]

section Folder

variable {disk : Disk} (hsound : disk.top.isSound) {path folder : Path} {place : Location}
  {entries : List (String × Entry)} (h : disk.find folder = .ok (place, .folder entries))
  (hlink : ∀ target, disk.top.at? (place ++ [Settings.fileName]) ≠ some (.link target))

include hsound h hlink

theorem find_settingsFile : disk.find { root := "/", parts := place ++ [Settings.fileName] } =
    match disk.top.at? (place ++ [Settings.fileName]) with
    | none => .error .notFound
    | some e => .ok (place ++ [Settings.fileName], e) := by
  have hplace : disk.find { root := "/", parts := place } = .ok (place, .folder entries) :=
    Disk.find_place hsound rfl (Disk.at?_of_find h) (by simp)
  have hspot := Disk.spot_below hplace isUsable_settingsFile hlink true
  rw [Disk.find, show ({ root := "/", parts := place ++ [Settings.fileName] } : Path) =
    ({ root := "/", parts := place } : Path).below [Settings.fileName] from rfl, hspot]
  cases disk.top.at? (place ++ [Settings.fileName]) <;> rfl

/-- The settings file of a folder, if it is no link. -/
theorem settingsFile_eq (hasks : AsksFor disk path folder) :
    settingsFile disk path = .ok { root := "/", parts := place ++ [Settings.fileName] } := by
  have hresolve : disk.resolve (folder.below [Settings.fileName]) =
      .ok { root := "/", parts := place ++ [Settings.fileName] } := by
    have hclean := Disk.isClean_of_spot (Disk.spot_below h isUsable_settingsFile hlink true)
    have hloop : disk.find { root := "/", parts := place ++ [Settings.fileName] } ≠
        .error .tooManyLinks := by
      rw [find_settingsFile hsound h hlink]
      cases disk.top.at? (place ++ [Settings.fileName]) <;> simp
    rw [← Disk.resolvedLocation_below h isUsable_settingsFile hlink] at hloop ⊢
    exact Disk.resolve_eq hclean hloop
  obtain ⟨asked, hexpand, hasked⟩ := hasks
  rw [settingsFile, hexpand, ← hresolve]
  change disk.resolve _ = _
  rw [child_settingsFile, child_settingsFile]
  rcases hasked with rfl | ⟨hfolder, rfl⟩
  · rw [if_pos (Disk.hasFolder_iff.2 ⟨place, entries, h⟩)]
  · rw [if_neg hfolder]
    by_cases hname : asked.name = Settings.fileName
    · rw [if_neg (by simpa using hname), ← eq_below_of_name hname]
    · rw [if_pos (by simpa using hname)]

/-- The settings of a folder, by what stands in the place of its settings file. -/
theorem loadSettings_eq (load : Yaml.Loader) (hasks : AsksFor disk path folder) :
    loadSettings load disk path = match disk.top.at? (place ++ [Settings.fileName]) with
      | none => .ok { root := { root := "/", parts := place } }
      | some (.file content) => do
        let text ← (Text.decode content.toList).mapError .undecodable
        let settings ← (Settings.ofText load (Text.unifyLineEnds text)).mapError .settings
        return { root := { root := "/", parts := place }, settings }
      | some _ => .error (.system ⟨.isAFolder,
        ({ root := "/", parts := place ++ [Settings.fileName] } : Path).text⟩) := by
  have hroot : disk.resolve ({ root := "/", parts := place ++ [Settings.fileName] } : Path).parent =
      .ok { root := "/", parts := place } := by
    rw [Path.parent, List.dropLast_concat]
    exact Disk.resolve_of_find hsound (Disk.find_place hsound rfl (Disk.at?_of_find h) (by simp))
  have hfind := find_settingsFile hsound h hlink
  rw [loadSettings, settingsFile_eq hsound h hlink hasks]
  change ((disk.resolve _).mapError Fault.path >>= _) = _
  rw [hroot]
  change (if disk.has _ then _ else _) = _
  rw [Disk.has, Disk.find?, Disk.readBytes, hfind]
  cases hat : disk.top.at? (place ++ [Settings.fileName]) with
  | none => rfl
  | some e =>
    cases e with
    | file content => rfl
    | folder entries => rfl
    | link target => exact absurd hat (hlink target)

omit hlink

theorem loadSettings_eq_of_file (load : Yaml.Loader) (hasks : AsksFor disk path folder)
    {content : ByteArray} (hfile : disk.top.at? (place ++ [Settings.fileName]) = some (.file content)) :
    loadSettings load disk path = (do
      let text ← (Text.decode content.toList).mapError .undecodable
      let settings ← (Settings.ofText load (Text.unifyLineEnds text)).mapError .settings
      return { root := { root := "/", parts := place }, settings }) := by
  rw [loadSettings_eq hsound h (by simp [hfile]) load hasks, hfile]

end Folder

/-- A workspace without a settings file has the usual settings. -/
theorem loadSettings_of_missing (load : Yaml.Loader) {disk : Disk} (hsound : disk.top.isSound)
    {path : Path} (habsolute : path.isAbsolute) {place : Location} {entries : List (String × Entry)}
    (h : disk.find path = .ok (place, .folder entries))
    (hnone : disk.top.at? (place ++ [Settings.fileName]) = none) :
    loadSettings load disk path = .ok { root := { root := "/", parts := place } } := by
  have hasks : AsksFor disk path path := ⟨path, Disk.expand_of_absolute disk habsolute, .inl rfl⟩
  rw [loadSettings_eq hsound h (by simp [hnone]) load hasks, hnone]

/-! ## A workspace with settings only -/

/-- A workspace with nothing but a settings file. -/
def settingsDisk (content : ByteArray) : Disk where
  top := .folder [("ws", .folder [(Settings.fileName, .file content)])]

def settingsPath : Path := { root := "/", parts := ["ws"] }

theorem isSound_settingsDisk (content : ByteArray) : (settingsDisk content).top.isSound := by
  simp only [settingsDisk, isSound, areSound, isUsable, String.contains_char_eq, List.map_cons,
    List.map_nil]
  decide +kernel

theorem find_settingsPath (content : ByteArray) : (settingsDisk content).find settingsPath =
    .ok (["ws"], .folder [(Settings.fileName, .file content)]) :=
  Disk.find_place (isSound_settingsDisk content) rfl rfl (by simp)

theorem asksFor_settingsPath (content : ByteArray) :
    AsksFor (settingsDisk content) settingsPath settingsPath :=
  ⟨settingsPath, Disk.expand_of_absolute _ rfl, .inl rfl⟩

theorem at?_settingsDisk (content : ByteArray) :
    (settingsDisk content).top.at? (["ws"] ++ [Settings.fileName]) = some (.file content) :=
  rfl

theorem loadSettings_settingsDisk (load : Yaml.Loader) (content : ByteArray) :
    loadSettings load (settingsDisk content) settingsPath = (do
      let text ← (Text.decode content.toList).mapError .undecodable
      let settings ← (Settings.ofText load (Text.unifyLineEnds text)).mapError .settings
      return { root := settingsPath, settings }) :=
  loadSettings_eq_of_file (isSound_settingsDisk content) (find_settingsPath content) load
    (asksFor_settingsPath content) (at?_settingsDisk content)

/-! ## Settings that stay -/

theorem hasFolder_eq_of_grows {before after : Disk} (hgrows : Disk.Grows before after) {path : Path}
    (h : before.has path) : after.hasFolder path = before.hasFolder path := by
  obtain ⟨place, e, hfind⟩ := Disk.has_iff.1 h
  obtain ⟨e', hfind', halike⟩ := hgrows.find hfind
  unfold Disk.hasFolder Disk.find?
  rw [hfind, hfind']
  cases e <;> cases e' <;> simp_all [node, Node.Alike, isFolder]

/-- The settings file of a path has its fixed name. -/
theorem exists_of_settingsFile {disk : Disk} (hfree : disk.top.LinkFree) {path file : Path}
    (h : settingsFile disk path = .ok file) :
    ∃ parts, file = { root := "/", parts := parts ++ [Settings.fileName] } := by
  unfold settingsFile at h
  cases hexpand : disk.expand path with
  | error fault => simp [hexpand, bind, Except.bind] at h
  | ok path =>
    simp only [hexpand, bind, Except.bind] at h
    obtain ⟨wanted, ⟨parts, hparts⟩, hresolve⟩ : ∃ wanted : Path,
        (∃ parts, wanted.parts = parts ++ [Settings.fileName]) ∧ disk.resolve wanted = .ok file := by
      refine ⟨_, ?_, h⟩
      rw [child_settingsFile, child_settingsFile]
      by_cases hfolder : disk.hasFolder path
      · rw [if_pos hfolder]
        exact ⟨path.parts, rfl⟩
      · rw [if_neg hfolder]
        by_cases hname : path.name = Settings.fileName
        · rw [if_neg (by simpa using hname)]
          exact ⟨path.parent.parts, congrArg Path.parts (eq_below_of_name hname)⟩
        · rw [if_pos (by simpa using hname)]
          exact ⟨path.parent.parts, rfl⟩
    refine ⟨plainLocation (disk.start wanted) parts, ?_⟩
    rw [Disk.resolve_eq_ok hresolve, Disk.resolvedLocation_of_linkFree hfree, hparts,
      plainLocation_concat, plainLocation_name (by decide) (by decide)]

/-- A path is read alike where the same file stands. -/
theorem readBytes_of_grows {before after : Disk} (hgrows : Disk.Grows before after) {path : Path}
    {place : Location} {e : Entry} (hfind : before.find path = .ok (place, e))
    (hnode : after.top.nodeAt place = some e.node) : after.readBytes path = before.readBytes path := by
  obtain ⟨e', hfind', -⟩ := hgrows.find hfind
  rw [nodeAt_eq_some_iff] at hnode
  obtain ⟨e'', hat, hsame⟩ := hnode
  obtain rfl := Option.some.inj ((Disk.at?_of_find hfind').symm.trans hat)
  unfold Disk.readBytes
  rw [hfind, hfind']
  cases e <;> cases e' <;> simp_all [node]

theorem settingsFile_of_grows {before after : Disk} (hplain : before.IsPlain)
    (hplain' : after.IsPlain) (hgrows : Disk.Grows before after) {path : Path}
    (habsolute : path.isAbsolute) (hhas : before.has path) :
    settingsFile after path = settingsFile before path := by
  unfold settingsFile
  rw [Disk.expand_of_absolute _ habsolute, Disk.expand_of_absolute _ habsolute]
  change after.resolve _ = before.resolve _
  rw [hasFolder_eq_of_grows hgrows hhas, hplain.resolve_grows hplain' hgrows]

/-- Settings stay the same if their file does: if it was there, nothing else has taken its place, and
otherwise nothing has come to stand there. -/
theorem loadSettings_of_grows {load : Yaml.Loader} {before after : Disk} (hplain : before.IsPlain)
    (hplain' : after.IsPlain) (hgrows : Disk.Grows before after) {path : Path}
    (habsolute : path.isAbsolute) (hhas : before.has path)
    (hstays : ∀ location node, before.top.nodeAt (location ++ [Settings.fileName]) = some node →
      after.top.nodeAt (location ++ [Settings.fileName]) = some node)
    (hmissing : ∀ file, settingsFile before path = .ok file → after.has file → before.has file)
    {loaded : Loaded} (h : loadSettings load before path = .ok loaded) :
    loadSettings load after path = .ok loaded := by
  have hfile := settingsFile_of_grows hplain hplain' hgrows habsolute hhas
  rw [← h]
  unfold loadSettings
  rw [hfile]
  cases hsettings : settingsFile before path with
  | error fault => rfl
  | ok file =>
    obtain ⟨parts, rfl⟩ := exists_of_settingsFile hplain.linkFree hsettings
    dsimp only [Except.mapError, bind, Except.bind]
    rw [hplain.resolve_grows hplain' hgrows]
    by_cases hthere : before.has { root := "/", parts := parts ++ [Settings.fileName] }
    · obtain ⟨place, e, hfind⟩ := Disk.has_iff.1 hthere
      obtain ⟨e', hfind', -⟩ := hgrows.find hfind
      obtain ⟨-, -, hplace, hat⟩ := (Disk.find_eq_ok_iff_of_linkFree hplain.linkFree).1 hfind
      rw [plainLocation_concat, plainLocation_name (by decide) (by decide)] at hplace
      have hnode : before.top.nodeAt place = some e.node := nodeAt_eq_some_iff.2 ⟨e, hat, rfl⟩
      rw [hplace] at hnode
      have hread := readBytes_of_grows hgrows hfind (hplace ▸ hstays _ _ hnode)
      rw [hthere, Disk.has_iff.2 ⟨place, e', hfind'⟩, hread]
    · have hthere' : ¬ after.has { root := "/", parts := parts ++ [Settings.fileName] } :=
        fun hafter => hthere (hmissing _ hsettings hafter)
      rw [Bool.not_eq_true] at hthere hthere'
      rw [hthere, hthere']
      simp only [Bool.false_eq_true, if_false]

end AddonAtlas.Run
