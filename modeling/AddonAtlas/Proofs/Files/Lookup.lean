import AddonAtlas.Files.Resolve
import AddonAtlas.Proofs.Files.Tree

/-!
# Following paths

What a path leads to stands in the tree (`at?_of_follow_taken`), or is a free name in a folder
(`follow_free`).  A tree that grows keeps what paths lead to (`follow_grows`), and a free name leads
to what is put there (`follow_filled`).  A path with more names is followed from where the shorter
one leads (`exists_follow_append`).

Where there are no links, a path leads to the place of its names if there are folders on the way
(`follow_eq_taken_iff`).
-/

namespace AddonAtlas.Files

open Entry

/-! ## One name -/

section Step

variable {top : Entry} {followLast : Bool} {links : Nat} {location : Location} {name : String}
  {rest : List String}

theorem follow_nil {e : Entry} (h : top.at? location = some e) :
    follow top followLast links location [] = .ok (.taken location e) := by
  rw [follow, h]

theorem follow_nil_eq_taken_iff {place : Location} {e : Entry} :
    follow top followLast links location [] = .ok (.taken place e) ↔
      place = location ∧ top.at? place = some e := by
  constructor
  · intro h
    rw [follow] at h
    split at h
    · next e' hat =>
      cases h
      exact ⟨rfl, hat⟩
    · cases h
  · rintro ⟨rfl, hat⟩
    exact follow_nil hat

/-- A name is followed in a folder only. -/
theorem nodeAt_of_follow_cons {spot : Spot}
    (h : follow top followLast links location (name :: rest) = .ok spot) :
    top.nodeAt location = some .folder := by
  rw [follow] at h
  cases hat : top.at? location with
  | none => simp [hat] at h
  | some e =>
    cases e with
    | folder entries => exact nodeAt_eq_folder_iff.2 ⟨entries, hat⟩
    | file | link => simp [hat] at h

theorem follow_dot (h : top.nodeAt location = some .folder) :
    follow top followLast links location ("." :: rest) =
      follow top followLast links location rest := by
  obtain ⟨entries, h⟩ := nodeAt_eq_folder_iff.1 h
  rw [follow, h]
  rfl

theorem follow_up (h : top.nodeAt location = some .folder) :
    follow top followLast links location (".." :: rest) =
      follow top followLast links location.dropLast rest := by
  obtain ⟨entries, h⟩ := nodeAt_eq_folder_iff.1 h
  rw [follow, h]
  rfl

variable (hdot : name ≠ ".") (hup : name ≠ "..")

include hdot hup

theorem follow_missing (h : top.nodeAt location = some .folder)
    (hname : top.at? (location ++ [name]) = none) :
    follow top followLast links location (name :: rest) =
      if rest.isEmpty then .ok (.free location name) else .error .notFound := by
  obtain ⟨entries, h⟩ := nodeAt_eq_folder_iff.1 h
  rw [at?_concat h] at hname
  rw [follow, h]
  simp [hdot, hup, hname]

theorem follow_enter {e : Entry} (hname : top.at? (location ++ [name]) = some e)
    (hlink : ∀ target, e ≠ .link target) :
    follow top followLast links location (name :: rest) =
      follow top followLast links (location ++ [name]) rest := by
  obtain ⟨entries, h⟩ := exists_folder_of_at?_append hname (by simp)
  rw [at?_concat h] at hname
  rw [follow, h]
  cases e with
  | link target => exact absurd rfl (hlink target)
  | file content => simp [hdot, hup, hname]
  | folder inner => simp [hdot, hup, hname]

theorem follow_last_link {target : String}
    (hname : top.at? (location ++ [name]) = some (.link target)) :
    follow top false links location [name] =
      .ok (.taken (location ++ [name]) (.link target)) := by
  obtain ⟨entries, h⟩ := exists_folder_of_at?_append hname (by simp)
  rw [at?_concat h] at hname
  rw [follow, h]
  simp [hdot, hup, hname]

theorem follow_link {target : String}
    (hname : top.at? (location ++ [name]) = some (.link target))
    (hmore : rest ≠ [] ∨ followLast = true) :
    follow top followLast (links + 1) location (name :: rest) =
      follow top followLast links (if target.startsWith "/" then [] else location)
        (targetNames target ++ rest) := by
  obtain ⟨entries, h⟩ := exists_folder_of_at?_append hname (by simp)
  rw [at?_concat h] at hname
  have hempty : (rest.isEmpty && !followLast) = false := by
    rcases hmore with hmore | hmore
    · simp [hmore]
    · simp [hmore]
  rw [follow, h]
  simp [hdot, hup, hname, hempty]

end Step

/-! ## Whole paths -/

/-- Above a folder stands a folder. -/
theorem nodeAt_dropLast {top : Entry} {location : Location}
    (h : top.nodeAt location = some .folder) : top.nodeAt location.dropLast = some .folder := by
  rcases List.eq_nil_or_concat location with rfl | ⟨first, last, rfl⟩
  · exact h
  · rw [List.concat_eq_append] at h ⊢
    rw [List.dropLast_concat]
    obtain ⟨entries, h⟩ := nodeAt_eq_folder_iff.1 h
    exact nodeAt_eq_folder_iff.2 (exists_folder_of_at?_append h (by simp))

section Follow

variable {top : Entry} {followLast : Bool} {links : Nat} {location : Location}
  {names : List String}

theorem at?_of_follow_taken {place : Location} {e : Entry}
    (h : follow top followLast links location names = .ok (.taken place e)) :
    top.at? place = some e := by
  fun_induction follow top followLast links location names with
  | case1 links location e' hat =>
    cases h
    exact hat
  | case3 _ _ _ _ _ _ _ ih | case4 _ _ _ _ _ _ _ _ ih | case9 _ _ _ _ _ _ _ _ _ _ _ ih
  | case10 _ _ _ _ _ _ _ _ _ _ _ ih => exact ih h
  | case7 links location name rest entries hat _ _ target hname =>
    cases h
    rw [at?_concat hat]
    exact hname
  | case2 | case5 | case6 | case8 | case11 | case12 => simp at h

/-- A path leads to a free name only if its folder is there and holds nothing of that name. -/
theorem follow_free {folder : Location} {name : String}
    (h : follow top followLast links location names = .ok (.free folder name)) :
    top.nodeAt folder = some .folder ∧ top.at? (folder ++ [name]) = none ∧
      name ≠ "." ∧ name ≠ ".." := by
  fun_induction follow top followLast links location names with
  | case3 _ _ _ _ _ _ _ ih | case4 _ _ _ _ _ _ _ _ ih | case9 _ _ _ _ _ _ _ _ _ _ _ ih
  | case10 _ _ _ _ _ _ _ _ _ _ _ ih => exact ih h
  | case5 links location name rest entries hat hdot hup hname =>
    cases h
    refine ⟨nodeAt_eq_folder_iff.2 ⟨entries, hat⟩, ?_, by simpa using hdot, by simpa using hup⟩
    rw [at?_concat hat]
    exact hname
  | case1 | case2 | case6 | case7 | case8 | case11 | case12 => simp at h

/-- What a path leads to, it leads to in a tree that has grown. -/
theorem follow_grows {after : Entry} (hgrows : Grows top after) {place : Location} {e : Entry}
    (h : follow top followLast links location names = .ok (.taken place e)) :
    ∃ e', follow after followLast links location names = .ok (.taken place e') ∧
      e.node.Alike e'.node := by
  have folder {place : Location} {entries : List (String × Entry)}
      (hat : top.at? place = some (.folder entries)) : after.nodeAt place = some .folder :=
    hgrows.nodeAt_folder (nodeAt_eq_folder_iff.2 ⟨entries, hat⟩)
  have link {place : Location} {target : String} (hat : top.at? place = some (.link target)) :
      after.at? place = some (.link target) :=
    nodeAt_eq_link_iff.1 (hgrows.nodeAt_link (nodeAt_eq_link_iff.2 hat))
  fun_induction follow top followLast links location names with
  | case1 links location e' hat =>
    cases h
    obtain ⟨node, hnode, halike⟩ := hgrows place e.node (nodeAt_eq_some_iff.2 ⟨e, hat, rfl⟩)
    obtain ⟨e', he', rfl⟩ := nodeAt_eq_some_iff.1 hnode
    exact ⟨e', follow_nil he', halike⟩
  | case3 links location name rest entries hat hdot ih =>
    rw [beq_iff_eq.1 hdot, follow_dot (folder hat)]
    exact ih h
  | case4 links location name rest entries hat hdot hup ih =>
    rw [beq_iff_eq.1 hup, follow_up (folder hat)]
    exact ih h
  | case7 links location name rest entries hat hdot hup target hname hlast =>
    cases h
    simp only [Bool.and_eq_true, List.isEmpty_iff, Bool.not_eq_true'] at hlast
    obtain ⟨rfl, rfl⟩ := hlast
    rw [← at?_concat hat] at hname
    exact ⟨_, follow_last_link (by simpa using hdot) (by simpa using hup) (link hname),
      Node.Alike.refl _⟩
  | case9 location name rest entries hat hdot hup target hname hlast links ih =>
    have hmore : rest ≠ [] ∨ followLast = true := by
      cases rest <;> cases followLast <;> simp_all
    rw [← at?_concat hat] at hname
    rw [follow_link (by simpa using hdot) (by simpa using hup) (link hname) hmore]
    exact ih h
  | case10 links location name rest entries hat hdot hup val hval hname ih =>
    rw [← at?_concat hat] at hname
    obtain ⟨node, hnode, halike⟩ := hgrows _ _ (nodeAt_eq_some_iff.2 ⟨val, hname, rfl⟩)
    obtain ⟨e', he', rfl⟩ := nodeAt_eq_some_iff.1 hnode
    have hlink : ∀ target, e' ≠ .link target := by
      rintro target rfl
      cases val <;> simp_all [Node.Alike, node]
    rw [follow_enter (by simpa using hdot) (by simpa using hup) he' hlink]
    exact ih h
  | case2 | case5 | case6 | case8 | case11 | case12 => simp at h

/-- A free name leads to what is put there. -/
theorem follow_filled {after : Entry} (hgrows : Grows top after) {folder : Location}
    {name : String} {e : Entry} {followLast' : Bool} (hlast : followLast = true → followLast' = true)
    (h : follow top followLast links location names = .ok (.free folder name))
    (he : after.at? (folder ++ [name]) = some e) (hlink : ∀ target, e ≠ .link target) :
    follow after followLast' links location names = .ok (.taken (folder ++ [name]) e) := by
  have isFolder {place : Location} {entries : List (String × Entry)}
      (hat : top.at? place = some (.folder entries)) : after.nodeAt place = some .folder :=
    hgrows.nodeAt_folder (nodeAt_eq_folder_iff.2 ⟨entries, hat⟩)
  fun_induction follow top followLast links location names with
  | case3 links location name rest entries hat hdot ih =>
    rw [beq_iff_eq.1 hdot, follow_dot (isFolder hat)]
    exact ih h
  | case4 links location name rest entries hat hdot hup ih =>
    rw [beq_iff_eq.1 hup, follow_up (isFolder hat)]
    exact ih h
  | case5 links location name rest entries hat hdot hup hname hrest =>
    cases h
    rw [List.isEmpty_iff.1 hrest, follow_enter (by simpa using hdot) (by simpa using hup) he hlink]
    exact follow_nil he
  | case9 location name rest entries hat hdot hup target hname hmore links ih =>
    have hmore' : rest ≠ [] ∨ followLast' = true := by
      cases rest <;> cases followLast <;> simp_all
    rw [← at?_concat hat] at hname
    have hkept := nodeAt_eq_link_iff.1 (hgrows.nodeAt_link (nodeAt_eq_link_iff.2 hname))
    rw [follow_link (by simpa using hdot) (by simpa using hup) hkept hmore']
    exact ih h
  | case10 links location name rest entries hat hdot hup val hval hname ih =>
    rw [← at?_concat hat] at hname
    obtain ⟨node, hnode, halike⟩ := hgrows _ _ (nodeAt_eq_some_iff.2 ⟨val, hname, rfl⟩)
    obtain ⟨e', he', rfl⟩ := nodeAt_eq_some_iff.1 hnode
    have hlink' : ∀ target, e' ≠ .link target := by
      rintro target rfl
      cases val <;> simp_all [Node.Alike, node]
    rw [follow_enter (by simpa using hdot) (by simpa using hup) he' hlink']
    exact ih h
  | case1 | case2 | case6 | case7 | case8 | case11 | case12 => simp at h

/-- A path with more names is followed from where the shorter one leads. -/
theorem exists_follow_append {place : Location} {e : Entry}
    (h : follow top true links location names = .ok (.taken place e)) :
    ∃ links', ∀ followLast rest, rest ≠ [] →
      follow top followLast links location (names ++ rest) =
        follow top followLast links' place rest := by
  generalize hlast : true = last at h
  fun_induction follow top last links location names with
  | case1 links location e' hat =>
    cases h
    exact ⟨links, fun _ _ _ => rfl⟩
  | case3 links location name rest entries hat hdot ih =>
    obtain ⟨links', ih⟩ := ih h
    refine ⟨links', fun followLast more hmore => ?_⟩
    rw [beq_iff_eq.1 hdot, List.cons_append, follow_dot (nodeAt_eq_folder_iff.2 ⟨entries, hat⟩)]
    exact ih followLast more hmore
  | case4 links location name rest entries hat hdot hup ih =>
    obtain ⟨links', ih⟩ := ih h
    refine ⟨links', fun followLast more hmore => ?_⟩
    rw [beq_iff_eq.1 hup, List.cons_append, follow_up (nodeAt_eq_folder_iff.2 ⟨entries, hat⟩)]
    exact ih followLast more hmore
  | case9 location name rest entries hat hdot hup target hname _ links ih =>
    obtain ⟨links', ih⟩ := ih h
    refine ⟨links', fun followLast more hmore => ?_⟩
    rw [← at?_concat hat] at hname
    rw [List.cons_append, follow_link (by simpa using hdot) (by simpa using hup) hname
      (Or.inl (by simp [hmore])), ← List.append_assoc]
    exact ih followLast more hmore
  | case10 links location name rest entries hat hdot hup val hval hname ih =>
    obtain ⟨links', ih⟩ := ih h
    refine ⟨links', fun followLast more hmore => ?_⟩
    rw [← at?_concat hat] at hname
    rw [List.cons_append, follow_enter (by simpa using hdot) (by simpa using hup) hname hval]
    exact ih followLast more hmore
  | case7 => simp_all
  | case2 | case5 | case6 | case8 | case11 | case12 => simp at h

/-- A path that leads to an entry leads to one also if a link at its end is not followed. -/
theorem exists_taken_of_follow {place : Location} {e : Entry}
    (h : follow top true links location names = .ok (.taken place e)) :
    ∃ place' e', follow top false links location names = .ok (.taken place' e') := by
  generalize hlast : true = last at h
  fun_induction follow top last links location names with
  | case1 links location e' hat => exact ⟨_, _, follow_nil hat⟩
  | case3 links location name rest entries hat hdot ih =>
    rw [beq_iff_eq.1 hdot, follow_dot (nodeAt_eq_folder_iff.2 ⟨entries, hat⟩)]
    exact ih h
  | case4 links location name rest entries hat hdot hup ih =>
    rw [beq_iff_eq.1 hup, follow_up (nodeAt_eq_folder_iff.2 ⟨entries, hat⟩)]
    exact ih h
  | case9 location name rest entries hat hdot hup target hname _ links ih =>
    rw [← at?_concat hat] at hname
    cases rest with
    | nil => exact ⟨_, _, follow_last_link (by simpa using hdot) (by simpa using hup) hname⟩
    | cons next rest =>
      rw [follow_link (by simpa using hdot) (by simpa using hup) hname (Or.inl (by simp))]
      exact ih h
  | case10 links location name rest entries hat hdot hup val hval hname ih =>
    rw [← at?_concat hat] at hname
    rw [follow_enter (by simpa using hdot) (by simpa using hup) hname hval]
    exact ih h
  | case7 => simp_all
  | case2 | case5 | case6 | case8 | case11 | case12 => simp at h

/-- A path whose last link is followed does not lead to a link. -/
theorem not_link_of_follow {place : Location} {e : Entry}
    (hstart : ∀ target, top.at? location ≠ some (.link target))
    (h : follow top true links location names = .ok (.taken place e)) (target : String) :
    e ≠ .link target := by
  generalize hlast : true = last at h
  fun_induction follow top last links location names with
  | case1 links location e' hat =>
    cases h
    rintro rfl
    exact hstart target hat
  | case3 links location name rest entries hat hdot ih => exact ih hstart h
  | case4 links location name rest entries hat hdot hup ih =>
    refine ih (fun target hlink => ?_) h
    have hfolder := nodeAt_dropLast (nodeAt_eq_folder_iff.2 ⟨entries, hat⟩)
    rw [nodeAt_eq_link_iff.2 hlink] at hfolder
    cases hfolder
  | case9 location name rest entries hat hdot hup target hname _ links ih =>
    refine ih (fun target' hlink => ?_) h
    split at hlink
    · -- the link starts at the top, which is a folder
      cases location with
      | nil =>
        rw [hat] at hlink
        cases hlink
      | cons next location =>
        rw [← List.nil_append (next :: location)] at hat
        obtain ⟨outer, htop⟩ := exists_folder_of_at?_append hat (by simp)
        rw [htop] at hlink
        cases hlink
    · rw [hat] at hlink
      cases hlink
  | case10 links location name rest entries hat hdot hup val hval hname ih =>
    refine ih (fun target' hlink => ?_) h
    rw [at?_concat hat, hname] at hlink
    exact hval target' (Option.some.inj hlink)
  | case7 => simp_all
  | case2 | case5 | case6 | case8 | case11 | case12 => simp at h

theorem follow_ne_nullByte (top : Entry) (followLast : Bool) (links : Nat) (location : Location)
    (names : List String) : follow top followLast links location names ≠ .error .nullByte := by
  fun_induction follow top followLast links location names <;> simp_all

/-- The names that lead to an entry without links can be followed. -/
theorem follow_of_at? {e : Entry} (hnames : ∀ name ∈ names, isUsable name)
    (hat : top.at? (location ++ names) = some e) (hlink : ∀ target, e ≠ .link target) :
    follow top followLast links location names = .ok (.taken (location ++ names) e) := by
  induction names generalizing location with
  | nil =>
    rw [List.append_nil] at hat ⊢
    exact follow_nil hat
  | cons name rest ih =>
    obtain ⟨hdot, hup, -⟩ := isUsable_iff.1 (hnames name List.mem_cons_self)
    have hsplit : location ++ name :: rest = (location ++ [name]) ++ rest := by simp
    rw [hsplit] at hat ⊢
    have hrest := ih (fun n hn => hnames n (List.mem_cons_of_mem _ hn)) hat
    cases rest with
    | nil =>
      rw [List.append_nil] at hat
      rw [follow_enter hdot hup hat hlink]
      exact hrest
    | cons next rest =>
      obtain ⟨entries, hfolder⟩ := exists_folder_of_at?_append hat (by simp)
      rw [follow_enter hdot hup hfolder (by simp)]
      exact hrest

end Follow

/-! ## Trees without links -/

/-- No link stands anywhere in a tree. -/
def Entry.LinkFree (top : Entry) : Prop :=
  ∀ location target, top.nodeAt location ≠ some (.link target)

theorem plainLocation_nil (location : Location) : plainLocation location [] = location := rfl

theorem plainLocation_cons (location : Location) (name : String) (names : List String) :
    plainLocation location (name :: names) = plainLocation (plainLocation location [name]) names :=
  rfl

theorem plainLocation_concat (location : Location) (names : List String) (name : String) :
    plainLocation location (names ++ [name]) =
      plainLocation (plainLocation location names) [name] := by
  simp [plainLocation]

theorem plainLocation_dot (location : Location) : plainLocation location ["."] = location := rfl

theorem plainLocation_up (location : Location) :
    plainLocation location [".."] = location.dropLast := rfl

theorem plainLocation_name {name : String} (hdot : name ≠ ".") (hup : name ≠ "..")
    (location : Location) : plainLocation location [name] = location ++ [name] := by
  simp [plainLocation, hdot, hup]

theorem plainLocation_of_usable {names : List String} (h : ∀ name ∈ names, isUsable name)
    (location : Location) : plainLocation location names = location ++ names := by
  induction names generalizing location with
  | nil => simp [plainLocation]
  | cons name names ih =>
    obtain ⟨hdot, hup, -⟩ := isUsable_iff.1 (h name List.mem_cons_self)
    rw [plainLocation_cons, plainLocation_name hdot hup,
      ih fun n hn => h n (List.mem_cons_of_mem _ hn)]
    simp

/-- Folders stand at all places that names pass before the last one. -/
theorem forall_folder_cons_iff {top : Entry} {location : Location} {name : String}
    {rest : List String} :
    (∀ i < (name :: rest).length,
        top.nodeAt (plainLocation location ((name :: rest).take i)) = some .folder) ↔
      top.nodeAt location = some .folder ∧ ∀ i < rest.length,
        top.nodeAt (plainLocation (plainLocation location [name]) (rest.take i)) = some .folder := by
  constructor
  · intro h
    exact ⟨h 0 (by simp), fun i hi => h (i + 1) (by simpa using hi)⟩
  · rintro ⟨hfirst, hrest⟩ i hi
    cases i with
    | zero => exact hfirst
    | succ i => exact hrest i (by simpa using hi)

/-- Names behind a missing one lead nowhere. -/
theorem at?_plainLocation_eq_none {top : Entry} {location : Location} {names : List String}
    (hmissing : top.at? location = none)
    (hway : ∀ i < names.length,
      top.nodeAt (plainLocation location (names.take i)) = some .folder) :
    top.at? (plainLocation location names) = none := by
  cases names with
  | nil => exact hmissing
  | cons name names =>
    have hfolder := (forall_folder_cons_iff.1 hway).1
    rw [nodeAt, hmissing] at hfolder
    cases hfolder

/-- Without links, a path leads to the place of its names if there are folders on the way. -/
theorem follow_eq_taken_iff {top : Entry} (hfree : top.LinkFree) {followLast : Bool}
    {links : Nat} {location : Location} {names : List String} {place : Location} {e : Entry} :
    follow top followLast links location names = .ok (.taken place e) ↔
      (∀ i < names.length, top.nodeAt (plainLocation location (names.take i)) = some .folder) ∧
        place = plainLocation location names ∧ top.at? place = some e := by
  induction names generalizing location with
  | nil => simp [follow_nil_eq_taken_iff, plainLocation_nil]
  | cons name rest ih =>
    rw [forall_folder_cons_iff, plainLocation_cons location name rest]
    by_cases hfolder : top.nodeAt location = some .folder
    · -- the first name leads to another place, from which the rest is followed
      simp only [hfolder, true_and]
      by_cases hdot : name = "."
      · rw [hdot, follow_dot hfolder, ih, plainLocation_dot]
      by_cases hup : name = ".."
      · rw [hup, follow_up hfolder, ih, plainLocation_up]
      rw [plainLocation_name hdot hup]
      cases hat : top.at? (location ++ [name]) with
      | some e' =>
        have hlink : ∀ target, e' ≠ .link target := by
          rintro target rfl
          exact hfree _ _ (nodeAt_eq_link_iff.2 hat)
        rw [follow_enter hdot hup hat hlink, ih]
      | none =>
        rw [follow_missing hdot hup hfolder hat]
        constructor
        · intro h
          cases hrest : rest.isEmpty <;> simp [hrest] at h
        · rintro ⟨hway, rfl, he⟩
          rw [at?_plainLocation_eq_none hat hway] at he
          cases he
    · constructor
      · intro h
        exact absurd (nodeAt_of_follow_cons h) hfolder
      · rintro ⟨hway, -⟩
        exact absurd hway.1 hfolder

/-! ## Paths of a disk -/

/-- A text without slashes is one name. -/
theorem Path.namesOf_name {name : String} (hempty : name ≠ "") (hdot : name ≠ ".")
    (hslash : '/' ∉ name.toList) : namesOf name = [name] := by
  rw [namesOf, List.splitOn_eq_singleton hslash]
  simp [hempty, hdot]

theorem Path.child_name {name : String} (hempty : name ≠ "") (hdot : name ≠ ".")
    (hslash : '/' ∉ name.toList) (path : Path) : path.child name = path.below [name] := by
  have hroot : (ofText name).root = "" := by
    have htake : name.toList.takeWhile (· == '/') = [] := by
      cases hlist : name.toList with
      | nil => rfl
      | cons c rest =>
        have hc : c ≠ '/' := fun h => hslash (by simp [hlist, h])
        simp [hc]
    rw [ofText, htake]
    rfl
  rw [child, join, isAbsolute, hroot, ofText, namesOf_name hempty hdot hslash]
  rfl

/-- Does no name of the path hold a null character? -/
def Path.isClean (path : Path) : Bool :=
  !path.parts.any fun name => name.contains (Char.ofNat 0)

theorem Path.isClean_iff {path : Path} :
    path.isClean ↔ ∀ name ∈ path.parts, name.contains (Char.ofNat 0) = false := by
  simp [isClean]

theorem Path.isClean_of_isUsable {path : Path} (h : ∀ name ∈ path.parts, isUsable name) :
    path.isClean :=
  isClean_iff.2 fun name hname => (isUsable_iff.1 (h name hname)).2.2

theorem Path.isClean_below_of_isUsable {path : Path} (hclean : path.isClean) {names : List String}
    (h : ∀ name ∈ names, isUsable name) : (path.below names).isClean := by
  refine isClean_iff.2 fun name hname => ?_
  rcases List.mem_append.1 hname with hname | hname
  · exact isClean_iff.1 hclean name hname
  · exact (isUsable_iff.1 (h name hname)).2.2

/-- The path up to its first `size` names. -/
def Path.upTo (path : Path) (size : Nat) : Path :=
  { path with parts := path.parts.take size }

theorem Path.upTo_length (path : Path) : path.upTo path.parts.length = path := by
  simp [upTo]

namespace Disk

/-- The place at which a path starts. -/
def start (disk : Disk) (path : Path) : Location :=
  if path.isAbsolute then [] else disk.here

theorem spot_eq {disk : Disk} {path : Path} (hclean : path.isClean) (followLast : Bool) :
    disk.spot path followLast =
      follow disk.top followLast linkLimit (disk.start path) path.parts := by
  rw [spot, if_neg (by simpa [Path.isClean] using hclean)]
  rfl

theorem isClean_of_spot {disk : Disk} {path : Path} {followLast : Bool} {spot : Spot}
    (h : disk.spot path followLast = .ok spot) : path.isClean := by
  rw [Disk.spot] at h
  by_contra hclean
  rw [if_pos (by simpa [Path.isClean] using hclean)] at h
  cases h

theorem find_eq_ok_iff {disk : Disk} {path : Path} {place : Location} {e : Entry} :
    disk.find path = .ok (place, e) ↔ disk.spot path = .ok (.taken place e) := by
  rw [find]
  cases disk.spot path with
  | error r => simp
  | ok spot => cases spot <;> simp

theorem find_eq_ok_iff_follow {disk : Disk} {path : Path} {place : Location} {e : Entry} :
    disk.find path = .ok (place, e) ↔ path.isClean ∧
      follow disk.top true linkLimit (disk.start path) path.parts = .ok (.taken place e) := by
  rw [find_eq_ok_iff]
  constructor
  · intro h
    have hclean := isClean_of_spot h
    exact ⟨hclean, spot_eq hclean true ▸ h⟩
  · rintro ⟨hclean, h⟩
    rw [spot_eq hclean]
    exact h

theorem find_ne_nullByte {disk : Disk} {path : Path} (hclean : path.isClean) :
    disk.find path ≠ .error .nullByte := by
  have hfollow := follow_ne_nullByte disk.top true linkLimit (disk.start path) path.parts
  rw [find, spot_eq hclean]
  cases hspot : follow disk.top true linkLimit (disk.start path) path.parts with
  | ok spot => cases spot <;> simp
  | error r =>
    rw [hspot] at hfollow
    simpa using hfollow

theorem at?_of_find {disk : Disk} {path : Path} {place : Location} {e : Entry}
    (h : disk.find path = .ok (place, e)) : disk.top.at? place = some e :=
  at?_of_follow_taken (find_eq_ok_iff_follow.1 h).2

theorem find?_eq_some_iff {disk : Disk} {path : Path} {e : Entry} :
    disk.find? path = some e ↔ ∃ place, disk.find path = .ok (place, e) := by
  rw [find?]
  cases disk.find path with
  | error r => simp
  | ok found =>
    obtain ⟨place, e'⟩ := found
    simp

theorem has_iff {disk : Disk} {path : Path} :
    disk.has path ↔ ∃ place e, disk.find path = .ok (place, e) := by
  rw [has, Option.isSome_iff_exists, exists_comm]
  simp only [find?_eq_some_iff]

theorem hasFolder_iff {disk : Disk} {path : Path} :
    disk.hasFolder path ↔ ∃ place entries, disk.find path = .ok (place, .folder entries) := by
  rw [hasFolder, Option.any_eq_true]
  simp only [find?_eq_some_iff]
  constructor
  · rintro ⟨e, ⟨place, h⟩, he⟩
    cases e with
    | folder entries => exact ⟨place, entries, h⟩
    | file | link => simp [isFolder] at he
  · rintro ⟨place, entries, h⟩
    exact ⟨_, ⟨place, h⟩, rfl⟩

theorem hasFile_iff {disk : Disk} {path : Path} :
    disk.hasFile path ↔ ∃ place content, disk.find path = .ok (place, .file content) := by
  rw [hasFile, Option.any_eq_true]
  simp only [find?_eq_some_iff]
  constructor
  · rintro ⟨e, ⟨place, h⟩, he⟩
    cases e with
    | file content => exact ⟨place, content, h⟩
    | folder | link => simp [isFile] at he
  · rintro ⟨place, content, h⟩
    exact ⟨_, ⟨place, h⟩, rfl⟩

/-- A name in a folder leads to what stands there, unless that is a link. -/
theorem spot_below {disk : Disk} {path : Path} {place : Location}
    {entries : List (String × Entry)} (h : disk.find path = .ok (place, .folder entries))
    {name : String} (hname : isUsable name)
    (hlink : ∀ target, disk.top.at? (place ++ [name]) ≠ some (.link target)) (followLast : Bool) :
    disk.spot (path.below [name]) followLast = .ok (match disk.top.at? (place ++ [name]) with
      | none => .free place name
      | some e => .taken (place ++ [name]) e) := by
  obtain ⟨hclean, hfollow⟩ := find_eq_ok_iff_follow.1 h
  obtain ⟨hdot, hup, -⟩ := isUsable_iff.1 hname
  have hbelow := Path.isClean_below_of_isUsable hclean (List.forall_mem_singleton.2 hname)
  obtain ⟨links, happend⟩ := exists_follow_append hfollow
  have hspot : disk.spot (path.below [name]) followLast =
      follow disk.top followLast links place [name] := by
    rw [spot_eq hbelow]
    exact happend followLast [name] (by simp)
  have hfolder := nodeAt_eq_folder_iff.2 ⟨entries, at?_of_find h⟩
  rw [hspot]
  cases hat : disk.top.at? (place ++ [name]) with
  | none => exact follow_missing hdot hup hfolder hat
  | some e =>
    rw [follow_enter hdot hup hat fun target he => hlink target (he ▸ hat)]
    exact follow_nil hat

/-- The place of an entry, as a path from the top, leads to it. -/
theorem find_place {disk : Disk} (hsound : disk.top.isSound) {path : Path} {e : Entry}
    (hroot : path.isAbsolute) (hat : disk.top.at? path.parts = some e)
    (hlink : ∀ target, e ≠ .link target) : disk.find path = .ok (path.parts, e) := by
  have husable := (sound_at? hsound hat).2
  rw [find_eq_ok_iff_follow]
  constructor
  · exact Path.isClean_of_isUsable husable
  · rw [start, if_pos hroot]
    exact follow_of_at? husable (by simpa using hat) hlink

/-- A path without links leads to the place of its names if there are folders on the way. -/
theorem find_eq_ok_iff_of_linkFree {disk : Disk} (hfree : disk.top.LinkFree) {path : Path}
    {place : Location} {e : Entry} :
    disk.find path = .ok (place, e) ↔ path.isClean ∧
      (∀ i < path.parts.length, disk.top.nodeAt
        (plainLocation (disk.start path) (path.parts.take i)) = some .folder) ∧
      place = plainLocation (disk.start path) path.parts ∧ disk.top.at? place = some e := by
  rw [find_eq_ok_iff_follow, follow_eq_taken_iff hfree]

end Disk

end AddonAtlas.Files
