import AddonAtlas.Files.Tree
import AddonAtlas.Proofs.Text.Table

/-!
# What stands where in a file tree

A tree is seen through its places: `nodeAt` tells whether a file, a link or a folder stands at a
place, without what a folder holds.  Putting a file or an empty folder where no folder stands
changes what stands at that one place (`nodeAt_put`).

A tree grows if nothing in it is removed or becomes something else, though files may be rewritten
(`Grows`).  In a sound tree the names of a folder differ and can all be used in paths (`isSound`);
putting an entry keeps a tree sound.
-/

namespace AddonAtlas.Files

/-- What stands at a place, without what a folder holds. -/
inductive Node
  | file (content : ByteArray)
  | link (target : String)
  | folder

/-- Two nodes are of one kind if they differ at most in what a file holds. -/
def Node.Alike : Node → Node → Prop
  | .file _, .file _ => True
  | a, b => a = b

theorem Node.Alike.refl (a : Node) : a.Alike a := by
  cases a <;> simp [Alike]

theorem Node.Alike.trans {a b c : Node} (hab : a.Alike b) (hbc : b.Alike c) : a.Alike c := by
  cases a <;> cases b <;> cases c <;> simp_all [Alike]

namespace Entry

/-- The entry without what it holds as a folder. -/
def node : Entry → Node
  | .file content => .file content
  | .link target => .link target
  | .folder _ => .folder

/-- What stands at a place of a tree. -/
def nodeAt (top : Entry) (location : Location) : Option Node :=
  (top.at? location).map node

theorem node_eq_folder_iff {e : Entry} : e.node = .folder ↔ ∃ entries, e = .folder entries := by
  cases e <;> simp [node]

theorem node_eq_file_iff {e : Entry} {content : ByteArray} :
    e.node = .file content ↔ e = .file content := by
  cases e <;> simp [node]

theorem node_eq_link_iff {e : Entry} {target : String} :
    e.node = .link target ↔ e = .link target := by
  cases e <;> simp [node]

@[simp]
theorem at?_nil (top : Entry) : top.at? [] = some top := rfl

theorem at?_cons (top : Entry) (name : String) (rest : Location) :
    top.at? (name :: rest) = (top.child? name).bind (·.at? rest) := rfl

theorem at?_append (top : Entry) (first rest : Location) :
    top.at? (first ++ rest) = (top.at? first).bind (·.at? rest) := by
  induction first generalizing top with
  | nil => rfl
  | cons name first ih =>
    rw [List.cons_append, at?_cons, at?_cons]
    cases top.child? name with
    | none => rfl
    | some e => exact ih e

theorem at?_concat {top : Entry} {location : Location} {entries : List (String × Entry)}
    (h : top.at? location = some (.folder entries)) (name : String) :
    top.at? (location ++ [name]) = entries.lookup name := by
  rw [at?_append, h, Option.bind_some, at?_cons, child?]
  cases entries.lookup name <;> rfl

/-- Above an entry stands a folder. -/
theorem exists_folder_of_at?_append {top : Entry} {location rest : Location} {e : Entry}
    (h : top.at? (location ++ rest) = some e) (hrest : rest ≠ []) :
    ∃ entries, top.at? location = some (.folder entries) := by
  rw [at?_append] at h
  obtain ⟨parent, hparent, h⟩ := Option.bind_eq_some_iff.1 h
  obtain ⟨name, rest, rfl⟩ := List.exists_cons_of_ne_nil hrest
  rw [at?_cons] at h
  cases parent with
  | folder entries => exact ⟨entries, hparent⟩
  | file | link => simp [child?] at h

theorem nodeAt_eq_some_iff {top : Entry} {location : Location} {node : Node} :
    top.nodeAt location = some node ↔ ∃ e, top.at? location = some e ∧ e.node = node :=
  Option.map_eq_some_iff

theorem nodeAt_eq_none_iff {top : Entry} {location : Location} :
    top.nodeAt location = none ↔ top.at? location = none :=
  Option.map_eq_none_iff

theorem nodeAt_eq_folder_iff {top : Entry} {location : Location} :
    top.nodeAt location = some .folder ↔ ∃ entries, top.at? location = some (.folder entries) := by
  rw [nodeAt_eq_some_iff]
  constructor
  · rintro ⟨e, he, hnode⟩
    obtain ⟨entries, rfl⟩ := node_eq_folder_iff.1 hnode
    exact ⟨entries, he⟩
  · rintro ⟨entries, h⟩
    exact ⟨_, h, rfl⟩

theorem nodeAt_eq_file_iff {top : Entry} {location : Location} {content : ByteArray} :
    top.nodeAt location = some (.file content) ↔ top.at? location = some (.file content) := by
  rw [nodeAt_eq_some_iff]
  simp [node_eq_file_iff]

theorem nodeAt_eq_link_iff {top : Entry} {location : Location} {target : String} :
    top.nodeAt location = some (.link target) ↔ top.at? location = some (.link target) := by
  rw [nodeAt_eq_some_iff]
  simp [node_eq_link_iff]

/-! ## Putting an entry -/

theorem lookup_cons_named (name other : String) (e : Entry) (entries : List (String × Entry)) :
    ((name, e) :: entries).lookup other = if other = name then some e else entries.lookup other := by
  rw [List.lookup_cons]
  by_cases h : other = name
  · rw [if_pos h, beq_iff_eq.2 h]
  · rw [if_neg h, beq_eq_false_iff_ne.2 h]

/-- Changing the entries of one name does not touch the others. -/
theorem lookup_map_named (entries : List (String × Entry)) (name other : String)
    (change : Entry → Entry) :
    (entries.map fun (n, e) => if n == name then (n, change e) else (n, e)).lookup other =
      if other = name then (entries.lookup name).map change else entries.lookup other := by
  induction entries with
  | nil => simp
  | cons entry entries ih =>
    obtain ⟨n, e⟩ := entry
    have hentry : (if n == name then (n, change e) else (n, e)) =
        (n, if n = name then change e else e) := by
      by_cases hn : n = name <;> simp [hn]
    rw [List.map_cons]
    simp only [hentry, lookup_cons_named, ih]
    grind

theorem lookup_setNamed (name other : String) (entry : Entry) (entries : List (String × Entry)) :
    (setNamed name entry entries).lookup other =
      if other = name then some entry else entries.lookup other := by
  rw [setNamed]
  cases hname : entries.lookup name with
  | some old =>
    rw [if_pos Option.isSome_some, lookup_map_named entries name other fun _ => entry, hname]
    rfl
  | none =>
    rw [if_neg (by simp), List.lookup_append]
    by_cases ho : other = name
    · simp [ho, hname]
    · simp [ho, lookup_cons_named]

theorem child?_put_nil (name other : String) (entry : Entry) (entries : List (String × Entry)) :
    (put name entry [] (.folder entries)).child? other =
      if other = name then some entry else entries.lookup other := by
  rw [put, child?, lookup_setNamed]

theorem child?_put_cons (name next other : String) (entry : Entry) (rest : Location)
    (entries : List (String × Entry)) :
    (put name entry (next :: rest) (.folder entries)).child? other =
      if other = next then (entries.lookup next).map (put name entry rest)
      else entries.lookup other := by
  rw [put, child?, lookup_map_named entries next other (put name entry rest)]

/-- An entry without entries of its own. -/
def IsBare (e : Entry) : Prop :=
  ∀ name, e.child? name = none

theorem isBare_file (content : ByteArray) : (Entry.file content).IsBare := fun _ => rfl

theorem isBare_emptyFolder : (Entry.folder []).IsBare := fun _ => rfl

theorem IsBare.at? {e : Entry} (h : e.IsBare) {location : Location} (hne : location ≠ []) :
    e.at? location = none := by
  obtain ⟨name, rest, rfl⟩ := List.exists_cons_of_ne_nil hne
  rw [at?_cons, h]
  rfl

/-- Putting an entry into a folder changes what stands at its place and below it, and nothing
else. -/
theorem at?_put {name : String} {entry : Entry} {folder : Location} {top : Entry}
    (hfolder : top.nodeAt folder = some .folder) (rest : Location) :
    (put name entry folder top).at? (folder ++ name :: rest) = entry.at? rest := by
  induction folder generalizing top with
  | nil =>
    obtain ⟨entries, h⟩ := nodeAt_eq_folder_iff.1 hfolder
    cases h
    rw [List.nil_append, at?_cons, child?_put_nil, if_pos rfl]
    rfl
  | cons next folder ih =>
    obtain ⟨entries, h⟩ := nodeAt_eq_folder_iff.1 hfolder
    cases top with
    | file | link => simp [at?_cons, child?] at h
    | folder outer =>
      rw [at?_cons, child?] at h
      obtain ⟨e, he, h⟩ := Option.bind_eq_some_iff.1 h
      rw [List.cons_append, at?_cons, child?_put_cons, if_pos rfl, he]
      exact ih (nodeAt_eq_folder_iff.2 ⟨entries, h⟩)

theorem nodeAt_put_of_ne {name : String} {entry : Entry} {folder : Location} {top : Entry}
    {location : Location} (hne : ¬ folder ++ [name] <+: location) :
    (put name entry folder top).nodeAt location = top.nodeAt location := by
  induction folder generalizing top location with
  | nil =>
    cases top with
    | file | link => rfl
    | folder entries =>
      cases location with
      | nil => rfl
      | cons other rest =>
        have ho : other ≠ name := by
          rintro rfl
          exact hne (by simp)
        rw [nodeAt, nodeAt, at?_cons, child?_put_nil, if_neg ho]
        rfl
  | cons next folder ih =>
    cases top with
    | file | link => rfl
    | folder entries =>
      cases location with
      | nil => rfl
      | cons other rest =>
        rw [nodeAt, nodeAt, at?_cons, child?_put_cons, at?_cons, child?]
        by_cases ho : other = next
        · subst ho
          rw [if_pos rfl]
          cases entries.lookup other with
          | none => rfl
          | some e =>
            refine ih fun hprefix => hne ?_
            simpa using hprefix
        · rw [if_neg ho]

/-- Putting a file or an empty folder into a folder, where no folder stands, changes what stands at
that one place. -/
theorem nodeAt_put {name : String} {entry : Entry} {folder : Location} {top : Entry}
    (hfolder : top.nodeAt folder = some .folder) (hbare : entry.IsBare)
    (hfree : top.nodeAt (folder ++ [name]) ≠ some .folder) (location : Location) :
    (put name entry folder top).nodeAt location =
      if location = folder ++ [name] then some entry.node else top.nodeAt location := by
  by_cases hprefix : folder ++ [name] <+: location
  · obtain ⟨rest, rfl⟩ := hprefix
    have hat : (put name entry folder top).at? (folder ++ [name] ++ rest) = entry.at? rest := by
      rw [List.append_assoc]
      exact at?_put hfolder rest
    cases rest with
    | nil => rw [nodeAt, hat, if_pos (List.append_nil _)]; rfl
    | cons next rest =>
      have hbelow : top.at? (folder ++ [name] ++ next :: rest) = none := by
        by_contra hsome
        obtain ⟨e, he⟩ := Option.ne_none_iff_exists'.1 hsome
        exact hfree (nodeAt_eq_folder_iff.2 (exists_folder_of_at?_append he (by simp)))
      rw [nodeAt, hat, hbare.at? (by simp), if_neg (by simp), nodeAt, hbelow]
  · rw [nodeAt_put_of_ne hprefix, if_neg]
    rintro rfl
    exact hprefix (List.prefix_refl _)

/-! ## Growth -/

/-- Nothing in a tree is removed or becomes something else; files may be rewritten. -/
def Grows (before after : Entry) : Prop :=
  ∀ location node, before.nodeAt location = some node →
    ∃ node', after.nodeAt location = some node' ∧ node.Alike node'

theorem Grows.refl (top : Entry) : Grows top top :=
  fun _ node h => ⟨node, h, Node.Alike.refl node⟩

theorem Grows.trans {a b c : Entry} (hab : Grows a b) (hbc : Grows b c) : Grows a c := by
  intro location node h
  obtain ⟨node', h', halike⟩ := hab location node h
  obtain ⟨node'', h'', halike'⟩ := hbc location node' h'
  exact ⟨node'', h'', halike.trans halike'⟩

theorem Grows.nodeAt_folder {before after : Entry} (h : Grows before after) {location : Location}
    (hfolder : before.nodeAt location = some .folder) : after.nodeAt location = some .folder := by
  obtain ⟨node, hnode, halike⟩ := h location _ hfolder
  cases node <;> simp_all [Node.Alike]

theorem Grows.nodeAt_link {before after : Entry} (h : Grows before after) {location : Location}
    {target : String} (hlink : before.nodeAt location = some (.link target)) :
    after.nodeAt location = some (.link target) := by
  obtain ⟨node, hnode, halike⟩ := h location _ hlink
  cases node <;> simp_all [Node.Alike]

theorem grows_put {name : String} {entry : Entry} {folder : Location} {top : Entry}
    (hfolder : top.nodeAt folder = some .folder) (hbare : entry.IsBare)
    (halike : ∀ node, top.nodeAt (folder ++ [name]) = some node →
      node ≠ .folder ∧ node.Alike entry.node) :
    Grows top (put name entry folder top) := by
  intro location node h
  have hfree : top.nodeAt (folder ++ [name]) ≠ some .folder :=
    fun hf => (halike _ hf).1 rfl
  rw [nodeAt_put hfolder hbare hfree]
  by_cases hlocation : location = folder ++ [name]
  · rw [if_pos hlocation]
    exact ⟨_, rfl, (halike node (hlocation ▸ h)).2⟩
  · rw [if_neg hlocation]
    exact ⟨node, h, Node.Alike.refl node⟩

/-! ## Sound trees -/

/-- Can a name be used in paths? The dots lead elsewhere, and a null character is refused. -/
def isUsable (name : String) : Bool :=
  name != "." && name != ".." && !name.contains (Char.ofNat 0)

theorem isUsable_iff {name : String} :
    isUsable name ↔ name ≠ "." ∧ name ≠ ".." ∧ name.contains (Char.ofNat 0) = false := by
  simp [isUsable, and_assoc]

mutual

/-- The names of every folder differ and can be used in paths. -/
def isSound : Entry → Bool
  | .folder entries => decide (entries.map (·.1)).Nodup && areSound entries
  | _ => true

/-- Every name can be used, and every entry is sound. -/
def areSound : List (String × Entry) → Bool
  | [] => true
  | (name, e) :: rest => isUsable name && isSound e && areSound rest

end

theorem areSound_iff {entries : List (String × Entry)} :
    areSound entries ↔ ∀ entry ∈ entries, isUsable entry.1 ∧ isSound entry.2 := by
  induction entries with
  | nil => simp [areSound]
  | cons entry entries ih =>
    obtain ⟨name, e⟩ := entry
    simp [areSound, ih, and_assoc]

theorem isSound_folder_iff {entries : List (String × Entry)} :
    (Entry.folder entries).isSound ↔
      (entries.map (·.1)).Nodup ∧ ∀ entry ∈ entries, isUsable entry.1 ∧ isSound entry.2 := by
  rw [isSound, Bool.and_eq_true, decide_eq_true_eq, areSound_iff]

theorem mem_of_lookup {entries : List (String × Entry)} {name : String} {e : Entry}
    (h : entries.lookup name = some e) : (name, e) ∈ entries := by
  obtain ⟨before, after, rfl, -⟩ := List.lookup_eq_some_iff.1 h
  simp

theorem lookup_eq_some_iff {entries : List (String × Entry)} (hnodup : (entries.map (·.1)).Nodup)
    {name : String} {e : Entry} : entries.lookup name = some e ↔ (name, e) ∈ entries :=
  Text.lookup_eq_some_iff_mem hnodup

/-- All that stands in a sound tree is sound, and is reached by usable names. -/
theorem sound_at? {top e : Entry} {location : Location} (hsound : top.isSound)
    (h : top.at? location = some e) : e.isSound ∧ ∀ name ∈ location, isUsable name := by
  induction location generalizing top with
  | nil =>
    cases h
    exact ⟨hsound, by simp⟩
  | cons name rest ih =>
    rw [at?_cons] at h
    obtain ⟨child, hchild, hrest⟩ := Option.bind_eq_some_iff.1 h
    cases top with
    | file | link => simp [child?] at hchild
    | folder entries =>
      have hmem := (isSound_folder_iff.1 hsound).2 _ (mem_of_lookup hchild)
      obtain ⟨he, hrest⟩ := ih hmem.2 hrest
      exact ⟨he, List.forall_mem_cons.2 ⟨hmem.1, hrest⟩⟩

theorem map_fst_map_named (entries : List (String × Entry)) (name : String)
    (change : Entry → Entry) :
    (entries.map fun (n, e) => if n == name then (n, change e) else (n, e)).map (·.1) =
      entries.map (·.1) := by
  rw [List.map_map]
  apply List.map_congr_left
  rintro ⟨n, e⟩ -
  by_cases h : n = name <;> simp [h]

theorem isSound_map_named {entries : List (String × Entry)} {name : String}
    {change : Entry → Entry} (hsound : (Entry.folder entries).isSound)
    (hchange : ∀ e, e.isSound → (change e).isSound) :
    (Entry.folder (entries.map fun (n, e) =>
      if n == name then (n, change e) else (n, e))).isSound := by
  rw [isSound_folder_iff] at hsound ⊢
  refine ⟨by rw [map_fst_map_named]; exact hsound.1, ?_⟩
  intro entry hentry
  obtain ⟨⟨n, e⟩, hmem, rfl⟩ := List.mem_map.1 hentry
  obtain ⟨husable, he⟩ := hsound.2 _ hmem
  by_cases h : n = name
  · simpa [h] using ⟨h ▸ husable, hchange e he⟩
  · simpa [h] using ⟨husable, he⟩

theorem isSound_setNamed {entries : List (String × Entry)} {name : String} {entry : Entry}
    (hsound : (Entry.folder entries).isSound) (hname : isUsable name) (hentry : entry.isSound) :
    (Entry.folder (setNamed name entry entries)).isSound := by
  rw [setNamed]
  cases h : entries.lookup name with
  | some old =>
    rw [if_pos Option.isSome_some]
    exact isSound_map_named hsound fun _ _ => hentry
  | none =>
    rw [if_neg (by simp)]
    rw [isSound_folder_iff] at hsound ⊢
    have hnew : name ∉ entries.map (·.1) := by
      rintro hmem
      obtain ⟨⟨n, e⟩, hentry, rfl⟩ := List.mem_map.1 hmem
      rw [(lookup_eq_some_iff hsound.1).2 hentry] at h
      cases h
    refine ⟨?_, ?_⟩
    · rw [List.map_append, List.nodup_append]
      refine ⟨hsound.1, by simp, ?_⟩
      intro a ha b hb hab
      rw [List.map_singleton, List.mem_singleton] at hb
      have ha' : a = name := hab.trans hb
      exact hnew (ha' ▸ ha)
    · intro e he
      rcases List.mem_append.1 he with he | he
      · exact hsound.2 e he
      · cases List.mem_singleton.1 he
        exact ⟨hname, hentry⟩

theorem isSound_put {name : String} {entry : Entry} {folder : Location} {top : Entry}
    (hsound : top.isSound) (hname : isUsable name) (hentry : entry.isSound) :
    (put name entry folder top).isSound := by
  induction folder generalizing top with
  | nil =>
    cases top with
    | file | link => exact hsound
    | folder entries => exact isSound_setNamed hsound hname hentry
  | cons next folder ih =>
    cases top with
    | file | link => exact hsound
    | folder entries => exact isSound_map_named hsound fun e he => ih he

end Entry

end AddonAtlas.Files
