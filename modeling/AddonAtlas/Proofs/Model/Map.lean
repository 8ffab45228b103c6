import AddonAtlas.Model.Map
import AddonAtlas.Proofs.Text.Order

/-!
# Gathered models

The classes of all files are gathered into records, one for each name by which a model is known
(`KnownAs`).  Classes are added one after the other, and each of them keeps the table of records as it
should be (`Holds.addClass`): a record `Gathers` the facts of the classes that know the model by its name
and of no others.  So the records are those of the groups of classes (`records_eq`), and neither the order
of the classes nor their repetition counts (`records_gather`).
-/

namespace AddonAtlas.Model

open Text

/-- The class makes its model known by this name: the name that it gives to the model, or else its
own name in its module. -/
def KnownAs (name : String) (c : Class) : Prop :=
  c.model ≠ "" ∧ name = c.model ∨ c.model = "" ∧ name = c.module ++ "." ++ c.className

theorem identity_eq_iff {c : Class} {name : String} : c.identity = name ↔ KnownAs name c := by
  rw [eq_comm]
  by_cases h : c.model = "" <;> simp [Class.identity, KnownAs, h]

/-- A list of facts of the classes that know a model by its name: each fact once, in increasing
order. -/
structure Unites (classes : List Class) (model : String) (facts : Class → List String)
    (list : List String) : Prop where
  increasing : list.Pairwise (· < ·)
  mem_iff : ∀ x, x ∈ list ↔ ∃ c ∈ classes, KnownAs model c ∧ x ∈ facts c

/-- The record tells about its model what the classes tell. -/
structure Gathers (classes : List Class) (r : Record) : Prop where
  modules : Unites classes r.model (fun c => [c.module]) r.modules
  files : Unites classes r.model (fun c => [c.file]) r.files
  inheritanceLinks : Unites classes r.model (·.inherits) r.inheritanceLinks
  delegatedLinks : Unites classes r.model (·.delegates) r.delegatedLinks
  kinds : Unites classes r.model (fun c => [c.kind.name]) r.kinds

/-- Two lists of the same facts are the same list. -/
theorem Unites.eq {classes classes' : List Class} {model : String} {facts : Class → List String}
    {list list' : List String} (h : Unites classes model facts list)
    (h' : Unites classes' model facts list') (hsame : ∀ c, c ∈ classes' ↔ c ∈ classes) :
    list' = list := by
  refine h'.increasing.eq_of_mem_iff h.increasing fun x => ?_
  rw [h.mem_iff, h'.mem_iff]
  simp only [hsame]

/-- There is only one record of a model. -/
theorem Gathers.eq {classes classes' : List Class} {r r' : Record} (h : Gathers classes r)
    (h' : Gathers classes' r') (hmodel : r'.model = r.model)
    (hsame : ∀ c, c ∈ classes' ↔ c ∈ classes) : r' = r := by
  obtain ⟨model, modules, files, inheritanceLinks, delegatedLinks, kinds⟩ := r
  obtain ⟨model', modules', files', inheritanceLinks', delegatedLinks', kinds'⟩ := r'
  obtain rfl : model' = model := hmodel
  rw [Record.mk.injEq]
  exact ⟨rfl, h.modules.eq h'.modules hsame, h.files.eq h'.files hsame,
    h.inheritanceLinks.eq h'.inheritanceLinks hsame, h.delegatedLinks.eq h'.delegatedLinks hsame,
    h.kinds.eq h'.kinds hsame⟩

/-! ## One more class -/

section Merge

variable {classes : List Class} {model : String} {facts : Class → List String} {list : List String}
  {c : Class}

/-- Nothing is known about a model that no class knows. -/
theorem unites_nil (hnew : ∀ c ∈ classes, ¬ KnownAs model c) : Unites classes model facts [] where
  increasing := .nil
  mem_iff x := by
    simp only [List.not_mem_nil, false_iff]
    rintro ⟨c, hc, hknown, -⟩
    exact hnew c hc hknown

/-- What a class tells about its model is added. -/
theorem Unites.insert (h : Unites classes model facts list) (hknown : KnownAs model c) :
    Unites (classes ++ [c]) model facts (insertTexts (facts c) list) where
  increasing := pairwise_insertTexts h.increasing _
  mem_iff x := by
    rw [mem_insertTexts, h.mem_iff]
    constructor
    · rintro (hx | ⟨earlier, hearlier, hmodel, hx⟩)
      · exact ⟨c, by simp, hknown, hx⟩
      · exact ⟨earlier, List.mem_append_left _ hearlier, hmodel, hx⟩
    · rintro ⟨other, hother, hmodel, hx⟩
      rcases List.mem_append.1 hother with hearlier | hlast
      · exact .inr ⟨other, hearlier, hmodel, hx⟩
      · obtain rfl := List.mem_singleton.1 hlast
        exact .inl hx

/-- What a class tells about another model is not. -/
theorem Unites.keep (h : Unites classes model facts list) (hother : ¬ KnownAs model c) :
    Unites (classes ++ [c]) model facts list where
  increasing := h.increasing
  mem_iff x := by
    rw [h.mem_iff]
    constructor
    · rintro ⟨earlier, hearlier, hmodel, hx⟩
      exact ⟨earlier, List.mem_append_left _ hearlier, hmodel, hx⟩
    · rintro ⟨other, hmem, hmodel, hx⟩
      rcases List.mem_append.1 hmem with hearlier | hlast
      · exact ⟨other, hearlier, hmodel, hx⟩
      · obtain rfl := List.mem_singleton.1 hlast
        exact absurd hmodel hother

theorem gathers_new (hnew : ∀ c ∈ classes, ¬ KnownAs model c) : Gathers classes { model } :=
  ⟨unites_nil hnew, unites_nil hnew, unites_nil hnew, unites_nil hnew, unites_nil hnew⟩

theorem Gathers.merge {r : Record} (h : Gathers classes r) (hknown : KnownAs r.model c) :
    Gathers (classes ++ [c]) (r.merge c) :=
  ⟨h.modules.insert hknown, h.files.insert hknown, h.inheritanceLinks.insert hknown,
    h.delegatedLinks.insert hknown, h.kinds.insert hknown⟩

theorem Gathers.keep {r : Record} (h : Gathers classes r) (hother : ¬ KnownAs r.model c) :
    Gathers (classes ++ [c]) r :=
  ⟨h.modules.keep hother, h.files.keep hother, h.inheritanceLinks.keep hother,
    h.delegatedLinks.keep hother, h.kinds.keep hother⟩

end Merge

/-! ## The records of a list of classes -/

/-- The table has one record for each model that the classes know, and each tells what they tell. -/
structure Holds (classes : List Class) (table : List (String × Record)) : Prop where
  nodup : (table.map Prod.fst).Nodup
  mem_iff : ∀ key, key ∈ table.map Prod.fst ↔ ∃ c ∈ classes, KnownAs key c
  gathers : ∀ entry ∈ table, entry.2.model = entry.1 ∧ Gathers classes entry.2

theorem mem_keys_addClass {table : List (String × Record)} {c : Class} {key : String} :
    key ∈ (addClass table c).map Prod.fst ↔ key ∈ table.map Prod.fst ∨ key = c.identity := by
  induction table with
  | nil => simp [addClass]
  | cons entry table ih =>
    unfold addClass
    split
    · next heq =>
      have heq := beq_iff_eq.1 heq
      simp only [List.map_cons, List.mem_cons]
      rw [← heq]
      tauto
    · rw [List.map_cons, List.mem_cons, ih, List.map_cons, List.mem_cons]
      tauto

theorem nodup_keys_addClass {table : List (String × Record)} (h : (table.map Prod.fst).Nodup)
    (c : Class) : ((addClass table c).map Prod.fst).Nodup := by
  induction table with
  | nil => exact List.nodup_singleton _
  | cons entry table ih =>
    obtain ⟨hnew, hnodup⟩ := List.nodup_cons.1 h
    unfold addClass
    split
    · exact h
    · next hne =>
      refine List.nodup_cons.2 ⟨fun hmem => ?_, ih hnodup⟩
      rcases mem_keys_addClass.1 hmem with hmem | heq
      · exact hnew hmem
      · exact hne (beq_iff_eq.2 heq)

/-- The entry of a class's model is new, or was there and the class is merged into it; all other entries
stay. -/
theorem mem_addClass {table : List (String × Record)} {c : Class} {entry : String × Record}
    (hnodup : (table.map Prod.fst).Nodup) (h : entry ∈ addClass table c) :
    entry.1 = c.identity ∧
      (c.identity ∉ table.map Prod.fst ∧ entry.2 = Record.merge { model := c.identity } c ∨
        ∃ r, (entry.1, r) ∈ table ∧ entry.2 = r.merge c) ∨
    entry ∈ table ∧ entry.1 ≠ c.identity := by
  induction table with
  | nil =>
    obtain rfl := List.mem_singleton.1 h
    exact .inl ⟨rfl, .inl ⟨by simp, rfl⟩⟩
  | cons first table ih =>
    obtain ⟨hfirst, hnodup⟩ := List.nodup_cons.1 hnodup
    unfold addClass at h
    split at h
    · next heq =>
      have heq := beq_iff_eq.1 heq
      rcases List.mem_cons.1 h with rfl | hmem
      · exact .inl ⟨heq, .inr ⟨first.2, List.mem_cons_self, rfl⟩⟩
      · refine .inr ⟨List.mem_cons_of_mem _ hmem, fun hkey => hfirst ?_⟩
        rw [heq, ← hkey]
        exact List.mem_map_of_mem hmem
    · next hne =>
      have hne : first.1 ≠ c.identity := by simpa using hne
      rcases List.mem_cons.1 h with rfl | hmem
      · exact .inr ⟨List.mem_cons_self, hne⟩
      · rcases ih hnodup hmem with ⟨hkey, ⟨hnew, hrecord⟩ | ⟨r, hr, hrecord⟩⟩ | ⟨hold, hkey⟩
        · refine .inl ⟨hkey, .inl ⟨?_, hrecord⟩⟩
          rw [List.map_cons, List.mem_cons, not_or]
          exact ⟨hne.symm, hnew⟩
        · exact .inl ⟨hkey, .inr ⟨r, List.mem_cons_of_mem _ hr, hrecord⟩⟩
        · exact .inr ⟨List.mem_cons_of_mem _ hold, hkey⟩

/-- A class that is added changes the record of its model only. -/
theorem Holds.addClass {classes : List Class} {table : List (String × Record)}
    (h : Holds classes table) (c : Class) : Holds (classes ++ [c]) (addClass table c) where
  nodup := nodup_keys_addClass h.nodup c
  mem_iff key := by
    rw [mem_keys_addClass, h.mem_iff, eq_comm (a := key), identity_eq_iff]
    simp only [List.mem_append, List.mem_singleton, or_and_right, exists_or, exists_eq_left]
  gathers entry hentry := by
    rcases mem_addClass h.nodup hentry with ⟨hkey, hrecord⟩ | ⟨hold, hkey⟩
    · have hknown : KnownAs entry.1 c := identity_eq_iff.1 hkey.symm
      rcases hrecord with ⟨hnew, hrecord⟩ | ⟨r, hr, hrecord⟩
      · rw [hrecord, hkey]
        refine ⟨rfl, (gathers_new fun other hother hmodel => hnew ?_).merge (hkey ▸ hknown)⟩
        exact (h.mem_iff _).2 ⟨other, hother, hmodel⟩
      · obtain ⟨hmodel, hgathers⟩ := h.gathers _ hr
        rw [hrecord]
        exact ⟨hmodel, hgathers.merge (hmodel.symm ▸ hknown)⟩
    · obtain ⟨hmodel, hgathers⟩ := h.gathers entry hold
      refine ⟨hmodel, hgathers.keep fun hknown => ?_⟩
      exact hkey (hmodel.symm.trans (identity_eq_iff.2 hknown).symm)

theorem holds_gather (classes : List Class) : Holds classes (gather classes) := by
  induction classes using List.reverseRecOn with
  | nil => exact ⟨List.nodup_nil, by simp [gather], by simp [gather]⟩
  | append_singleton classes c ih =>
    rw [gather, List.foldl_append]
    exact ih.addClass c

/-! ## Records by groups of classes -/

/-- The record of a model with these classes. -/
def Record.ofClasses (model : String) (classes : List Class) : Record where
  model
  modules := distinctSorted (classes.flatMap fun c => [c.module])
  files := distinctSorted (classes.flatMap fun c => [c.file])
  inheritanceLinks := distinctSorted (classes.flatMap (·.inherits))
  delegatedLinks := distinctSorted (classes.flatMap (·.delegates))
  kinds := distinctSorted (classes.flatMap fun c => [c.kind.name])

theorem unites_distinctSorted (classes : List Class) (model : String)
    (facts : Class → List String) :
    Unites classes model facts
      (distinctSorted ((classes.filter (·.identity == model)).flatMap facts)) where
  increasing := pairwise_distinctSorted _
  mem_iff x := by
    simp only [mem_distinctSorted, List.mem_flatMap, List.mem_filter, beq_iff_eq, identity_eq_iff,
      and_assoc]

theorem gathers_ofClasses (classes : List Class) (model : String) :
    Gathers classes (.ofClasses model (classes.filter (·.identity == model))) :=
  ⟨unites_distinctSorted .., unites_distinctSorted .., unites_distinctSorted ..,
    unites_distinctSorted .., unites_distinctSorted ..⟩

/-- Adding one class after the other comes to the same as grouping the classes by their models. -/
theorem records_eq (classes : List Class) :
    records classes = (sortNames (distinctSorted (classes.map (·.identity)))).map fun model =>
      .ofClasses model (classes.filter (·.identity == model)) := by
  have hholds := holds_gather classes
  have hvalues : (gather classes).map (·.2) = ((gather classes).map Prod.fst).map fun model =>
      .ofClasses model (classes.filter (·.identity == model)) := by
    rw [List.map_map]
    refine List.map_congr_left fun entry hentry => ?_
    obtain ⟨hmodel, hgathers⟩ := hholds.gathers entry hentry
    exact (gathers_ofClasses classes entry.1).eq hgathers hmodel fun _ => Iff.rfl
  have hkeys : ((gather classes).map Prod.fst).Perm (distinctSorted (classes.map (·.identity))) := by
    refine (List.perm_ext_iff_of_nodup hholds.nodup ((pairwise_distinctSorted _).imp ne_of_lt)).2
      fun model => ?_
    rw [hholds.mem_iff, mem_distinctSorted, List.mem_map]
    simp only [identity_eq_iff]
  have hinjective : Function.Injective nameKey := fun a b hab =>
    (nameKey_append_inj.1 (congrArg (· ++ []) hab)).1
  rw [records, hvalues, sortOn_map, sortNames,
    ← sortOn_eq_of_perm hkeys (hholds.nodup.map hinjective)]
  rfl

theorem map_model_records (classes : List Class) :
    (records classes).map (·.model) = sortNames (distinctSorted (classes.map (·.identity))) := by
  rw [records_eq, List.map_map]
  exact List.map_id _

theorem nodup_models (classes : List Class) : ((records classes).map (·.model)).Nodup := by
  rw [map_model_records, sortNames, (sortOn_perm nameKey _).nodup_iff]
  exact (pairwise_distinctSorted _).imp ne_of_lt

theorem mem_models {classes : List Class} {model : String} :
    model ∈ (records classes).map (·.model) ↔ ∃ c ∈ classes, KnownAs model c := by
  rw [map_model_records, sortNames, (sortOn_perm nameKey _).mem_iff, mem_distinctSorted,
    List.mem_map]
  simp only [identity_eq_iff]

theorem records_congr {classes classes' : List Class} (hsame : ∀ c, c ∈ classes' ↔ c ∈ classes) :
    records classes' = records classes := by
  have hmodels : distinctSorted (classes'.map (·.identity)) =
      distinctSorted (classes.map (·.identity)) :=
    distinctSorted_congr fun x => by simp only [List.mem_map, hsame]
  rw [records_eq, records_eq, hmodels]
  refine List.map_congr_left fun model _ => ?_
  exact (gathers_ofClasses classes model).eq (gathers_ofClasses classes' model) rfl hsame

/-- There is one record for each name by which a class knows its model, and it unites the facts of
all classes that know the model by this name, and of no others.  All these records are reported, and in
which order the classes come, and how often, does not matter then. -/
theorem records_gather (classes : List Class) :
    ((gather classes).map Prod.fst).Nodup ∧
      (∀ model, model ∈ (gather classes).map Prod.fst ↔ ∃ c ∈ classes, KnownAs model c) ∧
      (∀ entry ∈ gather classes, entry.2.model = entry.1 ∧ Gathers classes entry.2) ∧
      (records classes).Perm ((gather classes).map Prod.snd) ∧
      ∀ classes', (∀ c, c ∈ classes' ↔ c ∈ classes) → records classes' = records classes :=
  ⟨(holds_gather classes).nodup, (holds_gather classes).mem_iff, (holds_gather classes).gathers,
    sortOn_perm _ _, fun _ => records_congr⟩

/-- A model that is known by the name that one class gives to it and by the name that another one
has in its module, and a model with a name of its own. -/
def sampleModels : List Class := [
  { module := "sale", file := "a", className := "Order", model := "", kind := .plain,
    inherits := ["x"] },
  { module := "base", file := "b", className := "Order", model := "res", kind := .abstracted },
  { module := "crm", file := "c", className := "Lead", model := "sale.Order", kind := .transient,
    inherits := ["x", "y"], delegates := ["z"] }]

theorem records_gather_sample :
    (∃ r, ("sale.Order", r) ∈ gather sampleModels ∧
        (∀ x, x ∈ r.modules ↔ x ∈ ["sale", "crm"]) ∧
        (∀ x, x ∈ r.inheritanceLinks ↔ x ∈ ["x", "y"]) ∧
        ∀ x, x ∈ r.kinds ↔ x ∈ ["model", "transient"]) ∧
      records sampleModels.reverse = records sampleModels := by
  obtain ⟨-, hmodels, hgathers, -, hsame⟩ := records_gather sampleModels
  refine ⟨?_, hsame _ fun c => List.mem_reverse⟩
  have hmodel : "sale.Order" ∈ (gather sampleModels).map Prod.fst :=
    (hmodels _).2 ⟨_, List.mem_cons_self, .inr ⟨rfl, rfl⟩⟩
  obtain ⟨⟨name, r⟩, hr, rfl⟩ := List.mem_map.1 hmodel
  obtain ⟨hname, hfacts⟩ := hgathers _ hr
  refine ⟨r, hr, fun x => ?_, fun x => ?_, fun x => ?_⟩
  · rw [hfacts.modules.mem_iff, hname]
    simp [sampleModels, KnownAs]
  · rw [hfacts.inheritanceLinks.mem_iff, hname]
    simp [sampleModels, KnownAs]
  · rw [hfacts.kinds.mem_iff, hname]
    simp [sampleModels, KnownAs, Kind.name]

end AddonAtlas.Model
