import AddonAtlas.Document.Json
import AddonAtlas.Number.Reading
import AddonAtlas.Proofs.Text.Order

/-!
# The order of fields

Two values are equal up to the order of their fields if one is turned into the other by reordering
the fields of objects in it (`Value.Reordered`).  For values without floating-point numbers, whose
objects have different names (`Value.IsExact`), `Value.sorted` picks one value of each class: it only
reorders fields (`IsExact.reordered_sorted`), and values of one class are sorted to the same value
(`IsExact.sorted_eq`).
-/

namespace AddonAtlas.Document

open Number Text

theorem Fields.put_of_not_mem {fields : Fields} {name : String} (h : name ∉ fields.map (·.1))
    (value : Value) : fields.put name value = fields ++ [(name, value)] := by
  have hnone : fields.get? name = none := by
    rw [Fields.get?, List.lookup_eq_none_iff]
    rintro ⟨n, v⟩ hmem
    rw [bne_iff_ne]
    rintro rfl
    exact h (List.mem_map.2 ⟨_, hmem, rfl⟩)
  rw [Fields.put, hnone]
  rfl

namespace Value

/-! ## Values -/

/-- Values that a text can hold exactly: no number in them is a floating-point one or too long, and the
fields of every object have different names. -/
inductive IsExact : Value → Prop
  | null : IsExact .null
  | bool (b : Bool) : IsExact (.bool b)
  | int {n : Int} (h : (Nat.toDigits 10 n.natAbs).length ≤ digitLimit) : IsExact (.int n)
  | text (s : String) : IsExact (.text s)
  | list {items : List Value} (h : ∀ item ∈ items, IsExact item) : IsExact (.list items)
  | object {fields : List (String × Value)} (hnames : (fields.map (·.1)).Nodup)
      (h : ∀ field ∈ fields, IsExact field.2) : IsExact (.object fields)

/-- One value is turned into another by reordering the fields of objects in it. -/
inductive Reordered : Value → Value → Prop
  | refl (v : Value) : Reordered v v
  | object {fields fields' : List (String × Value)} (h : fields.Perm fields') :
      Reordered (.object fields) (.object fields')
  | item (before after : List Value) {v v' : Value} (h : Reordered v v') :
      Reordered (.list (before ++ v :: after)) (.list (before ++ v' :: after))
  | field (before after : List (String × Value)) (name : String) {v v' : Value}
      (h : Reordered v v') :
      Reordered (.object (before ++ (name, v) :: after)) (.object (before ++ (name, v') :: after))
  | trans {a b c : Value} (hab : Reordered a b) (hbc : Reordered b c) : Reordered a c

namespace Reordered

theorem symm {v w : Value} (h : Reordered v w) : Reordered w v := by
  induction h with
  | refl v => exact .refl v
  | object h => exact .object h.symm
  | item before after _ ih => exact .item before after ih
  | field before after name _ ih => exact .field before after name ih
  | trans _ _ ihab ihbc => exact ihbc.trans ihab

theorem map_items {f : Value → Value} (before : List Value) {items : List Value}
    (h : ∀ item ∈ items, Reordered item (f item)) :
    Reordered (.list (before ++ items)) (.list (before ++ items.map f)) := by
  induction items generalizing before with
  | nil => exact .refl _
  | cons item items ih =>
    obtain ⟨hitem, hitems⟩ := List.forall_mem_cons.1 h
    have hrest := ih (before ++ [f item]) hitems
    rw [List.append_assoc, List.append_assoc] at hrest
    exact (Reordered.item before items hitem).trans hrest

theorem map_fields {f : Value → Value} (before : List (String × Value))
    {fields : List (String × Value)} (h : ∀ field ∈ fields, Reordered field.2 (f field.2)) :
    Reordered (.object (before ++ fields))
      (.object (before ++ fields.map fun field => (field.1, f field.2))) := by
  induction fields generalizing before with
  | nil => exact .refl _
  | cons field fields ih =>
    obtain ⟨hfield, hfields⟩ := List.forall_mem_cons.1 h
    have hrest := ih (before ++ [(field.1, f field.2)]) hfields
    rw [List.append_assoc, List.append_assoc] at hrest
    exact (Reordered.field before fields field.1 hfield).trans hrest

end Reordered

/-! ## Sorted values -/

theorem sortedItems_eq_map (items : List Value) : sortedItems items = items.map sorted := by
  induction items with
  | nil => rw [sortedItems, List.map_nil]
  | cons item items ih => rw [sortedItems, ih, List.map_cons]

theorem sortedFields_eq_map (fields : List (String × Value)) :
    sortedFields fields = fields.map fun field => (field.1, field.2.sorted) := by
  induction fields with
  | nil => rw [sortedFields, List.map_nil]
  | cons field fields ih => rw [sortedFields, ih, List.map_cons]

theorem sorted_list (items : List Value) : (Value.list items).sorted = .list (items.map sorted) := by
  rw [sorted, sortedItems_eq_map]

theorem sorted_object (fields : List (String × Value)) : (Value.object fields).sorted =
    .object ((fields.map fun field => (field.1, field.2.sorted)).mergeSort
      fun a b => decide (a.1 ≤ b.1)) := by
  rw [sorted, sortedFields_eq_map]

theorem map_fst_sorted (fields : List (String × Value)) :
    (fields.map fun field => (field.1, field.2.sorted)).map (·.1) = fields.map (·.1) := by
  rw [List.map_map]
  rfl

namespace IsExact

theorem sorted {v : Value} (h : IsExact v) : IsExact v.sorted := by
  induction h with
  | null => exact .null
  | bool b => exact .bool b
  | int h => exact .int h
  | text s => exact .text s
  | list _ ih =>
    rw [sorted_list]
    exact .list (List.forall_mem_map.2 ih)
  | object hnames _ ih =>
    rw [sorted_object]
    refine .object ?_ fun field hfield => ?_
    · rw [((List.mergeSort_perm _ _).map _).nodup_iff, map_fst_sorted]
      exact hnames
    · obtain ⟨original, horiginal, rfl⟩ := List.mem_map.1 (List.mem_mergeSort.1 hfield)
      exact ih original horiginal

/-- Sorting only reorders fields. -/
theorem reordered_sorted {v : Value} (h : IsExact v) : v.Reordered v.sorted := by
  induction h with
  | null | bool | int | text => exact .refl _
  | list _ ih =>
    rw [sorted_list]
    exact Reordered.map_items [] ih
  | object _ _ ih =>
    rw [sorted_object]
    exact (Reordered.map_fields [] ih).trans (.object (List.mergeSort_perm _ _).symm)

/-- Values that differ only in the order of fields are sorted to the same value. -/
theorem sorted_eq {v w : Value} (hvw : v.Reordered w) (h : IsExact v) :
    IsExact w ∧ v.sorted = w.sorted := by
  induction hvw with
  | refl v => exact ⟨h, rfl⟩
  | object hperm =>
    cases h with
    | object hnames hfields =>
      refine ⟨.object ((hperm.map _).nodup_iff.1 hnames) fun field hfield =>
        hfields field (hperm.mem_iff.2 hfield), ?_⟩
      rw [sorted_object, sorted_object]
      congr 1
      refine mergeSort_eq_mergeSort (fun field : String × Value => field.1) (hperm.map _) ?_
      rw [map_fst_sorted]
      exact hnames
  | item before after _ ih =>
    cases h with
    | list hitems =>
      rw [List.forall_mem_append, List.forall_mem_cons] at hitems
      obtain ⟨hw, heq⟩ := ih hitems.2.1
      refine ⟨.list ?_, ?_⟩
      · rw [List.forall_mem_append, List.forall_mem_cons]
        exact ⟨hitems.1, hw, hitems.2.2⟩
      · rw [sorted_list, sorted_list, List.map_append, List.map_append, List.map_cons, List.map_cons,
          heq]
  | field before after name _ ih =>
    cases h with
    | object hnames hfields =>
      rw [List.forall_mem_append, List.forall_mem_cons] at hfields
      obtain ⟨hw, heq⟩ := ih hfields.2.1
      refine ⟨.object ?_ ?_, ?_⟩
      · simpa using hnames
      · rw [List.forall_mem_append, List.forall_mem_cons]
        exact ⟨hfields.1, hw, hfields.2.2⟩
      · rw [sorted_object, sorted_object, List.map_append, List.map_append, List.map_cons,
          List.map_cons, heq]
  | trans _ _ ihab ihbc =>
    obtain ⟨hb, hab⟩ := ihab h
    obtain ⟨hc, hbc⟩ := ihbc hb
    exact ⟨hc, hab.trans hbc⟩

end IsExact

end Value

end AddonAtlas.Document
