import AddonAtlas.Proofs.Access.Table

/-!
# Access tables that are cut off

A table is read up to a limit, which may fall anywhere: into a row, into a quoted cell, between the
two halves of a line end.  The entries are then those of the whole table, but perhaps for the last
one, and not even for that if the limit falls behind a line end
(`dropLast_parse_take_prefix_parse`).
-/

namespace AddonAtlas.Access

open Text

/-! ## Lines of a table -/

/-- Of the members that pass a test, all but the last stand among all members but the last. -/
theorem dropLast_filter_prefix_filter {α : Type} (p : α → Bool) (l : List α) :
    (l.filter p).dropLast <+: l.dropLast.filter p := by
  cases l using List.reverseRecOn with
  | nil => exact List.nil_prefix
  | append_singleton l x =>
    rw [List.filter_append, List.dropLast_concat]
    cases hx : p x with
    | true => simp [hx]
    | false => simpa [hx] using List.dropLast_prefix _

theorem dropLast_tableLines_prefix_append (front back : List Char) :
    (tableLines front).dropLast <+: tableLines (front ++ back) := by
  have hlines := ((dropLast_lines_prefix_append front back).map strip).filter (!·.isEmpty)
  rw [List.map_dropLast] at hlines
  exact (dropLast_filter_prefix_filter _ _).trans hlines

theorem tableLines_prefix_append {front : List Char} (h : ∀ c ∈ front.getLast?, isLineEnd c = true)
    (back : List Char) : tableLines front <+: tableLines (front ++ back) :=
  ((lines_prefix_append h back).map strip).filter _

/-! ## Entries of a table -/

/-- The entries of the rows below a header. -/
def entriesOf (module : String) : (lines : List (List Char)) → List Entry
  | [] => []
  | header :: rows => rows.map fun row => .ofRow module (rowOf header) (rowOf row)

theorem fst_parse (module : String) (content : List Char) :
    (parse module content).1 = entriesOf module (tableLines content) := by
  unfold parse
  cases tableLines content with
  | nil => rfl
  | cons header rows => simp [entriesOf]

theorem entriesOf_dropLast (module : String) (lines : List (List Char)) :
    entriesOf module lines.dropLast = (entriesOf module lines).dropLast := by
  cases lines with
  | nil => rfl
  | cons header rows =>
    cases rows with
    | nil => rfl
    | cons row rows => rw [List.dropLast_cons_cons, entriesOf, entriesOf, List.map_dropLast]

/-- More lines below the rows leave the entries of the rows as they are. -/
theorem entriesOf_prefix_entriesOf (module : String) {lines lines' : List (List Char)}
    (h : lines <+: lines') : entriesOf module lines <+: entriesOf module lines' := by
  obtain ⟨more, rfl⟩ := h
  cases lines with
  | nil => exact List.nil_prefix
  | cons header rows =>
    rw [List.cons_append, entriesOf, entriesOf, List.map_append]
    exact List.prefix_append _ _

/-- The entries of a table that is cut off, but for the last one, are the first entries of the whole
table.  So are all of them if the cut is behind a line end.  A table that is cut off before its
header ends has no entries, so nothing is asked of the place of the cut. -/
theorem dropLast_parse_take_prefix_parse (module : String) (content : List Char) (n : Nat) :
    (parse module (content.take n)).1.dropLast <+: (parse module content).1 ∧
      ((∀ c ∈ (content.take n).getLast?, isLineEnd c = true) →
        (parse module (content.take n)).1 <+: (parse module content).1) := by
  have hcontent : content.take n ++ content.drop n = content := List.take_append_drop n content
  have hdrop := dropLast_tableLines_prefix_append (content.take n) (content.drop n)
  rw [fst_parse, fst_parse, ← entriesOf_dropLast]
  constructor
  · rw [hcontent] at hdrop
    exact entriesOf_prefix_entriesOf module hdrop
  · intro hend
    have hall := tableLines_prefix_append hend (content.drop n)
    rw [hcontent] at hall
    exact entriesOf_prefix_entriesOf module hall

/-- A table with both halves of a line end behind its first two lines and a quoted comma. -/
def cutSample : List Char :=
  "id,perm_read\r\n\"a,b\",1\r\nc,1".toList

/-- Cut inside of the quoted cell, the table has one entry, which is wrong.  Cut between the halves
of the second line end it has the first entry of the whole table. -/
theorem dropLast_parse_take_prefix_parse_sample :
    ((parse "sale" (cutSample.take 17)).1.map (·.id) = ["a,"] ∧
        (parse "sale" (cutSample.take 17)).1.dropLast <+: (parse "sale" cutSample).1) ∧
      (∀ c ∈ (cutSample.take 22).getLast?, isLineEnd c = true) ∧
        (parse "sale" (cutSample.take 22)).1.map (·.id) = ["a,b"] ∧
          (parse "sale" (cutSample.take 22)).1 <+: (parse "sale" cutSample).1 := by
  have hend : ∀ c ∈ (cutSample.take 22).getLast?, isLineEnd c = true := by
    have hlast : (cutSample.take 22).getLast? = some '\r' := rfl
    rw [hlast]
    rintro c ⟨⟩
    rfl
  exact ⟨⟨by decide +kernel, (dropLast_parse_take_prefix_parse "sale" cutSample 17).1⟩, hend,
    by decide +kernel, (dropLast_parse_take_prefix_parse "sale" cutSample 22).2 hend⟩

end AddonAtlas.Access
