import Mathlib
import AddonAtlas.Report.Page
import AddonAtlas.Report.Stamp

/-!
# Stamped reports and their pages

A field that is put is found again, and the other fields stay as they are (`Fields.get?_put`).  So a
stamped report has the fields of the stamp, and those of the body that the stamp does not replace
(`get?_stamped`).  Its page tells how the report was made (`provenancePart_stamped`).
-/

namespace AddonAtlas.Document.Fields

theorem get?_cons (name other : String) (value : Value) (fields : Fields) :
    get? ((name, value) :: fields) other =
      if other = name then some value else get? fields other := by
  rw [get?, List.lookup_cons]
  by_cases h : other = name
  · rw [if_pos h, beq_iff_eq.2 h]
  · rw [if_neg h, beq_eq_false_iff_ne.2 h, get?]

/-- Replacing the value of a field does not touch the others. -/
theorem get?_map_replace (fields : Fields) (name other : String) (value : Value) :
    get? (fields.map fun (n, v) => if n == name then (n, value) else (n, v)) other =
      if other = name then (get? fields other).map fun _ => value else get? fields other := by
  induction fields with
  | nil => simp [get?]
  | cons field fields ih =>
    obtain ⟨n, v⟩ := field
    have hfield : (if n == name then (n, value) else (n, v)) =
        (n, if n = name then value else v) := by
      by_cases hn : n = name <;> simp [hn]
    rw [List.map_cons]
    simp only [hfield, get?_cons, ih]
    grind

theorem get?_put (fields : Fields) (name other : String) (value : Value) :
    (fields.put name value).get? other =
      if other = name then some value else fields.get? other := by
  rw [put]
  cases hname : fields.get? name with
  | some old =>
    rw [if_pos Option.isSome_some, get?_map_replace]
    by_cases h : other = name
    · rw [if_pos h, if_pos h, h, hname, Option.map_some]
    · rw [if_neg h, if_neg h]
  | none =>
    rw [if_neg (by simp), get?, List.lookup_append]
    change (fields.get? other).or (get? [(name, value)] other) = _
    rw [get?_cons]
    by_cases h : other = name
    · rw [if_pos h, if_pos h, h, hname, Option.none_or]
    · rw [if_neg h, if_neg h]
      exact Option.or_none

end AddonAtlas.Document.Fields

namespace AddonAtlas.Report

open Document

/-- The fields of a stamp. -/
def Stamp.fields (stamp : Stamp) : Fields := [
  ("artifact", .text stamp.artifact),
  ("generated_at", .text stamp.generatedAt),
  ("repository", .text stamp.repository),
  ("confidence_score", .float stamp.confidence),
  ("provenance", stamp.provenance.value)]

theorem get?_stamped (body : Fields) (stamp : Stamp) (name : String) :
    (stamped body stamp).get? name = (stamp.fields.get? name).or (body.get? name) := by
  simp only [stamped, Fields.get?_put, Stamp.fields, Fields.get?_cons]
  grind [Fields.get?]

theorem getD_stamped (body : Fields) (stamp : Stamp) (name : String) (default : Value) :
    (stamped body stamp).getD name default =
      ((stamp.fields.get? name).or (body.get? name)).getD default := by
  rw [Fields.getD, get?_stamped]

theorem nameOf_stamped (body : Fields) (stamp : Stamp) :
    nameOf (stamped body stamp) = stamp.artifact := by
  rw [nameOf, getD_stamped]
  rfl

/-- Values that each have a line can be written line by line. -/
theorem mapM_map_ok {α : Type} {f : Value → Except Fault String} {value : α → Value}
    {line : α → String} (h : ∀ a, f (value a) = .ok (line a)) (members : List α) :
    (members.map value).mapM f = .ok (members.map line) := by
  induction members with
  | nil => rfl
  | cons a members ih =>
    rw [List.map_cons, List.mapM_cons, h, ih]
    rfl

/-- The lines on how a report was made. -/
def Provenance.lines (p : Provenance) : List String :=
  ["- method: " ++ p.method] ++ p.scanRoots.map ("- scan_root: " ++ ·) ++
    p.assumptions.map ("- assumption: " ++ ·)

theorem provenancePart_stamped (body : Fields) (stamp : Stamp) :
    provenancePart (stamped body stamp) = .ok (part "Provenance" stamp.provenance.lines) := by
  have hprovenance : (stamped body stamp).get? "provenance" = some stamp.provenance.value := by
    rw [get?_stamped]
    rfl
  have hlines : provenanceLines [("scan_roots", .texts stamp.provenance.scanRoots),
      ("method", .text stamp.provenance.method),
      ("assumptions", .texts stamp.provenance.assumptions)] = .ok stamp.provenance.lines := by
    simp [provenanceLines, Provenance.lines, Fields.getD, Fields.get?_cons, Value.texts,
      Value.items, Value.plain, bind, Except.bind, pure, Except.pure, Function.comp_def]
  rw [provenancePart, hprovenance, Provenance.value]
  simp only [hlines, bind, Except.bind, pure, Except.pure]

end AddonAtlas.Report
