import AddonAtlas.Proofs.Document.Order
import AddonAtlas.Proofs.Report.Page

/-!
# What a report says about its time

The time at which a report is made stands in one place of its page (`page_time`) and in one place of
its data (`json_time`); nothing else of them depends on it.
-/

namespace AddonAtlas.Report

open Document

/-- The stamp with another time. -/
def Stamp.withTime (stamp : Stamp) (time : String) : Stamp :=
  { stamp with generatedAt := time }

/-! ## Pages -/

theorem getD_stamped_withTime {name : String} (h : name ≠ "generated_at") (body : Fields) (stamp : Stamp)
    (time : String) (default : Value) :
    (stamped body (stamp.withTime time)).getD name default = (stamped body stamp).getD name default := by
  simp only [getD_stamped, Stamp.fields, Stamp.withTime, Fields.get?_cons, if_neg h]

theorem fieldLine_withTime {name : String} (h : name ≠ "generated_at") (body : Fields) (stamp : Stamp)
    (time : String) :
    fieldLine (stamped body (stamp.withTime time)) name = fieldLine (stamped body stamp) name := by
  rw [fieldLine, fieldLine, getD_stamped_withTime h]

/-- The page shows the time on a line of its own. -/
theorem page_time {name : String} {body : Fields} (h : HasPage name body) {stamp : Stamp}
    (hname : stamp.artifact = name) : ∃ first rest, ∀ time,
      page (stamped body (stamp.withTime time)) =
        .ok (first ++ "\n- generated_at: " ++ time ++ "\n" ++ rest) := by
  obtain ⟨names, more, parts, hnames, hpage⟩ := h
  refine ⟨"# " ++ titleOf name ++ "\n", joinWith "\n" ([fieldLine (stamped body stamp) "repository"] ++
    names.map (fieldLine (stamped body stamp)) ++
    [fieldLine (stamped body stamp) "confidence_score"] ++ more ++ [""] ++ parts ++
    part "Provenance" stamp.provenance.lines), fun time => ?_⟩
  have htime : fieldLine (stamped body (stamp.withTime time)) "generated_at" =
      "- generated_at: " ++ time := by
    rw [fieldLine, getD_stamped]
    rfl
  have hfields : names.map (fieldLine (stamped body (stamp.withTime time))) =
      names.map (fieldLine (stamped body stamp)) :=
    List.map_congr_left fun name hname => fieldLine_withTime (ne_of_mem_of_not_mem hname hnames) ..
  rw [hpage (stamp.withTime time) hname, head, nameOf_stamped, htime, hfields,
    fieldLine_withTime (by decide), fieldLine_withTime (by decide)]
  have hline : "\n- generated_at: " = "\n" ++ "- generated_at: " := by decide
  simp only [joinWith, List.cons_append, List.nil_append, String.intercalate_cons_cons, hline,
    String.empty_append, String.append_assoc, Stamp.withTime, hname]

/-! ## Data -/

/-- The names of the fields of a stamp. -/
def stampNames : List String :=
  ["artifact", "generated_at", "repository", "confidence_score", "provenance"]

theorem foldl_put {fields new : Fields} (h : (fields.map (·.1) ++ new.map (·.1)).Nodup) :
    new.foldl (fun fields field => fields.put field.1 field.2) fields = fields ++ new := by
  induction new generalizing fields with
  | nil => simp
  | cons field new ih =>
    have hnot : field.1 ∉ fields.map (·.1) := fun hmem =>
      (List.nodup_append.1 h).2.2 _ hmem _ (by simp) rfl
    rw [List.foldl_cons, Fields.put_of_not_mem hnot, ih (by simpa using h)]
    simp

/-- The fields of a stamp stand behind those of a body without such fields. -/
theorem stamped_eq_append {body : Fields} (h : (body.map (·.1) ++ stampNames).Nodup)
    (stamp : Stamp) : stamped body stamp = body ++ stamp.fields := by
  have hnodup : (body.map (·.1) ++ stamp.fields.map (·.1)).Nodup := h
  exact foldl_put hnodup

theorem sortedFields_eq_map (fields : Fields) :
    sortedFields fields = fields.map fun field => (field.1, field.2.sorted) := by
  induction fields with
  | nil => rw [sortedFields, List.map_nil]
  | cons field fields ih =>
    rw [sortedFields, List.map_cons, ih]

theorem layOutFields_append (depth : Nat) (first rest : Fields) :
    layOutFields depth (first ++ rest) = layOutFields depth first ++ layOutFields depth rest := by
  induction first with
  | nil => rw [List.nil_append, layOutFields, List.nil_append]
  | cons field first ih =>
    obtain ⟨name, value⟩ := field
    simp only [List.cons_append, layOutFields, ih, List.append_assoc]

/-- The text of an object around the value of one of its fields. -/
theorem layOut_object (depth : Nat) (first rest : Fields) (name : String) : ∃ before after,
    ∀ value : Value, (Value.object (first ++ (name, value) :: rest)).layOut depth =
      before ++ jsonString name ++ [':', ' '] ++ value.layOut (depth + 1) ++ after := by
  cases first with
  | nil =>
    refine ⟨'{' :: newLine (depth + 1), layOutFields (depth + 1) rest ++ newLine depth ++ ['}'],
      fun value => ?_⟩
    simp only [List.nil_append, Value.layOut, List.cons_append, List.append_assoc]
  | cons field first =>
    obtain ⟨name', value'⟩ := field
    refine ⟨'{' :: newLine (depth + 1) ++ jsonString name' ++ ':' :: ' ' ::
      value'.layOut (depth + 1) ++ layOutFields (depth + 1) first ++ ',' :: newLine (depth + 1),
      layOutFields (depth + 1) rest ++ newLine depth ++ ['}'], fun value => ?_⟩
    simp only [List.cons_append, Value.layOut, layOutFields_append, layOutFields,
      List.append_assoc, List.nil_append]

/-- A field with the time, if it is the field for it. -/
def setTime (time : String) (field : String × Value) : String × Value :=
  if field.1 = "generated_at" then (field.1, .text time) else field

theorem sortedFields_withTime {body : Fields} (h : (body.map (·.1) ++ stampNames).Nodup)
    (stamp : Stamp) (time : String) :
    sortedFields (stamped body (stamp.withTime time)) =
      (sortedFields (stamped body stamp)).map (setTime time) := by
  rw [stamped_eq_append h, stamped_eq_append h, sortedFields_eq_map, sortedFields_eq_map,
    List.map_map, List.map_append, List.map_append]
  congr 1
  refine List.map_congr_left fun field hfield => ?_
  have hne : field.1 ≠ "generated_at" := fun heq =>
    (List.nodup_append.1 h).2.2 _ (List.mem_map.2 ⟨field, hfield, heq⟩) "generated_at"
      (by decide) rfl
  simp [setTime, hne]

/-- The data hold the time as the value of one field. -/
theorem json_time {body : Fields} (h : (body.map (·.1) ++ stampNames).Nodup) (stamp : Stamp) :
    ∃ first rest, ∀ time, (Value.object (stamped body (stamp.withTime time))).json =
      first ++ "\"generated_at\": " ++ .ofList (jsonString time) ++ rest := by
  let byName := fun a b : String × Value => decide (a.1 ≤ b.1)
  let fields := sortedFields (stamped body stamp)
  -- the order of the fields does not depend on their values
  have hsort (time : String) : (fields.map (setTime time)).mergeSort byName =
      (fields.mergeSort byName).map (setTime time) := by
    refine (List.map_mergeSort fun a _ b _ => ?_).symm
    simp only [setTime, byName]
    split <;> split <;> rfl
  have hperm := List.mergeSort_perm fields byName
  have hfields : fields = (body ++ stamp.fields).map fun field => (field.1, field.2.sorted) := by
    rw [← stamped_eq_append h, ← sortedFields_eq_map]
  have hnodup : ((fields.mergeSort byName).map (·.1)).Nodup := by
    rw [(hperm.map _).nodup_iff, hfields, List.map_map, List.map_append]
    exact h
  have hmem : ("generated_at", Value.text stamp.generatedAt) ∈ fields.mergeSort byName := by
    rw [hperm.mem_iff, hfields]
    exact List.mem_map.2 ⟨("generated_at", .text stamp.generatedAt),
      List.mem_append_right _ (by simp [Stamp.fields]), rfl⟩
  obtain ⟨before, after, hsplit⟩ := List.append_of_mem hmem
  rw [hsplit, List.map_append, List.map_cons, List.nodup_middle, List.nodup_cons] at hnodup
  have hother : ∀ field ∈ before ++ after, field.1 ≠ "generated_at" := fun field hfield heq =>
    hnodup.1 (by rw [← List.map_append]; exact List.mem_map.2 ⟨field, hfield, heq⟩)
  have hkeep (time : String) (part : Fields) (hpart : ∀ field ∈ part, field ∈ before ++ after) :
      part.map (setTime time) = part := by
    refine (List.map_congr_left fun field hfield => ?_).trans (List.map_id part)
    exact if_neg (hother field (hpart field hfield))
  obtain ⟨start, finish, hlayOut⟩ := layOut_object 0 before after "generated_at"
  refine ⟨.ofList start, .ofList (finish ++ ['\n']), fun time => ?_⟩
  have hobject : (Value.object (stamped body (stamp.withTime time))).sorted =
      .object (before ++ ("generated_at", .text time) :: after) := by
    rw [Value.sorted, sortedFields_withTime h, hsort, hsplit, List.map_append, List.map_cons,
      hkeep time before (by simp_all), hkeep time after (by simp_all)]
    rfl
  have hname : String.ofList (jsonString "generated_at" ++ [':', ' ']) = "\"generated_at\": " := by
    decide +kernel
  rw [Value.json, hobject, hlayOut, ← hname]
  simp only [Value.layOut, ← String.ofList_append, List.append_assoc]

end AddonAtlas.Report
