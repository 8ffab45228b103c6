import AddonAtlas.Proofs.Model.File

/-!
# Files that are put together

The text of a class runs from its header to the next one or to the end of the file
(`withBodies_eq_spans`), and a header depends only on its own characters.  Hence a file that is cut
before a header, and through no header, tells what its two parts tell (`parse_append`).
-/

namespace AddonAtlas.Model

open Text Source

/-! ## Texts of classes -/

/-- Where the text of a class ends: at the next header, or at the end of the file. -/
def endOf (content : List Char) (later : List (Found Header)) : Nat :=
  (later.head?.map (·.start)).getD content.length

/-- The text of every header's class, by its places in the file, at most `cap` characters. -/
def spans (cap : Nat) (content : List Char) : List (Found Header) → List (Header × List Char)
  | [] => []
  | first :: later =>
    (first.value, ((content.take (endOf content later)).drop first.start).take cap) ::
      spans cap content later

theorem withBodies_eq_spans {cap offset : Nat} {content : List Char} {found : List (Found Header)}
    (hoffset : ∀ f ∈ found, offset ≤ f.start)
    (hfound : found.Pairwise fun a b => a.start ≤ b.start) :
    withBodies cap offset (content.drop offset) found = spans cap content found := by
  induction found generalizing offset with
  | nil => rfl
  | cons first later ih =>
    obtain ⟨hlater, hpairs⟩ := List.pairwise_cons.1 hfound
    have hdrop : (content.drop offset).drop (first.start - offset) = content.drop first.start := by
      rw [List.drop_drop, Nat.add_sub_cancel' (hoffset first List.mem_cons_self)]
    rw [withBodies_cons, hdrop, ih hlater hpairs, spans, List.drop_take]
    congr 2
    cases later with
    | nil => simp [endOf, List.take_take]
    | cons next later => simp [endOf, List.take_take, Nat.min_comm]

section Append

variable {cap : Nat} {front back : List Char}

/-- Behind another file the texts of classes are the same. -/
theorem spans_shift (found : List (Found Header)) :
    spans cap (front ++ back) (found.map (Found.shift front.length)) = spans cap back found := by
  induction found with
  | nil => rfl
  | cons first later ih =>
    have hend : endOf (front ++ back) (later.map (Found.shift front.length)) =
        front.length + endOf back later := by
      cases later <;> simp [endOf, Found.shift]
    rw [List.map_cons, spans, spans, ih, hend, List.take_length_add_append]
    simp [Found.shift, List.drop_length_add_append]

/-- Before a file that starts with a header the texts of classes are the same. -/
theorem spans_append {found found' : List (Found Header)}
    (hplaces : ∀ f ∈ found, f.start ≤ front.length)
    (hstart : found'.head?.map (·.start) = some 0) :
    spans cap (front ++ back)
        (found.map (Found.extend back) ++ found'.map (Found.shift front.length)) =
      spans cap front found ++ spans cap back found' := by
  induction found with
  | nil => exact spans_shift found'
  | cons first later ih =>
    obtain ⟨-, hlater⟩ := List.forall_mem_cons.1 hplaces
    have hend : endOf (front ++ back)
        (later.map (Found.extend back) ++ found'.map (Found.shift front.length)) =
          endOf front later := by
      cases later with
      | nil =>
        obtain ⟨next, hnext, hzero⟩ := Option.map_eq_some_iff.1 hstart
        simp [endOf, hnext, Found.shift, hzero]
      | cons next later => simp [endOf, Found.extend]
    have hle : endOf front later ≤ front.length := by
      cases later with
      | nil => simp [endOf]
      | cons next later => exact hlater next List.mem_cons_self
    rw [List.map_cons, List.cons_append, spans, hend, ih hlater, List.take_append_of_le_length hle,
      spans, List.cons_append]
    rfl

end Append

/-- The headers of a file with the texts of their classes. -/
theorem withBodies_findAll (cap : Nat) (content : List Char) :
    withBodies cap 0 content (findAll header? content) =
      spans cap content (findAll header? content) := by
  obtain ⟨hplaces, horder⟩ := findAll_places local_header?.sized content
  refine withBodies_eq_spans (fun _ _ => Nat.zero_le _) (horder.imp_of_mem fun {a b} ha _ hab => ?_)
  have hstart := (hplaces a ha).1
  omega

theorem start_findAll {content : List Char} (h : (header? none content).isSome) :
    (findAll header? content).head?.map (·.start) = some 0 := by
  obtain ⟨found, hfound⟩ := Option.isSome_iff_exists.1 h
  cases content with
  | nil => simp [header?, after?] at hfound
  | cons c content =>
    simp only [findAll, findAllFrom, hfound]
    rw [findAllFrom_eq_append]
    rfl

/-- A file whose second part starts with a header, and in which no header reaches from the first
part into the second, has the classes and the warnings of the two parts. -/
theorem parse_append (order : DelegationOrder) (cap : Nat) (module file : String)
    {front back : List Char} (hback : (header? none back).isSome)
    (hjoin : ∀ f ∈ findAll header? (front ++ back),
      f.stop ≤ front.length ∨ front.length ≤ f.start) :
    parse order cap module file (front ++ back) =
      { classes := (parse order cap module file front).classes ++
          (parse order cap module file back).classes
        warnings := (parse order cap module file front).warnings ++
          (parse order cap module file back).warnings } := by
  have hplaces : ∀ f ∈ findAll header? front, f.start ≤ front.length := by
    intro f hf
    obtain ⟨hstart, hstop, -⟩ := (findAll_places local_header?.sized front).1 f hf
    omega
  have hbodies : withBodies cap 0 (front ++ back) (findAll header? (front ++ back)) =
      withBodies cap 0 front (findAll header? front) ++
        withBodies cap 0 back (findAll header? back) := by
    rw [withBodies_findAll, withBodies_findAll, withBodies_findAll,
      findAll_append local_header? hjoin, spans_append hplaces (start_findAll hback)]
  simp only [parse, hbodies, List.filter_append, List.map_append, List.filterMap_append]

/-- A class with a delegation that looks reversed, behind text that only starts like a header. -/
def joinFront : List Char :=
  "class Old:\nclass A(models.Model):\n _inherits = \x7b'a_id': 'a.b'\x7d\n".toList

/-- A class that extends a model. -/
def joinBack : List Char :=
  "class B(models.TransientModel):\n _inherit = 'a.b'".toList

theorem parse_append_sample :
    ((header? none joinBack).isSome ∧ ∀ f ∈ findAll header? (joinFront ++ joinBack),
        f.stop ≤ joinFront.length ∨ joinFront.length ≤ f.start) ∧
      parse .keyFirst 80 "sale" "order" (joinFront ++ joinBack) =
        { classes := (parse .keyFirst 80 "sale" "order" joinFront).classes ++
            (parse .keyFirst 80 "sale" "order" joinBack).classes
          warnings := (parse .keyFirst 80 "sale" "order" joinFront).warnings ++
            (parse .keyFirst 80 "sale" "order" joinBack).warnings } ∧
      (parse .keyFirst 80 "sale" "order" joinFront).warnings.length = 1 ∧
      (parse .keyFirst 80 "sale" "order" joinBack).classes =
        [{ module := "sale", file := "order", className := "B", model := "a.b",
           kind := .transient, inherits := ["a.b"] }] := by
  have hback : (header? none joinBack).isSome := by decide +kernel
  have hjoin : ∀ f ∈ findAll header? (joinFront ++ joinBack),
      f.stop ≤ joinFront.length ∨ joinFront.length ≤ f.start := by decide +kernel
  exact ⟨⟨hback, hjoin⟩, parse_append .keyFirst 80 "sale" "order" hback hjoin, by decide +kernel,
    by decide +kernel⟩

end AddonAtlas.Model
