import AddonAtlas.Proofs.Document.Order
import AddonAtlas.Proofs.Document.Scalar

/-!
# JSON text is read back

The text of a value is read as the value, with what stands behind it left over (`ReadsBack`).  There is
one lemma for each way a value starts, and a list or an object is read item by item and field by field
(`readItems_layOut`, `readFields_layOut`), so by induction every value is read back
(`readsBack_of_isExact`).  Since a document is sorted before it is written, its text says what it holds
up to the order of fields and nothing else (`json_eq_json_iff_reordered`).
-/

namespace AddonAtlas.Document

open Number Text

/-! ## Gaps -/

theorem skipGap_newLine (depth : Nat) (rest : List Char) :
    skipGap (newLine depth ++ rest) = skipGap rest := by
  have hgap : ∀ c ∈ newLine depth, isGap c = true := by
    intro c hc
    rcases List.mem_cons.1 hc with rfl | hc
    · rfl
    · rw [List.eq_of_mem_replicate hc]
      rfl
  rw [skipGap, List.dropWhile_append_of_pos hgap, skipGap]

theorem skipGap_cons {c : Char} (h : isGap c = false) (rest : List Char) :
    skipGap (c :: rest) = c :: rest := by
  rw [skipGap, List.dropWhile_cons_of_neg (by simp [h])]

/-- A text that starts with a value: neither with a blank nor with a closing bracket. -/
def StartsValue (text : List Char) : Prop :=
  ∃ c rest, text = c :: rest ∧ isGap c = false ∧ c ≠ ']' ∧ c ≠ '}'

theorem StartsValue.append {text : List Char} (h : StartsValue text) (rest : List Char) :
    StartsValue (text ++ rest) := by
  obtain ⟨c, more, rfl, hc⟩ := h
  exact ⟨c, more ++ rest, rfl, hc⟩

theorem StartsValue.skipGap {text : List Char} (h : StartsValue text) : skipGap text = text := by
  obtain ⟨c, more, rfl, hgap, -⟩ := h
  exact skipGap_cons hgap more

theorem startsValue_layOut {v : Value} (h : v.IsExact) (depth : Nat) :
    StartsValue (v.layOut depth) := by
  cases h with
  | null => exact ⟨'n', _, by rw [Value.layOut]; rfl, by decide⟩
  | bool b =>
    cases b with
    | true => exact ⟨'t', _, by rw [Value.layOut]; rfl, by decide⟩
    | false => exact ⟨'f', _, by rw [Value.layOut]; rfl, by decide⟩
  | @int n h =>
    obtain ⟨c, rest, htext, hc⟩ := exists_intText n
    refine ⟨c, rest, by rw [Value.layOut, htext], ?_⟩
    rcases hc with rfl | hc
    · decide
    · have hgap : isGap c = false := by
        simp [isGap, ne_of_isDigit hc (d := ' ') rfl, ne_of_isDigit hc (d := '\t') rfl,
          ne_of_isDigit hc (d := '\n') rfl, ne_of_isDigit hc (d := '\r') rfl]
      exact ⟨hgap, ne_of_isDigit hc rfl, ne_of_isDigit hc rfl⟩
  | text s => exact ⟨'"', _, by rw [Value.layOut, jsonString]; rfl, by decide⟩
  | @list items h =>
    cases items with
    | nil => exact ⟨'[', _, by rw [Value.layOut], by decide⟩
    | cons item items => exact ⟨'[', _, by rw [Value.layOut]; rfl, by decide⟩
  | @object fields hnames h =>
    cases fields with
    | nil => exact ⟨'\x7b', _, by rw [Value.layOut], by decide⟩
    | cons field fields =>
      obtain ⟨name, value⟩ := field
      exact ⟨'\x7b', _, by rw [Value.layOut]; rfl, by decide⟩

/-! ## Reading values -/

section Reading

variable (fuel : Nat) {depth : Nat} {text rest : List Char}

theorem readValue_simple {c : Char} (hquote : c ≠ '"') (hlist : c ≠ '[') (hobject : c ≠ '\x7b') :
    readValue (fuel + 1) (c :: rest) = readSimple (c :: rest) := by
  rw [readValue] <;> simp [hquote, hlist, hobject]

theorem readValue_jsonString (s : String) :
    readValue (fuel + 1) (jsonString s ++ rest) = .ok (.text s, rest) := by
  rw [jsonString, List.cons_append, List.cons_append, readValue, List.append_assoc,
    List.singleton_append, readString_flatMap]
  rfl

theorem readValue_list (depth : Nat) (h : StartsValue text) :
    readValue (fuel + 1) ('[' :: newLine depth ++ text) = readItems fuel [] text := by
  obtain ⟨c, more, rfl, hgap, hc, -⟩ := h
  rw [List.cons_append, readValue, skipGap_newLine, skipGap_cons hgap]
  split
  · next heq => exact absurd (List.cons.inj heq).1 hc
  · rfl

theorem readValue_object (depth : Nat) (h : StartsValue text) :
    readValue (fuel + 1) ('\x7b' :: newLine depth ++ text) = readFields fuel [] text := by
  obtain ⟨c, more, rfl, hgap, -, hc⟩ := h
  rw [List.cons_append, readValue, skipGap_newLine, skipGap_cons hgap]
  split
  · next heq => exact absurd (List.cons.inj heq).1 hc
  · rfl

variable {fuel} {item : Value} {read : List Value}

theorem readItems_last (h : readValue fuel text = .ok (item, newLine depth ++ ']' :: rest)) :
    readItems (fuel + 1) read text = .ok (.list (read.reverse ++ [item]), rest) := by
  rw [readItems, h]
  simp only [bind, Except.bind]
  rw [skipGap_newLine, skipGap_cons (by decide), List.reverse_cons]
  rfl

theorem readItems_next {next : List Char} (hnext : StartsValue next)
    (h : readValue fuel text = .ok (item, ',' :: newLine depth ++ next)) :
    readItems (fuel + 1) read text = readItems fuel (item :: read) next := by
  rw [readItems, h]
  simp only [bind, Except.bind]
  rw [List.cons_append, skipGap_cons (by decide)]
  show readItems fuel (item :: read) (skipGap (newLine depth ++ next)) = _
  rw [skipGap_newLine, hnext.skipGap]

end Reading

/-! ## Values are read back -/

theorem endsValue_newLine (depth : Nat) (rest : List Char) : EndsValue (newLine depth ++ rest) := by
  simp [EndsValue, newLine]

theorem endsValue_comma (rest : List Char) : EndsValue (',' :: rest) := by
  simp [EndsValue]

/-- The text of a value is read as the value, whatever stands behind it. -/
def ReadsBack (v : Value) : Prop :=
  ∀ depth fuel rest, EndsValue rest → (v.layOut depth).length ≤ fuel →
    readValue (fuel + 1) (v.layOut depth ++ rest) = .ok (v, rest)

section ReadBack

variable {outer depth fuel : Nat} {rest : List Char}

theorem readItems_layOut {item : Value} {items : List Value} (read : List Value)
    (hexact : ∀ v ∈ item :: items, v.IsExact) (hreads : ∀ v ∈ item :: items, ReadsBack v)
    (hfuel : (item.layOut depth).length + (layOutItems depth items).length < fuel) :
    readItems (fuel + 1) read (item.layOut depth ++ (layOutItems depth items ++
      (newLine outer ++ ']' :: rest))) = .ok (.list (read.reverse ++ item :: items), rest) := by
  induction items generalizing item read fuel with
  | nil =>
    obtain ⟨fuel, rfl⟩ := Nat.exists_eq_succ_of_ne_zero (Nat.ne_of_gt (Nat.zero_lt_of_lt hfuel))
    rw [layOutItems, List.nil_append]
    refine readItems_last (hreads item List.mem_cons_self _ _ _ (endsValue_newLine _ _) ?_)
    omega
  | cons next items ih =>
    obtain ⟨fuel, rfl⟩ := Nat.exists_eq_succ_of_ne_zero (Nat.ne_of_gt (Nat.zero_lt_of_lt hfuel))
    have htext : layOutItems depth (next :: items) =
        ',' :: newLine depth ++ (next.layOut depth ++ layOutItems depth items) := by
      rw [layOutItems, List.append_assoc]
    rw [htext] at hfuel ⊢
    simp only [List.length_append, List.length_cons] at hfuel
    have hnext := (startsValue_layOut (hexact next (by simp)) depth).append
      (layOutItems depth items ++ (newLine outer ++ ']' :: rest))
    have hitem : readValue (fuel + 1) (item.layOut depth ++ (',' :: newLine depth ++
        (next.layOut depth ++ (layOutItems depth items ++ (newLine outer ++ ']' :: rest))))) =
        .ok (item, ',' :: newLine depth ++ (next.layOut depth ++ (layOutItems depth items ++
          (newLine outer ++ ']' :: rest)))) :=
      hreads item List.mem_cons_self _ _ _ (endsValue_comma _) (by omega)
    simp only [List.append_assoc] at hitem ⊢
    rw [readItems_next hnext hitem, ih (item :: read) (fun v hv => hexact v (List.mem_cons_of_mem _ hv))
      (fun v hv => hreads v (List.mem_cons_of_mem _ hv)) (by omega)]
    simp

theorem notMem_of_nodup {read fields : Fields} {field : String × Value}
    (h : ((read ++ field :: fields).map (·.1)).Nodup) : field.1 ∉ read.map (·.1) := by
  rw [List.map_append, List.map_cons] at h
  exact fun hmem => (List.nodup_append.1 h).2.2 _ hmem _ List.mem_cons_self rfl

theorem skipGap_jsonString (s : String) (rest : List Char) :
    skipGap (jsonString s ++ rest) = jsonString s ++ rest := by
  rw [jsonString, List.cons_append, List.cons_append, skipGap_cons (by decide)]

/-- The field at the start of a text is read, and then what stands behind it. -/
theorem readFields_field {name : String} {value : Value} {read : Fields}
    (hname : name ∉ read.map (·.1)) (hexact : value.IsExact) (hreads : ReadsBack value)
    (hrest : EndsValue rest) (hfuel : (value.layOut depth).length ≤ fuel) :
    readFields (fuel + 2) read (jsonString name ++ ':' :: ' ' :: (value.layOut depth ++ rest)) =
      match skipGap rest with
      | '\x7d' :: rest => .ok (.object (read ++ [(name, value)]), rest)
      | ',' :: rest => readFields (fuel + 1) (read ++ [(name, value)]) (skipGap rest)
      | rest => stopAt rest := by
  have hgap : skipGap (' ' :: (value.layOut depth ++ rest)) = value.layOut depth ++ rest := by
    rw [skipGap, List.dropWhile_cons_of_pos (by decide)]
    exact ((startsValue_layOut hexact depth).append rest).skipGap
  rw [jsonString, List.cons_append, List.cons_append, readFields, List.append_assoc,
    List.singleton_append, readString_flatMap]
  simp only [bind, Except.bind]
  rw [skipGap_cons (by decide)]
  simp only [hgap, hreads depth fuel rest hrest hfuel, Fields.put_of_not_mem hname]
  rfl

theorem readFields_layOut {name : String} {value : Value} {fields : Fields} (read : Fields)
    (hnames : ((read ++ (name, value) :: fields).map (·.1)).Nodup)
    (hexact : ∀ field ∈ (name, value) :: fields, field.2.IsExact)
    (hreads : ∀ field ∈ (name, value) :: fields, ReadsBack field.2)
    (hfuel : (value.layOut depth).length + (layOutFields depth fields).length < fuel) :
    readFields (fuel + 1) read (jsonString name ++ ':' :: ' ' :: (value.layOut depth ++
      (layOutFields depth fields ++ (newLine outer ++ '\x7d' :: rest)))) =
        .ok (.object (read ++ (name, value) :: fields), rest) := by
  induction fields generalizing name value read fuel with
  | nil =>
    obtain ⟨fuel, rfl⟩ := Nat.exists_eq_succ_of_ne_zero (Nat.ne_of_gt (Nat.zero_lt_of_lt hfuel))
    have hname : name ∉ read.map (·.1) := notMem_of_nodup hnames
    have hvalue : value.IsExact := hexact _ List.mem_cons_self
    have hread : ReadsBack value := hreads _ List.mem_cons_self
    rw [layOutFields, List.nil_append, readFields_field hname hvalue hread (endsValue_newLine _ _)
      (by omega), skipGap_newLine, skipGap_cons (by decide)]
    rfl
  | cons field fields ih =>
    obtain ⟨fuel, rfl⟩ := Nat.exists_eq_succ_of_ne_zero (Nat.ne_of_gt (Nat.zero_lt_of_lt hfuel))
    obtain ⟨next, nextValue⟩ := field
    have hname : name ∉ read.map (·.1) := notMem_of_nodup hnames
    have hvalue : value.IsExact := hexact _ List.mem_cons_self
    have hread : ReadsBack value := hreads _ List.mem_cons_self
    have htext : layOutFields depth ((next, nextValue) :: fields) = ',' :: (newLine depth ++
        (jsonString next ++ ':' :: ' ' :: (nextValue.layOut depth ++ layOutFields depth fields))) := by
      rw [layOutFields]
      simp only [List.append_assoc, List.cons_append]
    rw [htext] at hfuel ⊢
    simp only [List.length_append, List.length_cons] at hfuel
    rw [List.cons_append, readFields_field hname hvalue hread (endsValue_comma _) (by omega),
      skipGap_cons (by decide)]
    simp only [List.append_assoc, List.cons_append]
    rw [skipGap_newLine, skipGap_jsonString, ih _ (by simpa using hnames)
      (fun v hv => hexact v (List.mem_cons_of_mem _ hv))
      (fun v hv => hreads v (List.mem_cons_of_mem _ hv)) (by omega)]
    simp

end ReadBack

/-- The text of a value is read back. -/
theorem readsBack_of_isExact {v : Value} (h : v.IsExact) : ReadsBack v := by
  induction h with
  | null =>
    intro depth fuel rest _ _
    rw [Value.layOut]
    exact readValue_simple fuel (by decide) (by decide) (by decide)
  | bool b =>
    intro depth fuel rest _ _
    cases b <;> rw [Value.layOut] <;> exact readValue_simple fuel (by decide) (by decide) (by decide)
  | @int n h =>
    intro depth fuel rest hrest _
    have hread := readSimple_intText h hrest
    obtain ⟨c, more, htext, hc⟩ := exists_intText n
    have hne : c ≠ '"' ∧ c ≠ '[' ∧ c ≠ '\x7b' := by
      rcases hc with rfl | hc
      · decide
      · exact ⟨ne_of_isDigit hc rfl, ne_of_isDigit hc rfl, ne_of_isDigit hc rfl⟩
    rw [Value.layOut]
    rw [htext, List.cons_append] at hread ⊢
    rw [readValue_simple fuel hne.1 hne.2.1 hne.2.2, hread]
  | text s =>
    intro depth fuel rest _ _
    rw [Value.layOut]
    exact readValue_jsonString fuel s
  | @list items hitems ih =>
    intro depth fuel rest hrest hfuel
    cases items with
    | nil =>
      rw [Value.layOut]
      rfl
    | cons item items =>
      rw [Value.layOut] at hfuel ⊢
      simp only [List.length_append, List.length_cons] at hfuel
      obtain ⟨fuel, rfl⟩ : ∃ less, fuel = less + 1 := ⟨fuel - 1, by omega⟩
      have hstart := (startsValue_layOut (hitems item List.mem_cons_self) (depth + 1)).append
        (layOutItems (depth + 1) items ++ (newLine depth ++ ']' :: rest))
      have hread := readValue_list (fuel + 1) (depth + 1) hstart
      rw [readItems_layOut [] hitems ih (by omega)] at hread
      simpa using hread
  | @object fields hnames hfields ih =>
    intro depth fuel rest hrest hfuel
    cases fields with
    | nil =>
      rw [Value.layOut]
      rfl
    | cons field fields =>
      obtain ⟨name, value⟩ := field
      rw [Value.layOut] at hfuel ⊢
      simp only [List.length_append, List.length_cons] at hfuel
      obtain ⟨fuel, rfl⟩ : ∃ less, fuel = less + 1 := ⟨fuel - 1, by omega⟩
      have hstart : StartsValue (jsonString name ++ ':' :: ' ' :: (value.layOut (depth + 1) ++
          (layOutFields (depth + 1) fields ++ (newLine depth ++ '\x7d' :: rest)))) :=
        ⟨'"', _, rfl, by decide⟩
      have hread := readValue_object (fuel + 1) (depth + 1) hstart
      rw [readFields_layOut [] hnames hfields ih (by omega)] at hread
      simpa using hread

/-- A document is read back. -/
theorem ofJson_layOut {v : Value} (h : v.IsExact) : ofJson (v.layOut 0 ++ ['\n']) = .ok v := by
  have hfuel : (v.layOut 0).length ≤ 2 * (v.layOut 0 ++ ['\n']).length + 1 := by
    rw [List.length_append]
    omega
  have hread := readsBack_of_isExact h 0 _ ['\n'] (endsValue_newLine 0 []) hfuel
  rw [ofJson, ((startsValue_layOut h 0).append _).skipGap, hread]
  rfl

/-! ## Characters -/

/-- Every character of a text is an ASCII character. -/
def IsAscii (text : List Char) : Prop :=
  ∀ c ∈ text, c.toNat < 0x80

@[simp] theorem isAscii_nil : IsAscii [] := by
  simp [IsAscii]

@[simp] theorem isAscii_cons {c : Char} {text : List Char} :
    IsAscii (c :: text) ↔ c.toNat < 0x80 ∧ IsAscii text := by
  simp [IsAscii]

@[simp] theorem isAscii_append {text rest : List Char} :
    IsAscii (text ++ rest) ↔ IsAscii text ∧ IsAscii rest := by
  simp [IsAscii, or_imp, forall_and]

@[simp] theorem isAscii_newLine (depth : Nat) : IsAscii (newLine depth) := by
  refine isAscii_cons.2 ⟨by decide, fun c hc => ?_⟩
  rw [List.eq_of_mem_replicate hc]
  decide

theorem isAscii_hexDigits (width n : Nat) : IsAscii (hexDigits width n) := by
  induction width generalizing n with
  | zero => exact isAscii_nil
  | succ width ih =>
    have hdigit : ∀ d < 16, (Nat.digitChar d).toNat < 0x80 := by decide
    rw [hexDigits, isAscii_append]
    exact ⟨ih _, by simpa using hdigit (n % 16) (Nat.mod_lt _ (by decide))⟩

theorem isAscii_jsonChar (c : Char) : IsAscii (jsonChar c) := by
  have hescape (n : Nat) : IsAscii (unitEscape n) :=
    isAscii_cons.2 ⟨by decide, isAscii_cons.2 ⟨by decide, isAscii_hexDigits 4 n⟩⟩
  have hletter (letter : Char) (h : letter.toNat < 0x80) : IsAscii ['\\', letter] := by simp [h]
  unfold jsonChar
  split_ifs with _ _ _ _ _ _ _ hplain
  · exact hletter '"' (by decide)
  · exact hletter '\\' (by decide)
  · exact hletter 'n' (by decide)
  · exact hletter 'r' (by decide)
  · exact hletter 't' (by decide)
  · exact hletter 'b' (by decide)
  · exact hletter 'f' (by decide)
  · simp only [Bool.and_eq_true, decide_eq_true_eq] at hplain
    exact isAscii_cons.2 ⟨by omega, isAscii_nil⟩
  · exact hescape _
  · exact isAscii_append.2 ⟨hescape _, hescape _⟩

@[simp] theorem isAscii_jsonString (s : String) : IsAscii (jsonString s) := by
  have hchars : IsAscii (s.toList.flatMap jsonChar) := by
    intro c hc
    obtain ⟨d, -, hd⟩ := List.mem_flatMap.1 hc
    exact isAscii_jsonChar d c hd
  simp [jsonString, hchars]

theorem isAscii_intText (n : Int) : IsAscii (intText n).toList := by
  have hdigits : IsAscii (Nat.toDigits 10 n.natAbs) := by
    intro c hc
    have hdigit := Nat.isDigit_of_mem_toDigits (by decide) (by decide) hc
    rw [Char.isDigit_iff_toNat] at hdigit
    exact hdigit.2.trans_lt (by decide)
  rw [intText]
  split
  · simp [hdigits]
  · simp [hdigits]

theorem isAscii_layOutItems (depth : Nat) {items : List Value}
    (h : ∀ item ∈ items, IsAscii (item.layOut depth)) : IsAscii (layOutItems depth items) := by
  induction items with
  | nil => simp [layOutItems]
  | cons item items ih =>
    obtain ⟨hitem, hitems⟩ := List.forall_mem_cons.1 h
    simp [layOutItems, hitem, ih hitems]

theorem isAscii_layOutFields (depth : Nat) {fields : Fields}
    (h : ∀ field ∈ fields, IsAscii (field.2.layOut depth)) : IsAscii (layOutFields depth fields) := by
  induction fields with
  | nil => simp [layOutFields]
  | cons field fields ih =>
    obtain ⟨hfield, hfields⟩ := List.forall_mem_cons.1 h
    simp [layOutFields, hfield, ih hfields]

theorem isAscii_layOut {v : Value} (h : v.IsExact) (depth : Nat) : IsAscii (v.layOut depth) := by
  induction h generalizing depth with
  | null => simp [Value.layOut]
  | bool b => cases b <;> simp [Value.layOut]
  | int _ =>
    rw [Value.layOut]
    exact isAscii_intText _
  | text s =>
    rw [Value.layOut]
    exact isAscii_jsonString s
  | @list items _ ih =>
    cases items with
    | nil => simp [Value.layOut]
    | cons item items =>
      obtain ⟨hitem, hitems⟩ := List.forall_mem_cons.1 ih
      have hrest := isAscii_layOutItems (depth + 1) fun item hmem => hitems item hmem (depth + 1)
      simp [Value.layOut, hitem, hrest]
  | @object fields _ _ ih =>
    cases fields with
    | nil => simp [Value.layOut]
    | cons field fields =>
      obtain ⟨hfield, hfields⟩ := List.forall_mem_cons.1 ih
      have hrest := isAscii_layOutFields (depth + 1) fun field hmem => hfields field hmem (depth + 1)
      simp [Value.layOut, hfield, hrest]

/-! ## Documents -/

/-- The text of a document is plain ASCII with a line end behind it, is read back as the document up to
the order of fields, and is the same for two documents only if they differ in that order alone. -/
theorem json_eq_json_iff_reordered {p q : Value} (hp : p.IsExact) (hq : q.IsExact) :
    IsAscii p.json.toList ∧ p.json.toList.getLast? = some '\n' ∧
      (∃ read, ofJson p.json.toList = .ok read ∧ p.Reordered read) ∧
      (p.json = q.json ↔ p.Reordered q) := by
  have htext (v : Value) : v.json.toList = v.sorted.layOut 0 ++ ['\n'] := by
    rw [Value.json, String.toList_ofList]
  have hread {v : Value} (hv : v.IsExact) : ofJson v.json.toList = .ok v.sorted := by
    rw [htext, ofJson_layOut hv.sorted]
  refine ⟨?_, ?_, ⟨p.sorted, hread hp, hp.reordered_sorted⟩, ?_, ?_⟩
  · rw [htext, isAscii_append]
    exact ⟨isAscii_layOut hp.sorted 0, by simp⟩
  · rw [htext, List.getLast?_concat]
  · intro hjson
    have hsorted : p.sorted = q.sorted := by
      have hboth := hread hp
      rw [hjson, hread hq] at hboth
      exact (Except.ok.inj hboth).symm
    exact hp.reordered_sorted.trans (hsorted ▸ hq.reordered_sorted.symm)
  · intro hpq
    rw [Value.json, Value.json, (hp.sorted_eq hpq).2]

/-- A document with a list and a nested object, whose texts hold characters of every kind. -/
def jsonSample : Value :=
  .object [("b", .list [.int (-10), .null, .bool true, .list []]),
    ("a", .object [("é", .text "\"\\\n"), ("z", .text "😀")])]

/-- The same document in another order. -/
def jsonSampleReordered : Value :=
  .object [("a", .object [("z", .text "😀"), ("é", .text "\"\\\n")]),
    ("b", .list [.int (-10), .null, .bool true, .list []])]

theorem isExact_jsonSample : jsonSample.IsExact := by
  have hlist : (Value.list [.int (-10), .null, .bool true, .list []]).IsExact := by
    refine .list fun item hitem => ?_
    simp only [List.mem_cons, List.not_mem_nil, or_false] at hitem
    rcases hitem with rfl | rfl | rfl | rfl
    · exact .int (by decide)
    · exact .null
    · exact .bool true
    · exact .list (by simp)
  have hobject : (Value.object [("é", .text "\"\\\n"), ("z", .text "😀")]).IsExact :=
    .object (by decide) (by simp [Value.IsExact.text])
  exact .object (by decide) (by simp [hlist, hobject])

theorem reordered_jsonSample : jsonSample.Reordered jsonSampleReordered := by
  have hinner := Value.Reordered.object
    (List.Perm.swap ("z", Value.text "😀") ("é", .text "\"\\\n") [])
  exact (Value.Reordered.field [_] [] "a" hinner).trans (.object (List.Perm.swap _ _ []))

theorem json_eq_json_iff_reordered_sample :
    (jsonSample.IsExact ∧ jsonSampleReordered.IsExact) ∧ IsAscii jsonSample.json.toList ∧
      jsonSample.json.toList.getLast? = some '\n' ∧
      (∃ read, ofJson jsonSample.json.toList = .ok read ∧ jsonSample.Reordered read) ∧
      jsonSample.json = jsonSampleReordered.json := by
  have hexact := (isExact_jsonSample.sorted_eq reordered_jsonSample).1
  obtain ⟨hascii, hlast, hread, hiff⟩ := json_eq_json_iff_reordered isExact_jsonSample hexact
  exact ⟨⟨isExact_jsonSample, hexact⟩, hascii, hlast, hread, hiff.2 reordered_jsonSample⟩

end AddonAtlas.Document
