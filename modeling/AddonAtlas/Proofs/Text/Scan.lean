import Mathlib
import AddonAtlas.Text.Scan

/-!
# What a scan finds

A text that is scanned falls into gaps, in which no match starts, and matches.  `Quiet` says that
a recogniser fails everywhere in a gap, `Segment` is a gap with the match after it, and
`findAll_written` gives the matches of a text that is put together from segments: each stands
where it was written, with its value and the text after it.  `findFirst_quiet` is the same step
for the search of one match.  In any text, matches stand one behind the other (`findAll_places`).
-/

namespace AddonAtlas.Text

/-! ## Words at the head of a text -/

theorem after?_eq_some_iff {word text rest : List Char} :
    after? word text = some rest ↔ text = word ++ rest := by
  induction word generalizing text with
  | nil => simp [after?]
  | cons w word ih =>
    cases text with
    | nil => simp [after?]
    | cons c text =>
      by_cases h : w = c
      · subst h
        simp [after?, ih]
      · simp [after?, h, Ne.symm h]

@[simp] theorem after?_append (word rest : List Char) : after? word (word ++ rest) = some rest :=
  after?_eq_some_iff.2 rfl

theorem after?_eq_none_iff {word text : List Char} : after? word text = none ↔ ¬ word <+: text := by
  rw [Option.eq_none_iff_forall_ne_some]
  constructor
  · rintro h ⟨rest, rfl⟩
    exact h rest (after?_append word rest)
  · rintro h rest hrest
    exact h ⟨rest, (after?_eq_some_iff.1 hrest).symm⟩

/-- A word without `x` that a text starts with ends before the first `x`. -/
theorem prefix_of_prefix_append_cons {word text rest : List Char} {x : Char} (hx : x ∉ word)
    (h : word <+: text ++ x :: rest) : word <+: text := by
  rcases Nat.le_total word.length text.length with hle | hle
  · exact List.prefix_of_prefix_length_le h (List.prefix_append _ _) hle
  · obtain ⟨tail, rfl⟩ := List.prefix_of_prefix_length_le (List.prefix_append _ _) h hle
    cases tail with
    | nil => simp
    | cons y tail =>
      obtain ⟨u, hu⟩ := h
      simp only [List.append_assoc, List.append_cancel_left_eq, List.cons_append,
        List.cons.injEq] at hu
      exact absurd (by simp [hu.1]) hx

/-- A word that a text starts with stands before `rest`, unless `rest` goes on with it. -/
theorem cons_prefix_of_append {x c : Char} {word text rest : List Char}
    (hrest : ∀ d ∈ rest.head?, d ∉ word) (h : (x :: word) <+: c :: (text ++ rest)) :
    (x :: word) <+: c :: text := by
  rw [List.cons_prefix_cons] at h ⊢
  refine ⟨h.1, ?_⟩
  cases rest with
  | nil => simpa using h.2
  | cons d rest => exact prefix_of_prefix_append_cons (hrest d rfl) h.2

theorem takeWhile_append_run {p : Char → Bool} {run rest : List Char}
    (hrun : ∀ c ∈ run, p c = true) (hrest : ∀ c ∈ rest.head?, p c = false) :
    (run ++ rest).takeWhile p = run := by
  rw [List.takeWhile_append_of_pos hrun]
  cases rest with
  | nil => simp
  | cons c rest => simp [hrest c (by simp)]

theorem dropWhile_append_run {p : Char → Bool} {run rest : List Char}
    (hrun : ∀ c ∈ run, p c = true) (hrest : ∀ c ∈ rest.head?, p c = false) :
    (run ++ rest).dropWhile p = rest := by
  rw [List.dropWhile_append_of_pos hrun]
  cases rest with
  | nil => simp
  | cons c rest => simp [hrest c (by simp)]

theorem span_append_run {p : Char → Bool} {run rest : List Char} (hrun : ∀ c ∈ run, p c = true)
    (hrest : ∀ c ∈ rest.head?, p c = false) : (run ++ rest).span p = (run, rest) := by
  rw [List.span_eq_takeWhile_dropWhile, takeWhile_append_run hrun hrest,
    dropWhile_append_run hrun hrest]

/-- Where the run at the end of a text starts is told by the text. -/
theorem append_run_inj {p : Char → Bool} {a b s t : List Char} (h : a ++ s = b ++ t)
    (ha : ∀ c ∈ a.getLast?, p c = false) (hb : ∀ c ∈ b.getLast?, p c = false)
    (hs : ∀ c ∈ s, p c = true) (ht : ∀ c ∈ t, p c = true) : a = b := by
  have hdrop {text run : List Char} (htext : ∀ c ∈ text.getLast?, p c = false)
      (hrun : ∀ c ∈ run, p c = true) : (text ++ run).reverse.dropWhile p = text.reverse := by
    rw [List.reverse_append]
    apply dropWhile_append_run
    · simpa using hrun
    · rwa [List.head?_reverse]
  apply List.reverse_injective
  rw [← hdrop ha hs, ← hdrop hb ht, h]

/-- A word that stands before a sign, with only a run between them, ends right before the first such
sign. -/
theorem exists_run_of_after? {p : Char → Bool} {sign : Char} {word s found rest value : List Char}
    (hword : sign ∉ word) (hs : sign ∉ s) (hfound : after? word (s ++ sign :: rest) = some found)
    (hvalue : after? [sign] (found.dropWhile p) = some value) :
    ∃ run, s = word ++ run ∧ ∀ c ∈ run, p c = true := by
  rw [after?_eq_some_iff] at hfound hvalue
  -- the word holds no sign, so it ends before the one that is there
  obtain ⟨run, rfl⟩ := prefix_of_prefix_append_cons hword ⟨found, hfound.symm⟩
  rw [List.append_assoc, List.append_cancel_left_eq] at hfound
  refine ⟨run, rfl, ?_⟩
  rw [← hfound, List.dropWhile_append] at hvalue
  split at hvalue
  · next hnil => exact List.dropWhile_eq_nil_iff.1 (List.isEmpty_iff.1 hnil)
  · next hne =>
    -- what is left of the run starts with the sign that was found
    have hmem : sign ∈ run := by
      apply (List.dropWhile_suffix p).subset
      cases hrun : run.dropWhile p with
      | nil => exact absurd (by simp [hrun]) hne
      | cons c left =>
        rw [hrun, List.cons_append, List.singleton_append, List.cons.injEq] at hvalue
        simp [hvalue.1]
    exact absurd (List.mem_append_right word hmem) hs

/-! ## Gaps -/

section Gaps

variable {β : Type} (r : Option Char → List Char → Option β)

/-- No match starts in the gap when `rest` follows it. -/
def Quiet (rest : List Char) : (gap : List Char) → Prop
  | [] => True
  | c :: gap => (∀ before, r before (c :: (gap ++ rest)) = none) ∧ Quiet rest gap

variable {r}

theorem quiet_append {rest a b : List Char} :
    Quiet r rest (a ++ b) ↔ Quiet r (b ++ rest) a ∧ Quiet r rest b := by
  induction a with
  | nil => simp [Quiet]
  | cons c a ih => simp [Quiet, ih, and_assoc]

/-- A gap is quiet when the recogniser fails on every suffix of it. -/
theorem quiet_of_suffix {rest gap : List Char}
    (h : ∀ c s, c :: s <:+ gap → ∀ before, r before (c :: (s ++ rest)) = none) :
    Quiet r rest gap := by
  induction gap with
  | nil => trivial
  | cons c gap ih =>
    exact ⟨h c gap List.suffix_rfl, ih fun d s hs => h d s (hs.trans (List.suffix_cons c gap))⟩

/-- A gap is quiet when no match starts with a character of it. -/
theorem quiet_of_forall_mem {rest gap : List Char}
    (h : ∀ c ∈ gap, ∀ before text, r before (c :: text) = none) : Quiet r rest gap :=
  quiet_of_suffix fun c s hs before => h c (hs.subset (by simp)) before (s ++ rest)

/-- A gap is quiet when it does not hold the word that every match starts with, and what follows the
gap does not start with a later character of the word. -/
theorem quiet_of_not_infix {x : Char} {word rest gap : List Char}
    (hr : ∀ before text, ¬ (x :: word) <+: text → r before text = none)
    (hgap : ¬ (x :: word) <:+: gap) (hrest : ∀ c ∈ rest.head?, c ∉ word) : Quiet r rest gap := by
  refine quiet_of_suffix fun c s hs before => hr before _ fun hprefix => hgap ?_
  exact (cons_prefix_of_append hrest hprefix).isInfix.trans hs.isInfix

/-- The character before the text that follows `gap`. -/
def lastOf (before : Option Char) : (gap : List Char) → Option Char
  | [] => before
  | c :: gap => lastOf (some c) gap

theorem any_getLast?_append {p : Char → Bool} {a b : List Char} (ha : a.getLast?.any p = false)
    (hb : b.getLast?.any p = false) : (a ++ b).getLast?.any p = false := by
  rw [List.getLast?_append]
  cases hlast : b.getLast? with
  | none => simpa using ha
  | some c => simpa [hlast] using hb

theorem lastOf_eq (before : Option Char) (gap : List Char) :
    lastOf before gap = gap.getLast?.or before := by
  induction gap generalizing before with
  | nil => rfl
  | cons c gap ih =>
    rw [lastOf, ih, List.getLast?_cons]
    cases gap.getLast? <;> rfl

theorem lastOf_append (before : Option Char) (a b : List Char) :
    lastOf before (a ++ b) = lastOf (lastOf before a) b := by
  rw [lastOf_eq, lastOf_eq, lastOf_eq, List.getLast?_append, Option.or_assoc]

theorem any_lastOf {p : Char → Bool} {before : Option Char} (hbefore : before.any p = false)
    {gap : List Char} (hgap : gap.getLast?.any p = false) : (lastOf before gap).any p = false := by
  rw [lastOf_eq]
  cases hlast : gap.getLast? with
  | none => exact hbefore
  | some c => simpa [hlast] using hgap

theorem findFirst_quiet {rest gap : List Char} (h : Quiet r rest gap) (before : Option Char) :
    findFirst r before (gap ++ rest) = findFirst r (lastOf before gap) rest := by
  induction gap generalizing before with
  | nil => rfl
  | cons c gap ih =>
    rw [List.cons_append, findFirst, h.1 before]
    exact ih h.2 (some c)

/-- A search passes over places at which nothing is found. -/
theorem findFirst_append {rest gap : List Char} {before : Option Char}
    (h : ∀ i < gap.length, r (lastOf before (gap.take i)) ((gap ++ rest).drop i) = none) :
    findFirst r before (gap ++ rest) = findFirst r (lastOf before gap) rest := by
  induction gap generalizing before with
  | nil => rfl
  | cons c gap ih =>
    have hhere : r before (c :: (gap ++ rest)) = none := h 0 (Nat.zero_lt_succ _)
    rw [List.cons_append, findFirst, hhere]
    exact ih fun i hi => h (i + 1) (Nat.succ_lt_succ hi)

theorem findFirst_eq_none {text : List Char} (h : Quiet r [] text)
    (hnil : ∀ before, r before [] = none) (before : Option Char) :
    findFirst r before text = none := by
  have hend := findFirst_quiet h before
  rwa [List.append_nil, findFirst, hnil] at hend

theorem findFirst_eq_some {before : Option Char} {text : List Char} {value : β}
    (h : r before text = some value) : findFirst r before text = some value := by
  cases text with
  | nil => exact h
  | cons c text => rw [findFirst, h]

end Gaps

/-! ## Matches -/

section Matches

variable {α : Type} {r : Recogniser α}

theorem findAllFrom_quiet {rest gap : List Char} (h : Quiet r rest gap) (before : Option Char)
    (offset : Nat) (found : List (Found α)) :
    findAllFrom r before offset 0 found (gap ++ rest) =
      findAllFrom r (lastOf before gap) (offset + gap.length) 0 found rest := by
  induction gap generalizing before offset with
  | nil => rfl
  | cons c gap ih =>
    rw [List.cons_append, findAllFrom, h.1 before]
    simp only [lastOf, List.length_cons]
    rw [ih h.2, Nat.add_assoc, Nat.add_comm 1]

theorem findAllFrom_skip (passed rest : List Char) (before : Option Char) (offset : Nat)
    (found : List (Found α)) :
    findAllFrom r before offset passed.length found (passed ++ rest) =
      findAllFrom r (lastOf before passed) (offset + passed.length) 0 found rest := by
  induction passed generalizing before offset with
  | nil => rfl
  | cons c passed ih =>
    rw [List.cons_append, List.length_cons, findAllFrom]
    simp only [lastOf]
    rw [ih, Nat.add_assoc, Nat.add_comm 1]

theorem findAllFrom_match {text rest : List Char} {value : α} {before : Option Char}
    (hne : text ≠ []) (h : r before (text ++ rest) = some (value, text.length)) (offset : Nat)
    (found : List (Found α)) :
    findAllFrom r before offset 0 found (text ++ rest) =
      findAllFrom r (lastOf before text) (offset + text.length) 0
        (⟨offset, offset + text.length, value, rest⟩ :: found) rest := by
  cases text with
  | nil => exact absurd rfl hne
  | cons c text =>
    rw [List.cons_append] at h ⊢
    rw [findAllFrom, h]
    simp only [List.length_cons, Nat.add_sub_cancel, List.drop_left, lastOf]
    rw [findAllFrom_skip, Nat.add_assoc, Nat.add_comm 1]

/-- A gap, the match after it with its value, and the text that belongs to the match. -/
structure Segment (α : Type) where
  gap : List Char
  text : List Char
  value : α
  tail : List Char

/-- The text of some segments, with `last` after them. -/
def written (last : List Char) : List (Segment α) → List Char
  | [] => last
  | segment :: segments => segment.gap ++ (segment.text ++ (segment.tail ++ written last segments))

/-- The matches of some segments that start at `offset` and have `last` after them. -/
def located (last : List Char) (offset : Nat) : List (Segment α) → List (Found α)
  | [] => []
  | segment :: segments =>
    let start := offset + segment.gap.length
    let stop := start + segment.text.length
    ⟨start, stop, segment.value, segment.tail ++ written last segments⟩ ::
      located last (stop + segment.tail.length) segments

theorem located_cons (last : List Char) (offset : Nat) (segment : Segment α)
    (segments : List (Segment α)) :
    located last offset (segment :: segments) =
      ⟨offset + segment.gap.length, offset + segment.gap.length + segment.text.length,
        segment.value, segment.tail ++ written last segments⟩ ::
      located last (offset + segment.gap.length + segment.text.length + segment.tail.length)
        segments := rfl

/-- The recogniser finds every match, and nothing in the gaps, in the tails and in `last`. -/
def Readable (r : Recogniser α) (last : List Char) : List (Segment α) → Prop
  | [] => Quiet r [] last
  | segment :: segments =>
    let rest := segment.tail ++ written last segments
    Quiet r (segment.text ++ rest) segment.gap ∧ segment.text ≠ [] ∧
      (∀ before, r before (segment.text ++ rest) = some (segment.value, segment.text.length)) ∧
      Quiet r (written last segments) segment.tail ∧ Readable r last segments

theorem written_append (last : List Char) (a b : List (Segment α)) :
    written last (a ++ b) = written (written last b) a := by
  induction a with
  | nil => rfl
  | cons segment a ih => simp only [List.cons_append, written, ih]

theorem written_append_last (last more : List Char) (segments : List (Segment α)) :
    written last segments ++ more = written (last ++ more) segments := by
  induction segments with
  | nil => rfl
  | cons segment segments ih => simp only [written, List.append_assoc, ih]

theorem located_append (last : List Char) (offset : Nat) (a b : List (Segment α)) :
    located last offset (a ++ b) =
      located (written last b) offset a ++ located last (offset + (written [] a).length) b := by
  induction a generalizing offset with
  | nil => rfl
  | cons segment a ih =>
    simp only [List.cons_append, located, written, written_append, List.length_append, ih,
      Nat.add_assoc]

theorem located_values (last : List Char) (offset : Nat) (segments : List (Segment α)) :
    (located last offset segments).map (·.value) = segments.map (·.value) := by
  induction segments generalizing offset with
  | nil => rfl
  | cons segment segments ih => simp [located, ih]

theorem findAllFrom_written {last : List Char} {segments : List (Segment α)}
    (h : Readable r last segments) (before : Option Char) (offset : Nat) (found : List (Found α)) :
    findAllFrom r before offset 0 found (written last segments) =
      found.reverse ++ located last offset segments := by
  induction segments generalizing before offset found with
  | nil =>
    have hlast : findAllFrom r before offset 0 found (last ++ []) = _ :=
      findAllFrom_quiet h before offset found
    rw [List.append_nil] at hlast
    simp [written, located, hlast, findAllFrom]
  | cons segment segments ih =>
    obtain ⟨hgap, hne, hmatch, htail, hsegments⟩ := h
    rw [written, findAllFrom_quiet hgap, findAllFrom_match hne (hmatch _), findAllFrom_quiet htail,
      ih hsegments]
    simp [located]

/-- A text that is put together from segments, behind a text without a match, has exactly the
matches of the segments. -/
theorem findAll_append_written {lead last : List Char} {segments : List (Segment α)}
    (hlead : Quiet r (written last segments) lead) (h : Readable r last segments) :
    findAll r (lead ++ written last segments) = located last lead.length segments := by
  rw [findAll, findAllFrom_quiet hlead, findAllFrom_written h]
  simp

/-- A text that is put together from segments has exactly their matches. -/
theorem findAll_written {last : List Char} {segments : List (Segment α)}
    (h : Readable r last segments) :
    findAll r (written last segments) = located last 0 segments := by
  simpa [findAll] using findAllFrom_written h none 0 []

/-! ## Places of matches -/

/-- A match takes at least one character, and no more than there are. -/
def Sized (r : Recogniser α) : Prop :=
  ∀ before text value size, r before text = some (value, size) → 0 < size ∧ size ≤ text.length

theorem findAllFrom_eq_append (before : Option Char) (offset skip : Nat) (found : List (Found α))
    (text : List Char) :
    findAllFrom r before offset skip found text =
      found.reverse ++ findAllFrom r before offset skip [] text := by
  induction text generalizing before offset skip found with
  | nil => simp [findAllFrom]
  | cons c text ih =>
    cases skip with
    | succ skip => rw [findAllFrom, findAllFrom, ih]
    | zero =>
      cases hr : r before (c :: text) with
      | none => simp only [findAllFrom, hr, ih _ _ _ found]
      | some found' =>
        simp only [findAllFrom, hr]
        rw [ih, ih _ _ _ [_]]
        simp

/-- A match of a text that starts at `offset` stands behind the first `skip` characters. -/
structure Found.StandsIn (offset skip : Nat) (text : List Char) (f : Found α) : Prop where
  le_start : offset + skip ≤ f.start
  start_lt : f.start < f.stop
  stop_le : f.stop ≤ offset + text.length
  rest_eq : f.rest = text.drop (f.stop - offset)

theorem Found.StandsIn.cons {offset skip : Nat} {text : List Char} {f : Found α} {c : Char}
    (h : f.StandsIn (offset + 1) skip text) : f.StandsIn offset (skip + 1) (c :: text) where
  le_start := by have := h.le_start; omega
  start_lt := h.start_lt
  stop_le := by have := h.stop_le; rw [List.length_cons]; omega
  rest_eq := by
    have hpos : f.stop - offset = f.stop - (offset + 1) + 1 := by
      have := h.le_start
      have := h.start_lt
      omega
    rw [h.rest_eq, hpos, List.drop_succ_cons]

/-- Matches stand in the text one behind the other. -/
theorem findAllFrom_places (hr : Sized r) (before : Option Char) (offset skip : Nat)
    (text : List Char) :
    (∀ f ∈ findAllFrom r before offset skip [] text, f.StandsIn offset skip text) ∧
      (findAllFrom r before offset skip [] text).Pairwise fun a b => a.stop ≤ b.start := by
  induction text generalizing before offset skip with
  | nil => simp [findAllFrom]
  | cons c text ih =>
    cases skip with
    | succ skip =>
      obtain ⟨hplaces, horder⟩ := ih (some c) (offset + 1) skip
      rw [findAllFrom]
      exact ⟨fun f hf => (hplaces f hf).cons, horder⟩
    | zero =>
      cases hmatch : r before (c :: text) with
      | none =>
        obtain ⟨hplaces, horder⟩ := ih (some c) (offset + 1) 0
        simp only [findAllFrom, hmatch]
        refine ⟨fun f hf => ?_, horder⟩
        have hf := (hplaces f hf).cons (c := c)
        exact ⟨by have := hf.le_start; omega, hf.start_lt, hf.stop_le, hf.rest_eq⟩
      | some found =>
        obtain ⟨value, size⟩ := found
        obtain ⟨hpos, hle⟩ := hr _ _ _ _ hmatch
        obtain ⟨hplaces, horder⟩ := ih (some c) (offset + 1) (size - 1)
        simp only [findAllFrom, hmatch]
        rw [findAllFrom_eq_append, List.reverse_singleton, List.singleton_append]
        rw [List.length_cons] at hle
        constructor
        · refine List.forall_mem_cons.2 ⟨⟨?_, ?_, ?_, ?_⟩, fun f hf => ?_⟩
          · exact Nat.le_refl _
          · show offset < offset + size
            omega
          · show offset + size ≤ offset + (text.length + 1)
            omega
          · show text.drop (size - 1) = (c :: text).drop (offset + size - offset)
            rw [show offset + size - offset = size - 1 + 1 by omega, List.drop_succ_cons]
          · have hf := (hplaces f hf).cons (c := c)
            exact ⟨by have := hf.le_start; omega, hf.start_lt, hf.stop_le, hf.rest_eq⟩
        · refine List.pairwise_cons.2 ⟨fun f hf => ?_, horder⟩
          have hstart := (hplaces f hf).le_start
          show offset + size ≤ f.start
          omega

theorem findAll_places (hr : Sized r) (text : List Char) :
    (∀ f ∈ findAll r text, f.start < f.stop ∧ f.stop ≤ text.length ∧ f.rest = text.drop f.stop) ∧
      (findAll r text).Pairwise fun a b => a.stop ≤ b.start := by
  obtain ⟨hplaces, horder⟩ := findAllFrom_places hr none 0 0 text
  refine ⟨fun f hf => ?_, horder⟩
  obtain ⟨-, hstart, hstop, hrest⟩ := hplaces f hf
  rw [Nat.zero_add] at hstop
  rw [Nat.sub_zero] at hrest
  exact ⟨hstart, hstop, hrest⟩

end Matches

end AddonAtlas.Text
