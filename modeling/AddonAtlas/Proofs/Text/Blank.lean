import AddonAtlas.Proofs.Text.Scan

/-!
# Blanks and lines

A `Blanks` is a text of blanks only, such as stands around the words of a source text, and a
`Pads` is one of spaces and tabs.  No blank is a word character (`isWord_eq_false_of_isBlank`),
and no blank is one of the signs that the recognisers look for (`ne_of_isBlank`).  `strip` takes
blanks off a text and leaves the rest as it is (`trimBoth_append`), and `lines` gives back the
lines of which a text was put together (`lines_joinLines`).  A text that is cut off has the lines of
the whole text, but perhaps for its last one (`dropLast_lines_prefix_append`,
`lines_prefix_append`).
-/

namespace AddonAtlas.Text

/-! ## Classes of characters that have nothing in common -/

theorem within_eq_true_iff {ranges : List (Nat × Nat)} {c : Char} :
    within ranges c = true ↔ ∃ range ∈ ranges, range.1 ≤ c.toNat ∧ c.toNat ≤ range.2 := by
  simp [within]

/-- Does no range of the one list meet a range of the other? -/
def apart (a b : List (Nat × Nat)) : Bool :=
  a.all fun p => b.all fun q => decide (p.2 < q.1) || decide (q.2 < p.1)

theorem within_eq_false_of_apart {a b : List (Nat × Nat)} (h : apart a b = true) {c : Char}
    (hc : within a c = true) : within b c = false := by
  rw [Bool.eq_false_iff]
  intro hb
  obtain ⟨p, hp, hp₁, hp₂⟩ := within_eq_true_iff.1 hc
  obtain ⟨q, hq, hq₁, hq₂⟩ := within_eq_true_iff.1 hb
  simp only [apart, List.all_eq_true, Bool.or_eq_true, decide_eq_true_eq] at h
  have := h p hp q hq
  omega

theorem ne_of_isBlank {c d : Char} (hc : isBlank c = true) (hd : isBlank d = false) : c ≠ d := by
  rintro rfl
  rw [hc] at hd
  exact Bool.noConfusion hd

/-- Where the letters, digits and the underscore of plain text stand. -/
theorem within_of_isAlphanum {c : Char} (h : (c.isAlphanum || c == '_') = true) :
    within [(0x30, 0x39), (0x41, 0x5A), (0x5F, 0x5F), (0x61, 0x7A)] c = true := by
  simp only [Char.isAlphanum, Char.isAlpha, Char.isUpper, Char.isLower, Char.isDigit,
    Bool.or_eq_true, Bool.and_eq_true, decide_eq_true_eq, beq_iff_eq, UInt32.le_iff_toNat_le,
    ge_iff_le] at h
  change (((65 ≤ c.toNat ∧ c.toNat ≤ 90) ∨ (97 ≤ c.toNat ∧ c.toNat ≤ 122)) ∨
    (48 ≤ c.toNat ∧ c.toNat ≤ 57)) ∨ c = '_' at h
  rcases h with h | rfl
  · simp only [within, List.any_cons, List.any_nil, Bool.or_eq_true, Bool.and_eq_true,
      decide_eq_true_eq]
    omega
  · decide

theorem isAlphanum_eq_false_of_isBlank {c : Char} (h : isBlank c = true) :
    (c.isAlphanum || c == '_') = false := by
  rw [Bool.eq_false_iff]
  intro hc
  have hblank : within blankRanges c = false :=
    within_eq_false_of_apart (by decide) (within_of_isAlphanum hc)
  rw [isBlank, hblank] at h
  exact Bool.noConfusion h

theorem isWord_eq_false_of_isBlank {c : Char} (h : isBlank c = true) : isWord c = false := by
  unfold isWord
  split_ifs with hascii
  · exact isAlphanum_eq_false_of_isBlank h
  · exact within_eq_false_of_apart (by decide +kernel) h

theorem isQuote_single : isQuote '\'' = true := rfl

theorem isQuote_double : isQuote '"' = true := rfl

/-- A quote is no blank and no word character. -/
theorem classes_of_isQuote {c : Char} (h : isQuote c = true) :
    isBlank c = false ∧ isWord c = false := by
  simp only [isQuote, Bool.or_eq_true, beq_iff_eq] at h
  rcases h with rfl | rfl <;> decide

/-! ## Texts of blanks -/

/-- A text of blanks. -/
structure Blanks where
  text : List Char
  blank : ∀ c ∈ text, isBlank c = true

/-- Blanks from a text that passes the test. -/
def Blanks.of (text : List Char) (h : text.all isBlank = true) : Blanks :=
  ⟨text, List.all_eq_true.1 h⟩

/-- No blanks. -/
def Blanks.none : Blanks := .of [] rfl

/-- One space, as blanks. -/
def Blanks.space : Blanks := .of [' '] rfl

theorem Blanks.space_ne_nil : Blanks.space.text ≠ [] := List.cons_ne_nil _ _

theorem Blanks.notMem (b : Blanks) {c : Char} (hc : isBlank c = false) : c ∉ b.text :=
  fun h => ne_of_isBlank (b.blank c h) hc rfl

/-- A text of spaces and tabs. -/
structure Pads where
  text : List Char
  pad : ∀ c ∈ text, isPad c = true

/-- Pads from a text that passes the test. -/
def Pads.of (text : List Char) (h : text.all isPad = true) : Pads :=
  ⟨text, List.all_eq_true.1 h⟩

/-- No pads. -/
def Pads.none : Pads := .of [] rfl

/-- One space. -/
def Pads.space : Pads := .of [' '] rfl

/-- One tab. -/
def Pads.tab : Pads := .of ['\t'] rfl

theorem Pads.space_ne_nil : Pads.space.text ≠ [] := List.cons_ne_nil _ _

theorem Pads.notMem (b : Pads) {c : Char} (hc : isPad c = false) : c ∉ b.text := by
  intro hmem
  rw [b.pad c hmem] at hc
  exact Bool.noConfusion hc

theorem isPad_eq_true_iff {c : Char} : isPad c = true ↔ c = ' ' ∨ c = '\t' := by
  simp [isPad]

theorem isBlank_of_isPad {c : Char} (h : isPad c = true) : isBlank c = true := by
  rcases isPad_eq_true_iff.1 h with rfl | rfl <;> decide

theorem Pads.isBlank_of_mem (b : Pads) : ∀ c ∈ b.text, isBlank c = true :=
  fun c hc => isBlank_of_isPad (b.pad c hc)

/-- Spaces and tabs, as blanks. -/
def Pads.blanks (b : Pads) : Blanks :=
  ⟨b.text, b.isBlank_of_mem⟩

theorem isLineEnd_eq_false_of_isPad {c : Char} (h : isPad c = true) : isLineEnd c = false := by
  rcases isPad_eq_true_iff.1 h with rfl | rfl <;> decide

/-! ## Taking blanks off a text -/

section Trim

variable {p : Char → Bool}

theorem trimBoth_of_forall {text : List Char} (h : ∀ c ∈ text, p c = true) :
    trimBoth p text = [] := by
  rw [trimBoth, List.dropWhile_eq_nil_iff.2 h]
  rfl

theorem trimBoth_append {before text after : List Char} (hbefore : ∀ c ∈ before, p c = true)
    (hafter : ∀ c ∈ after, p c = true) (hne : text ≠ [])
    (hhead : ∀ c ∈ text.head?, p c = false) (hlast : ∀ c ∈ text.getLast?, p c = false) :
    trimBoth p (before ++ (text ++ after)) = text := by
  have hfront : (before ++ (text ++ after)).dropWhile p = text ++ after := by
    apply dropWhile_append_run hbefore
    rwa [List.head?_append_of_ne_nil _ hne]
  have hback : (after.reverse ++ text.reverse).dropWhile p = text.reverse := by
    apply dropWhile_append_run
    · simpa using hafter
    · rwa [List.head?_reverse]
  rw [trimBoth, hfront, List.reverse_append, hback, List.reverse_reverse]

theorem head?_dropWhile {text : List Char} : ∀ c ∈ (text.dropWhile p).head?, p c = false := by
  intro c hc
  have hnot := List.head?_dropWhile_not p text
  rwa [hc] at hnot

theorem getLast?_trimBoth {text : List Char} : ∀ c ∈ (trimBoth p text).getLast?, p c = false := by
  rw [trimBoth, List.getLast?_reverse]
  exact head?_dropWhile

theorem head?_trimBoth {text : List Char} : ∀ c ∈ (trimBoth p text).head?, p c = false := by
  intro c hc
  rw [trimBoth, List.head?_reverse] at hc
  obtain ⟨front, hfront⟩ := List.dropWhile_suffix p (l := (text.dropWhile p).reverse)
  have hlast : c ∈ (text.dropWhile p).reverse.getLast? := by
    rw [← hfront, List.getLast?_append]
    simp only [Option.mem_def] at hc ⊢
    rw [hc, Option.some_or]
  rw [List.getLast?_reverse] at hlast
  exact head?_dropWhile c hlast

theorem exists_eq_append_trimBoth (p : Char → Bool) (text : List Char) :
    ∃ before after, text = before ++ (trimBoth p text ++ after) ∧ (∀ c ∈ before, p c = true) ∧
      ∀ c ∈ after, p c = true := by
  refine ⟨text.takeWhile p, ((text.dropWhile p).reverse.takeWhile p).reverse, ?_, ?_, ?_⟩
  · rw [trimBoth, ← List.reverse_append, List.takeWhile_append_dropWhile, List.reverse_reverse,
      List.takeWhile_append_dropWhile]
  · exact fun c hc => List.mem_takeWhile_imp hc
  · exact fun c hc => List.mem_takeWhile_imp (List.mem_reverse.1 hc)

theorem trimBoth_trimBoth (text : List Char) : trimBoth p (trimBoth p text) = trimBoth p text := by
  by_cases h : trimBoth p text = []
  · rw [h]
    rfl
  · have htrim : trimBoth p ([] ++ (trimBoth p text ++ [])) = trimBoth p text :=
      trimBoth_append (by simp) (by simp) h head?_trimBoth getLast?_trimBoth
    simpa using htrim

end Trim

theorem stripString_stripString (text : String) :
    stripString (stripString text) = stripString text := by
  simp [stripString, strip, trimBoth_trimBoth]

/-! ## Lines -/

/-- The two ways to end a line. -/
inductive LineEnd
  | lf
  | crlf

/-- The characters that end a line. -/
def LineEnd.text : LineEnd → List Char
  | lf => ['\n']
  | crlf => ['\r', '\n']

/-- Some lines with their ends, and a last line without one. -/
def joinLines (last : List Char) : List (List Char × LineEnd) → List Char
  | [] => last
  | (line, stop) :: lines => line ++ (stop.text ++ joinLines last lines)

theorem linesFrom_append {text : List Char} (h : ∀ c ∈ text, isLineEnd c = false)
    (line : List Char) (done : List (List Char)) (rest : List Char) :
    linesFrom line done (text ++ rest) = linesFrom (text.reverse ++ line) done rest := by
  induction text generalizing line with
  | nil => rfl
  | cons c text ih =>
    have hc : isLineEnd c = false := h c (by simp)
    rw [List.cons_append, linesFrom, hc]
    · simp only [Bool.false_eq_true, if_false]
      rw [ih fun d hd => h d (by simp [hd])]
      simp
    · rintro _ rfl
      exact absurd hc (by decide)

theorem linesFrom_lineEnd (stop : LineEnd) (line : List Char) (done : List (List Char))
    (rest : List Char) :
    linesFrom line done (stop.text ++ rest) = linesFrom [] (line.reverse :: done) rest := by
  cases stop with
  | crlf => rfl
  | lf =>
    rw [LineEnd.text, List.singleton_append, linesFrom, if_pos (by decide)]
    simp

theorem linesFrom_joinLines {last : List Char} (hlast : ∀ c ∈ last, isLineEnd c = false)
    {lines : List (List Char × LineEnd)} (h : ∀ l ∈ lines, ∀ c ∈ l.1, isLineEnd c = false)
    (done : List (List Char)) :
    linesFrom [] done (joinLines last lines) =
      done.reverse ++ lines.map Prod.fst ++ (if last = [] then [] else [last]) := by
  induction lines generalizing done with
  | nil =>
    have hend := linesFrom_append hlast [] done []
    rw [List.append_nil, List.append_nil] at hend
    rw [joinLines, hend, linesFrom]
    by_cases hnil : last = [] <;> simp [hnil]
  | cons l lines ih =>
    obtain ⟨line, stop⟩ := l
    have hline : ∀ c ∈ line, isLineEnd c = false := h (line, stop) (by simp)
    rw [joinLines, linesFrom_append hline, linesFrom_lineEnd, ih fun l hl => h l (by simp [hl])]
    simp

/-- A text that is put together from lines has these lines; an empty last one is not seen. -/
theorem lines_joinLines {last : List Char} (hlast : ∀ c ∈ last, isLineEnd c = false)
    {lines : List (List Char × LineEnd)} (h : ∀ l ∈ lines, ∀ c ∈ l.1, isLineEnd c = false) :
    Text.lines (joinLines last lines) =
      lines.map Prod.fst ++ (if last = [] then [] else [last]) := by
  simpa [Text.lines] using linesFrom_joinLines hlast h []

/-! ## Lines of a text that is cut off -/

/-- A character that does not start a pair ends a line alone, or goes into it. -/
theorem linesFrom_cons {c : Char} {rest : List Char}
    (h : ∀ rest', c = '\r' → rest = '\n' :: rest' → False) (line : List Char)
    (done : List (List Char)) :
    linesFrom line done (c :: rest) =
      if isLineEnd c then linesFrom [] (line.reverse :: done) rest
      else linesFrom (c :: line) done rest := by
  rw [linesFrom]
  exact h

/-- A line end ends the line, whether it stands alone or is the first half of a pair. -/
theorem exists_linesFrom_lineEnd {c : Char} (hc : isLineEnd c = true) (line : List Char)
    (done : List (List Char)) (text : List Char) :
    ∃ rest, linesFrom line done (c :: text) = linesFrom [] (line.reverse :: done) rest := by
  by_cases hpair : ∃ rest, c = '\r' ∧ text = '\n' :: rest
  · obtain ⟨rest, rfl, rfl⟩ := hpair
    exact ⟨rest, rfl⟩
  · refine ⟨text, ?_⟩
    rw [linesFrom_cons fun rest hc htext => hpair ⟨rest, hc, htext⟩, if_pos hc]

/-- Lines that are done stay as they are. -/
theorem linesFrom_done (line : List Char) (done old : List (List Char)) (text : List Char) :
    linesFrom line (done ++ old) text = old.reverse ++ linesFrom line done text := by
  induction line, done, text using linesFrom.induct with
  | case1 line done => by_cases h : line = [] <;> simp [linesFrom, h]
  | case2 line done rest ih => exact ih
  | case3 line done c rest hpair hc ih =>
    rw [linesFrom_cons hpair, linesFrom_cons hpair, if_pos hc, if_pos hc]
    exact ih
  | case4 line done c rest hpair hc ih =>
    rw [linesFrom_cons hpair, linesFrom_cons hpair, if_neg hc, if_neg hc]
    exact ih

theorem exists_linesFrom_eq_append (line : List Char) (done : List (List Char)) (text : List Char) :
    ∃ more, linesFrom line done text = done.reverse ++ more :=
  ⟨linesFrom line [] text, linesFrom_done line [] done text⟩

/-- The lines of a text and those of the start of it are the same, but for a last line that is cut
off.  There is none if the start ends with a line end. -/
theorem exists_linesFrom_append (line : List Char) (done : List (List Char))
    (front back : List Char) :
    ∃ whole more, linesFrom line done (front ++ back) = whole ++ more ∧
      (linesFrom line done front = whole ∨
        (∃ last, linesFrom line done front = whole ++ [last]) ∧ (front = [] → line ≠ []) ∧
          ∀ c ∈ front.getLast?, isLineEnd c = false) := by
  induction line, done, front using linesFrom.induct with
  | case1 line done =>
    obtain ⟨more, hmore⟩ := exists_linesFrom_eq_append line done back
    refine ⟨done.reverse, more, hmore, ?_⟩
    by_cases hline : line = []
    · exact .inl (by simp [linesFrom, hline])
    · exact .inr ⟨⟨line.reverse, by simp [linesFrom, hline]⟩, fun _ => hline, by simp⟩
  | case2 line done rest ih =>
    obtain ⟨whole, more, hfull, hcut⟩ := ih
    refine ⟨whole, more, hfull, hcut.imp_right ?_⟩
    rintro ⟨hlast, hrest, hend⟩
    have hne : rest ≠ [] := fun h => hrest h rfl
    refine ⟨hlast, by simp, ?_⟩
    rwa [List.getLast?_cons_of_ne_nil (by simp), List.getLast?_cons_of_ne_nil hne]
  | case3 line done c rest hpair hc ih =>
    by_cases hne : rest = []
    · -- a line feed may follow that belongs to the same line end
      subst hne
      obtain ⟨tail, htail⟩ := exists_linesFrom_lineEnd hc line done back
      obtain ⟨more, hmore⟩ := exists_linesFrom_eq_append [] (line.reverse :: done) tail
      refine ⟨(line.reverse :: done).reverse, more, htail.trans hmore, .inl ?_⟩
      rw [linesFrom_cons hpair, if_pos hc]
      rfl
    · obtain ⟨whole, more, hfull, hcut⟩ := ih
      have hpair' : ∀ rest', c = '\r' → rest ++ back = '\n' :: rest' → False := by
        intro rest' hc hrest
        obtain ⟨d, rest, rfl⟩ := List.exists_cons_of_ne_nil hne
        rw [List.cons_append, List.cons.injEq] at hrest
        exact hpair rest hc (by rw [hrest.1])
      rw [List.cons_append, linesFrom_cons hpair', linesFrom_cons hpair, if_pos hc, if_pos hc]
      refine ⟨whole, more, hfull, hcut.imp_right ?_⟩
      rintro ⟨hlast, -, hend⟩
      exact ⟨hlast, by simp, by rwa [List.getLast?_cons_of_ne_nil hne]⟩
  | case4 line done c rest hpair hc ih =>
    obtain ⟨whole, more, hfull, hcut⟩ := ih
    have hpair' : ∀ rest', c = '\r' → rest ++ back = '\n' :: rest' → False := by
      rintro rest' rfl -
      exact hc (by decide)
    rw [List.cons_append, linesFrom_cons hpair', linesFrom_cons hpair, if_neg hc, if_neg hc]
    refine ⟨whole, more, hfull, hcut.imp_right ?_⟩
    rintro ⟨hlast, -, hend⟩
    refine ⟨hlast, by simp, ?_⟩
    cases rest with
    | nil => simpa using hc
    | cons d rest => rwa [List.getLast?_cons_of_ne_nil (by simp)]

/-- All lines of the start of a text but the last are lines of the text. -/
theorem dropLast_lines_prefix_append (front back : List Char) :
    (lines front).dropLast <+: lines (front ++ back) := by
  obtain ⟨whole, more, hfull, hcut | ⟨⟨last, hcut⟩, -⟩⟩ := exists_linesFrom_append [] [] front back
  · rw [lines, lines, hfull, hcut]
    exact (List.dropLast_prefix whole).trans (List.prefix_append whole more)
  · rw [lines, lines, hfull, hcut, List.dropLast_concat]
    exact List.prefix_append whole more

/-- All lines of a text that ends with a line end are lines of a text that starts so. -/
theorem lines_prefix_append {front : List Char} (h : ∀ c ∈ front.getLast?, isLineEnd c = true)
    (back : List Char) : lines front <+: lines (front ++ back) := by
  obtain ⟨whole, more, hfull, hcut | ⟨-, hne, hend⟩⟩ := exists_linesFrom_append [] [] front back
  · rw [lines, lines, hfull, hcut]
    exact List.prefix_append whole more
  · have hfront : front ≠ [] := fun hnil => hne hnil rfl
    have hlast := List.getLast?_eq_getLast_of_ne_nil hfront
    exact absurd (h _ hlast) (by simp [hend _ hlast])

end AddonAtlas.Text
