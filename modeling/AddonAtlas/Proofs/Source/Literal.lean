import AddonAtlas.Proofs.Text.Blank
import AddonAtlas.Source.Literal

/-!
# Written literals

A `Literal` is a text between two like quotes, with a backslash before every backslash and before
every quote of that kind.  `Spells text tokens` says that reading `text` outside of a literal adds
the literals `tokens` and ends outside of a literal again, whatever follows.  Text without quotes
spells nothing, a written literal spells its text, and what two texts spell is joined.  What may stand
between the quotes at all is a `LiteralBody`, and it is read as its `unescape`.
-/

namespace AddonAtlas.Source

open Text

/-- The text with a backslash before every backslash and every quote of this kind. -/
def escape (quote : Char) (text : List Char) : List Char :=
  text.flatMap fun c => if c = '\\' ∨ c = quote then ['\\', c] else [c]

/-- A text and the quote it is written with. -/
structure Literal where
  quote : Char
  text : List Char
  isQuote_quote : isQuote quote = true

/-- The literal as it is written. -/
def Literal.render (l : Literal) : List Char :=
  l.quote :: (escape l.quote l.text ++ [l.quote])

@[simp] theorem Literal.head?_render (l : Literal) : l.render.head? = some l.quote := rfl

@[simp] theorem Literal.getLast?_render (l : Literal) : l.render.getLast? = some l.quote := by
  rw [Literal.render, ← List.cons_append, List.getLast?_concat]

theorem ne_backslash_of_isQuote {c : Char} (h : isQuote c = true) : c ≠ '\\' := by
  rintro rfl
  exact absurd h (by decide)

theorem escape_of_clean {quote : Char} {text : List Char}
    (h : ∀ c ∈ text, c ≠ '\\' ∧ c ≠ quote) : escape quote text = text := by
  induction text with
  | nil => rfl
  | cons c text ih =>
    obtain ⟨hbackslash, hquote⟩ := h c (by simp)
    have hrest := ih fun d hd => h d (by simp [hd])
    simp only [escape, List.flatMap_cons, hbackslash, hquote, or_self, if_false,
      List.singleton_append, List.cons.injEq, true_and]
    exact hrest

theorem mem_escape {quote c : Char} {text : List Char} (h : c ∈ escape quote text) :
    c = '\\' ∨ c ∈ text := by
  simp only [escape, List.mem_flatMap] at h
  obtain ⟨d, hd, hc⟩ := h
  split_ifs at hc
  · simp only [List.mem_cons, List.not_mem_nil, or_false] at hc
    rcases hc with rfl | rfl
    · exact .inl rfl
    · exact .inr hd
  · rw [List.mem_singleton.1 hc]
    exact .inr hd

theorem Literal.mem_render {l : Literal} {c : Char} (h : c ∈ l.render) :
    c = l.quote ∨ c = '\\' ∨ c ∈ l.text := by
  simp only [Literal.render, List.mem_cons, List.mem_append, List.not_mem_nil, or_false] at h
  rcases h with h | h | h
  · exact .inl h
  · exact .inr (mem_escape h)
  · exact .inl h

/-- A character that neither quotes nor escapes stands in a written literal only with its text. -/
theorem Literal.notMem_render {l : Literal} {c : Char} (hq : isQuote c = false) (hs : c ≠ '\\')
    (ht : c ∉ l.text) : c ∉ l.render := by
  intro h
  rcases l.mem_render h with rfl | h | h
  · exact absurd l.isQuote_quote (by simp [hq])
  · exact hs h
  · exact ht h

/-- Between two quotes, a text without quotes and backslashes is found as it is. -/
theorem Literal.betweenQuotes?_render {l : Literal} (hne : l.text ≠ [])
    (hclean : ∀ c ∈ l.text, isQuote c = false ∧ c ≠ '\\') (rest : List Char) :
    betweenQuotes? (l.render ++ rest) = some (l.text, rest) := by
  have hescape : escape l.quote l.text = l.text := by
    refine escape_of_clean fun c hc => ⟨(hclean c hc).2, ?_⟩
    rintro rfl
    exact absurd l.isQuote_quote (by simp [(hclean _ hc).1])
  have hrun : ∀ c ∈ l.text, (!isQuote c) = true := fun c hc => by simp [(hclean c hc).1]
  have hstop : ∀ c ∈ (l.quote :: rest).head?, (!isQuote c) = false := by simp [l.isQuote_quote]
  rw [Literal.render, hescape, List.cons_append, List.append_assoc, List.singleton_append,
    betweenQuotes?, if_pos l.isQuote_quote, span_append_run hrun hstop]
  cases htext : l.text with
  | nil => exact absurd htext hne
  | cons c text => rfl

/-- The literal that a text starts with. -/
def quotedValue (text : List Char) : Option String := do
  let (inner, _) ← betweenQuotes? text
  return .ofList inner

theorem Literal.quotedValue_render {l : Literal} (hne : l.text ≠ [])
    (hclean : ∀ c ∈ l.text, isQuote c = false ∧ c ≠ '\\') (rest : List Char) :
    quotedValue (l.render ++ rest) = some (.ofList l.text) := by
  simp [quotedValue, l.betweenQuotes?_render hne hclean rest]

/-! ## Reading literals -/

/-- Reading the text outside of a literal adds these literals. -/
def Spells (text : List Char) (tokens : List (List Char)) : Prop :=
  ∀ done rest,
    literalsFrom none done (text ++ rest) = literalsFrom none (tokens.reverse ++ done) rest

theorem spells_nil : Spells [] [] := fun _ _ => rfl

theorem Spells.append {a b : List Char} {s t : List (List Char)} (ha : Spells a s)
    (hb : Spells b t) : Spells (a ++ b) (s ++ t) := by
  intro done rest
  rw [List.append_assoc, ha, hb, List.reverse_append, List.append_assoc]

/-- The literals found before do not change what is found. -/
theorem literalsFrom_append (pending : Option (Char × List Char)) (done before : List (List Char))
    (text : List Char) :
    literalsFrom pending (done ++ before) text =
      before.reverse ++ literalsFrom pending done text := by
  fun_induction literalsFrom pending done text with
  | case1 pending done => rw [literalsFrom, List.reverse_append]
  | case2 done c rest ih => rw [literalsFrom, ih]
  | case3 done quote taken d rest ih => rw [literalsFrom, ih]
  | case4 done quote taken c rest hpair hquote ih =>
    rw [literalsFrom, if_pos hquote, ← List.cons_append, ih]
    exact hpair
  | case5 done quote taken c rest hpair hquote ih =>
    rw [literalsFrom, if_neg hquote, ih]
    exact hpair

theorem Spells.literals_append {text : List Char} {tokens : List (List Char)}
    (h : Spells text tokens) (rest : List Char) :
    literals (text ++ rest) = tokens ++ literals rest := by
  rw [literals, h, List.append_nil]
  simpa [literals] using literalsFrom_append none [] tokens.reverse rest

theorem Spells.literals_eq {text : List Char} {tokens : List (List Char)}
    (h : Spells text tokens) : literals text = tokens := by
  simpa [literals, literalsFrom] using h.literals_append []

theorem spells_of_quoteFree {text : List Char} (h : ∀ c ∈ text, isQuote c = false) :
    Spells text [] := by
  induction text with
  | nil => exact spells_nil
  | cons c text ih =>
    have hc : Spells [c] [] := fun done rest => by
      rw [List.singleton_append, literalsFrom, h c (by simp)]
      rfl
    exact hc.append (ih fun d hd => h d (by simp [hd]))

/-! ## The inside of a literal -/

/-- The inside of a literal: its quote stands only behind a backslash, and no backslash stands
last. -/
inductive LiteralBody (quote : Char) : List Char → Prop
  | nil : LiteralBody quote []
  | plain {c : Char} {rest : List Char} (hquote : c ≠ quote) (hslash : c ≠ '\\')
    (h : LiteralBody quote rest) : LiteralBody quote (c :: rest)
  | escaped (c : Char) {rest : List Char} (h : LiteralBody quote rest) :
    LiteralBody quote ('\\' :: c :: rest)

theorem literalBody_escape (quote : Char) (text : List Char) :
    LiteralBody quote (escape quote text) := by
  induction text with
  | nil => exact .nil
  | cons c text ih =>
    by_cases hc : c = '\\' ∨ c = quote
    · simpa [escape, hc] using LiteralBody.escaped c ih
    · obtain ⟨hslash, hquote⟩ := not_or.1 hc
      simpa [escape, hc] using LiteralBody.plain hquote hslash ih

/-- The inside of a literal with its escapes resolved. -/
def unescape : List Char → List Char
  | [] => []
  | '\\' :: c :: rest => (escaped c).reverse ++ unescape rest
  | c :: rest => c :: unescape rest

theorem unescape_cons {c : Char} (hc : c ≠ '\\') (rest : List Char) :
    unescape (c :: rest) = c :: unescape rest := by
  rw [unescape]
  exact fun _ _ h => absurd h hc

theorem unescape_escape {quote : Char} (hquote : isQuote quote = true) (text : List Char) :
    unescape (escape quote text) = text := by
  induction text with
  | nil => rfl
  | cons c text ih =>
    by_cases hc : c = '\\' ∨ c = quote
    · have hescaped : escaped c = [c] := by
        rcases hc with rfl | rfl
        · rfl
        · simp [escaped, hquote]
      rw [escape, List.flatMap_cons, if_pos hc, ← escape, List.cons_append, List.singleton_append,
        unescape, hescaped, ih]
      rfl
    · rw [escape, List.flatMap_cons, if_neg hc, ← escape, List.singleton_append,
        unescape_cons (not_or.1 hc).1, ih]

theorem literalsFrom_literalBody {quote : Char} {body : List Char} (hbody : LiteralBody quote body)
    (hquote : isQuote quote = true) (taken : List Char) (done : List (List Char))
    (rest : List Char) :
    literalsFrom (some (quote, taken)) done (body ++ quote :: rest) =
      literalsFrom none ((taken.reverse ++ unescape body) :: done) rest := by
  induction hbody generalizing taken with
  | nil =>
    rw [List.nil_append, literalsFrom, if_pos (beq_self_eq_true quote), unescape, List.append_nil]
    exact fun _ _ h => absurd h (ne_backslash_of_isQuote hquote)
  | plain hne hslash _ ih =>
    rw [List.cons_append, literalsFrom, if_neg (by simpa using hne), ih, unescape_cons hslash]
    · simp
    · exact fun _ _ h => absurd h hslash
  | escaped c _ ih =>
    rw [List.cons_append, List.cons_append, literalsFrom, ih, unescape]
    simp

theorem Literal.spells_render (l : Literal) : Spells l.render [l.text] := by
  intro done rest
  rw [Literal.render, List.cons_append, List.append_assoc, List.singleton_append, literalsFrom,
    if_pos l.isQuote_quote,
    literalsFrom_literalBody (literalBody_escape l.quote l.text) l.isQuote_quote,
    unescape_escape l.isQuote_quote]
  rfl

end AddonAtlas.Source
