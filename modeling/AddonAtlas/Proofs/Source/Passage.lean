import AddonAtlas.Proofs.Source.Literal

/-!
# Passages

A `Passage` is source text with quoted literals in it: `Prose` without quotes stands before, between
and behind them.  An `OpenLiteral` opens with a quote that stands in the rest of the text only where
it is escaped, that is, behind an odd number of backslashes.  Reading a passage, with or without an
open literal behind it, gives the texts of its literals (`literals_passage`).
-/

namespace AddonAtlas.Source

open Text

/-- Text without quotes. -/
structure Prose where
  text : List Char
  quoteFree : ∀ c ∈ text, isQuote c = false

theorem quoteFree_of_all {text : List Char} (h : text.all (!isQuote ·) = true) :
    ∀ c ∈ text, isQuote c = false := by
  simpa using h

/-- Prose from a text that passes the test. -/
def Prose.of (text : List Char) (h : text.all (!isQuote ·) = true) : Prose :=
  ⟨text, quoteFree_of_all h⟩

/-- No prose. -/
def Prose.none : Prose := .of [] rfl

/-- A backslash, which escapes nothing in prose. -/
def Prose.slash : Prose := .of ['\\'] rfl

/-- Literals with prose before the first and behind each of them. -/
structure Passage where
  lead : Prose
  items : List (Literal × Prose)

namespace Passage

/-- The passage as it is written. -/
def render (p : Passage) : List Char :=
  p.lead.text ++ p.items.flatMap fun item => item.1.render ++ item.2.text

/-- The texts of the literals. -/
def tokens (p : Passage) : List (List Char) :=
  p.items.map (·.1.text)

/-- The prose before, between and behind the literals. -/
def prose (p : Passage) : List Prose :=
  p.lead :: p.items.map (·.2)

/-- A character that neither quotes nor escapes stands in a passage only with its literals and its
prose. -/
theorem notMem_render {p : Passage} {c : Char} (hquote : isQuote c = false) (hslash : c ≠ '\\')
    (htokens : ∀ token ∈ p.tokens, c ∉ token) (hprose : ∀ prose ∈ p.prose, c ∉ prose.text) :
    c ∉ p.render := by
  rw [prose, List.forall_mem_cons] at hprose
  simp only [render, List.mem_append, List.mem_flatMap, not_or, not_exists, not_and]
  refine ⟨hprose.1, fun item hitem => ⟨?_, ?_⟩⟩
  · exact Literal.notMem_render hquote hslash (htokens _ (List.mem_map_of_mem hitem))
  · exact hprose.2 _ (List.mem_map_of_mem hitem)

theorem spells (p : Passage) : Spells p.render p.tokens := by
  obtain ⟨lead, items⟩ := p
  refine (spells_of_quoteFree lead.quoteFree).append (s := []) ?_
  show Spells (items.flatMap fun item => item.1.render ++ item.2.text) (items.map (·.1.text))
  induction items with
  | nil => exact spells_nil
  | cons item items ih =>
    exact (item.1.spells_render.append (spells_of_quoteFree item.2.quoteFree)).append ih

end Passage

/-! ## Literals that are never closed -/

/-- The number of backslashes at the end of a text. -/
def slashes (text : List Char) : Nat :=
  (text.reverse.takeWhile (· == '\\')).length

/-- Whether a text ends in an odd number of backslashes is not changed by a text before it that does
not. -/
theorem odd_slashes_append {a : List Char} (ha : Even (slashes a)) (b : List Char) :
    Odd (slashes (a ++ b)) ↔ Odd (slashes b) := by
  have happend : slashes (a ++ b) = if slashes b = b.length then slashes a + b.length
      else slashes b := by
    rw [slashes, List.reverse_append, List.takeWhile_append, List.length_reverse, ← slashes]
    split
    · rw [List.length_append, List.length_reverse, ← slashes, Nat.add_comm]
    · rfl
  rw [happend]
  split
  · next hall => rw [← hall, Nat.odd_add', iff_true_right ha]
  · rfl

/-- A literal at the end of a text that is not closed there: its quote is always escaped. -/
structure OpenLiteral where
  quote : Char
  rest : List Char
  isQuote_quote : isQuote quote = true
  escaped : ∀ i < rest.length, rest[i]? = some quote → Odd (slashes (rest.take i))

/-- The literal as it is written. -/
def OpenLiteral.render (l : OpenLiteral) : List Char :=
  l.quote :: l.rest

theorem OpenLiteral.odd_slashes (l : OpenLiteral) (before after : List Char)
    (h : l.rest = before ++ l.quote :: after) : Odd (slashes before) := by
  simpa [h] using l.escaped before.length (by simp [h]) (by simp [h])

theorem literalsFrom_open {quote : Char} {rest : List Char}
    (h : ∀ before after, rest = before ++ quote :: after → Odd (slashes before))
    (taken : List Char) (done : List (List Char)) :
    literalsFrom (some (quote, taken)) done rest = done.reverse := by
  -- what is read in one step ends in an even number of backslashes, so that `h` holds behind it
  have hbehind {step rest : List Char} (hstep : Even (slashes step))
      (h : ∀ before after, step ++ rest = before ++ quote :: after → Odd (slashes before)) :
      ∀ before after, rest = before ++ quote :: after → Odd (slashes before) := by
    rintro before after rfl
    exact (odd_slashes_append hstep before).1 (h (step ++ before) after (by simp))
  induction hsize : rest.length using Nat.strong_induction_on generalizing rest taken with
  | _ size ih =>
    cases rest with
    | nil => rfl
    | cons c rest =>
      have hquote : c ≠ quote := by
        rintro rfl
        exact absurd (h [] rest rfl) (by decide)
      rw [List.length_cons] at hsize
      by_cases hc : c = '\\'
      · subst hc
        cases rest with
        | nil => simp [literalsFrom, hquote]
        | cons d rest =>
          have hpair : Even (slashes ['\\', d]) := by
            by_cases hd : d = '\\' <;> simp [slashes, hd]
          rw [List.length_cons] at hsize
          rw [literalsFrom]
          exact ih rest.length (by omega) (hbehind hpair h) _ rfl
      · have hsingle : Even (slashes [c]) := by simp [slashes, hc]
        rw [literalsFrom, if_neg (by simpa using hquote)]
        · exact ih rest.length (by omega) (hbehind hsingle h) _ rfl
        · exact fun _ _ hslash => absurd hslash hc

/-- The literals of a passage are read in order with their texts as they are, and a literal that is
never closed is left out. -/
theorem literals_passage (p : Passage) (last : Option OpenLiteral) :
    literals (p.render ++ (last.map OpenLiteral.render).getD []) = p.tokens := by
  rw [literals, p.spells, List.append_nil]
  cases last with
  | none => simp [literalsFrom]
  | some l =>
    rw [Option.map_some, Option.getD_some, OpenLiteral.render, literalsFrom, if_pos l.isQuote_quote,
      literalsFrom_open l.odd_slashes, List.reverse_reverse]

/-- Two literals with quotes and backslashes in them, behind lone backslashes. -/
def samplePassage : Passage where
  lead := .slash
  items := [
    (⟨'"', "it's".toList, isQuote_double⟩, .slash),
    (⟨'\'', "a\\'\"".toList, isQuote_single⟩, .none)]

/-- A literal that ends in a backslash behind an escaped quote. -/
def sampleOpen : OpenLiteral where
  quote := '\''
  rest := "x\\'\\".toList
  isQuote_quote := isQuote_single
  escaped := by decide

theorem literals_passage_sample :
    literals "\\\"it's\"\\'a\\\\\\'\"''x\\'\\".toList = ["it's".toList, "a\\'\"".toList] :=
  literals_passage samplePassage (some sampleOpen)

end AddonAtlas.Source
