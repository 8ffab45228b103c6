import AddonAtlas.Proofs.Source.Literal
import AddonAtlas.Source.Bracket

/-!
# Balanced text

A `Balanced` text is made of plain characters, quoted literals and bracketed balanced texts.  The
reader of a block passes over it with the same brackets open as before (`untilClosed_balanced`).
-/

namespace AddonAtlas.Source

open Text

/-- Is the character a bracket? -/
def isBracket (c : Char) : Bool :=
  ['[', ']', '(', ')', '{', '}'].contains c

/-- Is the character neither a quote nor a bracket? -/
def isPlain (c : Char) : Bool :=
  !isQuote c && !isBracket c

/-- Text in which every bracket is closed by its like. -/
inductive Balanced : List Char → Prop
  | nil : Balanced []
  | plain {c : Char} {rest : List Char} (hc : isPlain c = true) (h : Balanced rest) :
    Balanced (c :: rest)
  | literal {quote : Char} {body rest : List Char} (hquote : isQuote quote = true)
    (hbody : LiteralBody quote body) (h : Balanced rest) :
    Balanced (quote :: (body ++ quote :: rest))
  | group {first last : Char} {inner rest : List Char} (hclose : closer? first = some last)
    (hinner : Balanced inner) (h : Balanced rest) : Balanced (first :: (inner ++ last :: rest))

namespace Balanced

theorem append {a b : List Char} (ha : Balanced a) (hb : Balanced b) : Balanced (a ++ b) := by
  induction ha with
  | nil => exact hb
  | plain hc _ ih => exact .plain hc ih
  | literal hquote hbody _ ih =>
    rw [List.cons_append, List.append_assoc]
    exact .literal hquote hbody ih
  | group hclose hinner _ _ ih =>
    rw [List.cons_append, List.append_assoc]
    exact .group hclose hinner ih

theorem of_plain {text : List Char} (h : ∀ c ∈ text, isPlain c = true) : Balanced text := by
  induction text with
  | nil => exact .nil
  | cons c text ih => exact .plain (h c (by simp)) (ih fun d hd => h d (by simp [hd]))

theorem of_literal (l : Literal) : Balanced l.render :=
  .literal l.isQuote_quote (literalBody_escape l.quote l.text) .nil

theorem bracket {first last : Char} {inner : List Char} (hclose : closer? first = some last)
    (hinner : Balanced inner) : Balanced (first :: (inner ++ [last])) :=
  .group hclose hinner .nil

end Balanced

/-! ## The reader of a block -/

/-- A bracket is no quote, no blank and no word character. -/
theorem classes_of_isBracket {c : Char} (h : isBracket c = true) :
    isQuote c = false ∧ isBlank c = false ∧ isWord c = false := by
  simp only [isBracket, List.contains_iff_mem, List.mem_cons, List.not_mem_nil, or_false] at h
  rcases h with rfl | rfl | rfl | rfl | rfl | rfl <;> decide

theorem isPad_eq_false_of_isPlain_eq_false {c : Char} (h : isPlain c = false) :
    isPad c = false := by
  rw [Bool.eq_false_iff]
  intro hpad
  rcases isPad_eq_true_iff.1 hpad with rfl | rfl <;> exact absurd h (by decide)

theorem closer?_eq_some_iff {first last : Char} :
    closer? first = some last ↔
      first = '[' ∧ last = ']' ∨ first = '(' ∧ last = ')' ∨ first = '{' ∧ last = '}' := by
  unfold closer?
  split <;> simp_all [eq_comm]

theorem isBracket_of_closer? {first last : Char} (h : closer? first = some last) :
    isBracket first = true ∧ isBracket last = true := by
  rcases closer?_eq_some_iff.1 h with ⟨rfl, rfl⟩ | ⟨rfl, rfl⟩ | ⟨rfl, rfl⟩ <;> decide

theorem closer?_of_isPlain {c : Char} (h : isPlain c = true) : closer? c = none := by
  rw [Option.eq_none_iff_forall_ne_some]
  intro last hlast
  simp [isPlain, (isBracket_of_closer? hlast).1] at h

theorem closer?_of_isQuote {c : Char} (h : isQuote c = true) : closer? c = none := by
  rw [Option.eq_none_iff_forall_ne_some]
  intro last hlast
  simp [(classes_of_isBracket (isBracket_of_closer? hlast).1).1] at h

theorem untilClosed_literal {quote : Char} {body : List Char} (hbody : LiteralBody quote body)
    (hquote : isQuote quote = true) (closers taken rest : List Char) :
    untilClosed closers (some quote) taken (body ++ quote :: rest) =
      untilClosed closers none (quote :: (body.reverse ++ taken)) rest := by
  induction hbody generalizing taken with
  | nil =>
    rw [List.nil_append, untilClosed]
    · simp
    · exact fun _ _ h => absurd h (ne_backslash_of_isQuote hquote)
  | @plain c text hne hslash _ ih =>
    rw [List.cons_append, untilClosed, if_neg (by simpa using hne), ih]
    · simp
    · exact fun _ _ h => absurd h hslash
  | escaped c _ ih =>
    rw [List.cons_append, List.cons_append, untilClosed, ih]
    simp

section Steps

variable {c close : Char} (outer taken rest : List Char)

theorem untilClosed_quote (hc : isQuote c = true) (closers : List Char) :
    untilClosed closers none taken (c :: rest) =
      untilClosed closers (some c) (c :: taken) rest := by
  simp [untilClosed, hc]

theorem untilClosed_plain (hc : isPlain c = true) (hclose : isBracket close = true) :
    untilClosed (close :: outer) none taken (c :: rest) =
      untilClosed (close :: outer) none (c :: taken) rest := by
  have hne : c ≠ close := by
    rintro rfl
    simp [isPlain, hclose] at hc
  have hquote : isQuote c = false := by
    simp only [isPlain, Bool.and_eq_true, Bool.not_eq_true'] at hc
    exact hc.1
  simp [untilClosed, hquote, closer?_of_isPlain hc, hne]

theorem untilClosed_open (hc : closer? c = some close) (closers : List Char) :
    untilClosed closers none taken (c :: rest) =
      untilClosed (close :: closers) none (c :: taken) rest := by
  have hquote := (classes_of_isBracket (isBracket_of_closer? hc).1).1
  simp [untilClosed, hquote, hc]

theorem untilClosed_close {first : Char} (hclose : closer? first = some close) :
    untilClosed (close :: outer) none taken (close :: rest) =
      if outer.isEmpty then taken.reverse else untilClosed outer none (close :: taken) rest := by
  rcases closer?_eq_some_iff.1 hclose with ⟨-, rfl⟩ | ⟨-, rfl⟩ | ⟨-, rfl⟩ <;>
    simp [untilClosed, isQuote, closer?]

end Steps

/-- The reader passes over balanced text and awaits the same brackets as before. -/
theorem untilClosed_balanced {text : List Char} (h : Balanced text) {close : Char}
    (hclose : isBracket close = true) (outer taken rest : List Char) :
    untilClosed (close :: outer) none taken (text ++ rest) =
      untilClosed (close :: outer) none (text.reverse ++ taken) rest := by
  induction h generalizing close outer taken rest with
  | nil => rfl
  | plain hc _ ih =>
    rw [List.cons_append, untilClosed_plain _ _ _ hc hclose, ih hclose]
    simp
  | literal hquote hbody _ ih =>
    rw [List.cons_append, List.append_assoc, List.cons_append, untilClosed_quote _ _ hquote,
      untilClosed_literal hbody hquote, ih hclose]
    simp
  | group hgroup _ _ ihinner ih =>
    rw [List.cons_append, List.append_assoc, List.cons_append, untilClosed_open _ _ hgroup,
      ihinner (isBracket_of_closer? hgroup).2, untilClosed_close _ _ _ hgroup]
    simp only [List.isEmpty_cons, Bool.false_eq_true, if_false]
    rw [ih hclose]
    simp

end AddonAtlas.Source
