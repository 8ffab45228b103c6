import AddonAtlas.Text.Blank
import AddonAtlas.Text.Word

/-!
# Scanning

The pieces that every recogniser of this library is made of. A recogniser looks at the text from
one position on; `findAll` runs it at every position from left to right, each time starting again
behind the last match.
-/

namespace AddonAtlas.Text

/-- The text after `word`, when the text starts with it. -/
def after? : (word text : List Char) → Option (List Char)
  | [], text => some text
  | _ :: _, [] => none
  | w :: word, c :: text => if w == c then after? word text else none

/-- Does `word` occur somewhere in the text? -/
def contains (word : List Char) : List Char → Bool
  | [] => word.isEmpty
  | c :: text => (after? word (c :: text)).isSome || contains word text

/-- Does no word character follow? -/
def wordEnds (rest : List Char) : Bool :=
  !rest.head?.any isWord

/-- Is the character a space or a tab? -/
def isPad (c : Char) : Bool :=
  c == ' ' || c == '\t'

/-- Drops the leading spaces and tabs. -/
def dropPads (text : List Char) : List Char :=
  text.dropWhile isPad

/-- Is the character one of the two quotes of source text? -/
def isQuote (c : Char) : Bool :=
  c == '\'' || c == '"'

/-- A non-empty run of characters between two quotes, which need not be alike, and the text after
it. The run holds no quote. -/
def betweenQuotes? : List Char → Option (List Char × List Char)
  | [] => none
  | c :: rest =>
    if isQuote c then
      match rest.span fun d => !isQuote d with
      | (_ :: _, []) => none
      | ([], _) => none
      | (inner, _ :: rest') => some (inner, rest')
    else none

/-- What a recogniser found: where it starts, where it stops, its value and the text after it. -/
structure Found (α : Type) where
  start : Nat
  stop : Nat
  value : α
  rest : List Char

/-- Recognises something at the head of a text, given the character before it, and tells how many
characters it takes. -/
abbrev Recogniser (α : Type) :=
  (before : Option Char) → (text : List Char) → Option (α × Nat)

/-- `findAll` at an offset of the text, with `skip` characters still to pass over and the matches
so far, held backwards. -/
def findAllFrom {α : Type} (recognise : Recogniser α) (before : Option Char) (offset skip : Nat)
    (found : List (Found α)) : List Char → List (Found α)
  | [] => found.reverse
  | c :: text =>
    match skip with
    | skip + 1 => findAllFrom recognise (some c) (offset + 1) skip found text
    | 0 =>
      match recognise before (c :: text) with
      | none => findAllFrom recognise (some c) (offset + 1) 0 found text
      | some (value, size) =>
        let stop := offset + size
        findAllFrom recognise (some c) (offset + 1) (size - 1)
          (⟨offset, stop, value, text.drop (size - 1)⟩ :: found) text

/-- The matches of a recogniser from left to right, none of which overlap. -/
def findAll {α : Type} (recognise : Recogniser α) (text : List Char) : List (Found α) :=
  findAllFrom recognise none 0 0 [] text

/-- The first position, from left to right, at which `recognise` succeeds. -/
def findFirst {α : Type} (recognise : Option Char → List Char → Option α) (before : Option Char) :
    List Char → Option α
  | [] => recognise before []
  | c :: text =>
    match recognise before (c :: text) with
    | some value => some value
    | none => findFirst recognise (some c) text

end AddonAtlas.Text
