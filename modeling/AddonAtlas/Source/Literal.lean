import AddonAtlas.Text.Scan

/-!
# Quoted literals

`literals` lists the quoted literals of a source text. A literal opens with a quote and closes at
the same quote, unless a backslash stands before it; the other quote may stand inside. A literal
that never closes is left out.
-/

namespace AddonAtlas.Source

open Text

/-- What a backslash and the character after it stand for, held backwards: a quote or a backslash
stands for itself, and before any other character the backslash stays. -/
def escaped (c : Char) : List Char :=
  if isQuote c || c == '\\' then [c] else [c, '\\']

/-- `literals` with the literal that is open, if any, as its quote and its text so far, and the
literals before it. Both lists are held backwards. -/
def literalsFrom (pending : Option (Char × List Char)) (done : List (List Char)) :
    List Char → List (List Char)
  | [] => done.reverse
  | c :: rest =>
    match pending with
    | none => literalsFrom (if isQuote c then some (c, []) else none) done rest
    | some (quote, taken) =>
      match c, rest with
      | '\\', d :: rest' => literalsFrom (some (quote, escaped d ++ taken)) done rest'
      | c, rest =>
        if c == quote then literalsFrom none (taken.reverse :: done) rest
        else literalsFrom (some (quote, c :: taken)) done rest

/-- The quoted literals of a text in order of appearance, with their escapes resolved. -/
def literals (text : List Char) : List (List Char) :=
  literalsFrom none [] text

end AddonAtlas.Source
