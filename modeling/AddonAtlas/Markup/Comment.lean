import AddonAtlas.Text.Scan

/-!
# Comments

A comment runs from `<!--` to the nearest `-->` after it. `blankComments` writes a space over every
character of every comment, so that nothing else moves.
-/

namespace AddonAtlas.Markup

open Text

/-- Does a comment that is open here come to its end? -/
def commentEnds (text : List Char) : Bool :=
  contains ['-', '-', '>'] text

/-- `blankComments` from a position inside or outside of a comment on, with the text before it, held
backwards. -/
def blankFrom (inside : Bool) (done : List Char) : List Char → List Char
  | [] => done.reverse
  | c :: rest =>
    match inside, c, rest with
    | true, '-', '-' :: '>' :: rest' => blankFrom false (' ' :: ' ' :: ' ' :: done) rest'
    | true, _, rest => blankFrom true (' ' :: done) rest
    | false, '<', '!' :: '-' :: '-' :: rest' =>
      if commentEnds rest' then blankFrom true (' ' :: ' ' :: ' ' :: ' ' :: done) rest'
      else done.reverse ++ '<' :: '!' :: '-' :: '-' :: rest'
    | false, c, rest => blankFrom false (c :: done) rest

/-- The text with a space in place of every character of a comment. -/
def blankComments (text : List Char) : List Char :=
  blankFrom false [] text

end AddonAtlas.Markup
