import AddonAtlas.Yaml.Quoted

/-!
# Plain scalars

A plain scalar has no quotes. It ends at a comment, at a colon before a blank, at a line that is not
indented enough, and inside brackets at the characters that have a meaning there.
-/

namespace AddonAtlas.Yaml

/-- The characters that divide and enclose the items of a flow collection. -/
def flowMarks : List Char := [',', '[', ']', '{', '}']

/-- Does a plain scalar end before this text? -/
def plainStops (inFlow : Bool) : List Char → Bool
  | [] => true
  | c :: rest =>
    atGap (c :: rest) ||
      (c == ':' && (atGap rest || (inFlow && rest.head?.any fun d => flowMarks.contains d))) ||
      (inFlow && (c == '?' || flowMarks.contains c))

/-- A word of a plain scalar, with its text so far, held backwards. -/
def plainWord (inFlow : Bool) (taken : List Char) : List Char → List Char
  | [] => taken.reverse
  | c :: rest =>
    if plainStops inFlow (c :: rest) then taken.reverse else plainWord inFlow (c :: taken) rest

/-- The line ends of the blank lines between two lines of a plain scalar, and the cursor behind
them. There are none where a document starts or ends. -/
def plainLines : (fuel : Nat) → Cursor → (done : List Char) → Option (List Char) × Cursor
  | 0, c, _ => (none, c)
  | fuel + 1, c, done =>
    let c := c.skipSpaces
    match c.rest with
    | ch :: _ =>
      if isBreak ch then
        if atSeparator c.step.rest then (none, c.step)
        else plainLines fuel c.step (breakChar ch :: done)
      else (some done.reverse, c)
    | [] => (some done.reverse, c)

/-- What stands between two words of a plain scalar, if there may be another one. -/
def plainGap (c : Cursor) : Option (List Char) × Cursor :=
  let (spaces, c) := c.run (· == ' ')
  match c.rest with
  | ch :: rest =>
    if isBreak ch then
      if atSeparator rest then (none, c.step)
      else
        let (more?, c) := plainLines (rest.length + 1) c.step []
        (more?.map (fold (breakChar ch)), c)
    else (some spaces, c)
  | [] => (some spaces, c)

/-- A plain scalar: its text, the cursor behind it, and whether a line end was passed. -/
structure PlainScalar where
  text : List Char
  cursor : Cursor
  brokeLine : Bool

/-- The rest of a plain scalar. `gap` stands between the text so far, held backwards, and the next
word. -/
def plainFrom (inFlow : Bool) (indent : Int) :
    (fuel : Nat) → Cursor → (gap done : List Char) → (brokeLine : Bool) → PlainScalar
  | 0, c, _, done, broke => ⟨done.reverse, c, broke⟩
  | fuel + 1, c, gap, done, broke =>
    let word := if c.rest.head? == some '#' then [] else plainWord inFlow [] c.rest
    if word.isEmpty then ⟨done.reverse, c, broke⟩
    else
      let done := word.reverse ++ (gap.reverse ++ done)
      let c := c.skip word.length
      let (gap?, c') := plainGap c
      let broke := c.line != c'.line
      match gap? with
      | none => ⟨done.reverse, c', broke⟩
      | some gap =>
        if gap.isEmpty || c'.rest.head? == some '#' || (!inFlow && (c'.column : Int) < indent) then
          ⟨done.reverse, c', broke⟩
        else plainFrom inFlow indent fuel c' gap done broke

/-- The plain scalar at a cursor, where `indent` is the indentation of what encloses it. -/
def plainScalar (inFlow : Bool) (indent : Int) (c : Cursor) : PlainScalar :=
  plainFrom inFlow (indent + 1) (c.rest.length + 1) c [] [] false

end AddonAtlas.Yaml
