import AddonAtlas.Text.CaseTable

/-!
# Letter case

Small, capital and title forms of a text, and the folded form that compares texts regardless of
case. A letter may turn into several (`ß` is `SS` in capitals), and the capital sigma has a small
form of its own at the end of a word.
-/

namespace AddonAtlas.Text

/-- Does the letter have a case? -/
def isCased (c : Char) : Bool :=
  within casedRanges c

/-- Is the character passed over when looking for a cased neighbour? -/
def isCaseIgnorable (c : Char) : Bool :=
  within caseIgnorableRanges c

/-- Is the nearest character that counts a cased one? -/
def facesCased (neighbours : List Char) : Bool :=
  match neighbours.dropWhile isCaseIgnorable with
  | [] => false
  | c :: _ => isCased c

/-- The small form of a letter between the text `before` it, held backwards, and the text `after`
it. A capital sigma that ends a word becomes a final sigma. -/
def lowerAt (before : List Char) (c : Char) (after : List Char) : List Char :=
  if c.toNat < 128 then [c.toLower]
  else if c == 'Σ' then [if facesCased before && !facesCased after then 'ς' else 'σ']
  else recase lowerLong lowerRuns c

/-- The capital form of a letter. -/
def upperOf (c : Char) : List Char :=
  if c.toNat < 128 then [c.toUpper] else recase upperLong upperRuns c

/-- The form of a letter at the head of a word. -/
def titleOf (c : Char) : List Char :=
  if c.toNat < 128 then [c.toUpper]
  else if within titleSame c then [c]
  else
    match titleLong.lookup c.toNat with
    | some points => points.map Char.ofNat
    | none => upperOf c

/-- The form of a letter when case does not count. -/
def foldOf (c : Char) : List Char :=
  if c.toNat < 128 then [c.toLower] else recase foldLong foldRuns c

/-- `lower` with the text before the current letter and the result so far, both held backwards. -/
def lowerFrom (before done : List Char) : List Char → List Char
  | [] => done.reverse
  | c :: after => lowerFrom (c :: before) ((lowerAt before c after).reverse ++ done) after

/-- The text in small letters. -/
def lower (text : List Char) : List Char :=
  lowerFrom [] [] text

/-- The text in capitals. -/
def upper (text : List Char) : List Char :=
  text.flatMap upperOf

/-- The text as it compares when case does not count. -/
def fold (text : List Char) : List Char :=
  text.flatMap foldOf

/-- `title` with the text before the current letter and the result so far, both held backwards. -/
def titleFrom (before done : List Char) : List Char → List Char
  | [] => done.reverse
  | c :: after =>
    let inWord := before.head?.any isCased
    let form := if inWord then lowerAt before c after else titleOf c
    titleFrom (c :: before) (form.reverse ++ done) after

/-- The text with every word in small letters after its first letter, which stands in its title
form. A word is a run of letters that have a case. -/
def title (text : List Char) : List Char :=
  titleFrom [] [] text

/-- `lower` on a string. -/
def lowerString (text : String) : String :=
  .ofList (lower text.toList)

/-- `fold` on a string. -/
def foldString (text : String) : String :=
  .ofList (fold text.toList)

/-- `title` on a string. -/
def titleString (text : String) : String :=
  .ofList (title text.toList)

end AddonAtlas.Text
