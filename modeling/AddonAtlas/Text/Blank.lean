import AddonAtlas.Text.Range

/-!
# Blanks and lines

Which characters are blank, which end a line, and the two cuts made with them: `strip` takes the
blanks off both ends of a text, and `lines` cuts a text at its line ends.
-/

namespace AddonAtlas.Text

/-- The ranges of blank characters. -/
def blankRanges : List (Nat × Nat) := [
  (0x9, 0xD), (0x1C, 0x20), (0x85, 0x85), (0xA0, 0xA0), (0x1680, 0x1680), (0x2000, 0x200A),
  (0x2028, 0x2029), (0x202F, 0x202F), (0x205F, 0x205F), (0x3000, 0x3000)]

/-- Is the character a space of any width, a tab or a separator? -/
def isBlank (c : Char) : Bool :=
  within blankRanges c

/-- Drops the leading blanks. -/
def dropBlanks (text : List Char) : List Char :=
  text.dropWhile isBlank

/-- Takes the characters that satisfy `p` off both ends. -/
def trimBoth (p : Char → Bool) (text : List Char) : List Char :=
  ((text.dropWhile p).reverse.dropWhile p).reverse

/-- Takes the blanks off both ends. -/
def strip (text : List Char) : List Char :=
  trimBoth isBlank text

/-- `strip` on a string. -/
def stripString (text : String) : String :=
  .ofList (strip text.toList)

/-- The ranges of characters that end a line. -/
def lineEndRanges : List (Nat × Nat) := [
  (0xA, 0xD), (0x1C, 0x1E), (0x85, 0x85), (0x2028, 0x2029)]

/-- Does the character end a line? -/
def isLineEnd (c : Char) : Bool :=
  within lineEndRanges c

/-- `lines` with the current line and the lines before it, both held backwards. -/
def linesFrom (line : List Char) (done : List (List Char)) : List Char → List (List Char)
  | [] => (if line.isEmpty then done else line.reverse :: done).reverse
  | '\r' :: '\n' :: rest => linesFrom [] (line.reverse :: done) rest
  | c :: rest =>
    if isLineEnd c then linesFrom [] (line.reverse :: done) rest
    else linesFrom (c :: line) done rest

/-- The lines of a text without their ends. A carriage return and the line feed after it are one
end, and the end of the last line opens no further line. -/
def lines (text : List Char) : List (List Char) :=
  linesFrom [] [] text

end AddonAtlas.Text
