import AddonAtlas.Text.Scan

/-!
# Bracketed blocks

`block?` gives the text inside the bracket at the head of a source text. Brackets of all three
kinds nest, and brackets inside quoted literals do not count. A block is cut when it does not end
within a given number of characters.
-/

namespace AddonAtlas.Source

open Text

/-- The bracket that closes an opening one. -/
def closer? : Char → Option Char
  | '[' => some ']'
  | '(' => some ')'
  | '{' => some '}'
  | _ => none

/-- The text before the bracket that closes the outermost open one, or all of it. `closers` are the
closing brackets awaited, innermost first, `quote` is the quote of the open literal, and `taken` is
the text passed so far, held backwards. -/
def untilClosed (closers : List Char) (quote : Option Char) (taken : List Char) :
    List Char → List Char
  | [] => taken.reverse
  | c :: rest =>
    match quote with
    | some q =>
      match c, rest with
      | '\\', d :: rest' => untilClosed closers (some q) (d :: '\\' :: taken) rest'
      | c, rest => untilClosed closers (if c == q then none else some q) (c :: taken) rest
    | none =>
      if isQuote c then untilClosed closers (some c) (c :: taken) rest
      else
        match closer? c with
        | some close => untilClosed (close :: closers) none (c :: taken) rest
        | none =>
          match closers with
          | [] => untilClosed [] none (c :: taken) rest
          | close :: outer =>
            if c == close then
              if outer.isEmpty then taken.reverse else untilClosed outer none (c :: taken) rest
            else untilClosed (close :: outer) none (c :: taken) rest

/-- The text inside the bracket at the head of `text`, at most `cap` characters of it; nothing if
the text does not start with an opening bracket. -/
def block? (cap : Nat) : (text : List Char) → Option (List Char)
  | [] => none
  | c :: rest => (closer? c).map fun close => untilClosed [close] none [] (rest.take cap)

/-- The text inside the bracket at offset `start` of `text`, at most `cap` characters of it. -/
def blockAt? (text : List Char) (start cap : Nat) : Option (List Char) :=
  block? cap (text.drop start)

end AddonAtlas.Source
