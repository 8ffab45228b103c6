import AddonAtlas.Text.Scan

/-!
# Tags

`tags name text` lists the tags of one name: opening, closing and self-closing ones. Text between
quotes inside a tag may hold `>`; a quote inside a tag that is never closed makes it no tag.
-/

namespace AddonAtlas.Markup

open Text

/-- The three forms of a tag. -/
inductive TagKind
  /-- The form `<name ...>`. -/
  | opening
  /-- The form `</name ...>`. -/
  | closing
  /-- The form `<name .../>`. -/
  | selfClosing
  deriving DecidableEq, Repr

/-- A tag without its place: its form and the text between its name and its end. -/
structure TagText where
  kind : TagKind
  inner : List Char

/-- The text of a tag behind its name, up to the `>` that ends it, whether a slash stands before
that, and how many characters it all takes. `quote` is the open quote and `taken` the text passed so
far, held backwards. -/
def tagTail? (quote : Option Char) (taken : List Char) :
    List Char → Option (List Char × Bool × Nat)
  | [] => none
  | c :: rest =>
    match quote with
    | some q => tagTail? (if c == q then none else some q) (c :: taken) rest
    | none =>
      match c, rest with
      | '>', _ => some (taken.reverse, false, taken.length + 1)
      | '/', '>' :: _ => some (taken.reverse, true, taken.length + 2)
      | c, rest => tagTail? (if isQuote c then some c else none) (c :: taken) rest

/-- Can a tag's name end before this text? -/
def nameEnds (rest : List Char) : Bool :=
  rest.head?.any fun c => isBlank c || c == '/' || c == '>'

/-- A tag behind its `<` or its `</`. -/
def tagBody? (name : List Char) (closing : Bool) (text : List Char) : Option (TagText × Nat) := do
  let rest ← after? name text
  guard (nameEnds rest)
  let (inner, slash, size) ← tagTail? none [] rest
  let kind := if closing then .closing else if slash then .selfClosing else .opening
  return (⟨kind, inner⟩, name.length + size)

/-- A tag with this name. -/
def tag? (name : List Char) : Recogniser TagText := fun _ text =>
  match text with
  | '<' :: '/' :: rest =>
    match tagBody? name true rest with
    | some (tag, size) => some (tag, size + 2)
    | none => (tagBody? name false ('/' :: rest)).map fun (tag, size) => (tag, size + 1)
  | '<' :: rest => (tagBody? name false rest).map fun (tag, size) => (tag, size + 1)
  | _ => none

/-- A tag and its place. -/
abbrev Tag := Found TagText

/-- The tags with this name, from left to right. -/
def tags (name text : List Char) : List Tag :=
  findAll (tag? name) text

end AddonAtlas.Markup
