import AddonAtlas.Yaml.Quoted

/-!
# Tags, anchors and directives

A tag names the kind of a node, by a handle and a suffix or in full. A directive at the head of a
document gives its version or a tag handle.
-/

namespace AddonAtlas.Yaml

/-- A tag as it is written. -/
structure TagName where
  handle : Option String
  suffix : String
  deriving DecidableEq, Repr

/-- A directive. -/
inductive Directive
  | version (major : Nat)
  | handle (name start : String)
  | other
  deriving DecidableEq, Repr

/-- May the character stand in the suffix of a tag? -/
def isTagPart (c : Char) : Bool :=
  c.isAlphanum || "-;/?:@&=+$,_.!~*'()[]%".toList.contains c

/-- The bytes of the escapes `%XX` at the head of a text, and the text after them. -/
def escapedBytes : List Char → Option (List UInt8 × List Char)
  | '%' :: a :: b :: rest => do
    let high ← hexValue? a
    let low ← hexValue? b
    let (more, rest) ← escapedBytes rest
    return ((16 * high + low).toUInt8 :: more, rest)
  | '%' :: _ => none
  | rest => some ([], rest)

/-- A tag suffix at the head of a text, with its escapes resolved, and the text after it. -/
def tagText : (fuel : Nat) → List Char → (done : List Char) → Option (List Char × List Char)
  | 0, _, _ => none
  | _ + 1, [], done => some (done.reverse, [])
  | fuel + 1, c :: rest, done =>
    if c == '%' then do
      let (bytes, rest) ← escapedBytes (c :: rest)
      let text ← String.fromUTF8? ⟨bytes.toArray⟩
      tagText fuel rest (text.toList.reverse ++ done)
    else if isTagPart c then tagText fuel rest (c :: done)
    else some (done.reverse, c :: rest)

/-- Passes a tag suffix, which is not empty. -/
def tagSuffix (c : Cursor) : Except Fault (String × Cursor) :=
  match tagText (c.rest.length + 1) c.rest [] with
  | some (text, rest) =>
    let size := c.rest.length - rest.length
    if size = 0 then .error .malformed else .ok (.ofList text, c.skip size)
  | none => .error .malformed

/-- Passes a tag handle: an exclamation mark, or a name between two of them. -/
def tagHandle (c : Cursor) : Except Fault (String × Cursor) :=
  match c.rest with
  | '!' :: rest =>
    if rest.head? == some ' ' then .ok ("!", c.step)
    else
      let name := rest.takeWhile isNamePart
      if (rest.drop name.length).head? == some '!' then
        .ok (.ofList ('!' :: name ++ ['!']), c.skip (name.length + 2))
      else .error .malformed
  | _ => .error .malformed

/-- Passes a tag. -/
def tagName (c : Cursor) : Except Fault (TagName × Cursor) := do
  let (name, c) ← match c.rest.drop 1 with
    | '<' :: _ => do
      let (suffix, c) ← tagSuffix (c.skip 2)
      unless c.rest.head? == some '>' do throw .malformed
      pure (⟨none, suffix⟩, c.step)
    | rest =>
      if atGap rest then pure (⟨none, "!"⟩, c.step)
      else do
        let word := rest.takeWhile fun d => !(d == ' ' || isBreak d)
        let (handle, c) ← if word.contains '!' then tagHandle c else pure ("!", c.step)
        let (suffix, c) ← tagSuffix c
        pure (⟨some handle, suffix⟩, c)
  unless atSpace c.rest do throw .malformed
  return (name, c)

/-- Passes the name of an anchor or an alias and the mark before it. -/
def anchorName (c : Cursor) : Except Fault (String × Cursor) :=
  let (name, c) := c.step.run isNamePart
  if name.isEmpty then .error .malformed
  else if atGap c.rest || c.rest.head?.any fun d => "?:,]\x7d%@\x60".toList.contains d then
    .ok (.ofList name, c)
  else .error .malformed

/-- Passes a whole number of a version. -/
def versionNumber (c : Cursor) : Except Fault (Nat × Cursor) :=
  let (digits, c) := c.run Char.isDigit
  if digits.isEmpty then .error .malformed
  else if Number.digitLimit < digits.length then .error (.int (.tooLong digits.length))
  else .ok (Number.natOfDigits digits, c)

/-- Passes the version of a directive. -/
def versionDirective (c : Cursor) : Except Fault (Directive × Cursor) := do
  let (major, c) ← versionNumber c.skipSpaces
  unless c.rest.head? == some '.' do throw .malformed
  let (_, c) ← versionNumber c.step
  unless atSpace c.rest do throw .malformed
  return (.version major, c)

/-- Passes the handle of a directive and what it stands for. -/
def handleDirective (c : Cursor) : Except Fault (Directive × Cursor) := do
  let (name, c) ← tagHandle c.skipSpaces
  unless c.rest.head? == some ' ' do throw .malformed
  let (start, c) ← tagSuffix c.skipSpaces
  unless atSpace c.rest do throw .malformed
  return (.handle name start, c)

/-- Passes a directive and its line. -/
def directive (c : Cursor) : Except Fault (Directive × Cursor) := do
  let (name, c) := c.step.run isNamePart
  if name.isEmpty || !atSpace c.rest then throw .malformed
  let (found, c) ← match String.ofList name with
    | "YAML" => versionDirective c
    | "TAG" => handleDirective c
    | _ => pure (.other, (c.run (!isBreak ·)).2)
  let c := c.skipComment
  unless atLineEnd c.rest do throw .malformed
  return (found, c.step)

end AddonAtlas.Yaml
