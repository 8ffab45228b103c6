import AddonAtlas.Yaml.Block
import AddonAtlas.Yaml.Plain
import AddonAtlas.Yaml.Tag

/-!
# Tokens of a YAML text

The text is cut into tokens from left to right. Indentation is turned into tokens that open and
close block collections. What turns out to be a key only at the colon behind it gets its token in
front of it after the fact; such a key stands on one line and has at most 1024 characters.
-/

namespace AddonAtlas.Yaml

/-- A token. -/
inductive Token
  | directive (d : Directive)
  | documentStart
  | documentEnd
  | streamEnd
  | blockSequenceStart
  | blockMappingStart
  | blockEnd
  | flowSequenceStart
  | flowSequenceEnd
  | flowMappingStart
  | flowMappingEnd
  | blockEntry
  | flowEntry
  | key
  | value
  | reference (name : String)
  | anchor (name : String)
  | tag (name : TagName)
  | scalar (text : String) (plain : Bool)
  /-- The text cannot be cut further. -/
  | fault (f : Fault)
  deriving DecidableEq, Repr

/-- Where a key may have started. -/
structure PossibleKey where
  /-- The number of tokens before it. -/
  token : Nat
  /-- Must it turn out to be a key? -/
  required : Bool
  index : Nat
  line : Nat
  column : Nat

/-- The state of cutting a text into tokens. -/
structure Scanner where
  cursor : Cursor
  tokens : Array Token := #[]
  /-- The number of open brackets. -/
  depth : Nat := 0
  indent : Int := -1
  /-- The indentations of the enclosing block collections. -/
  indents : List Int := []
  /-- May a key start here? -/
  keyAllowed : Bool := true
  /-- The key that may have started inside the innermost bracket. -/
  possible : Option PossibleKey := none
  /-- Those inside the enclosing brackets. -/
  outer : List (Option PossibleKey) := []
  finished : Bool := false

namespace Scanner

/-- Are we inside brackets? -/
def inFlow (s : Scanner) : Bool :=
  s.depth != 0

/-- Adds a token. -/
def emit (s : Scanner) (t : Token) : Scanner :=
  { s with tokens := s.tokens.push t }

/-- Adds a token for the next characters. -/
def emitMark (s : Scanner) (size : Nat) (t : Token) : Scanner :=
  { s with tokens := s.tokens.push t, cursor := s.cursor.skip size }

/-! ## Keys -/

/-- Can a key that started there no longer end here? -/
def isStale (c : Cursor) (k : PossibleKey) : Bool :=
  k.line != c.line || 1024 < c.index - k.index

/-- Gives up a key, unless it has to be one. -/
def giveUp (k : Option PossibleKey) : Except Fault (Option PossibleKey) :=
  if k.any (·.required) then .error .malformed else .ok none

/-- Gives up a key if it is stale. -/
def expire (c : Cursor) (k : Option PossibleKey) : Except Fault (Option PossibleKey) :=
  if k.any (isStale c) then giveUp k else .ok k

/-- Gives up all stale keys. -/
def expireKeys (s : Scanner) : Except Fault Scanner :=
  return { s with
    possible := ← expire s.cursor s.possible
    outer := ← s.outer.mapM (expire s.cursor) }

/-- Gives up the key inside the innermost bracket. -/
def forgetKey (s : Scanner) : Except Fault Scanner :=
  return { s with possible := ← giveUp s.possible }

/-- Notes that a key may start here. -/
def noteKey (s : Scanner) : Except Fault Scanner :=
  if s.keyAllowed then do
    let s ← s.forgetKey
    let c := s.cursor
    let required := !s.inFlow && s.indent == c.column
    return { s with possible := some ⟨s.tokens.size, required, c.index, c.line, c.column⟩ }
  else .ok s

/-! ## Indentation -/

/-- Closes the block collections that are indented more than `column`. -/
def unwindFrom (column : Int) (tokens : Array Token) (indent : Int) :
    List Int → Array Token × Int × List Int
  | [] => (tokens, indent, [])
  | outer :: rest =>
    if column < indent then unwindFrom column (tokens.push .blockEnd) outer rest
    else (tokens, indent, outer :: rest)

/-- Closes the block collections that are indented more than `column`; brackets keep them open. -/
def unwind (column : Int) (s : Scanner) : Scanner :=
  if s.inFlow then s
  else
    let (tokens, indent, indents) := unwindFrom column s.tokens s.indent s.indents
    { s with tokens, indent, indents }

/-- Opens a block collection at `column`, with its token before the token number `place`, unless
one is open there. -/
def openBlock (s : Scanner) (column place : Nat) (t : Token) : Scanner :=
  if !s.inFlow && s.indent < column then
    { s with
      tokens := s.tokens.insertIdxIfInBounds place t
      indents := s.indent :: s.indents
      indent := column }
  else s

/-! ## Tokens -/

/-- Passes blanks, comments and line ends. After a line end a key may start, except inside
brackets. -/
def skipBlanks : (fuel : Nat) → Scanner → Scanner
  | 0, s => s
  | fuel + 1, s =>
    let c := s.cursor
    let c := if c.index == 0 && c.rest.head? == some byteOrderMark then c.step else c
    let c := c.skipComment
    match c.rest with
    | ch :: _ =>
      if isBreak ch then
        skipBlanks fuel { s with cursor := c.step, keyAllowed := s.keyAllowed || !s.inFlow }
      else { s with cursor := c }
    | [] => { s with cursor := c }

/-- The end of the text. -/
def finish (s : Scanner) : Except Fault Scanner := do
  let s ← (s.unwind (-1)).forgetKey
  return { s.emit .streamEnd with finished := true }

/-- A directive. -/
def readDirective (s : Scanner) : Except Fault Scanner := do
  let s ← (s.unwind (-1)).forgetKey
  let (d, cursor) ← directive s.cursor
  return { s.emit (.directive d) with cursor, keyAllowed := false }

/-- The start or the end of a document. -/
def readSeparator (s : Scanner) (t : Token) : Except Fault Scanner := do
  let s ← (s.unwind (-1)).forgetKey
  return { s.emitMark 3 t with keyAllowed := false }

/-- An opening bracket. -/
def openFlow (s : Scanner) (t : Token) : Except Fault Scanner := do
  let s ← s.noteKey
  return { s.emitMark 1 t with
    depth := s.depth + 1, keyAllowed := true, possible := none, outer := s.possible :: s.outer }

/-- A closing bracket. -/
def closeFlow (s : Scanner) (t : Token) : Except Fault Scanner := do
  let s ← s.forgetKey
  match s.outer with
  | [] => throw .malformed
  | possible :: outer =>
    return { s.emitMark 1 t with depth := s.depth - 1, keyAllowed := false, possible, outer }

/-- A comma between the items of a flow collection. -/
def readFlowEntry (s : Scanner) : Except Fault Scanner := do
  return { (← s.forgetKey).emitMark 1 .flowEntry with keyAllowed := true }

/-- The dash before an item of a block sequence. -/
def readBlockEntry (s : Scanner) : Except Fault Scanner := do
  unless s.inFlow || s.keyAllowed do throw .malformed
  let s ← (s.openBlock s.cursor.column s.tokens.size .blockSequenceStart).forgetKey
  return { s.emitMark 1 .blockEntry with keyAllowed := true }

/-- The question mark before a key. -/
def readKey (s : Scanner) : Except Fault Scanner := do
  unless s.inFlow || s.keyAllowed do throw .malformed
  let s ← (s.openBlock s.cursor.column s.tokens.size .blockMappingStart).forgetKey
  return { s.emitMark 1 .key with keyAllowed := !s.inFlow }

/-- The colon before a value. If a key may have started before it, that was one. -/
def readValue (s : Scanner) : Except Fault Scanner :=
  match s.possible with
  | some k =>
    let s := { s with
      tokens := s.tokens.insertIdxIfInBounds k.token .key, possible := none, keyAllowed := false }
    .ok ((s.openBlock k.column k.token .blockMappingStart).emitMark 1 .value)
  | none => do
    unless s.inFlow || s.keyAllowed do throw .malformed
    let s := s.openBlock s.cursor.column s.tokens.size .blockMappingStart
    return { s.emitMark 1 .value with keyAllowed := !s.inFlow }

/-- An alias or an anchor. -/
def readAnchor (s : Scanner) (token : String → Token) : Except Fault Scanner := do
  let s ← s.noteKey
  let (name, cursor) ← anchorName s.cursor
  return { s.emit (token name) with cursor, keyAllowed := false }

/-- A tag. -/
def readTag (s : Scanner) : Except Fault Scanner := do
  let s ← s.noteKey
  let (name, cursor) ← tagName s.cursor
  return { s.emit (.tag name) with cursor, keyAllowed := false }

/-- A block scalar. -/
def readBlockScalar (s : Scanner) (folded : Bool) : Except Fault Scanner := do
  let s ← s.forgetKey
  let (text, cursor) ← blockScalar folded s.indent s.cursor
  return { s.emit (.scalar (.ofList text) false) with cursor, keyAllowed := true }

/-- A quoted scalar. -/
def readQuoted (s : Scanner) (quote : Char) : Except Fault Scanner := do
  let s ← s.noteKey
  let (text, cursor) ← quotedScalar quote s.cursor
  return { s.emit (.scalar (.ofList text) false) with cursor, keyAllowed := false }

/-- A plain scalar. -/
def readPlain (s : Scanner) : Except Fault Scanner := do
  let s ← s.noteKey
  let found := plainScalar s.inFlow s.indent s.cursor
  return { s.emit (.scalar (.ofList found.text) true) with
    cursor := found.cursor, keyAllowed := found.brokeLine }

/-- May a plain scalar start with this character, and the text after it? -/
def plainStarts (inFlow : Bool) (c : Char) (rest : List Char) : Bool :=
  !(isPad c || isBreak c || "-?:,[]\x7b\x7d#&*!|>'\"%@\x60".toList.contains c) ||
    (!atGap rest && (c == '-' || (!inFlow && (c == '?' || c == ':'))))

/-- Reads the next token, or several that belong together. -/
def next (s : Scanner) : Except Fault Scanner := do
  let s ← (s.skipBlanks (s.cursor.rest.length + 1)).expireKeys
  let s := s.unwind s.cursor.column
  let text := s.cursor.rest
  match text with
  | [] => s.finish
  | c :: rest =>
    let atStart := s.cursor.column == 0
    if c == '%' && atStart then s.readDirective
    else if c == '-' && atStart && atSeparator text then s.readSeparator .documentStart
    else if c == '.' && atStart && atSeparator text then s.readSeparator .documentEnd
    else if c == '[' then s.openFlow .flowSequenceStart
    else if c == '{' then s.openFlow .flowMappingStart
    else if c == ']' then s.closeFlow .flowSequenceEnd
    else if c == '}' then s.closeFlow .flowMappingEnd
    else if c == ',' then s.readFlowEntry
    else if c == '-' && atGap rest then s.readBlockEntry
    else if c == '?' && (s.inFlow || atGap rest) then s.readKey
    else if c == ':' && (s.inFlow || atGap rest) then s.readValue
    else if c == '*' then s.readAnchor .reference
    else if c == '&' then s.readAnchor .anchor
    else if c == '!' then s.readTag
    else if c == '|' && !s.inFlow then s.readBlockScalar false
    else if c == '>' && !s.inFlow then s.readBlockScalar true
    else if c == '\'' || c == '"' then s.readQuoted c
    else if plainStarts s.inFlow c rest then s.readPlain
    else throw .malformed

/-- Reads tokens until the text ends or cannot be cut. -/
def readAll : (fuel : Nat) → Scanner → Array Token
  | 0, s => s.tokens.push (.fault .malformed)
  | fuel + 1, s =>
    match s.next with
    | .error f => s.tokens.push (.fault f)
    | .ok s => if s.finished then s.tokens else readAll fuel s

end Scanner

/-- The tokens of a text. -/
def tokens (text : List Char) : List Token :=
  if text.all isAllowed then
    (Scanner.readAll (text.length + 1) { cursor := { rest := text } }).toList
  else [.fault .malformed]

end AddonAtlas.Yaml
