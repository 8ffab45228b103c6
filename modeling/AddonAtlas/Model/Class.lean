import AddonAtlas.Source.Field

/-!
# Model classes

A model class is a class of a source file with a model base. Its text runs from its header to the
next class header. It may give the model a name, extend models (`_inherit`) and delegate to models
through link fields (`_inherits`).
-/

namespace AddonAtlas.Model

open Text Source

/-! ## Headers -/

/-- A class header: the name of the class and the text between its parentheses. -/
structure Header where
  className : String
  bases : List Char

/-- May a class name hold this character? -/
def isClassNamePart (c : Char) : Bool :=
  c.isAlphanum || c == '_'

/-- A class header, up to its colon. -/
def header? : Recogniser Header := fun _ text => do
  let rest ← after? "class".toList text
  let (gap₁, rest) := rest.span isBlank
  let (name, rest) := rest.span isClassNamePart
  let (gap₂, rest) := rest.span isBlank
  guard (!gap₁.isEmpty && !name.isEmpty)
  let rest ← after? ['('] rest
  let (bases, rest) := rest.span (· != ')')
  let rest ← after? [')'] rest
  let (gap₃, rest) := rest.span isBlank
  let _ ← after? [':'] rest
  return (⟨.ofList name, bases⟩,
    5 + gap₁.length + name.length + gap₂.length + 1 + bases.length + 1 + gap₃.length + 1)

/-- A model base: a whole word `models.Model`, `models.TransientModel` or `models.AbstractModel`. -/
def modelBase? (text : List Char) : Option Unit := do
  let rest ← after? "models.".toList text
  guard (["Model", "TransientModel", "AbstractModel"].any fun base =>
    (after? base.toList rest).any wordEnds)

/-- Is there a model base among the bases? -/
def hasModelBase (bases : List Char) : Bool :=
  (findFirst (fun _ text => modelBase? text) none bases).isSome

/-- The kinds of models. -/
inductive Kind
  | plain
  | transient
  | abstracted
  deriving DecidableEq, Repr

/-- The kind with this name, plain if there is none. -/
def Kind.ofName : String → Kind
  | "transient" => .transient
  | "abstract" => .abstracted
  | _ => .plain

/-- The name of a kind. -/
def Kind.name : Kind → String
  | .plain => "model"
  | .transient => "transient"
  | .abstracted => "abstract"

/-- The kind of a model with these bases: transient before abstract before plain. -/
def kindOf (bases : List Char) : Kind :=
  if contains "TransientModel".toList bases then .transient
  else if contains "AbstractModel".toList bases then .abstracted
  else .plain

/-! ## Delegation -/

/-- Which token of a delegation pair names the model. -/
inductive DelegationOrder
  | keyFirst
  | valueFirst
  deriving DecidableEq, Repr

/-- The order with this name; every name but one stands for `valueFirst`. -/
def DelegationOrder.ofName (name : String) : DelegationOrder :=
  if name == "key-first" then .keyFirst else .valueFirst

/-- The name of an order. -/
def DelegationOrder.name : DelegationOrder → String
  | .keyFirst => "key-first"
  | .valueFirst => "value-first"

/-- The tokens at even and at odd places. -/
def alternate {α : Type} : List α → List α × List α
  | [] => ([], [])
  | x :: rest =>
    let (evens, odds) := alternate rest
    (x :: odds, evens)

/-- The models and the link fields among the tokens of a delegation. -/
def splitDelegation {α : Type} (order : DelegationOrder) (tokens : List α) : List α × List α :=
  let (evens, odds) := alternate tokens
  match order with
  | .keyFirst => (evens, odds)
  | .valueFirst => (odds, evens)

/-- Does the token look like a field name: small letters, digits and underscores, no digit first?
One line end behind it does not count. -/
def looksLikeField (token : List Char) : Bool :=
  let part c := c.isLower || c.isDigit || c == '_'
  match token with
  | [] => false
  | c :: rest =>
    (c.isLower || c == '_') &&
      match rest.dropWhile part with
      | [] | ['\n'] => true
      | _ => false

/-- Do all targets look like fields and all links like models? -/
def looksReversed (targets links : List (List Char)) : Bool :=
  !targets.isEmpty && !links.isEmpty && targets.all looksLikeField && links.all (·.contains '.')

/-! ## Classes -/

/-- A model class found in a source file. -/
structure Class where
  module : String
  file : String
  className : String
  /-- The name of the model, empty if none is given. -/
  model : String
  kind : Kind
  inherits : List String := []
  delegates : List String := []
  deriving DecidableEq, Repr

/-- The name by which a model is known: its own, or else the class in its module. -/
def Class.identity (c : Class) : String :=
  if c.model == "" then c.module ++ "." ++ c.className else c.model

/-- The model classes of a file, and the warnings about them. -/
structure Parsed where
  classes : List Class := []
  warnings : List String := []
  deriving DecidableEq, Repr

/-- The text after a line end, spaces and tabs, `name`, an equals sign and more spaces and tabs. -/
def assignedAtLine? (name text : List Char) : Option (List Char) := do
  let rest ← after? ['\n'] text
  assigned? name (dropPads rest)

/-- The quoted name that a class gives to its model. -/
def modelName? (body : List Char) : Option String :=
  findFirst (fun _ text => do
    let value ← assignedAtLine? "_name".toList text
    let (name, _) ← betweenQuotes? value
    return .ofList name) none body

/-- The text from the opening brace of a delegation on. -/
def delegation? (body : List Char) : Option (List Char) :=
  findFirst (fun _ text => do
    let value ← assignedAtLine? "_inherits".toList text
    guard (value.head? == some '{')
    return value) none body

/-- The longest `_inherit` list that is read. -/
def inheritLimit : Nat := 4000

/-- What is said of a delegation that looks reversed. -/
def reversedWarning (file className : String) (targets : List (List Char)) : String :=
  file ++ ":" ++ className ++ " _inherits tokens look reversed (" ++
    ", ".intercalate (targets.map String.ofList) ++ "); check orm.delegated_order"

/-- The class with this header and this text, and a warning if its delegation looks reversed. -/
def parseClass (order : DelegationOrder) (cap : Nat) (module file : String) (header : Header)
    (body : List Char) : Class × Option String :=
  let inherits := ((assignmentValue? inheritLimit "_inherit".toList body).map literals).getD []
  let (targets, links) :=
    match delegation? body with
    | some value => splitDelegation order (literals ((block? cap value).getD []))
    | none => ([], [])
  let entry : Class := {
    module, file
    className := header.className
    model := (modelName? body).getD ((inherits.head?.map String.ofList).getD "")
    kind := kindOf header.bases
    inherits := inherits.map String.ofList
    delegates := targets.map String.ofList }
  (entry, if looksReversed targets links then some (reversedWarning file header.className targets)
    else none)

/-- The text of every header's class: from the header to the next one, at most `cap` characters.
The text starts at `offset` of the file. -/
def withBodies (cap offset : Nat) (text : List Char) :
    List (Found Header) → List (Header × List Char)
  | [] => []
  | first :: rest =>
    let text := text.drop (first.start - offset)
    let size := match rest with
      | [] => cap
      | next :: _ => min (next.start - first.start) cap
    (first.value, text.take size) :: withBodies cap first.start text rest

/-- The most characters of a class that are looked at, where nothing else is asked for. -/
def bodyLimit : Nat := 12000

/-- The model classes of a source file. -/
def parse (order : DelegationOrder) (cap : Nat) (module file : String) (content : List Char) :
    Parsed :=
  let found := ((withBodies cap 0 content (findAll header? content)).filter
    (hasModelBase ·.1.bases)).map fun (header, body) => parseClass order cap module file header body
  { classes := found.map (·.1), warnings := found.filterMap (·.2) }

end AddonAtlas.Model
