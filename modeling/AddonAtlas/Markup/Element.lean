import AddonAtlas.Markup.Attribute
import AddonAtlas.Markup.Tag
import AddonAtlas.Text.Order

/-!
# Elements

The elements of one name in a text that need not be well formed. A closing tag closes the last
opening tag that is still open. An opening tag that is never closed gives an element too: it ends
where the next opening tag starts, so that it takes nothing from the elements after it. The body of
an element is cut at a given number of characters.
-/

namespace AddonAtlas.Markup

open Text

/-- An element and its place in the text. -/
structure Element where
  start : Nat
  stop : Nat
  attributes : Attributes := []
  body : List Char := []
  selfClosing : Bool := false
  closed : Bool := true

namespace Element

/-- The value of an attribute, empty if it is missing. -/
def attr (e : Element) (name : String) : String :=
  (e.attributes.lookup name).getD ""

/-- The body without the blanks around it. -/
def text (e : Element) : String :=
  .ofList (strip e.body)

/-- The element of a self-closing tag. -/
def ofSelfClosing (tag : Tag) : Element where
  start := tag.start
  stop := tag.stop
  attributes := Markup.attributes tag.value.inner
  selfClosing := true

/-- The element between an opening tag and the closing tag that closes it. -/
def ofPair (cap : Nat) (first last : Tag) : Element where
  start := first.start
  stop := last.stop
  attributes := Markup.attributes first.value.inner
  body := first.rest.take (min (last.start - first.stop) cap)

/-- The element of an opening tag that is never closed, where the next opening tag starts at
`next`. -/
def ofUnclosed (cap next : Nat) (first : Tag) : Element where
  start := first.start
  stop := min next (first.stop + cap)
  attributes := Markup.attributes first.value.inner
  body := first.rest.take (min (next - first.stop) cap)
  closed := false

end Element

/-- The elements of a list of tags, in no particular order. `pending` holds the opening tags that
are still open, last one first, each with the start of the opening tag after it. -/
def pairTags (cap : Nat) (pending : List (Tag × Nat)) (done : List Element) :
    List (Tag × Nat) → List Element
  | [] => pending.map (fun (tag, next) => .ofUnclosed cap next tag) ++ done
  | (tag, next) :: rest =>
    match tag.value.kind with
    | .opening => pairTags cap ((tag, next) :: pending) done rest
    | .selfClosing => pairTags cap pending (.ofSelfClosing tag :: done) rest
    | .closing =>
      match pending with
      | [] => pairTags cap [] done rest
      | (first, _) :: pending => pairTags cap pending (.ofPair cap first tag :: done) rest

/-- Adds to every tag the start of the first opening tag after it, or the length of the text. -/
def withNextOpening (size : Nat) (tags : List Tag) : List (Tag × Nat) :=
  (tags.foldr (fun tag (next, done) =>
    (if tag.value.kind = .opening then tag.start else next, (tag, next) :: done)) (size, [])).2

/-- The elements with this name in order of their starts. -/
def elements (name : List Char) (cap : Nat) (text : List Char) : List Element :=
  (pairTags cap [] [] (withNextOpening text.length (tags name text))).mergeSort
    fun a b => decide (a.start ≤ b.start)

/-- `outermost` for elements behind a place up to which the text is taken. -/
def outermostFrom (taken : Nat) : List Element → List Element
  | [] => []
  | e :: rest =>
    if e.start < taken then outermostFrom taken rest else e :: outermostFrom e.stop rest

/-- The elements that do not start inside one kept before them. -/
def outermost (elements : List Element) : List Element :=
  outermostFrom 0 elements

/-- The largest body of an element, where nothing else is asked for. -/
def bodyLimit : Nat := 200000

end AddonAtlas.Markup
