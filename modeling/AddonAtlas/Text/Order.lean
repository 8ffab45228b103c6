import AddonAtlas.Text.Case

/-!
# Orders on texts

Texts are ordered by code points. `distinctSorted` lists the distinct members of a list in that
order, and `insertText` adds a text to such a list; `sortOn` sorts by a key and keeps the order of
members with equal keys; `nameKey` orders names first without regard to case, then by code points.
-/

namespace AddonAtlas.Text

/-- Keeps one of every run of equal neighbours. -/
def dropRepeats {α : Type} [BEq α] : List α → List α
  | [] => []
  | [x] => [x]
  | x :: y :: rest => if x == y then dropRepeats (y :: rest) else x :: dropRepeats (y :: rest)

/-- The distinct texts of a list in increasing order. -/
def distinctSorted (texts : List String) : List String :=
  dropRepeats (texts.mergeSort fun a b => decide (a ≤ b))

/-- The distinct texts of a list in increasing order, with one more text. -/
def insertText (text : String) : List String → List String
  | [] => [text]
  | first :: rest =>
    if text == first then first :: rest
    else if text ≤ first then text :: first :: rest
    else first :: insertText text rest

/-- The distinct texts of a list in increasing order, with more texts. -/
def insertTexts (texts list : List String) : List String :=
  texts.foldl (fun list text => insertText text list) list

/-- A sort key: texts that are compared one after the other. -/
abbrev Key := List String

/-- Does a key stand before another one, or equal it? -/
def Key.le : Key → Key → Bool
  | [], _ => true
  | _ :: _, [] => false
  | a :: as, b :: bs => if a == b then Key.le as bs else decide (a ≤ b)

/-- Sorts by a key; members with equal keys keep their order. -/
def sortOn {α : Type} (key : α → Key) (members : List α) : List α :=
  ((members.map fun m => (key m, m)).mergeSort fun a b => a.1.le b.1).map (·.2)

/-- The sort key of a name: names that differ only in case stand together, capitals first. -/
def nameKey (name : String) : Key :=
  [foldString name, name]

/-- The names in the order of `nameKey`. -/
def sortNames (names : List String) : List String :=
  sortOn nameKey names

end AddonAtlas.Text
