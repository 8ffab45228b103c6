import AddonAtlas.Text.Order

/-!
# Tallies

A tally holds names, each as often as it was counted. `ranked` lists the names with their counts,
the most frequent first and names with equal counts in increasing order. `answers` is what a tally
tells while it is filled and asked in turn.
-/

namespace AddonAtlas

open Text

/-- Names, each as often as it was counted. -/
structure Tally where
  names : List String := []

namespace Tally

/-- Counts every name of a list once, however often the list holds it. -/
def addDistinct (t : Tally) (names : List String) : Tally :=
  ⟨distinctSorted names ++ t.names⟩

/-- How often a name was counted. -/
def count (t : Tally) (name : String) : Nat :=
  t.names.count name

/-- The names with their counts in increasing order of the names. -/
def counts (t : Tally) : List (String × Nat) :=
  ((t.names.mergeSort fun a b => decide (a ≤ b)).splitBy (· == ·)).map fun run =>
    (run.headD "", run.length)

/-- The names with their counts, the most frequent first, then by name. -/
def ranked (t : Tally) : List (String × Nat) :=
  t.counts.mergeSort fun a b => decide (b.2 ≤ a.2)

/-- The first `limit` of the ranked names. -/
def top (t : Tally) (limit : Nat) : List (String × Nat) :=
  t.ranked.take limit

/-! ## Filling and asking in turn -/

/-- What is done with a tally. -/
inductive Operation
  /-- Counts every name of a list once. -/
  | add (names : List String)
  /-- Asks how often a name was counted. -/
  | count (name : String)
  /-- Asks for the first of the ranked names. -/
  | top (limit : Nat)
  deriving DecidableEq, Repr

/-- What a tally tells. -/
inductive Answer
  | done
  | count (number : Nat)
  | top (entries : List (String × Nat))
  deriving DecidableEq, Repr

/-- Does one operation. -/
def step (t : Tally) : Operation → Tally × Answer
  | .add names => (t.addDistinct names, .done)
  | .count name => (t, .count (t.count name))
  | .top limit => (t, .top (t.top limit))

/-- The answers to operations that are done one after the other. -/
def answers (t : Tally) : List Operation → List Answer
  | [] => []
  | operation :: rest => (t.step operation).2 :: (t.step operation).1.answers rest

end Tally

end AddonAtlas
