import AddonAtlas.Document.Value

/-!
# Charts

A chart is what one survey of a repository yields: the body of its report, the counts that enter
the summary, and the risks that a reader should look at.
-/

namespace AddonAtlas

open Document

/-- Named counts, in order. -/
abbrev Metrics := List (String × Int)

/-- The count of a name, zero if it is missing. -/
def Metrics.get (metrics : Metrics) (name : String) : Int :=
  (metrics.lookup name).getD 0

/-- Adds to the count of a name. -/
def Metrics.increase (metrics : Metrics) (entry : String × Int) : Metrics :=
  if (metrics.lookup entry.1).isSome then
    metrics.map fun (n, k) => if n == entry.1 then (n, k + entry.2) else (n, k)
  else metrics ++ [entry]

/-- The counts of several groups added up. -/
def Metrics.merge (groups : List Metrics) : Metrics :=
  groups.flatten.foldl Metrics.increase []

/-- Counts as a document value. -/
def Metrics.value (metrics : Metrics) : Value :=
  .object (metrics.map fun (n, k) => (n, .int k))

/-- The yield of one survey. -/
structure Chart where
  /-- The name of the report, and of its files. -/
  name : String
  /-- How the facts were found. -/
  method : String := "pattern-scan"
  /-- What a reader should know about them. -/
  assumptions : List String := []
  /-- The folders of a module that were looked at. -/
  folders : List String := []
  /-- The body of the report. -/
  body : Fields := []
  metrics : Metrics := []
  risks : List String := []

end AddonAtlas
