import AddonAtlas.Document.Value

/-!
# Stamped reports

A report is a body of facts with a stamp: what it is, when and of what it was made, how much was
found, and how.
-/

namespace AddonAtlas.Report

open Document Number

/-- How a report was made. -/
structure Provenance where
  scanRoots : List String
  method : String
  assumptions : List String
  deriving DecidableEq, Repr

/-- The provenance as it is reported. -/
def Provenance.value (p : Provenance) : Value :=
  .object [("scan_roots", .texts p.scanRoots), ("method", .text p.method),
    ("assumptions", .texts p.assumptions)]

/-- What a stamp says. -/
structure Stamp where
  artifact : String
  generatedAt : String
  repository : String
  confidence : Binary64
  provenance : Provenance

/-- A body with its stamp, which replaces fields of the same names. -/
def stamped (body : Fields) (stamp : Stamp) : Fields :=
  ((((body.put "artifact" (.text stamp.artifact)).put
    "generated_at" (.text stamp.generatedAt)).put
    "repository" (.text stamp.repository)).put
    "confidence_score" (.float stamp.confidence)).put
    "provenance" stamp.provenance.value

end AddonAtlas.Report
