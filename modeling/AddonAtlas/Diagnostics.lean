import AddonAtlas.Document.Value
import AddonAtlas.Text.Order

/-!
# Diagnostics

The problems that a scan meets and survives: files that cannot be read, table rows that are too
short, and warnings, each of which is kept once. `recordAll` takes them down as they are met.
-/

namespace AddonAtlas

open Document

/-- The problems met so far. -/
structure Diagnostics where
  unreadableFiles : Nat := 0
  shortRows : Nat := 0
  warnings : List String := []
  deriving DecidableEq, Repr

namespace Diagnostics

/-- Counts a file that cannot be read. -/
def addUnreadable (d : Diagnostics) : Diagnostics :=
  { d with unreadableFiles := d.unreadableFiles + 1 }

/-- Counts a table row that has fewer cells than the header. -/
def addShortRow (d : Diagnostics) : Diagnostics :=
  { d with shortRows := d.shortRows + 1 }

/-- Keeps a warning, unless it is there already. -/
def warn (d : Diagnostics) (warning : String) : Diagnostics :=
  if d.warnings.contains warning then d else { d with warnings := d.warnings ++ [warning] }

/-- A problem that a scan meets. -/
inductive Problem
  | unreadable
  | shortRow
  | warning (text : String)
  deriving DecidableEq, Repr

/-- Takes down a problem. -/
def record (d : Diagnostics) : Problem → Diagnostics
  | .unreadable => d.addUnreadable
  | .shortRow => d.addShortRow
  | .warning text => d.warn text

/-- Takes down problems one after the other. -/
def recordAll (d : Diagnostics) (problems : List Problem) : Diagnostics :=
  problems.foldl record d

/-- The diagnostics as they are reported, warnings in order. -/
def value (d : Diagnostics) : Value :=
  .object [("unreadable_files", .int d.unreadableFiles), ("short_rows", .int d.shortRows),
    ("warnings", .texts (d.warnings.mergeSort fun a b => decide (a ≤ b)))]

end Diagnostics

end AddonAtlas
