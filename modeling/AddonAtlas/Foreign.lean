/-!
# Errors of other programs

Plugins and the reader of settings files are not part of this program, and may fail in any way. What
counts of such a failure is its text, and its kind as far as kinds are told apart.
-/

namespace AddonAtlas

/-- The kind of an error. -/
inductive Foreign.Kind
  /-- There is nothing to scan. -/
  | input
  /-- Something else is missing. -/
  | missing
  /-- The settings are refused. -/
  | settings
  /-- Calls are nested too deeply. -/
  | recursion
  /-- Something else went wrong at run time. -/
  | runtime
  /-- A value is wrong. -/
  | value
  /-- Any other kind, by its name. -/
  | other (name : String)
  deriving DecidableEq, Repr

/-- An error of another program. -/
structure Foreign where
  kind : Foreign.Kind
  text : String
  deriving DecidableEq, Repr

namespace Foreign

/-- Is something missing, be it what is to be scanned? -/
def isMissing (error : Foreign) : Bool :=
  error.kind == .input || error.kind == .missing

/-- Did something go wrong at run time, be it with settings or with nested calls? -/
def isRuntime (error : Foreign) : Bool :=
  error.kind == .settings || error.kind == .recursion || error.kind == .runtime

end Foreign

end AddonAtlas
