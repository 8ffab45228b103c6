import AddonAtlas.Diagnostics
import AddonAtlas.Files.Change
import AddonAtlas.Files.Walk
import AddonAtlas.Log
import AddonAtlas.Run.Fault

/-!
# Scanning a disk

A scan looks at a disk without changing it. On the way it notes messages and diagnostics, and what
it noted stays when it fails.
-/

namespace AddonAtlas.Run

open Files

/-- What is noted on the way; messages last one first. -/
structure Notes where
  messages : List Log.Message := []
  diagnostics : Diagnostics := {}

/-- Notes a message. -/
def Notes.say (notes : Notes) (message : Log.Message) : Notes :=
  { notes with messages := message :: notes.messages }

/-- A step that looks at a disk and takes notes. -/
abbrev Scan := ReaderT Disk (ExceptT Fault (StateM Notes))

/-- Notes that a stage starts and ends, the latter also when it fails. -/
def staged {m : Type → Type} [Monad m] [MonadFinally m] {α : Type}
    (say : Log.Level → (stage text : String) → m Unit) (elapsed stage : String) (act : m α) :
    m α := do
  say .debug "orchestrator" ("Stage " ++ stage ++ " started")
  try act
  finally say .debug "orchestrator" ("Stage " ++ stage ++ " finished in " ++ elapsed ++ "s")

namespace Scan

/-- Notes a message. -/
def say (level : Log.Level) (stage text : String) : Scan Unit :=
  modify fun notes => notes.say ⟨level, stage, text⟩

/-- Changes the diagnostics. -/
def diagnose (change : Diagnostics → Diagnostics) : Scan Unit :=
  modify fun notes => { notes with diagnostics := change notes.diagnostics }

/-- A step of its own, which may fail. -/
def lift {ε α : Type} (fault : ε → Fault) (result : Except ε α) : Scan α :=
  match result with
  | .ok a => return a
  | .error e => throw (fault e)

/-- The most characters that can be asked for at once. -/
def readLimit : Nat := Number.pow2 63

/-- Why so many characters of a file cannot be asked for at once, if they cannot. -/
def readRefusal? (disk : Disk) (path : Path) (n : Nat) : Option ReadRefusal :=
  if readLimit ≤ n then some .tooLarge
  else if disk.grants path n then none
  else some .noMemory

/-- The first characters of a file, all of them when there is no limit. A file that cannot be read
counts as empty and is noted, but the characters of one that can be must not be too many to ask for. -/
def readText (path : Path) (limit : Option Nat) : Scan (List Char) := do
  let disk ← read
  match disk.readLossy path with
  | .ok text =>
    match limit with
    | none => return text
    | some n =>
      match readRefusal? disk path n with
      | none => return text.take n
      | some refusal => throw (.read refusal)
  | .error fault =>
    if fault.refusal == .nullByte then throw (.system fault)
    say .debug "scanner" ("Unable to read " ++ path.text ++ ": " ++ fault.message)
    diagnose (·.addUnreadable)
    return []

/-- The files below a folder that are wanted, at most `limit` of them; that the limit is reached is
noted. -/
def listFiles (skips : String → Bool) (wanted : Path → Bool) (limit : Int) (root : Path) :
    Scan (List Path) := do
  let (files, isFull) := (← read).takeFiles skips wanted limit root
  if isFull then
    say .debug "scanner" ("File cap of " ++ toString limit ++ " reached under " ++ root.text)
  return files.toList

end Scan

end AddonAtlas.Run
