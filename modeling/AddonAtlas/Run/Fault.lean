import AddonAtlas.Confidence
import AddonAtlas.Document.Lookup
import AddonAtlas.Files.Resolve
import AddonAtlas.Settings.Basic
import AddonAtlas.Survey.Plugin
import AddonAtlas.Text.Utf8

/-!
# What can go wrong in a run

A run fails because there is nothing to scan, because its settings are refused, or for one of the
reasons of the parts that it is made of.
-/

namespace AddonAtlas.Run

/-- Why there is nothing to scan. -/
inductive InputFault
  | workspaceMissing (path : String)
  | repositoryMissing (path : String)
  | repositoryNotAFolder (path : String)
  | repositoriesMissing (path : String)
  | noRepositories (path : String)
  deriving DecidableEq, Repr

/-- The wording of a fault. -/
def InputFault.message : InputFault → String
  | .workspaceMissing path => "Workspace path not found: " ++ path
  | .repositoryMissing path => "Repository path not found: " ++ path
  | .repositoryNotAFolder path => "Repository path is not a directory: " ++ path
  | .repositoriesMissing path => "repositories directory not found: " ++ path
  | .noRepositories path => "No repositories found under " ++ path

/-- Why characters of a file cannot be asked for. -/
inductive ReadRefusal
  /-- There are more of them than can be counted. -/
  | tooLarge
  /-- There is no memory for them. -/
  | noMemory
  deriving DecidableEq, Repr

/-- The wording of a refusal. -/
def ReadRefusal.message : ReadRefusal → String
  | .tooLarge => "cannot fit 'int' into an index-sized integer"
  | .noMemory => ""

/-- Why a run fails. -/
inductive Fault
  | input (fault : InputFault)
  | settings (fault : Settings.Fault)
  /-- The settings ask for surveys that cannot be chosen. -/
  | surveysRefused (fault : Survey.Fault)
  | survey (fault : Survey.Fault)
  | path (fault : Files.PathFault)
  | system (fault : Files.SystemFault)
  /-- The settings file is not text. -/
  | undecodable (fault : Text.Utf8Fault)
  | read (refusal : ReadRefusal)
  | confidence (fault : Confidence.Fault)
  | page (fault : Document.Fault)

namespace Fault

/-- The wording of a fault. -/
def message : Fault → String
  | .input fault => fault.message
  | .settings fault => fault.message
  | .surveysRefused fault => fault.message
  | .survey fault => fault.message
  | .path fault => fault.message
  | .system fault => fault.message
  | .undecodable fault => fault.message
  | .read refusal => refusal.message
  | .confidence fault => fault.message
  | .page fault => fault.message

/-- The error of another program that a fault passes on. -/
def foreign? : Fault → Option Foreign
  | .settings (.foreign error) | .survey (.raised error) => some error
  | _ => none

/-- Is there nothing to scan? -/
def isInput : Fault → Bool
  | .input _ => true
  | fault => fault.foreign?.any (·.kind == .input)

/-- Are the settings refused? -/
def isSettings : Fault → Bool
  | .settings fault => fault.isRefusal
  | .surveysRefused _ => true
  | fault => fault.foreign?.any (·.kind == .settings)

/-- Is something missing that was asked for? -/
def isMissing : Fault → Bool
  | .input _ | .system ⟨.notFound, _⟩ | .path (.system ⟨.notFound, _⟩) => true
  | fault => fault.foreign?.any (·.isMissing)

/-- Can the request be blamed? -/
def isRefusal : Fault → Bool
  | .survey (.notLoaded _ _) | .path .noHome | .path (.linkLoop _) => true
  | fault => fault.isSettings || fault.foreign?.any (·.isRuntime)

end Fault

end AddonAtlas.Run
