import AddonAtlas.Document.Reading
import AddonAtlas.Run.Basic

/-!
# The service

Answers requests: whether the service is up, and scans. A scan is asked for by a JSON document, and
what is wrong with it is told field by field.
-/

namespace AddonAtlas.Service

open Document Files Number Run

/-- A request to the service. -/
structure Query where
  method : String
  path : String
  /-- The text that comes with it. -/
  body : String := ""
  deriving DecidableEq, Repr

/-- What is wrong with a part of a request. -/
inductive Complaint
  | missing
  | notAText
  | notAnObject
  | notJson
  deriving DecidableEq, Repr

/-- A step on the way to a part of a request. -/
inductive Place
  | name (n : String)
  | position (n : Nat)
  deriving DecidableEq, Repr

/-- A part of a request, and what is wrong with it. -/
structure Problem where
  complaint : Complaint
  place : List Place
  deriving DecidableEq, Repr

/-- An answer of the service. -/
inductive Reply
  | document (status : Nat) (value : Value)
  /-- The request is not understood. -/
  | refused (problems : List Problem)
  /-- The service failed. -/
  | failed

/-- The status of a reply. -/
def Reply.status : Reply → Nat
  | .document status _ => status
  | .refused _ => 422
  | .failed => 500

/-- A reply that tells what is wrong. -/
def detail (status : Nat) (text : String) : Reply :=
  .document status (.object [("detail", .text text)])

/-! ## What is asked for -/

/-- The place of a field. -/
def fieldPlace (name : String) : List Place :=
  [.name "body", .name name]

/-- A field that holds a text. -/
def textField (fields : Fields) (name : String) (absent : Except Problem (Option String))
    (mayBeNull : Bool) : Except Problem (Option String) :=
  match fields.get? name with
  | none => absent
  | some (.text s) => .ok (some s)
  | some .null => if mayBeNull then .ok none else .error ⟨.notAText, fieldPlace name⟩
  | some _ => .error ⟨.notAText, fieldPlace name⟩

/-- The problem of a result. -/
def problemOf {α : Type} : Except Problem α → List Problem
  | .ok _ => []
  | .error problem => [problem]

/-- The run that the fields of a document ask for. -/
def requestOfFields (fields : Fields) : Except (List Problem) Request :=
  let workspace := textField fields "workspace"
    (.error ⟨.missing, fieldPlace "workspace"⟩) false
  let repository := textField fields "repo" (.ok none) false
  let repositoryPath := textField fields "repo_path" (.ok none) true
  let outputFolder := textField fields "output_dir" (.ok none) true
  match workspace, repository, repositoryPath, outputFolder with
  | .ok workspace, .ok repository, .ok repositoryPath, .ok outputFolder =>
    .ok {
      workspace := workspace.getD "", repository := repository.getD "odoo"
      repositoryPath, outputFolder }
  | _, _, _, _ =>
    .error ([workspace, repository, repositoryPath, outputFolder].flatMap problemOf)

/-- The run that a document asks for. -/
def requestOf : Value → Except (List Problem) Request
  | .null => .error [⟨.missing, [.name "body"]⟩]
  | .object fields => requestOfFields fields
  | _ => .error [⟨.notAnObject, [.name "body"]⟩]

/-- The text without a byte order mark. -/
def withoutMark : List Char → List Char
  | c :: rest => if c == '\uFEFF' then rest else c :: rest
  | [] => []

/-- The run that the text of a query asks for, or the reply to it. -/
def requestOfText (text : String) : Except Reply Request :=
  if text == "" then .error (.refused [⟨.missing, [.name "body"]⟩])
  else
    let chars := withoutMark text.toList
    match ofJson chars with
    | .ok value => (requestOf value).mapError .refused
    | .error (.malformed left) =>
      .error (.refused [⟨.notJson, [.name "body", .position (chars.length - left)]⟩])
    | .error .numberTooLong => .error (detail 400 "There was an error parsing the body")

/-! ## Replies -/

/-- An artifact in a reply. -/
def artifactValue (artifact : Artifact) : Value :=
  .object [("name", .text artifact.name), ("json_path", .text artifact.data.text),
    ("md_path", .text artifact.page.text)]

/-- The reply to a scan that succeeded. A score that is no number cannot be told. -/
def outcomeReply (outcome : Outcome) : Reply :=
  if outcome.confidence.isFinite then
    .document 200 (.object [
      ("repository", .text outcome.label), ("output_dir", .text outcome.outputFolder.text),
      ("confidence_score", .float outcome.confidence), ("metrics", outcome.metrics.value),
      ("artifacts", .list (outcome.artifacts.map artifactValue))])
  else .failed

/-- The reply to a scan that failed. -/
def faultReply (fault : Run.Fault) : Reply :=
  if fault.isMissing then detail 404 fault.message
  else if fault.isRefusal then detail 400 fault.message
  else .failed

/-- Answers a request for a scan. -/
def scan (setting : Setting) (text : String) : StateM Disk Reply := fun disk =>
  match requestOfText text with
  | .error reply => (reply, disk)
  | .ok request =>
    let (result, session) := (run setting request).run { disk }
    match result with
    | .ok outcome => (outcomeReply outcome, session.disk)
    | .error fault => (faultReply fault, session.disk)

/-- The path of a query without what follows a question mark, and without slashes at its end. -/
def pathOf (text : String) : List Char :=
  let path := text.toList.takeWhile fun c => c != '?' && c != '#'
  match (path.reverse.dropWhile (· == '/')).reverse with
  | [] => path
  | path => path

/-- Answers a query. -/
def respond (setting : Setting) (query : Query) : StateM Disk Reply :=
  let path := pathOf query.path
  if path == "/health".toList then
    if query.method == "GET" then return .document 200 (.object [("status", .text "ok")])
    else return detail 405 "Method Not Allowed"
  else if path == "/scan".toList then
    if query.method == "POST" then scan setting query.body
    else return detail 405 "Method Not Allowed"
  else return detail 404 "Not Found"

end AddonAtlas.Service
