/-!
# Logging

Messages go through the loggers of the program's stages to the main logger, whose handlers write them
to the console and, if wanted, to a file. A set-up decides from which level on messages are shown; its
handlers take the place of those that were there before. The state of the loggers lasts from one
set-up to the next. A message that does not come to the main logger is left to the host, which shows it
neither on the console of the program nor in its file.
-/

namespace AddonAtlas.Log

/-- The levels of messages. -/
inductive Level
  | debug
  | info
  | warning
  | error
  | critical
  deriving DecidableEq, Repr

namespace Level

/-- The place of a level among the others. -/
def rank : Level → Nat
  | debug => 0
  | info => 1
  | warning => 2
  | error => 3
  | critical => 4

/-- The name of a level. -/
def name : Level → String
  | debug => "DEBUG"
  | info => "INFO"
  | warning => "WARNING"
  | error => "ERROR"
  | critical => "CRITICAL"

/-- Does a message of this level count where `least` is the least level? -/
def reaches (level least : Level) : Bool :=
  least.rank ≤ level.rank

end Level

/-- A message of a stage of the program; the main stage has an empty name. -/
structure Message where
  level : Level
  stage : String := ""
  text : String
  deriving DecidableEq, Repr

/-- Where messages go. -/
structure Setup where
  verbose : Bool := false
  toFile : Bool := false
  deriving DecidableEq, Repr

/-- The least level that is shown. -/
def Setup.least (setup : Setup) : Level :=
  if setup.verbose then .debug else .info

/-! ## Loggers -/

/-- The name of the main logger. -/
def mainName : String := "addonmap"

/-- The full name of a stage, which is that of its logger. -/
def stageName (stage : String) : String :=
  if stage == "" then mainName else mainName ++ "." ++ stage

/-- The name of a logger, held backwards. -/
abbrev Logger := List Char

/-- The main logger. -/
def Logger.main : Logger :=
  mainName.toList.reverse

/-- The logger of a stage. -/
def Logger.ofStage (stage : String) : Logger :=
  (stageName stage).toList.reverse

/-- Do the messages of a logger other than the main one come to the main one? A logger hands them on to
its parent, which is the nearest of the loggers in `known` whose name ends before a dot of its own
name. The dots are looked at from the last one on, but when there is no logger before a dot, the
character before it is passed over, a dot or not. -/
def Logger.climbs (known : List Logger) : Logger → Bool
  | [] => false
  | c :: rest =>
    if c == '.' then
      if known.contains rest then rest == main || climbs known rest
      else
        match rest with
        | [] => false
        | _ :: rest => climbs known rest
    else climbs known rest

/-- Do the messages of a logger come to the main one? -/
def Logger.isAttached (known : List Logger) (logger : Logger) : Bool :=
  logger == main || logger.climbs known

/-- What a handler writes to. -/
inductive Sink
  | console
  | file
  deriving DecidableEq, Repr

/-- A handler writes messages from a level on. -/
structure Handler where
  sink : Sink
  least : Level
  deriving DecidableEq, Repr

/-- The handlers of a set-up. -/
def Setup.handlers (setup : Setup) : List Handler :=
  ⟨.console, setup.least⟩ :: if setup.toFile then [⟨.file, setup.least⟩] else []

/-- The state of all loggers, and what they have written. -/
structure State where
  /-- The loggers that were asked for. -/
  known : List Logger := []
  /-- The least level of the main logger. -/
  least : Level := .warning
  /-- The least level of the loggers whose messages do not come to the main one, as the host has
  set it. -/
  hostLeast : Level := .warning
  /-- The handlers of the main logger. -/
  handlers : List Handler := []
  /-- Which levels a logger lets pass, as far as it was asked since the least level was set. -/
  verdicts : List ((Logger × Level) × Bool) := []
  console : String := ""
  file : String := ""

/-- A message on the console. -/
def consoleLine (message : Message) : String :=
  "[addonmap] " ++ message.level.name ++ " " ++ message.text ++ "\n"

/-- A message in the file, where `time` stands for its time. -/
def fileLine (time : String) (message : Message) : String :=
  time ++ " " ++ message.level.name ++ " " ++ stageName message.stage ++ ": " ++ message.text ++
    "\n"

namespace State

/-- Sets the least level and the handlers. The old handlers are removed one after the other. -/
def configure (s : State) (setup : Setup) : State :=
  { s with
    known := s.known.insert Logger.main
    least := setup.least
    handlers := s.handlers.foldl List.erase s.handlers ++ setup.handlers
    verdicts := [] }

/-- Does a logger let messages of a level pass? What it told before stands. -/
def passes (s : State) (logger : Logger) (level : Level) : Bool :=
  (s.verdicts.lookup (logger, level)).getD
    (level.reaches (if logger.isAttached s.known then s.least else s.hostLeast))

/-- Writes a message through a handler. -/
def write (time : String) (message : Message) (s : State) (handler : Handler) : State :=
  if message.level.reaches handler.least then
    match handler.sink with
    | .console => { s with console := s.console ++ consoleLine message }
    | .file => { s with file := s.file ++ fileLine time message }
  else s

/-- Asks for the logger of a message and logs it. -/
def log (time : String) (s : State) (message : Message) : State :=
  let logger := Logger.ofStage message.stage
  let s := { s with known := s.known.insert logger }
  let passed := s.passes logger message.level
  let s := { s with verdicts := ((logger, message.level), passed) :: s.verdicts }
  if passed && logger.isAttached s.known then s.handlers.foldl (write time message) s else s

end State

/-- What a list of messages shows on the console after a set-up. -/
def console (setup : Setup) (messages : List Message) : String :=
  (messages.foldl (State.log "") (State.configure {} setup)).console

/-- What stands on the console after a set-up and its messages, and the whole file so far. -/
structure Shown where
  console : String
  file : String
  deriving DecidableEq, Repr

/-- Runs set-ups with their messages, one after the other. -/
def run (time : String) (s : State) : List (Setup × List Message) → List Shown
  | [] => []
  | (setup, messages) :: rest =>
    let s := messages.foldl (State.log time) (State.configure { s with console := "" } setup)
    ⟨s.console, s.file⟩ :: run time s rest

end AddonAtlas.Log
