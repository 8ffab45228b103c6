import Mathlib
import AddonAtlas.Log

/-!
# What a log shows

A set-up leaves no handler of an earlier one (`ready_configure`), and while its messages are logged the
handlers and the least level stay (`Ready.told`).  So every message that is heard (`isHeard`) and has at
least this level is written once, in order, to the console and to the file if there is one, and nothing
else is (`run_follows`).  A message is heard if its logger is below the main one.  That it is, unless the
name of its stage starts with a dot: then the way up may pass the main logger by, and with a single dot it
always does (`run_loses_dotted`).
-/

namespace AddonAtlas.Log

/-! ## Which messages are heard -/

/-- The loggers that are known when some more messages have been logged. -/
def knownAfter (known : List Logger) (messages : List Message) : List Logger :=
  messages.foldl (fun known message => known.insert (.ofStage message.stage)) known

/-- Do two messages ask the same logger about the same level? -/
def Message.isLike (a b : Message) : Bool :=
  Logger.ofStage a.stage == .ofStage b.stage && a.level == b.level

/-- Does a message come to the main logger?  `known` are the loggers that were known at the set-up, and
`before` are the messages since then.  The logger of the message has to be below the main one.  If it was
not when it was first asked about the level, the level must be one that the host lets pass, since the
answer stands. -/
def isHeard (hostLeast : Level) (known : List Logger) (before : List Message) (message : Message) :
    Bool :=
  let logger := Logger.ofStage message.stage
  let first := before.takeWhile fun earlier => !earlier.isLike message
  logger.isAttached (knownAfter known (before ++ [message])) &&
    (logger.isAttached (knownAfter known (first ++ [message])) || message.level.reaches hostLeast)

/-- Is a message shown after a set-up, if it is heard? -/
def Setup.shows (setup : Setup) (message : Message) : Bool :=
  message.level.reaches setup.least

/-- What one message adds to the console and to the file. -/
structure Echo where
  console : String := ""
  file : String := ""

/-- The lines of a message after a set-up. -/
def Setup.echo (time : String) (setup : Setup) (message : Message) : Echo :=
  if setup.shows message then
    ⟨consoleLine message, if setup.toFile then fileLine time message else ""⟩
  else {}

/-- What the messages after a set-up leave, one after the other. -/
def Setup.echoes (time : String) (setup : Setup) (hostLeast : Level) (known : List Logger)
    (messages : List Message) : List Echo :=
  messages.mapIdx fun i message =>
    if isHeard hostLeast known (messages.take i) message then setup.echo time message else {}

/-- What is shown after every set-up: on the console what its messages leave there, in order, and in the file
what they leave there behind the text that was there before. -/
inductive Follows (time : String) (hostLeast : Level) :
    (known : List Logger) → (file : String) → List (Setup × List Message) → List Shown → Prop
  | nil (known : List Logger) (file : String) : Follows time hostLeast known file [] []
  | cons {known : List Logger} {file : String} {setup : Setup} {messages : List Message}
      {rest : List (Setup × List Message)} {shown : Shown} {later : List Shown} {echoes : List Echo}
      (leaves : echoes = setup.echoes time hostLeast (known.insert .main) messages)
      (console : shown.console = String.join (echoes.map (·.console)))
      (file_eq : shown.file = file ++ String.join (echoes.map (·.file)))
      (follows : Follows time hostLeast (knownAfter (known.insert .main) messages) shown.file rest
        later) :
      Follows time hostLeast known file ((setup, messages) :: rest) (shown :: later)

/-! ## Loggers below the main one -/

/-- The number of dots with which the name of a message's stage starts. -/
def Message.dots (message : Message) : Nat :=
  (message.stage.toList.takeWhile (· == '.')).length

section Climbs

variable {known : List Logger}

theorem climbs_of_ne {c : Char} (hc : c ≠ '.') (rest : Logger) :
    Logger.climbs known (c :: rest) = Logger.climbs known rest := by
  rw [Logger.climbs.eq_def]
  exact if_neg (by simpa using hc)

theorem climbs_dot (rest : Logger) :
    Logger.climbs known ('.' :: rest) =
      if known.contains rest then rest == .main || Logger.climbs known rest
      else Logger.climbs known rest.tail := by
  rw [Logger.climbs.eq_def]
  cases rest <;> rfl

theorem climbs_of_notMem {logger : Logger} (h : '.' ∉ logger) : Logger.climbs known logger = false := by
  induction logger with
  | nil => rfl
  | cons c logger ih =>
    rw [List.mem_cons, not_or] at h
    rw [climbs_of_ne (Ne.symm h.1), ih h.2]

/-- What stands behind the last dot before some part of a name, and the dots there, do not matter: the way up
goes through this part. -/
theorem climbs_append {part : Logger} (hpart : Logger.main.length < part.length) (front : List Char)
    (hfront : front.getLast? ≠ some '.') :
    Logger.climbs known (front ++ part) = Logger.climbs known part := by
  have hrest {c : Char} {rest : List Char} (h : (c :: rest).getLast? ≠ some '.') :
      rest.getLast? ≠ some '.' := by
    cases rest with
    | nil => simp
    | cons d rest => rwa [List.getLast?_cons_cons] at h
  -- at a dot the walk goes on behind it or behind the next character
  induction hlength : front.length using Nat.strong_induction_on generalizing front with
  | _ size ih =>
    subst hlength
    cases front with
    | nil => rfl
    | cons c front =>
      have hparent := ih front.length (by simp) front (hrest hfront) rfl
      by_cases hc : c = '.'
      · subst hc
        cases front with
        | nil => exact absurd rfl hfront
        | cons d front =>
          have hnext := ih front.length (by simp) front (hrest (hrest hfront)) rfl
          have hmain : (d :: front ++ part == Logger.main) = false := by
            refine beq_eq_false_iff_ne.2 fun heq => ?_
            have hlength := congrArg List.length heq
            rw [List.length_append] at hlength
            omega
          rw [List.cons_append, climbs_dot, hmain, Bool.false_or, hparent, List.cons_append,
            List.tail_cons, hnext, ite_self]
      · rw [List.cons_append, climbs_of_ne hc, hparent]

end Climbs

theorem ofStage_of_ne {stage : String} (h : stage ≠ "") :
    Logger.ofStage stage = stage.toList.reverse ++ '.' :: Logger.main := by
  simp [Logger.ofStage, stageName, h, Logger.main]

theorem dot_main_ne_ofStage (stage : String) : '.' :: Logger.main ≠ Logger.ofStage stage := by
  by_cases hstage : stage = ""
  · subst hstage
    decide
  · rw [ofStage_of_ne hstage]
    intro heq
    have hlength := congrArg List.length heq
    rw [List.length_append, List.length_reverse] at hlength
    exact hstage (String.ext (List.length_eq_zero_iff.1 (by omega)))

/-- The logger of a stage is below the main one, unless the name of the stage starts with a dot. -/
theorem isAttached_of_dots_eq_zero {known : List Logger} (hmain : Logger.main ∈ known)
    {message : Message} (h : message.dots = 0) :
    (Logger.ofStage message.stage).isAttached known = true := by
  unfold Logger.isAttached
  by_cases hstage : message.stage = ""
  · rw [hstage]
    simp [Logger.ofStage, Logger.main, stageName]
  · have hfirst : message.stage.toList.head? ≠ some '.' := by
      intro hdot
      obtain ⟨rest, hrest⟩ := List.head?_eq_some_iff.1 hdot
      simp [Message.dots, hrest] at h
    rw [ofStage_of_ne hstage, climbs_append (by simp) _ (by simpa using hfirst), climbs_dot]
    simp [hmain]

/-- The logger of a stage whose name starts with a single dot is not below the main one. -/
theorem isAttached_of_dots_eq_one {known : List Logger} (hdot : '.' :: Logger.main ∉ known)
    {message : Message} (h : message.dots = 1) :
    (Logger.ofStage message.stage).isAttached known = false := by
  obtain ⟨rest, hstage, hrest⟩ : ∃ rest, message.stage.toList = '.' :: rest ∧ rest.head? ≠ some '.' := by
    unfold Message.dots at h
    cases hchars : message.stage.toList with
    | nil => simp [hchars] at h
    | cons c rest =>
      rw [hchars, List.takeWhile_cons] at h
      split at h
      · next hc =>
        refine ⟨rest, by rw [beq_iff_eq.1 hc], fun hhead => ?_⟩
        obtain ⟨tail, rfl⟩ := List.head?_eq_some_iff.1 hhead
        simp at h
      · simp at h
  have hne : message.stage ≠ "" := by
    intro hempty
    rw [hempty] at hstage
    cases hstage
  have hlogger : Logger.ofStage message.stage = rest.reverse ++ '.' :: '.' :: Logger.main := by
    rw [ofStage_of_ne hne, hstage]
    simp
  have hmain : Logger.ofStage message.stage ≠ Logger.main := by
    rw [hlogger]
    intro heq
    have hlength := congrArg List.length heq
    simp only [List.length_append, List.length_cons] at hlength
    omega
  rw [Logger.isAttached, beq_eq_false_iff_ne.2 hmain, Bool.false_or, hlogger,
    climbs_append (by simp) _ (by simpa using hrest), climbs_dot, if_neg (by simpa using hdot),
    List.tail_cons]
  exact climbs_of_notMem (by decide)

/-! ## Known loggers -/

theorem knownAfter_concat (known : List Logger) (messages : List Message) (message : Message) :
    knownAfter known (messages ++ [message]) =
      (knownAfter known messages).insert (.ofStage message.stage) := by
  rw [knownAfter, List.foldl_append]
  rfl

theorem mem_knownAfter {known : List Logger} {messages : List Message} {logger : Logger} :
    logger ∈ knownAfter known messages ↔
      logger ∈ known ∨ ∃ message ∈ messages, logger = .ofStage message.stage := by
  induction messages using List.reverseRecOn with
  | nil => simp [knownAfter]
  | append_singleton messages message ih =>
    rw [knownAfter_concat, List.mem_insert_iff, ih]
    simp only [List.mem_append, List.mem_singleton]
    constructor
    · rintro (rfl | hknown | ⟨earlier, hearlier, rfl⟩)
      · exact .inr ⟨message, .inr rfl, rfl⟩
      · exact .inl hknown
      · exact .inr ⟨earlier, .inl hearlier, rfl⟩
    · rintro (hknown | ⟨earlier, hearlier | rfl, rfl⟩)
      · exact .inr (.inl hknown)
      · exact .inr (.inr ⟨earlier, hearlier, rfl⟩)
      · exact .inl rfl

theorem isHeard_of_dots_eq_zero (hostLeast : Level) {known : List Logger} (hmain : Logger.main ∈ known)
    (before : List Message) {message : Message} (h : message.dots = 0) :
    isHeard hostLeast known before message = true := by
  have hattached (messages : List Message) :
      (Logger.ofStage message.stage).isAttached (knownAfter known messages) = true :=
    isAttached_of_dots_eq_zero (mem_knownAfter.2 (.inl hmain)) h
  simp [isHeard, hattached]

theorem isHeard_of_dots_eq_one (hostLeast : Level) {known : List Logger}
    (hdot : '.' :: Logger.main ∉ known) (before : List Message) {message : Message}
    (h : message.dots = 1) : isHeard hostLeast known before message = false := by
  have hattached : (Logger.ofStage message.stage).isAttached
      (knownAfter known (before ++ [message])) = false := by
    refine isAttached_of_dots_eq_one (fun hmem => ?_) h
    rcases mem_knownAfter.1 hmem with hknown | ⟨other, -, hother⟩
    · exact hdot hknown
    · exact dot_main_ne_ofStage _ hother
  rw [isHeard, hattached, Bool.false_and]

/-! ## What a set-up keeps up -/

/-- What a logger tells when it is first asked about the level of a message, after the messages `first`. -/
def Setup.verdict (setup : Setup) (hostLeast : Level) (known : List Logger) (first : List Message)
    (message : Message) : Bool :=
  message.level.reaches <|
    if (Logger.ofStage message.stage).isAttached (knownAfter known (first ++ [message])) then setup.least
    else hostLeast

theorem verdict_congr {setup : Setup} {hostLeast : Level} {known : List Logger} {first : List Message}
    {a b : Message} (h : a.isLike b = true) :
    setup.verdict hostLeast known first a = setup.verdict hostLeast known first b := by
  obtain ⟨hlogger, hlevel⟩ := Bool.and_eq_true_iff.1 h
  rw [Setup.verdict, Setup.verdict, knownAfter_concat, knownAfter_concat, beq_iff_eq.1 hlogger,
    beq_iff_eq.1 hlevel]

/-- The loggers are as a set-up and the messages since then left them: `known` were the loggers at the
set-up, and what a logger told when it was first asked still stands. -/
structure Ready (setup : Setup) (known : List Logger) (before : List Message) (s : State) : Prop where
  least : s.least = setup.least
  handlers : s.handlers = setup.handlers
  known_eq : s.known = knownAfter known before
  verdicts : ∀ message : Message,
    s.verdicts.lookup (.ofStage message.stage, message.level) =
      if before.any (·.isLike message) then
        some (setup.verdict s.hostLeast known
          (before.takeWhile fun earlier => !earlier.isLike message) message)
      else none

section Ready

variable {setup : Setup} {known : List Logger} {before : List Message} {s : State}

theorem foldl_erase_self (handlers : List Handler) : handlers.foldl List.erase handlers = [] := by
  induction handlers with
  | nil => rfl
  | cons handler handlers ih => rw [List.foldl_cons, List.erase_cons_head, ih]

/-- Nothing is left of the handlers of earlier set-ups. -/
theorem ready_configure (s : State) (setup : Setup) :
    Ready setup (s.known.insert .main) [] (s.configure setup) where
  least := rfl
  handlers := by rw [State.configure, foldl_erase_self, List.nil_append]
  known_eq := rfl
  verdicts _ := rfl

/-- The state when the logger of a message was asked for. -/
def State.asked (s : State) (message : Message) : State :=
  { s with known := s.known.insert (.ofStage message.stage) }

/-- Does the logger of a message let it pass? -/
def State.lets (s : State) (message : Message) : Bool :=
  (s.asked message).passes (.ofStage message.stage) message.level

/-- The state when the logger of a message has told whether it lets it pass. -/
def State.told (s : State) (message : Message) : State :=
  { s.asked message with
    verdicts := ((.ofStage message.stage, message.level), s.lets message) :: s.verdicts }

theorem takeWhile_of_not_any {message : Message} (h : before.any (·.isLike message) = false) :
    (before.takeWhile fun earlier => !earlier.isLike message) = before := by
  rw [List.takeWhile_eq_self_iff]
  intro earlier hearlier
  rw [List.any_eq_false] at h
  simpa using h earlier hearlier

theorem Ready.asked_known (h : Ready setup known before s) (message : Message) :
    (s.asked message).known = knownAfter known (before ++ [message]) := by
  rw [knownAfter_concat, ← h.known_eq]
  rfl

/-- A logger tells what it told when it was first asked. -/
theorem Ready.lets (h : Ready setup known before s) (message : Message) :
    s.lets message = setup.verdict s.hostLeast known
      (before.takeWhile fun earlier => !earlier.isLike message) message := by
  unfold State.lets State.passes
  rw [h.asked_known]
  change ((s.verdicts.lookup _).getD (message.level.reaches (if _ then s.least else s.hostLeast))) = _
  rw [h.verdicts, h.least]
  cases hany : before.any (·.isLike message) with
  | true => rfl
  | false =>
    rw [takeWhile_of_not_any hany]
    rfl

theorem takeWhile_concat {message other : Message}
    (h : before.any (·.isLike other) = true ∨ message.isLike other = true) :
    ((before ++ [message]).takeWhile fun earlier => !earlier.isLike other) =
      before.takeWhile fun earlier => !earlier.isLike other := by
  cases hany : before.any (·.isLike other) with
  | true =>
    obtain ⟨earlier, hearlier, hlike⟩ := List.any_eq_true.1 hany
    rw [List.takeWhile_append, if_neg]
    intro hlength
    have hself := List.takeWhile_eq_self_iff.1
      ((List.takeWhile_prefix _).eq_of_length hlength) earlier hearlier
    simp [hlike] at hself
  | false =>
    have hlike := h.resolve_left (by simp [hany])
    have hself := takeWhile_of_not_any hany
    rw [List.takeWhile_append, hself, if_pos rfl]
    simp [hlike]

theorem Ready.told (h : Ready setup known before s) (message : Message) :
    Ready setup known (before ++ [message]) (s.told message) where
  least := h.least
  handlers := h.handlers
  known_eq := h.asked_known message
  verdicts other := by
    change List.lookup _ (((Logger.ofStage message.stage, message.level), s.lets message) ::
      s.verdicts) = if _ then some (setup.verdict s.hostLeast known _ other) else none
    rw [List.any_append]
    cases hlike : message.isLike other with
    | true =>
      have hkey : (Logger.ofStage other.stage, other.level) =
          (Logger.ofStage message.stage, message.level) := by
        obtain ⟨hlogger, hlevel⟩ := Bool.and_eq_true_iff.1 hlike
        rw [beq_iff_eq.1 hlogger, beq_iff_eq.1 hlevel]
      have hany : (before.any (·.isLike other) || [message].any (·.isLike other)) = true := by
        simp [hlike]
      have hsame (earlier : Message) : earlier.isLike message = earlier.isLike other := by
        obtain ⟨hlogger, hlevel⟩ := Prod.mk.inj hkey
        rw [Message.isLike, Message.isLike, hlogger, hlevel]
      rw [hkey, List.lookup_cons_self, hany, if_pos rfl, takeWhile_concat (.inr hlike), h.lets,
        verdict_congr hlike]
      simp only [hsame]
    | false =>
      have hkey : (Logger.ofStage other.stage, other.level) ≠
          (Logger.ofStage message.stage, message.level) := by
        intro hkey
        obtain ⟨hlogger, hlevel⟩ := Prod.mk.inj hkey
        simp [Message.isLike, hlogger, hlevel] at hlike
      rw [List.lookup_cons, beq_eq_false_iff_ne.2 hkey, h.verdicts]
      cases hany : before.any (·.isLike other) with
      | true => rw [takeWhile_concat (.inl hany)]; simp
      | false => simp [hlike]

/-! ## Logging -/

/-- The state with more on the console and in the file. -/
def State.append (s : State) (echo : Echo) : State :=
  { s with console := s.console ++ echo.console, file := s.file ++ echo.file }

theorem append_nothing (s : State) : s.append {} = s := by
  simp [State.append]

theorem Ready.append (h : Ready setup known before s) (echo : Echo) :
    Ready setup known before (s.append echo) :=
  ⟨h.least, h.handlers, h.known_eq, h.verdicts⟩

/-- The handlers of a set-up write the lines of a message. -/
theorem foldl_write (time : String) (setup : Setup) (message : Message) (s : State) :
    setup.handlers.foldl (State.write time message) s = s.append (setup.echo time message) := by
  rw [Setup.handlers, Setup.echo, Setup.shows]
  cases hreaches : message.level.reaches setup.least <;> cases setup.toFile <;>
    simp [State.write, State.append, hreaches]

theorem log_eq (time : String) (s : State) (message : Message) :
    s.log time message =
      if s.lets message && (Logger.ofStage message.stage).isAttached (s.told message).known then
        (s.told message).handlers.foldl (State.write time message) (s.told message)
      else s.told message := rfl

/-- A message leaves its lines if it is heard, and the loggers stay as the set-up left them. -/
theorem Ready.log (h : Ready setup known before s) (time : String) (message : Message) :
    s.log time message = (s.told message).append
      (if isHeard s.hostLeast known before message then setup.echo time message else {}) := by
  rw [log_eq, h.lets, (h.told message).known_eq, (h.told message).handlers, foldl_write]
  unfold isHeard Setup.verdict
  dsimp only
  by_cases hnow : (Logger.ofStage message.stage).isAttached (knownAfter known (before ++ [message]))
  · by_cases hfirst : (Logger.ofStage message.stage).isAttached (knownAfter known
      ((before.takeWhile fun earlier => !earlier.isLike message) ++ [message]))
    · by_cases hshows : message.level.reaches setup.least
      · simp [hnow, hfirst, hshows]
      · simp [hnow, hfirst, hshows, Setup.echo, Setup.shows, append_nothing]
    · by_cases hhost : message.level.reaches s.hostLeast
      · simp [hnow, hfirst, hhost]
      · simp [hfirst, hhost, append_nothing]
  · simp [hnow, append_nothing]

/-- The messages after a set-up leave their lines one after the other. -/
theorem Ready.foldl_log (h : Ready setup known before s) (time : String) (messages : List Message) :
    let echoes := messages.mapIdx fun i message =>
      if isHeard s.hostLeast known (before ++ messages.take i) message then setup.echo time message
      else {}
    ((messages.foldl (State.log time) s).console =
        s.console ++ String.join (echoes.map (·.console)) ∧
      (messages.foldl (State.log time) s).file = s.file ++ String.join (echoes.map (·.file))) ∧
    (messages.foldl (State.log time) s).known = knownAfter known (before ++ messages) ∧
      (messages.foldl (State.log time) s).hostLeast = s.hostLeast := by
  induction messages generalizing s before with
  | nil => simpa using h.known_eq
  | cons message messages ih =>
    have hrest := ih ((h.told message).append
      (if isHeard s.hostLeast known before message then setup.echo time message else {}))
    rw [← h.log time message] at hrest
    obtain ⟨⟨hconsole, hfile⟩, hknown, hhost⟩ := hrest
    have hlogged : (s.log time message).hostLeast = s.hostLeast := by
      rw [h.log]
      rfl
    simp only [List.append_assoc, List.singleton_append, hlogged] at hconsole hfile hknown hhost
    simp only [List.foldl_cons, List.mapIdx_cons, List.take_zero, List.append_nil, List.take_succ_cons,
      List.map_cons, String.join_cons, hknown, hhost, and_true]
    rw [hconsole, hfile, h.log time message]
    simp only [State.append, String.append_assoc]
    exact ⟨rfl, rfl⟩

end Ready

/-! ## Set-ups one after the other -/

/-- Whatever was set up and logged before, every set-up shows its messages once each, in order, and from its
own least level on, if they are heard.  They are if the names of their stages do not start with a dot, and
they are not if these start with a single dot. -/
theorem run_follows (time : String) (s : State) (steps : List (Setup × List Message)) :
    Follows time s.hostLeast s.known s.file steps (run time s steps) ∧
      ∀ known before message, Logger.main ∈ known →
        (message.dots = 0 → isHeard s.hostLeast known before message = true) ∧
          (message.dots = 1 → '.' :: Logger.main ∉ known →
            isHeard s.hostLeast known before message = false) := by
  refine ⟨?_, fun known before message hmain => ⟨isHeard_of_dots_eq_zero _ hmain before,
    fun hdots hdot => isHeard_of_dots_eq_one _ hdot before hdots⟩⟩
  induction steps generalizing s with
  | nil => exact .nil s.known s.file
  | cons step steps ih =>
    obtain ⟨⟨hconsole, hfile⟩, hknown, hhost⟩ :=
      (ready_configure { s with console := "" } step.1).foldl_log time step.2
    refine .cons rfl (hconsole.trans ?_) hfile ?_
    · rw [State.configure, String.empty_append]
      rfl
    · have hrest := ih (step.2.foldl (State.log time) (State.configure { s with console := "" } step.1))
      rw [hknown, hhost] at hrest
      exact hrest

/-- A message of a stage that starts with a dot is lost, though its level is shown. -/
theorem run_loses_dotted :
    Setup.shows {} ⟨.info, ".x", "hello"⟩ = true ∧
      run "" {} [({}, [⟨.info, ".x", "hello"⟩])] = [⟨"", ""⟩] := by
  decide +kernel

end AddonAtlas.Log
