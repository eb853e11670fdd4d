import EirvahEdge.Contracts.Authorization
import EirvahEdge.Lib.Run
import EirvahEdge.Writer.Native
import EirvahEdge.Writer.Fencing

/-!
# The signal publisher

`SignalPublisherWorker._handle`, one delivery at a time on one event loop, and
the native writes it starts.  An event of the system is one stretch of code
between two points where something else can happen: a delivery arrives, a ledger
call commits or raises, a check reads the clock, a frame leaves, a handler is
cancelled, the process dies, a new one starts with `recover`.

* From its arrival to its claim a delivery does not await: it holds the event
  loop (`loop`), so no other delivery gets in between.  The worker threads of S7
  writes do.
* A write runs in stages of its own (`WriteStage`).  Before every frame it
  passes `before_write`: a check, the started commit, a check.  The write of a
  cancelled handler is dropped, except that an S7 thread keeps running.
* `trace` records, newest first, what happened; it is read by statements only.

A step is a function, `step`; what it can do is said once, in `Move`.
-/

namespace EirvahEdge.Writer

open EirvahEdge.Lib
open EirvahEdge.Contracts

variable {δ τ : Type}

/-! ## Configuration and messages -/

/-- What `SignalPublisherSettings` and the two configuration files fix; the
ledger retention is validated to be at least one second. -/
structure WriterConfig (δ τ : Type) where
  crypto : Crypto δ τ
  approvalKey : String
  writerId : String
  ledger : LedgerConfig
  one_le_retention : 1 ≤ ledger.retention
  nativeTargets : String → Option NativeTarget
  targets : String → Option WriteTarget

/-- Where a topic is written to: native targets come first. -/
def WriterConfig.route? (cfg : WriterConfig δ τ) (topic : String) : Option Route :=
  match cfg.nativeTargets topic with
  | some target => some (.native target)
  | none => (cfg.targets topic).map .opcua

/-- A message on the write subject, as the two `model_validate` calls read
it. -/
inductive WriterMessage (δ τ : Type) where
  | malformed (error : PyError)
  | unapproved (correlationId : String) (error : PyError)
  | approved (correlationId : String) (request : ApprovedWriteRequest δ τ)
deriving DecidableEq

/-- The checks of `_handle` before the ledger is asked. -/
def admission [DecidableEq δ] [DecidableEq τ] (cfg : WriterConfig δ τ) (now : ℚ) :
    WriterMessage δ τ → Except PyError (ApprovedWriteRequest δ τ × δ)
  | .malformed e | .unapproved _ e => .error e
  | .approved correlationId request => do
      if request.command.correlationId ≠ correlationId then
        throw (valueError "command envelope identity mismatch")
      verifyEvidence cfg.crypto request.command request.approval cfg.approvalKey
        .approval cfg.writerId now true
      let digest ← commandDigest cfg.crypto request.command
      return (request, digest)

/-- The reply of the outer `except` before a claim: a `RuntimeError` leaves the
outcome open. -/
def refusal (e : PyError) : WriteResult :=
  if e.isRuntimeError then
    { outcome := .unknown, reason := some "ledger_unavailable" }
  else { outcome := .notExecuted, reason := some e.kind.name }

/-- The reply of the outer `except` after a claim. -/
def ledgerFailure : WriteResult :=
  { outcome := .unknown, reason := some "ledger_failure" }

/-! ## State -/

/-- Where the coroutine of a delivery stands. -/
inductive HandlerPhase where
  | admitted
  | lookedUp
  | checked
  | executing
  | failing
  | gone
deriving DecidableEq, Repr

/-- The phases without an `await` in between. -/
def HandlerPhase.synchronous : HandlerPhase → Bool
  | .admitted | .lookedUp | .checked => true
  | .executing | .failing | .gone => false

/-- Where the native write of a delivery stands; `ready` carries the clock
reading of the check it passed last. -/
inductive WriteStage where
  | absent
  | connecting
  | idle
  | checked
  | marked
  | ready (verifiedAt : ℚ)
  | returned
  | raised (error : PyError)
deriving DecidableEq, Repr

/-- The write has neither returned nor raised. -/
def WriteStage.running : WriteStage → Bool
  | .connecting | .idle | .checked | .marked | .ready _ => true
  | .absent | .returned | .raised _ => false

/-- One delivery that passed the first checks. -/
structure Task (δ τ : Type) where
  command : ActuationRequest
  approval : SignedEvidence δ τ
  digest : δ
  token : Option String := none
  handler : HandlerPhase := .admitted
  write : WriteStage := .absent
  frames : List Frame := []

/-- The message a task was made from. -/
def Task.message (t : Task δ τ) : WriterMessage δ τ :=
  .approved t.command.correlationId ⟨t.command, t.approval⟩

/-- The task once its command is claimed: the write begins. -/
def Task.executing (t : Task δ τ) (token : String) : Task δ τ :=
  { t with token := some token, handler := .executing, write := .connecting }

/-- What happened, as statements about runs see it. -/
inductive Obs (δ τ : Type) where
  | claimed (d : ℕ) (commandId : String) (digest : δ) (token : String)
  | verified (d : ℕ) (clock : ℚ)
  | initiated (d : ℕ) (commandId : String) (digest : δ) (token : String)
  | frame (d : ℕ) (command : ActuationRequest) (approval : SignedEvidence δ τ)
      (digest : δ) (token : String) (frame : Frame)
  | replied (d : ℕ) (message : WriterMessage δ τ) (result : WriteResult)
deriving DecidableEq

def Obs.claim? : Obs δ τ → Option (Fact δ)
  | .claimed _ commandId digest token => some ⟨commandId, digest, token⟩
  | _ => none

def Obs.start? : Obs δ τ → Option (Fact δ)
  | .initiated _ commandId digest token => some ⟨commandId, digest, token⟩
  | _ => none

/-- The claims granted so far. -/
def claimsOf (trace : List (Obs δ τ)) : List (Fact δ) := trace.filterMap Obs.claim?

/-- The started commits made so far. -/
def startsOf (trace : List (Obs δ τ)) : List (Fact δ) := trace.filterMap Obs.start?

/-- The process, the database and the past. -/
structure WriterState (δ τ : Type) where
  up : Bool
  clock : ℚ
  db : Commands δ
  deliveries : ℕ
  tasks : ℕ → Option (Task δ τ)
  loop : Option ℕ
  trace : List (Obs δ τ)

/-- Before the first start, on a new database. -/
def WriterState.initial (clock : ℚ) : WriterState δ τ :=
  ⟨false, clock, Table.empty, 0, fun _ => none, none, []⟩

namespace WriterState

/-- The task of a delivery whose coroutine is about to run in this phase. -/
def handler? (s : WriterState δ τ) (d : ℕ) (p : HandlerPhase) : Option (Task δ τ) :=
  (s.tasks d).filter fun t =>
    s.up && decide (t.handler = p) &&
      decide (s.loop = if p.synchronous then some d else none)

/-- The task of a delivery whose write is in one of these stages. -/
def write? (s : WriterState δ τ) (d : ℕ) (p : WriteStage → Bool) :
    Option (Task δ τ) :=
  (s.tasks d).filter fun t => s.up && p t.write

def put (s : WriterState δ τ) (d : ℕ) (t : Task δ τ) : WriterState δ τ :=
  { s with tasks := Function.update s.tasks d (some t) }

def observe (s : WriterState δ τ) (o : Obs δ τ) : WriterState δ τ :=
  { s with trace := o :: s.trace }

/-- The clock was read, and a ledger call left this table. -/
def at' (s : WriterState δ τ) (now : ℚ) (db : Commands δ) : WriterState δ τ :=
  { s with clock := now, db := db }

/-- The command is claimed, and the handler awaits its write. -/
def grant (s : WriterState δ τ) (d : ℕ) (t : Task δ τ) (token : String) :
    WriterState δ τ :=
  { (s.put d (t.executing token)).observe
      (.claimed d t.command.correlationId t.digest token) with
    loop := none }

/-- The handler answers and ends. -/
def reply (s : WriterState δ τ) (d : ℕ) (t : Task δ τ) (result : WriteResult) :
    WriterState δ τ :=
  { (s.put d { t with handler := .gone }).observe (.replied d t.message result) with
    loop := none }

end WriterState

/-! ## Steps -/

/-- What happens next, with clock readings, draws and exceptions. -/
inductive WriterEvent (δ τ : Type) where
  | restart (now : String → ℚ) (pruneAt : ℚ)
  | crash
  | deliver (message : WriterMessage δ τ) (now : ℚ)
  | lookup (d : ℕ) (fault : Option PyError) (now : ℚ)
  | verify (d : ℕ) (now : ℚ)
  | claim (d : ℕ) (fault : Option PyError) (pruneAt now : ℚ) (token : String)
  | connect (d : ℕ) (previous draw : ℕ)
  | check (d : ℕ) (now : ℚ)
  | mark (d : ℕ) (fault : Option PyError) (now : ℚ)
  | recheck (d : ℕ) (now : ℚ)
  | send (d : ℕ)
  | acknowledge (d : ℕ)
  | raise (d : ℕ) (error : PyError)
  | complete (d : ℕ) (fault : Option PyError) (now : ℚ) (writtenAt : AwareDatetime)
  | giveUp (d : ℕ) (fault : Option PyError) (now : ℚ)
  | escape (d : ℕ)
  | catchAll (d : ℕ) (fault : Option PyError) (now : ℚ)
  | cancel (d : ℕ) (fault : Option PyError) (now : ℚ)

/-- `req.deadline.timestamp()`. -/
def claimDeadline (cfg : WriterConfig δ τ) (c : ActuationRequest) : ℚ :=
  cfg.ledger.arith.round ((deadlineOf c).getD 0)

/-- What a cancellation leaves of the write: only a worker thread survives its
handler. -/
def surviving (cfg : WriterConfig δ τ) (t : Task δ τ) : WriteStage :=
  if (cfg.route? t.command.targetUnsTopic).any Route.inThread then t.write else .absent

section Step

variable [DecidableEq δ] [DecidableEq τ]

/-- `before_write`'s check of the approval, and the one before the claim. -/
def verifyTask (cfg : WriterConfig δ τ) (t : Task δ τ) (now : ℚ) :
    Except PyError Unit :=
  verifyEvidence cfg.crypto t.command t.approval cfg.approvalKey .approval
    cfg.writerId now false

/-- One step of the system; `none` when the event cannot happen now. -/
def step (cfg : WriterConfig δ τ) (s : WriterState δ τ) :
    WriterEvent δ τ → Option (WriterState δ τ)
  | .restart now pruneAt =>
      match s.up, recover cfg.ledger none now pruneAt s.db with
      | false, (.ok _, db) =>
          some { s.at' pruneAt db with up := true, tasks := fun _ => none, loop := none }
      | _, _ => none
  | .crash =>
      if s.up then some { s with up := false, tasks := fun _ => none, loop := none }
      else none
  | .deliver message now =>
      if s.up ∧ s.loop = none then
        let d := s.deliveries
        let s := { s.at' now s.db with deliveries := d + 1 }
        match admission cfg now message with
        | .error e => some (s.observe (.replied d message (refusal e)))
        | .ok (request, digest) =>
            let t : Task δ τ :=
              { command := request.command, approval := request.approval, digest }
            some { (s.put d t).observe (.verified d now) with loop := some d }
      else none
  | .lookup d fault now =>
      (s.handler? d .admitted).map fun t =>
        match lookup fault now s.db t.command.correlationId t.digest with
        | (.error _, db) =>
            (s.at' now db).reply d t (refusal (runtimeError "command history is unavailable"))
        | (.ok none, db) => (s.at' now db).put d { t with handler := .lookedUp }
        | (.ok (some r), db) =>
            if r.retryable then (s.at' now db).put d { t with handler := .lookedUp }
            else (s.at' now db).reply d t r
  | .verify d now =>
      (s.handler? d .lookedUp).map fun t =>
        match verifyTask cfg t now with
        | .error e => (s.at' now s.db).reply d t (refusal e)
        | .ok _ =>
            ((s.at' now s.db).put d { t with handler := .checked }).observe (.verified d now)
  | .claim d fault pruneAt now token =>
      if token ∈ (claimsOf s.trace).map Fact.token then none
      else
        (s.handler? d .checked).map fun t =>
          match claim cfg.ledger fault pruneAt now token s.db t.command.correlationId
            t.digest (claimDeadline cfg t.command) with
          | (.ok ⟨some token, _⟩, db) => (s.at' now db).grant d t token
          | (.ok ⟨none, some r⟩, db) => (s.at' now db).reply d t r
          | (.ok ⟨none, none⟩, db) =>
              (s.at' now db).reply d t (refusal ⟨.other "AssertionError", ""⟩)
          | (.error _, db) =>
              (s.at' now db).reply d t
                (refusal (runtimeError "command claim could not be established"))
  | .connect d previous draw =>
      (s.write? d (· == .connecting)).map fun t =>
        match cfg.route? t.command.targetUnsTopic with
        | none =>
            s.put d { t with write := .raised (valueError "no configured write target") }
        | some route =>
            match framesFor route t.command.requestedValue (nextSequence previous draw) with
            | .error e => s.put d { t with write := .raised e }
            | .ok frames => s.put d { t with write := .idle, frames := frames }
  | .check d now =>
      (s.write? d (· == .idle)).bind fun t =>
        if t.frames = [] then none
        else
          match verifyTask cfg t now with
          | .error e => some ((s.at' now s.db).put d { t with write := .raised e })
          | .ok _ =>
              some (((s.at' now s.db).put d { t with write := .checked }).observe
                (.verified d now))
  | .mark d fault now =>
      (s.write? d (· == .checked)).bind fun t => t.token.map fun token =>
        match markStarted fault now s.db t.command.correlationId token with
        | (.error e, db) => (s.at' now db).put d { t with write := .raised e }
        | (.ok _, db) =>
            ((s.at' now db).put d { t with write := .marked }).observe
              (.initiated d t.command.correlationId t.digest token)
  | .recheck d now =>
      (s.write? d (· == .marked)).map fun t =>
        match verifyTask cfg t now with
        | .error e => (s.at' now s.db).put d { t with write := .raised e }
        | .ok _ =>
            ((s.at' now s.db).put d { t with write := .ready now }).observe
              (.verified d now)
  | .send d =>
      (s.tasks d).bind fun t =>
        match s.up, t.write, t.token, t.frames with
        | true, .ready _, some token, f :: frames =>
            some ((s.put d { t with write := .idle, frames := frames }).observe
              (.frame d t.command t.approval t.digest token f))
        | _, _, _, _ => none
  | .acknowledge d =>
      (s.write? d (· == .idle)).bind fun t =>
        if t.frames = [] then some (s.put d { t with write := .returned }) else none
  | .raise d e =>
      (s.write? d WriteStage.running).map fun t => s.put d { t with write := .raised e }
  | .complete d fault now writtenAt =>
      (s.handler? d .executing).bind fun t =>
        match t.write, t.token with
        | .returned, some token =>
            match complete cfg.ledger fault now s.db t.command.correlationId token
              writtenAt with
            | (.error _, db) => some ((s.at' now db).put d { t with handler := .failing })
            | (.ok r, db) => some ((s.at' now db).reply d t r)
        | _, _ => none
  | .giveUp d fault now =>
      (s.handler? d .executing).bind fun t =>
        match t.write, t.token with
        | .raised e, some token =>
            match fail cfg.ledger fault now s.db t.command.correlationId token
              e.kind.name with
            | (.error _, db) => some ((s.at' now db).put d { t with handler := .failing })
            | (.ok r, db) => some ((s.at' now db).reply d t r)
        | _, _ => none
  | .escape d =>
      (s.handler? d .executing).bind fun t =>
        if t.write = .connecting ∨ t.write = .returned then
          some (s.put d { t with handler := .failing, write := .absent })
        else none
  | .catchAll d fault now =>
      (s.handler? d .failing).bind fun t => t.token.map fun token =>
        let db := (fail cfg.ledger fault now s.db t.command.correlationId token
          "ledger_failure").2
        (s.at' now db).reply d t ledgerFailure
  | .cancel d fault now =>
      (s.handler? d .executing).bind fun t =>
        match t.write.running, t.token with
        | true, some token =>
            match fail cfg.ledger fault now s.db t.command.correlationId token
              "execution_cancelled" with
            | (.error _, db) =>
                some ((s.at' now db).put d
                  { t with handler := .failing, write := surviving cfg t })
            | (.ok _, db) =>
                some ((s.at' now db).put d
                  { t with handler := .gone, write := surviving cfg t })
        | _, _ => none

end Step

/-- No clock reading of the step is before the last one. -/
def ClockForward (s : WriterState δ τ) : WriterEvent δ τ → Prop
  | .restart now pruneAt =>
      (∀ r ∈ s.db.rows, r.state.active = true →
        s.clock ≤ now r.commandId ∧ now r.commandId ≤ pruneAt) ∧ s.clock ≤ pruneAt
  | .claim _ _ pruneAt now _ => s.clock ≤ pruneAt ∧ pruneAt ≤ now
  | .deliver _ now | .lookup _ _ now | .verify _ now | .check _ now
  | .mark _ _ now | .recheck _ now | .complete _ _ now _ | .giveUp _ _ now
  | .catchAll _ _ now | .cancel _ _ now => s.clock ≤ now
  | .crash | .connect .. | .send _ | .acknowledge _ | .raise .. | .escape _ => True

instance (s : WriterState δ τ) : DecidablePred (ClockForward s) := fun e => by
  cases e <;> unfold ClockForward <;> infer_instance

/-! ## A publisher with one S7 valve

A configuration on which the system can be run: digests are the canonical values
themselves and a signature is its key and its text. -/

namespace Valve

def crypto : Crypto Json (String × EvidenceBody Json) :=
  ⟨id, fun key body => (key, body)⟩

def topic : String := "uniza/zilina/bottling/line1/filler/valve/open"

def target : NativeTarget :=
  { protocol := .s7, host := "s7-simulator", port := 102, commandAddress := 0,
    ackAddress := 8, operation := 1, valueType := .bool, minimum := .finite 0,
    maximum := .finite 1 }

/-- Retention is the default of one day. -/
def config : WriterConfig Json (String × EvidenceBody Json) where
  crypto := crypto
  approvalKey := "0123456789abcdef0123456789abcdef"
  writerId := "actuation-signal-publisher"
  ledger := ⟨.double, 86400, by norm_num⟩
  one_le_retention := by norm_num
  nativeTargets := fun t => if t = topic then some target else none
  targets := fun _ => none

/-- A command that expires 30 seconds after it was requested. -/
def command : ActuationRequest :=
  { correlationId := "01J00000000000000000000000", requester := "decision-agent-stub",
    targetUnsTopic := topic, requestedValue := .bool true, valueType := .bool,
    reason := "close", requestedAt := .aware (.ofMicros 1000000000),
    deadline := some (.aware (.ofMicros 1030000000)), extra := [],
    names_nodup := declaredNames_nodup }

def digest : Json :=
  (Json.obj (digestFields command (.ofMicros 1000000000)
    (.ofMicros 1030000000))).sortKeys

def approval : SignedEvidence Json (String × EvidenceBody Json) :=
  let body : EvidenceBody Json :=
    ⟨.approval, digest, config.writerId, .ofMicros 1000000000⟩
  ⟨body.purpose, body.commandDigest, body.writer, body.issuedAt,
    (config.approvalKey, body)⟩

def message : WriterMessage Json (String × EvidenceBody Json) :=
  .approved command.correlationId ⟨command, approval⟩

/-- The canonical values themselves do not collide. -/
theorem collisionFree : CollisionFree config.crypto :=
  fun _ _ _ _ _ _ h => h

/-- A delivery up to its claim, all at one clock reading. -/
def claiming (d : ℕ) (now : ℚ) (token : String) :
    List (WriterEvent Json (String × EvidenceBody Json)) :=
  [.deliver message now, .lookup d none now, .verify d now, .claim d none now now token]

/-- `before_write` and its frame. -/
def frame (d : ℕ) (now : ℚ) : List (WriterEvent Json (String × EvidenceBody Json)) :=
  [.check d now, .mark d none now, .recheck d now, .send d]

end Valve

end EirvahEdge.Writer
