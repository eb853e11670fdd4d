import EirvahEdge.Agent.Rules
import EirvahEdge.Contracts.Signals
import EirvahEdge.Recovery.Advance

/-!
# What the decision agent keeps track of

`StateTracker` guards the state streams the agent reads: freshness first, then
the order of positions when an observation carries one, or of its timestamps.
`RejectionTracker` follows every rejection the agent has requested until it is
confirmed, refused or given up.

Python code that raises in the middle leaves behind what it has changed before.
So an operation here answers with the state after it beside what it returns or
raises, and `andThen` continues with both.

`record_command` journals a command.  Its journal is taken to be writable, and
every value of a command but an infinity or a NaN to have a text;
`json.dumps` also refuses integers of more than 4300 digits.
-/

namespace EirvahEdge.Agent

open EirvahEdge.Lib
open EirvahEdge.Contracts
open EirvahEdge.Recovery

/-- Go on after a call, in the state it left, unless it raised. -/
def andThen {σ α β : Type} (r : σ × Except PyError α)
    (f : σ → α → σ × Except PyError β) : σ × Except PyError β :=
  match r with
  | (s, .error e) => (s, .error e)
  | (s, .ok a) => f s a

theorem andThen_eq_ok {σ α β : Type} {r : σ × Except PyError α}
    {f : σ → α → σ × Except PyError β} {b : β} :
    (andThen r f).2 = .ok b ↔ ∃ a, r.2 = .ok a ∧ (f r.1 a).2 = .ok b := by
  obtain ⟨s, _ | a⟩ := r <;> simp [andThen]

/-- What every continuation keeps, the whole call keeps. -/
theorem andThen_fst {σ α β τ : Type} {r : σ × Except PyError α}
    {f : σ → α → σ × Except PyError β} (view : σ → τ)
    (h : ∀ s a, view (f s a).1 = view s) : view (andThen r f).1 = view r.1 := by
  obtain ⟨s, _ | a⟩ := r
  · rfl
  · exact h s a

/-- An answer made from the one before changes no state. -/
theorem andThen_answer_fst {σ α β : Type} (r : σ × Except PyError α)
    (g : α → Except PyError β) : (andThen r fun s a => (s, g a)).1 = r.1 :=
  andThen_fst (fun s => s) fun _ _ => rfl

/-! ## State streams -/

/-- Why an update was or was not accepted. -/
inductive StateReason where
  | notObserved
  | invalidContract
  | accepted
  | invalidTime
  | badQuality
  | future
  | stale
  | missingPosition
  | position (verdict : Verdict)
  | outOfOrder
  | duplicate
  | timestampConflict
deriving DecidableEq, Repr

def StateReason.name : StateReason → String
  | .notObserved => "not_observed"
  | .invalidContract => "invalid_contract"
  | .accepted => "accepted"
  | .invalidTime => "invalid_time"
  | .badQuality => "bad_quality"
  | .future => "future"
  | .stale => "stale"
  | .missingPosition => "missing_position"
  | .position verdict => verdict.text
  | .outOfOrder => "out_of_order"
  | .duplicate => "duplicate"
  | .timestampConflict => "timestamp_conflict"

/-- `last_decision` of the tracker. -/
structure StateDecision where
  accepted : Bool
  reason : StateReason
deriving DecidableEq, Repr

/-- The sample retained for a topic. -/
structure StateSample where
  topic : String
  observedAt : AwareDatetime
  value : SignalValue
deriving DecidableEq, Repr

/-- What `StateTracker` remembers; `positions` are those of the retained
samples, and `rounding` is the arithmetic of its ages. -/
structure StateTracker where
  rounding : Rounding
  maxAgeS : ℚ
  maxAgeS_pos : 0 < maxAgeS
  requirePosition : Bool
  positions : Table (Prod.fst : String × SourcePosition → String)
  latest : Table StateSample.topic
  lastDecision : StateDecision

/-- `a == b` on doubles. -/
def floatEq (x y : PyFloat) : Bool := x.le y && y.le x

/-- `type(value) is type(previous) and value == previous`. -/
def sameValue : SignalValue → SignalValue → Bool
  | .float x, .float y => floatEq x y
  | .int m, .int n => m == n
  | .bool a, .bool b => a == b
  | .str s, .str t => s == t
  | _, _ => false

namespace StateTracker

def initial (settings : DecisionAgentSettings) : StateTracker where
  rounding := settings.rounding
  maxAgeS := settings.maxObservationAgeS
  maxAgeS_pos := settings.maxObservationAgeS_pos
  requirePosition := settings.requirePositions
  positions := .empty
  latest := .empty
  lastDecision := ⟨false, .notObserved⟩

/-- The checks on times and quality. -/
def freshness (tracker : StateTracker) (observedAt now : Datetime) (quality : Json) :
    Except StateReason AwareDatetime :=
  match observedAt, now with
  | .aware observedAt, .aware now =>
      if quality ≠ .str "good" then .error .badQuality
      else if now.totalSeconds tracker.rounding observedAt < 0 then .error .future
      else if tracker.maxAgeS < now.totalSeconds tracker.rounding observedAt then .error .stale
      else .ok observedAt
  | _, _ => .error .invalidTime

/-- The comparison with the retained sample, without positions. -/
def compareTimes (tracker : StateTracker) (topic : String) (value : SignalValue)
    (observedAt : AwareDatetime) : StateReason :=
  match tracker.latest.lookup topic with
  | none => .accepted
  | some previous =>
      if observedAt.timestamp < previous.observedAt.timestamp then .outOfOrder
      else if observedAt.timestamp = previous.observedAt.timestamp then
        if sameValue value previous.value then .duplicate else .timestampConflict
      else .accepted

/-- What `advance` of the store says about a position; `binding` is the text of
the observation it is compared with. -/
def comparePosition (positions : Option PositionTable) (topic : String) (position : Json)
    (binding : String) :
    Option PositionTable × Except PyError (SourcePosition × StateReason) :=
  match SourcePosition.parse position, positions with
  | .error e, _ => (positions, .error e)
  | .ok _, none => (none, .error (runtimeError "durable position guard required"))
  | .ok parsed, some positions =>
      match advance positions topic parsed binding with
      | (positions, .accepted) => (some positions, .ok (parsed, .accepted))
      | (positions, verdict) => (some positions, .ok (parsed, .position verdict))

/-- The decision is noted, and an accepted sample retained. -/
def conclude (tracker : StateTracker) (sample : StateSample) (reason : StateReason) :
    StateTracker :=
  if reason = .accepted then
    { tracker with latest := tracker.latest.replace sample, lastDecision := ⟨true, reason⟩ }
  else { tracker with lastDecision := ⟨false, reason⟩ }

/-- `StateTracker.update` with the table of the store, when there is one;
`bindingText` is the text an observation is bound to its position with. -/
def update (bindingText : SignalValue → AwareDatetime → String) (tracker : StateTracker)
    (positions : Option PositionTable) (topic : String) (value : SignalValue)
    (observedAt now : Datetime) (quality : Json) (position : Option Json) :
    (StateTracker × Option PositionTable) × Except PyError Bool :=
  match tracker.freshness observedAt now quality with
  | .error reason =>
      (({ tracker with lastDecision := ⟨false, reason⟩ }, positions), .ok false)
  | .ok observedAt =>
      match position with
      | none =>
          let reason :=
            if tracker.requirePosition then .missingPosition
            else tracker.compareTimes topic value observedAt
          ((tracker.conclude ⟨topic, observedAt, value⟩ reason, positions),
            .ok (reason == .accepted))
      | some position =>
          match comparePosition positions topic position (bindingText value observedAt) with
          | (positions, .error e) => ((tracker, positions), .error e)
          | (positions, .ok (parsed, reason)) =>
              let tracker :=
                if reason = .accepted then
                  { tracker with positions := tracker.positions.replace (topic, parsed) }
                else tracker
              ((tracker.conclude ⟨topic, observedAt, value⟩ reason, positions),
                .ok (reason == .accepted))

end StateTracker

/-! ## Rejections -/

/-- What became of a rejection. -/
inductive RejectionOutcome where
  | confirmed
  | notConfirmed
  | unknown
deriving DecidableEq, Repr

def RejectionOutcome.name : RejectionOutcome → String
  | .confirmed => "confirmed"
  | .notConfirmed => "not_confirmed"
  | .unknown => "unknown"

/-- `Outcome`: the inspection and what became of its rejection. -/
abbrev Outcome := String × RejectionOutcome

/-- `PendingRejection`. -/
structure PendingRejection where
  request : ActuationRequest
  inspection : BottleInspection
  baselineCount : Option ℤ
  acknowledged : Bool := false
deriving DecidableEq, Repr

/-- The key of a pending rejection. -/
def PendingRejection.key (entry : PendingRejection) : String := entry.request.correlationId

/-- What the tracker holds of a feedback stream. -/
structure FeedbackCell where
  kind : String
  value : ℤ
  observedAt : Datetime
deriving DecidableEq, Repr

/-- What `RejectionTracker` remembers; `cells` is `_feedback`. -/
structure RejectionTracker where
  capacity : ℕ
  pending : Table PendingRejection.key
  cells : Table FeedbackCell.kind

def awareNaiveError : PyError :=
  ⟨.typeError, "can't compare offset-naive and offset-aware datetimes"⟩

/-- `x > y` on datetimes. -/
def isAfter : Datetime → Datetime → Except PyError Bool
  | .aware x, .aware y => .ok (decide (y.timestamp < x.timestamp))
  | .naive x, .naive y => .ok (decide (y < x))
  | _, _ => .error awareNaiveError

/-- `d + timedelta(seconds=s)`, with or without an offset. -/
def shift (s : ℚ) : Datetime → Except PyError Datetime
  | .aware d => (addSeconds d s).map .aware
  | .naive micros => (addSeconds ⟨micros, 0⟩ s).map fun d => .naive d.localMicros

/-- `record_command` is refused for a value that JSON cannot hold; nothing reads what it
journals. -/
def recordCommand (request : ActuationRequest) : Except PyError Unit :=
  if (Json.ofSignalValue request.requestedValue).allFinite then .ok ()
  else .error (valueError "Out of range float values are not JSON compliant")

namespace PendingRejection

/-- `entry.request.deadline or entry.request.requested_at`. -/
def closingTime (entry : PendingRejection) : Datetime :=
  entry.request.deadline.getD entry.request.requestedAt

/-- `now > deadline + timedelta(seconds=10)`. -/
def isOverdue (now : Datetime) (entry : PendingRejection) : Except PyError Bool := do
  let limit ← shift 10 entry.closingTime
  isAfter now limit

/-- `observed_at >= entry.request.requested_at`. -/
def isAfterRequest (entry : PendingRejection) (observedAt : Datetime) :
    Except PyError Bool :=
  (isAfter entry.request.requestedAt observedAt).map not

/-- `count[0] > entry.baseline_count`. -/
def isAboveBaseline (entry : PendingRejection) (count : ℤ) : Except PyError Bool :=
  match entry.baselineCount with
  | some baseline => .ok (decide (baseline < count))
  | none => .error ⟨.typeError, "'>' not supported between instances of 'int' and 'NoneType'"⟩

/-- The condition of `_confirm`, read from left to right. -/
def isConfirmed (bottle count : FeedbackCell) (entry : PendingRejection) :
    Except PyError Bool :=
  if !entry.acknowledged || bottle.value != entry.inspection.bottleId then .ok false
  else do
    let above ← entry.isAboveBaseline count.value
    if !above then .ok false
    else do
      let bottleAfter ← entry.isAfterRequest bottle.observedAt
      if !bottleAfter then .ok false else entry.isAfterRequest count.observedAt

end PendingRejection

namespace RejectionTracker

/-- `RejectionTracker(capacity)`. -/
def new (capacity : ℕ) : RejectionTracker := ⟨capacity, .empty, .empty⟩

/-- `RejectionTracker()` with its default capacity. -/
def initial : RejectionTracker := new 128

/-- `entry.acknowledged = True`. -/
def acknowledge (tracker : RejectionTracker) (key : String) : RejectionTracker :=
  { tracker with
    pending := tracker.pending.updateWhere (fun e => e.key == key)
      (fun e => { e with acknowledged := true }) fun _ => rfl }

/-- `del self.pending[key]`. -/
def drop (tracker : RejectionTracker) (key : String) : RejectionTracker :=
  { tracker with pending := tracker.pending.deleteWhere fun e => e.key == key }

/-- `RejectionTracker.add`. -/
def add (tracker : RejectionTracker) (entry : PendingRejection) :
    RejectionTracker × Except PyError Unit :=
  if tracker.capacity ≤ tracker.pending.rows.length then
    (tracker, .error (valueError "rejection tracker at capacity"))
  else ({ tracker with pending := tracker.pending.replace entry }, .ok ())

/-- A loop over pending entries that closes those the condition holds of, in
their order, each once its evidence is recorded. -/
def sweep (closes : PendingRejection → Except PyError Bool) (outcome : RejectionOutcome) :
    List PendingRejection → RejectionTracker → RejectionTracker × Except PyError (List Outcome)
  | [], tracker => (tracker, .ok [])
  | entry :: entries, tracker =>
      match closes entry with
      | .error e => (tracker, .error e)
      | .ok false => sweep closes outcome entries tracker
      | .ok true =>
          match recordCommand entry.request with
          | .error e => (tracker, .error e)
          | .ok () =>
              andThen (sweep closes outcome entries (tracker.drop entry.key))
                fun tracker outcomes =>
                  (tracker, .ok ((entry.inspection.inspectionId, outcome) :: outcomes))

/-- `RejectionTracker.expire`. -/
def expire (tracker : RejectionTracker) (now : Datetime) :
    RejectionTracker × Except PyError (List Outcome) :=
  sweep (PendingRejection.isOverdue now) .unknown tracker.pending.rows tracker

/-- `RejectionTracker._confirm`. -/
def confirm (tracker : RejectionTracker) : RejectionTracker × Except PyError (List Outcome) :=
  match tracker.cells.lookup "bottle", tracker.cells.lookup "count" with
  | some bottle, some count =>
      sweep (PendingRejection.isConfirmed bottle count) .confirmed tracker.pending.rows tracker
  | _, _ => (tracker, .ok [])

/-- `outcomes + self._confirm()`. -/
def confirmAfter (outcomes : List Outcome) (tracker : RejectionTracker) :
    RejectionTracker × Except PyError (List Outcome) :=
  andThen tracker.confirm fun tracker confirmed => (tracker, .ok (outcomes ++ confirmed))

/-- `RejectionTracker.result`. -/
def result (tracker : RejectionTracker) (result : List (String × Json)) (now : Datetime) :
    RejectionTracker × Except PyError (List Outcome) :=
  andThen (tracker.expire now) fun tracker outcomes =>
    match getMember result "correlation_id" with
    | some (.str key) =>
        match tracker.pending.lookup key with
        | none => (tracker, .ok outcomes)
        | some entry =>
            let decision := getMember result "decision"
            if decision = some (.str "approve") ∧ truthy (getMember result "written_at") then
              confirmAfter outcomes (tracker.acknowledge key)
            else if decision = some (.str "pending") then (tracker, .ok outcomes)
            else if decision = some (.str "unknown") then
              match recordCommand entry.request with
              | .error e => (tracker, .error e)
              | .ok () =>
                  confirmAfter (outcomes ++ [(entry.inspection.inspectionId, .unknown)])
                    (tracker.drop key)
            else
              confirmAfter (outcomes ++ [(entry.inspection.inspectionId, .notConfirmed)])
                (tracker.drop key)
    | _ => (tracker, .ok outcomes)

/-- `_feedback[kind]` is replaced by a cell that was not observed earlier. -/
def note (tracker : RejectionTracker) (cell : FeedbackCell) :
    RejectionTracker × Except PyError Unit :=
  match tracker.cells.lookup cell.kind with
  | none => ({ tracker with cells := tracker.cells.replace cell }, .ok ())
  | some previous =>
      match isAfter previous.observedAt cell.observedAt with
      | .error e => (tracker, .error e)
      | .ok true => (tracker, .ok ())
      | .ok false => ({ tracker with cells := tracker.cells.replace cell }, .ok ())

/-- `RejectionTracker.feedback`. -/
def feedback (tracker : RejectionTracker) (kind : String) (value : ℤ)
    (observedAt now : Datetime) : RejectionTracker × Except PyError (List Outcome) :=
  andThen (tracker.expire now) fun tracker outcomes =>
    andThen (tracker.note ⟨kind, value, observedAt⟩) fun tracker _ =>
      confirmAfter outcomes tracker

end RejectionTracker

end EirvahEdge.Agent
