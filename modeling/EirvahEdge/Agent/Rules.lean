import EirvahEdge.Recovery.Inbox
import EirvahEdge.Contracts.Hops

/-!
# The policies of the decision agent

`ProductionModeRule` picks the recipe of the warmer when the speed setpoint of
the conveyor moves from one band to the other.  `InspectionRule` rejects a
bottle whose inspection failed, as long as the agent keeps what it has decided
in memory.

Both change their memory before they build the request, so an error in building
it leaves the memory changed.  A call therefore answers with the rule after it
beside what it returns or raises.  Datetimes are compared exactly and a `timedelta`
is rounded to the microsecond; an age that is compared with a limit is a float,
and the arithmetic it is computed in stands in the settings.
-/

namespace EirvahEdge.Agent

open EirvahEdge.Lib
open EirvahEdge.Contracts
open EirvahEdge.Recovery

/-! ## Settings -/

/-- The double `0.8`. -/
def speedLimit : ℚ := PyFloat.nearest (4 / 5)

/-- What the agent reads of `DecisionAgentSettings`, with its field constraints
and `check_speed_bands`.  `rounding` is not an option of the service but the
arithmetic of its floats: doubles, or exact for statements about exact times. -/
structure DecisionAgentSettings where
  rounding : Rounding
  inboxPath : Option String
  requirePositions : Bool
  subscribeTopic : String
  enabled : Bool
  normalSpeedMax : ℚ
  highSpeedMin : ℚ
  normalSetpoint : ℚ
  highSetpoint : ℚ
  maxObservationAgeS : ℚ
  targetUnsTopic : String
  inspectionEnabled : Bool
  inspectionTopic : String
  rejectTargetUnsTopic : String
  rejectedBottleTopic : String
  rejectCountTopic : String
  inspectionMaxAgeS : ℚ
  normalSpeedMax_range : 0 ≤ normalSpeedMax ∧ normalSpeedMax ≤ speedLimit
  highSpeedMin_range : 0 ≤ highSpeedMin ∧ highSpeedMin ≤ speedLimit
  normalSetpoint_range : 20 ≤ normalSetpoint ∧ normalSetpoint ≤ 30
  highSetpoint_range : 20 ≤ highSetpoint ∧ highSetpoint ≤ 30
  maxObservationAgeS_pos : 0 < maxObservationAgeS
  inspectionMaxAgeS_pos : 0 < inspectionMaxAgeS
  inspectionMaxAgeS_le : inspectionMaxAgeS ≤ 5
  check_speed_bands : normalSpeedMax < highSpeedMin

/-- The settings without an environment. -/
def defaultSettings : DecisionAgentSettings where
  rounding := .double
  inboxPath := none
  requirePositions := false
  subscribeTopic := "uniza/zilina/factory1/line_a/conveyor/belt_01/speed_setpoint"
  enabled := true
  normalSpeedMax := 1 / 2
  highSpeedMin := PyFloat.nearest (3 / 5)
  normalSetpoint := 22
  highSetpoint := 26
  maxObservationAgeS := 5
  targetUnsTopic := "uniza/zilina/factory1/line_a/bottler/setpoint_unit/setpoint_temperature"
  inspectionEnabled := true
  inspectionTopic :=
    "uniza/zilina/factory1/line_a/inspector/inspector_01/bottle_inspection"
  rejectTargetUnsTopic :=
    "uniza/zilina/factory1/line_a/reject_station/rejector_01/reject_bottle"
  rejectedBottleTopic :=
    "uniza/zilina/factory1/line_a/reject_station/rejector_01/last_rejected_bottle"
  rejectCountTopic :=
    "uniza/zilina/factory1/line_a/reject_station/reject_counter_01/reject_count"
  inspectionMaxAgeS := 2
  normalSpeedMax_range := by decide +kernel
  highSpeedMin_range := by decide +kernel
  normalSetpoint_range := by decide +kernel
  highSetpoint_range := by decide +kernel
  maxObservationAgeS_pos := by decide +kernel
  inspectionMaxAgeS_pos := by decide +kernel
  inspectionMaxAgeS_le := by decide +kernel
  check_speed_bands := by decide +kernel

/-! ## Times and requests -/

/-- How long before `now` a time was. -/
def ageAt (now d : AwareDatetime) : ℚ := now.timestamp - d.timestamp

/-- `(now - d).total_seconds()`. -/
def DecisionAgentSettings.ageSeconds (settings : DecisionAgentSettings)
    (now d : AwareDatetime) : ℚ :=
  now.totalSeconds settings.rounding d

/-- An age below the limit of inspections is below the greatest such limit, also
before its rounding. -/
theorem ageAt_lt_five {settings : DecisionAgentSettings} {now d : AwareDatetime}
    (h : settings.ageSeconds now d < settings.inspectionMaxAgeS) : ageAt now d < 5 := by
  have hmax := settings.inspectionMaxAgeS_le
  by_contra hold
  have hle : ((5 : ℤ) : ℚ) ≤ ageAt now d := by
    push_cast
    linarith
  have hround := settings.rounding.le_round_of_le (by norm_num) hle
  unfold DecisionAgentSettings.ageSeconds AwareDatetime.totalSeconds at h
  unfold ageAt at hround
  push_cast at hround
  linarith

/-- `ActuationRequest(...)` as both rules build it. -/
def newRequest (correlationId targetUnsTopic : String) (requestedValue : SignalValue)
    (valueType : SignalValueType) (reason : String) (requestedAt deadline : AwareDatetime) :
    Except PyError ActuationRequest :=
  if !isValidCorrelationId correlationId then .error (Json.validationError "correlation_id")
  else if !isUnsTopic targetUnsTopic then .error (Json.validationError "target_uns_topic")
  else
    .ok
      { correlationId, requester := "decision-agent-stub", targetUnsTopic, requestedValue,
        valueType, reason, requestedAt := .aware requestedAt
        deadline := some (.aware deadline), extra := [], names_nodup := declaredNames_nodup }

/-! ## Production modes -/

inductive Mode where
  | high
  | normal
deriving DecidableEq, Repr

def Mode.name : Mode → String
  | .high => "high"
  | .normal => "normal"

/-- The recipe of a mode. -/
def DecisionAgentSettings.setpoint (settings : DecisionAgentSettings) : Mode → ℚ
  | .high => settings.highSetpoint
  | .normal => settings.normalSetpoint

/-- The band a speed lies in; between the bands there is none. -/
def DecisionAgentSettings.band (settings : DecisionAgentSettings) (speed : ℚ) : Option Mode :=
  if settings.highSpeedMin ≤ speed then some .high
  else if speed ≤ settings.normalSpeedMax then some .normal
  else none

/-- `type(v) in (int, float) and math.isfinite(v) and 0 <= v <= 0.8`, as the
number; `isfinite` refuses an integer that no double holds. -/
def admissibleSpeed : Json → Except PyError (Option ℚ)
  | .int n =>
      if (PyFloat.ofInt n).isNone then
        .error ⟨.overflowError, "int too large to convert to float"⟩
      else .ok (if 0 ≤ n ∧ (n : ℚ) ≤ speedLimit then some n else none)
  | .float x => .ok (x.toRat?.filter fun q => decide (0 ≤ q ∧ q ≤ speedLimit))
  | _ => .ok none

/-- What `ProductionModeRule` remembers. -/
structure ProductionModeRule where
  lastMode : Option Mode := none
  latestAt : Option AwareDatetime := none
deriving DecidableEq, Repr

namespace ProductionModeRule

variable (settings : DecisionAgentSettings) (rule : ProductionModeRule)

/-- An observation that is not in the future, not stale and not behind the
latest one. -/
def isCurrent (observedAt now : AwareDatetime) : Bool :=
  decide (0 ≤ settings.ageSeconds now observedAt ∧
      settings.ageSeconds now observedAt ≤ settings.maxObservationAgeS) &&
    rule.latestAt.all fun latestAt => decide (latestAt.timestamp ≤ observedAt.timestamp)

/-- The checks before anything is remembered: the speed with its two times. -/
def admits (speed : Json) (observedAt now : Datetime) (quality : String) :
    Except PyError (Option (ℚ × AwareDatetime × AwareDatetime)) :=
  if !settings.enabled || quality != "good" then .ok none
  else
    match admissibleSpeed speed with
    | .error e => .error e
    | .ok none => .ok none
    | .ok (some q) =>
        match observedAt, now with
        | .aware observedAt, .aware now =>
            .ok (if rule.isCurrent settings observedAt now then some (q, observedAt, now)
              else none)
        | _, _ => .ok none

/-- The mode an admitted speed moves the rule to. -/
def selects (q : ℚ) : Option Mode :=
  (settings.band q).filter fun mode => decide (rule.lastMode ≠ some mode)

/-- The request for the recipe of a mode; `shown` is the text of the speed. -/
def request (shown : Json → String) (speed : Json) (now : AwareDatetime)
    (freshId : String) (mode : Mode) : Except PyError ActuationRequest := do
  let deadline ← addSeconds now 10
  newRequest freshId settings.targetUnsTopic (.float (.finite (settings.setpoint mode)))
    .double
    ("warmer recipe: " ++ mode.name ++ " production mode, conveyor speed setpoint " ++
      shown speed ++ " m/s")
    now deadline

/-- `ProductionModeRule.update`. -/
def update (shown : Json → String) (speed : Json) (observedAt now : Datetime)
    (quality freshId : String) :
    ProductionModeRule × Except PyError (Option ActuationRequest) :=
  match rule.admits settings speed observedAt now quality with
  | .error e => (rule, .error e)
  | .ok none => (rule, .ok none)
  | .ok (some (q, observedAt, now)) =>
      match rule.selects settings q with
      | none => ({ rule with latestAt := some observedAt }, .ok none)
      | some mode =>
          (⟨some mode, some observedAt⟩,
            (request settings shown speed now freshId mode).map some)

end ProductionModeRule

/-! ## Inspections -/

/-- The command that rejects an inspected bottle. -/
def rejectRequest (settings : DecisionAgentSettings) (event : BottleInspection)
    (now : AwareDatetime) (freshId : String) : Except PyError ActuationRequest := do
  let deadline ← addSeconds event.inspectedAt settings.inspectionMaxAgeS
  newRequest freshId settings.rejectTargetUnsTopic (.int event.bottleId) .int64
    ("failed bottle inspection " ++ event.inspectionId) now deadline

/-- Why `InspectionRule` decided as it did. -/
inductive InspectionReason where
  | notObserved
  | disabled
  | future
  | stale
  | invalidIdentity
  | duplicate
  | identityConflict
  | sequenceRegression
  | capacity
  | bottleDuplicate
  | passed
  | failed
deriving DecidableEq, Repr

def InspectionReason.name : InspectionReason → String
  | .notObserved => "not_observed"
  | .disabled => "disabled"
  | .future => "future"
  | .stale => "stale"
  | .invalidIdentity => "invalid_identity"
  | .duplicate => "duplicate"
  | .identityConflict => "identity_conflict"
  | .sequenceRegression => "sequence_regression"
  | .capacity => "capacity"
  | .bottleDuplicate => "bottle_duplicate"
  | .passed => "passed"
  | .failed => "failed"

/-- `last_decision` of the rule. -/
structure InspectionDecision where
  accepted : Bool := false
  reason : InspectionReason
  missingSequences : ℕ := 0
  lateSequence : Bool := false
deriving DecidableEq, Repr

/-- An identity with the time it was admitted and the event it was admitted
with. -/
structure SeenEntry where
  inspectionId : String
  admittedAt : AwareDatetime
  event : BottleInspection
deriving DecidableEq, Repr

/-- A bottle of a session with the time it was admitted. -/
structure BottleEntry where
  key : String × ℕ
  admittedAt : AwareDatetime
deriving DecidableEq, Repr

/-- The greatest sequence of a session, when the session was last heard of, and
the time of the inspection with that sequence. -/
structure HeadEntry where
  session : String
  sequence : ℕ
  heardAt : AwareDatetime
  inspectedAt : AwareDatetime
deriving DecidableEq, Repr

/-- What `InspectionRule` remembers. -/
structure InspectionRule where
  capacity : ℕ
  capacity_pos : 1 ≤ capacity
  seen : Table SeenEntry.inspectionId
  bottles : Table BottleEntry.key
  heads : Table HeadEntry.session
  lastDecision : InspectionDecision

/-- `BottleInspection.__eq__`: times are compared as instants. -/
def inspectionEq (event event' : BottleInspection) : Bool :=
  event.inspectionId == event'.inspectionId && event.bottleId == event'.bottleId &&
    event.passed == event'.passed &&
    event.inspectedAt.instantMicros == event'.inspectedAt.instantMicros

namespace InspectionRule

/-- `InspectionRule(settings)` with its default capacity. -/
def initial : InspectionRule where
  capacity := 4096
  capacity_pos := by decide
  seen := .empty
  bottles := .empty
  heads := .empty
  lastDecision := { reason := .notObserved }

/-- `self.last_decision["reason"] = ...` with what else is noted. -/
def decided (rule : InspectionRule) (decision : InspectionDecision) : InspectionRule :=
  { rule with lastDecision := decision }

/-- Entries older than the cutoff are dropped from all three tables. -/
def prune (rule : InspectionRule) (cutoff : AwareDatetime) : InspectionRule :=
  { rule with
    seen := rule.seen.deleteWhere fun e => decide (e.admittedAt.timestamp < cutoff.timestamp)
    bottles := rule.bottles.deleteWhere fun e =>
      decide (e.admittedAt.timestamp < cutoff.timestamp)
    heads := rule.heads.deleteWhere fun e => decide (e.heardAt.timestamp < cutoff.timestamp) }

/-- The entry of a session after an event that is `late` or not. -/
def headAfter (head : Option HeadEntry) (late : Bool) (event : BottleInspection)
    (now : AwareDatetime) : HeadEntry :=
  match head, late with
  | some head, true => { head with heardAt := now }
  | _, _ => ⟨event.session, sequenceNumber event.inspectionId, now, event.inspectedAt⟩

/-- Admission once identity and sequence are in order: the bottle, the room, and
the decision. -/
def admitEvent (settings : DecisionAgentSettings) (rule : InspectionRule)
    (event : BottleInspection) (now : AwareDatetime) (freshId : String)
    (gap : ℕ) (late : Bool) : InspectionRule × Except PyError (Option ActuationRequest) :=
  let bottleKey := (event.session, event.bottleId)
  if (rule.bottles.lookup bottleKey).isSome then
    (rule.decided ⟨false, .bottleDuplicate, gap, late⟩, .ok none)
  else if rule.capacity ≤ rule.seen.rows.length then
    (rule.decided ⟨false, .capacity, gap, late⟩, .ok none)
  else
    let rule :=
      { rule with
        seen := rule.seen.replace ⟨event.inspectionId, now, event⟩
        bottles := rule.bottles.replace ⟨bottleKey, now⟩ }
    if event.passed then (rule.decided ⟨true, .passed, gap, late⟩, .ok none)
    else
      (rule.decided ⟨true, .failed, gap, late⟩,
        (rejectRequest settings event now freshId).map some)

/-- The checks of a fresh event on the pruned tables: identity, then sequence,
whose head moves before the bottle is looked at. -/
def consider (settings : DecisionAgentSettings) (rule : InspectionRule)
    (event : BottleInspection) (now : AwareDatetime) (freshId : String) :
    InspectionRule × Except PyError (Option ActuationRequest) :=
  let sequence := sequenceNumber event.inspectionId
  if sequence = 0 then (rule.decided { reason := .invalidIdentity }, .ok none)
  else
    match rule.seen.lookup event.inspectionId with
    | some previous =>
        (rule.decided
          { reason :=
              if inspectionEq previous.event event then .duplicate else .identityConflict },
          .ok none)
    | none =>
        let head := rule.heads.lookup event.session
        let late := head.any fun head => decide (sequence ≤ head.sequence)
        if late && head.any fun head =>
            decide (head.inspectedAt.timestamp < event.inspectedAt.timestamp) then
          (rule.decided { reason := .sequenceRegression }, .ok none)
        else if head.isNone && decide (rule.capacity ≤ rule.heads.rows.length) then
          (rule.decided { reason := .capacity }, .ok none)
        else
          let gap := (head.map fun head => sequence - head.sequence - 1).getD 0
          { rule with heads := rule.heads.replace (headAfter head late event now) }.admitEvent
            settings event now freshId gap late

/-- `InspectionRule.update`. -/
def update (settings : DecisionAgentSettings) (rule : InspectionRule)
    (event : BottleInspection) (now : AwareDatetime) (freshId : String) :
    InspectionRule × Except PyError (Option ActuationRequest) :=
  let rule := rule.decided { reason := .disabled }
  if !settings.inspectionEnabled then (rule, .ok none)
  else
    let age := settings.ageSeconds now event.inspectedAt
    if age < 0 then (rule.decided { reason := .future }, .ok none)
    else if settings.inspectionMaxAgeS ≤ age then (rule.decided { reason := .stale }, .ok none)
    else
      match addSeconds now (-(settings.inspectionMaxAgeS + 10)) with
      | .error e => (rule, .error e)
      | .ok cutoff => (rule.prune cutoff).consider settings event now freshId

end InspectionRule

end EirvahEdge.Agent
