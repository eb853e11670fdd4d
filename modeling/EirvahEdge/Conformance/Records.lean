import EirvahEdge.Conformance.Clocks
import EirvahEdge.Conformance.Policies

/-!
# Execution records as they are collected

The evaluator is given the lines of many logs as decoded JSON.  A line is an execution record
when it names its schema and carries an identity, a time of both clocks and a command id;
every other member is read where a check needs it, and raises there when it is missing or of
another type.

Times are texts that `fromisoformat` reads, and durations are doubles: their sums are rounded
by `rounding`.
-/

namespace EirvahEdge.Conformance.Execution

open EirvahEdge.Lib
open EirvahEdge.Contracts

/-- The members of a line. -/
abbrev Fields := List (String × Json)

/-- `row.get(name)`. -/
def get (fields : Fields) (name : String) : Json := (Json.member fields name).getD .null

/-- `except (KeyError, TypeError, ValueError)`. -/
def isCaught (e : PyError) : Bool :=
  match e.kind with
  | .valueError | .typeError => true
  | .other name => name == "KeyError"
  | _ => false

/-! ## Comparison -/

mutual

/-- `x < y` between decoded values. -/
def less : Json → Json → Except PyError Bool
  | .arr xs, .arr ys => lessList xs ys
  | .str s, .str t => .ok (decide (s < t))
  | x, y =>
      match number? x, number? y with
      | some p, some q => .ok (decide (p < q))
      | _, _ => .error (Json.typeError "'<' not supported between these types")

def lessList : List Json → List Json → Except PyError Bool
  | x :: xs, y :: ys => if jsonEq x y then lessList xs ys else less x y
  | [], _ :: _ => .ok true
  | _, [] => .ok false

end

/-! ## Reading a record -/

/-- How times are read and how sums of durations are represented. -/
structure Reading where
  fromisoformat : String → Except PyError Datetime
  rounding : Rounding

/-- A line that is an execution record. -/
structure Record where
  fields : Fields
  recordId : String
  component : String
  action : String
  correlationId : String
  processInstance : String
  monotonicNs : ℤ
  recordedAt : AwareDatetime
deriving DecidableEq, Repr

section Reading

variable (T : Reading)

/-- `aware`, on what is to be a text. -/
def readAware : Json → Except PyError AwareDatetime
  | .str text => do
      let at' ← T.fromisoformat text
      aware at'
  | _ => .error (Json.typeError "fromisoformat: argument must be str")

/-- A member that has to be a nonempty text. -/
def readIdentity (fields : Fields) (name : String) : Except PyError String := do
  match ← Json.item fields name with
  | .str s => if s = "" then .error (valueError "missing identity") else .ok s
  | _ => .error (valueError "missing identity")

def readMonotonic (fields : Fields) : Except PyError ℤ := do
  match ← Json.item fields "monotonic_ns" with
  | .int n => if n < 0 then .error (valueError "invalid monotonic time") else .ok n
  | _ => .error (valueError "invalid monotonic time")

/-- The schema that a record names. -/
def readSchema (fields : Fields) : Except PyError Unit := do
  let event ← Json.item fields "event"
  if !jsonEq event (.str "command_execution") then .error (valueError "unsupported record")
  else
    let schema ← Json.item fields "execution_schema"
    if !jsonEq schema (.str "1.0") then .error (valueError "unsupported record") else .ok ()

/-- The tests of the first loop of `check_execution`. -/
def readRecord (fields : Fields) : Except PyError Record := do
  readSchema fields
  let recordId ← readIdentity fields "record_id"
  let component ← readIdentity fields "component"
  let action ← readIdentity fields "action"
  let correlationId ← readIdentity fields "correlation_id"
  let processInstance ← readIdentity fields "process_instance"
  let monotonicNs ← readMonotonic fields
  if !isValidCorrelationId correlationId then .error (valueError "invalid command ID")
  else
    let recordedAt ← readAware T (← Json.item fields "recorded_at")
    if !(Json.obj (fields.filter fun f => f.1 != "source")).allFinite then
      .error (valueError "Out of range float values are not JSON compliant")
    else
      .ok
        { fields, recordId, component, action, correlationId, processInstance, monotonicNs,
          recordedAt }

/-- The text that copies of a record are compared by; its members are in order. -/
def Record.normalized (r : Record) : Json :=
  (Json.obj (r.fields.filter fun f => f.1 != "source")).sortKeys

/-! ## What two records say -/

def Record.get (r : Record) (name : String) : Json := Execution.get r.fields name

/-- The instant of a member in UTC. -/
def readUtc (fields : Fields) (name : String) : Except PyError AwareDatetime := do
  let at' ← readAware T (← Json.item fields name)
  at'.astimezoneUtc

/-- `binding`; the values stand for their texts. -/
def binding (r : Record) : Except PyError Json := do
  let requester ← Json.item r.fields "requester"
  let target ← Json.item r.fields "target"
  let valueType ← Json.item r.fields "value_type"
  let value ← Json.item r.fields "requested_value"
  let requestedAt ← readUtc T r.fields "requested_at"
  let deadline ← readUtc T r.fields "deadline"
  let bound := Json.arr
    [requester, target, valueType, .str value.typeName, value, .time (.aware requestedAt),
      .time (.aware deadline)]
  if !bound.allFinite then
    .error (valueError "Out of range float values are not JSON compliant")
  else .ok bound.sortKeys

/-- `uncertainty`. -/
def Record.uncertainty (r : Record) : Option ℚ :=
  match Json.member r.fields "clock_uncertainty_s" with
  | some (.int n) =>
      match PyFloat.ofInt n with
      | some x => x.toRat?.filter fun q => decide (0 ≤ q)
      | none => none
  | some (.float x) => x.toRat?.filter fun q => decide (0 ≤ q)
  | _ => none

/-- `row.get(name, row["monotonic_ns"])`. -/
def Record.monotonic (r : Record) (name : String) : Json :=
  (Json.member r.fields name).getD (.int r.monotonicNs)

def shareClock (first second : Record) : Bool :=
  (first.get "clock_domain").truthy && jsonEq (first.get "clock_domain") (second.get "clock_domain")

def sameProcess (first second : Record) : Bool :=
  first.component == second.component && first.processInstance == second.processInstance

/-- `(later - earlier).total_seconds()`. -/
def secondsBetween (earlier later : AwareDatetime) : ℚ :=
  T.rounding.round (later.timestamp - earlier.timestamp)

/-- `before`. -/
def before (first second : Record) : Except PyError (Option Bool) :=
  if shareClock first second then do
    if ← less (first.monotonic "monotonic_after_ns") (second.monotonic "monotonic_before_ns") then
      .ok (some true)
    else if ← less (second.monotonic "monotonic_after_ns")
        (first.monotonic "monotonic_before_ns") then
      .ok (some false)
    else .ok none
  else if sameProcess first second then
    .ok (some (decide (first.monotonicNs < second.monotonicNs)))
  else
    match first.uncertainty, second.uncertainty with
    | some a, some b =>
        let delta := secondsBetween T first.recordedAt second.recordedAt
        let bound := T.rounding.add a b
        .ok (if bound < delta then some true else if delta < -bound then some false else none)
    | _, _ => .ok none

/-- `within_window(a, b, seconds) is True`, and otherwise false or `None`. -/
def withinWindow (seconds : ℚ) (a b : Record) : Option Bool :=
  if sameProcess a b then
    some (decide (((|a.monotonicNs - b.monotonicNs| : ℤ) : ℚ) ≤
      T.rounding.round (seconds * 1000000000)))
  else
    match a.uncertainty, b.uncertainty with
    | some u, some v =>
        let gap := |secondsBetween T b.recordedAt a.recordedAt|
        if T.rounding.add (T.rounding.add gap u) v ≤ seconds then some true
        else if seconds < T.rounding.add (T.rounding.add gap (-u)) (-v) then some false
        else none
    | _, _ => none

/-- The status of `C08.deadline`. -/
def deadlineStatus (write : Record) : Except PyError Status := do
  let deadline ← readAware T (← Json.item write.fields "deadline")
  match write.uncertainty with
  | none => .ok .unknown
  | some u =>
      let remaining := secondsBetween T write.recordedAt deadline
      .ok (if u ≤ remaining then .pass else if remaining < -u then .fail else .unknown)

end Reading

end EirvahEdge.Conformance.Execution
