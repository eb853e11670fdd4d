import EirvahEdge.Lib.PyFloat
import EirvahEdge.Lib.Run
import EirvahEdge.Lib.Table
import EirvahEdge.Contracts.Actuation
import EirvahEdge.Contracts.Inspection

/-!
# The consumer's inbox

`ConsumerStore` keeps, for each inspection event it took over, one row with the
event, what became of it and, for a failed bottle, the command that rejects it.
`receive` is called again for every redelivery of an event; `ready`, `sent` and
`settle` move the command along; rows that are not pending any more go after a
day.

Every call is one transaction on the table.  What has been inserted over the
whole run is logged beside it, so that "at most once" can be said about rows
that are gone.

The arithmetic of `receive` on times is a parameter, exact or that of doubles.
The limits of a second and of a day are taken off the clock exactly: for the
clock readings of a day and more, both differences are doubles.  A result is
taken to have a text: `json.dumps` also refuses integers of more than 4300
digits.
-/

namespace EirvahEdge.Recovery

open EirvahEdge.Lib
open EirvahEdge.Contracts

/-! ## Rows -/

inductive Disposition where
  | pending
  | passed
  | expired
  | future
  | bottleDuplicate
  | completed
  | refused
  | unknown
deriving DecidableEq, Repr

/-- A row of `inspections`; the key is the id of the event. -/
structure InspectionRow (δ : Type) where
  serial : ℕ
  payload : BottleInspection
  digest : δ
  received : ℚ
  disposition : Disposition
  commandId : Option String
  command : Option ActuationRequest
  result : Option Json := none
  lastSent : ℚ := 0
  baselineCount : Option ℕ
deriving DecidableEq, Repr

/-- The primary key: `inspections.id`. -/
def InspectionRow.id {δ : Type} (r : InspectionRow δ) : String := r.payload.inspectionId

def InspectionRow.isPending {δ : Type} (r : InspectionRow δ) : Bool :=
  r.disposition == .pending

/-- The table with its `AUTOINCREMENT` counter; rows stand in the order of their
serials. -/
structure Inbox (δ : Type) where
  rows : Table (InspectionRow.id (δ := δ))
  nextSerial : ℕ

/-- What the store is used with: the hash of an event's canonical text, the
arithmetic of its times, the age limit of the settings, and the text SQLite gives
to a float. -/
structure InboxConfig (δ : Type) where
  digest : BottleInspection → δ
  rounding : Rounding
  maxAge : ℚ
  maxAge_pos : 0 < maxAge
  maxAge_le : maxAge ≤ 5
  realText : PyFloat → String

variable {δ : Type}

/-! ## Receiving -/

/-- `canonical(command)` is refused for a float that JSON cannot hold. -/
def storable (command : ActuationRequest) : Bool :=
  (Json.ofSignalValue command.requestedValue).allFinite &&
    command.extra.all fun f => f.2.allFinite

/-- `now - datetime.fromisoformat(event["inspected_at"]).timestamp()`. -/
def storedAge (cfg : InboxConfig δ) (event : BottleInspection) (now : ℚ) : ℚ :=
  cfg.rounding.round (now - event.inspectedAt.roundedTimestamp cfg.rounding)

/-- The disposition by age and verdict. -/
def dispositionAt (cfg : InboxConfig δ) (event : BottleInspection) (now : ℚ) :
    Disposition :=
  let age := storedAge cfg event now
  if age < 0 then .future
  else if cfg.maxAge ≤ age then .expired
  else if event.passed then .passed
  else .pending

/-- A row of the same session and bottle, received within the last
`max_age + 10` seconds. -/
def isBottleDuplicate (cfg : InboxConfig δ) (event : BottleInspection) (now : ℚ)
    (r : InspectionRow δ) : Bool :=
  decide (cfg.rounding.round (cfg.rounding.round (now - cfg.maxAge) - 10) ≤ r.received) &&
    (r.payload.session == event.session && r.payload.bottleId == event.bottleId)

/-- A due event has an age within the limit and did not pass. -/
theorem dispositionAt_eq_pending {cfg : InboxConfig δ} {event : BottleInspection} {now : ℚ} :
    dispositionAt cfg event now = .pending ↔
      0 ≤ storedAge cfg event now ∧ storedAge cfg event now < cfg.maxAge ∧
        event.passed = false := by
  unfold dispositionAt
  dsimp only
  split
  · next hfuture => simp [hfuture]
  · next hage =>
      split
      · next hexpired => simp [hexpired]
      · next hlt => cases event.passed <;> simp [not_lt.1 hage, not_le.1 hlt]

/-- The disposition of a new event and the command that goes with it. -/
def dispose (cfg : InboxConfig δ) (inbox : Inbox δ) (event : BottleInspection) (now : ℚ)
    (factory : Except PyError ActuationRequest) :
    Except PyError (Disposition × Option ActuationRequest) :=
  match dispositionAt cfg event now with
  | .pending =>
      if inbox.rows.rows.any (isBottleDuplicate cfg event now) then
        .ok (.bottleDuplicate, none)
      else if 128 ≤ inbox.rows.count InspectionRow.isPending then
        .error (runtimeError "consumer command outbox capacity reached")
      else factory.map fun command => (.pending, some command)
  | other => .ok (other, none)

/-- Rows that are settled and a day old. -/
def outdated (now : ℚ) (r : InspectionRow δ) : Bool :=
  !r.isPending && decide (r.received < now - 86400)

def InspectionRow.new (cfg : InboxConfig δ) (serial : ℕ) (event : BottleInspection) (now : ℚ)
    (disposition : Disposition) (command : Option ActuationRequest)
    (baselineCount : Option ℕ) : InspectionRow δ where
  serial := serial
  payload := event
  digest := cfg.digest event
  received := now
  disposition := disposition
  commandId := command.map ActuationRequest.correlationId
  command := command
  baselineCount := baselineCount

/-- `INSERT INTO inspections`, with both uniqueness constraints. -/
def Inbox.insert (inbox : Inbox δ) (r : InspectionRow δ) : Except PyError (Inbox δ) :=
  if inbox.rows.rows.any fun x => x.commandId.isSome && x.commandId == r.commandId then
    .error ⟨.other "IntegrityError", "UNIQUE constraint failed: inspections.command_id"⟩
  else
    match inbox.rows.insert r with
    | some rows => .ok ⟨rows, inbox.nextSerial + 1⟩
    | none => .error ⟨.other "IntegrityError", "UNIQUE constraint failed: inspections.id"⟩

/-- `ConsumerStore.receive` for an event without a row. -/
def receiveNew (cfg : InboxConfig δ) (inbox : Inbox δ) (event : BottleInspection) (now : ℚ)
    (factory : Except PyError ActuationRequest) (baselineCount : Option ℕ) :
    Except PyError (InspectionRow δ × Inbox δ) := do
  let (disposition, command) ← dispose cfg inbox event now factory
  if !command.all storable then
    throw (valueError "Out of range float values are not JSON compliant")
  let row := .new cfg inbox.nextSerial event now disposition command baselineCount
  let inserted ← inbox.insert row
  return (row, { inserted with rows := inserted.rows.deleteWhere (outdated now) })

/-- `ConsumerStore.receive`: the answer and the table after it.  What is raised
rolls the transaction back. -/
def receive [DecidableEq δ] (cfg : InboxConfig δ) (inbox : Inbox δ)
    (event : BottleInspection) (now : ℚ) (factory : Except PyError ActuationRequest)
    (baselineCount : Option ℕ) : Except PyError (InspectionRow δ) × Inbox δ :=
  match inbox.rows.lookup event.inspectionId with
  | some old =>
      if old.digest ≠ cfg.digest event then
        (.error (valueError "inspection identity conflict"), inbox)
      else (.ok old, inbox)
  | none =>
      match receiveNew cfg inbox event now factory baselineCount with
      | .error e => (.error e, inbox)
      | .ok (row, inbox') => (.ok row, inbox')

/-! ## Sending and settling -/

/-- `{"decision": "unknown", "reason": "recovery_window_elapsed"}`. -/
def recoveryWindowElapsed : Json :=
  .obj [("decision", .str "unknown"), ("reason", .str "recovery_window_elapsed")]

/-- `UPDATE inspections SET f WHERE p`. -/
def Inbox.update (inbox : Inbox δ) (p : InspectionRow δ → Bool)
    (f : InspectionRow δ → InspectionRow δ) (hf : ∀ r, (f r).id = r.id) : Inbox δ :=
  { inbox with rows := inbox.rows.updateWhere p f hf }

/-- The assignments of `ready`, `sent` and `settle`. -/
def InspectionRow.elapsed (r : InspectionRow δ) : InspectionRow δ :=
  { r with disposition := .unknown, result := some recoveryWindowElapsed }

def InspectionRow.sentAt (now : ℚ) (r : InspectionRow δ) : InspectionRow δ :=
  { r with lastSent := now }

def InspectionRow.settledBy (disposition : Disposition) (result : Json)
    (r : InspectionRow δ) : InspectionRow δ :=
  { r with disposition := disposition, result := some result }

/-- `ConsumerStore.ready`: commands that waited for a day are given up, the others
are returned when they were not sent within the last second. -/
def ready (inbox : Inbox δ) (now : ℚ) : List (InspectionRow δ) × Inbox δ :=
  let inbox' := inbox.update (fun r => r.isPending && decide (r.received < now - 86400))
    InspectionRow.elapsed (fun _ => rfl)
  ((inbox'.rows.rows.filter fun r => r.isPending && decide (r.lastSent < now - 1)).take 128,
    inbox')

/-- `ConsumerStore.sent`. -/
def sent (inbox : Inbox δ) (identity : String) (now : ℚ) : Inbox δ :=
  inbox.update (fun r => r.id == identity) (InspectionRow.sentAt now) fun _ => rfl

/-- `result.get(k)` on a JSON object. -/
def getMember (result : List (String × Json)) (k : String) : Option Json :=
  (result.find? fun f => f.1 == k).map Prod.snd

/-- The number a Python value compares as. -/
def numeric? : SignalValue → Option ℚ
  | .bool b => some (if b then 1 else 0)
  | .int n => some n
  | .float x => x.toRat?
  | .str _ => none

/-- `==` between scalars: `1`, `1.0` and `True` are equal. -/
def pyEq (v w : SignalValue) : Bool :=
  match numeric? v, numeric? w with
  | some x, some y => decide (x = y)
  | none, none => decide (v = w)
  | _, _ => false

/-- A member of the result equals a member of the command. -/
def memberEq (result : List (String × Json)) (k : String) (expected : SignalValue) : Bool :=
  match getMember result k with
  | some (.bool b) => pyEq (.bool b) expected
  | some (.int n) => pyEq (.int n) expected
  | some (.float x) => pyEq (.float x) expected
  | some (.str s) => pyEq (.str s) expected
  | _ => false

/-- `bool(value)`. -/
def truthy : Option Json → Bool
  | some (.bool b) => b
  | some (.int n) => n != 0
  | some (.float x) => x.toRat? != some 0
  | some (.str s) => s != ""
  | some (.time _) => true
  | some (.arr xs) => !xs.isEmpty
  | some (.obj fs) => !fs.isEmpty
  | some .null => false
  | none => false

/-- The text SQLite compares with a `TEXT` column; `none` for `NULL`, which
equals nothing. -/
def sqlText (cfg : InboxConfig δ) : Option Json → Except PyError (Option String)
  | none => .ok none
  | some .null => .ok none
  | some (.str s) => .ok (some s)
  | some (.bool b) => .ok (some (if b then "1" else "0"))
  | some (.int n) =>
      if -2 ^ 63 ≤ n ∧ n < 2 ^ 63 then .ok (some (toString n))
      else .error ⟨.overflowError, "Python int too large to convert to SQLite INTEGER"⟩
  | some (.float x) => .ok (some (cfg.realText x))
  | some _ => .error ⟨.other "ProgrammingError", "Error binding parameter"⟩

/-- The disposition a decision stands for; `none` when it only reports progress. -/
def settledAs (result : List (String × Json)) : Except PyError (Option Disposition) :=
  match getMember result "decision" with
  | some (.str "pending") => .ok none
  | some (.str "approve") =>
      if truthy (getMember result "written_at") then .ok (some .completed)
      else .error (valueError "completion acknowledgement missing")
  | some (.str "reject") => .ok (some .refused)
  | some (.str "unknown") => .ok (some .unknown)
  | _ => .error (valueError "unknown result type")

/-- The result names the command it is about in all four members. -/
def bindsTo (result : List (String × Json)) (command : ActuationRequest) : Bool :=
  memberEq result "requester" (.str command.requester) &&
    memberEq result "target_uns_topic" (.str command.targetUnsTopic) &&
    memberEq result "requested_value" command.requestedValue &&
    memberEq result "value_type" (.str command.valueType.name)

/-- The disposition a result gives the row of its command; `none` when nothing
is written. -/
def settleRow (result : List (String × Json)) (row : InspectionRow δ) :
    Except PyError (Option Disposition) :=
  match row.command with
  | none => .error ⟨.typeError, "the JSON object must be str, bytes or bytearray"⟩
  | some command =>
      if !bindsTo result command then .error (valueError "result binding mismatch")
      else
        match settledAs result with
        | .error e => .error e
        | .ok none => .ok none
        | .ok (some disposition) =>
            if row.disposition = .completed ∧ disposition ≠ .completed then
              .error (valueError "completed outcome cannot be overwritten")
            else if !(Json.obj result).allFinite then
              .error (valueError "Out of range float values are not JSON compliant")
            else .ok (some disposition)

/-- `ConsumerStore.settle`. -/
def settle (cfg : InboxConfig δ) (inbox : Inbox δ) (result : List (String × Json)) :
    Except PyError Unit × Inbox δ :=
  match sqlText cfg (getMember result "correlation_id") with
  | .error e => (.error e, inbox)
  | .ok none => (.ok (), inbox)
  | .ok (some identity) =>
      match inbox.rows.rows.find? fun r => r.commandId == some identity with
      | none => (.ok (), inbox)
      | some row =>
          match settleRow result row with
          | .error e => (.error e, inbox)
          | .ok none => (.ok (), inbox)
          | .ok (some disposition) =>
              (.ok (), inbox.update (fun r => r.commandId == some identity)
                (InspectionRow.settledBy disposition (Json.obj result).sortKeys)
                fun _ => rfl)

/-! ## Runs -/

inductive InboxEvent where
  | receive (event : BottleInspection) (now : ℚ) (factory : Except PyError ActuationRequest)
      (baselineCount : Option ℕ)
  | ready (now : ℚ)
  | sent (identity : String) (now : ℚ)
  | settle (result : List (String × Json))
  | restart

/-- The clock reading of a call. -/
def InboxEvent.now? : InboxEvent → Option ℚ
  | .receive _ now _ _ => some now
  | .ready now => some now
  | .sent _ now => some now
  | .settle _ => none
  | .restart => none

/-- The store, the last clock reading, and every row inserted so far as it was
inserted, latest first. -/
structure InboxState (δ : Type) where
  inbox : Inbox δ
  clock : ℚ
  inserted : List (InspectionRow δ)

/-- The rows of a call that inserted something. -/
def newRows (before after : Inbox δ) (answer : Except PyError (InspectionRow δ)) :
    List (InspectionRow δ) :=
  match answer with
  | .ok row => if before.nextSerial = after.nextSerial then [] else [row]
  | .error _ => []

/-- One call of the store, on the table it finds. -/
def inboxStep [DecidableEq δ] (cfg : InboxConfig δ) (s : InboxState δ) (e : InboxEvent) :
    Option (InboxState δ) :=
  let clock := e.now?.getD s.clock
  some <| match e with
  | .receive event now factory baselineCount =>
      let (answer, inbox) := receive cfg s.inbox event now factory baselineCount
      ⟨inbox, clock, newRows s.inbox inbox answer ++ s.inserted⟩
  | .ready now => ⟨(ready s.inbox now).2, clock, s.inserted⟩
  | .sent identity now => ⟨sent s.inbox identity now, clock, s.inserted⟩
  | .settle result => ⟨(settle cfg s.inbox result).2, clock, s.inserted⟩
  | .restart => s

/-- The store on a new volume. -/
def InboxState.initial (clock : ℚ) : InboxState δ := ⟨⟨.empty, 1⟩, clock, []⟩

/-- The clock does not go back. -/
def InboxClock (s : InboxState δ) (e : InboxEvent) : Prop :=
  ∀ now, e.now? = some now → s.clock ≤ now

instance (s : InboxState δ) (e : InboxEvent) : Decidable (InboxClock s e) :=
  match h : e.now? with
  | some now => decidable_of_iff (s.clock ≤ now) (by simp [InboxClock, h])
  | none => isTrue (by simp [InboxClock, h])

end EirvahEdge.Recovery
