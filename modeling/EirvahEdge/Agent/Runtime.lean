import EirvahEdge.Agent.Tracking
import EirvahEdge.Devices.InspectionWire

/-!
# The decision agent at work

`DecisionAgentRuntime` dispatches observations to its rules.  With an inbox
(`inbox_path`) failed inspections go to the store, which keeps the commands and
offers them for sending; without one the in-memory rule answers directly.

The agent is a process and a store: a restart makes a new process and finds the
store as it was committed.  Readers and texts that are not the agent's own are
parameters: the check against the declared bindings, `datetime.fromisoformat`,
`json.loads`, and the texts of numbers and times.

A failed inspection is aged twice: `_receive_durable` takes `total_seconds()` of the
difference of two datetimes, the store the difference of two `timestamp()`s.  In
doubles the two can fall on different sides of the limit.
-/

namespace EirvahEdge.Agent

open EirvahEdge.Lib
open EirvahEdge.Contracts
open EirvahEdge.Recovery
open EirvahEdge.Devices

/-! ## State -/

/-- What the agent is run with.  `validateObservation` is the check against the
bindings, and accepts everything when there is no contract path. -/
structure AgentConfig (δ : Type) where
  settings : DecisionAgentSettings
  validateObservation : String → List (String × Json) → Except PyError Unit
  fromisoformat : String → Except PyError Datetime
  loads : String → Except PyError Json
  datetimeText : DatetimeText
  bindingText : SignalValue → AwareDatetime → String
  shown : Json → String
  digest : BottleInspection → δ
  realText : PyFloat → String

variable {δ : Type}

/-- The store as the agent's settings use it. -/
def AgentConfig.inbox (cfg : AgentConfig δ) : InboxConfig δ where
  digest := cfg.digest
  rounding := cfg.settings.rounding
  maxAge := cfg.settings.inspectionMaxAgeS
  maxAge_pos := cfg.settings.inspectionMaxAgeS_pos
  maxAge_le := cfg.settings.inspectionMaxAgeS_le
  realText := cfg.realText

/-- The tables of `ConsumerStore` that decisions read. -/
structure ConsumerStore (δ : Type) where
  inbox : Inbox δ
  positions : PositionTable

/-- A feedback stream. -/
inductive FeedbackKind where
  | bottle
  | count
deriving DecidableEq, Repr

def FeedbackKind.name : FeedbackKind → String
  | .bottle => "bottle"
  | .count => "count"

/-- The latest value of a feedback stream. -/
structure FeedbackSample where
  value : ℤ
  observedAt : AwareDatetime
deriving DecidableEq, Repr

/-- A sample replaces one that was not observed later. -/
def newerSample (previous : Option FeedbackSample) (sample : FeedbackSample) :
    FeedbackSample :=
  match previous with
  | none => sample
  | some previous =>
      if previous.observedAt.timestamp ≤ sample.observedAt.timestamp then sample else previous

/-- The memory of `DecisionAgentRuntime`. -/
structure DecisionAgentRuntime where
  rule : ProductionModeRule
  state : StateTracker
  inspectionRule : InspectionRule
  rejections : RejectionTracker
  count : Option FeedbackSample
  receiptEvent : Option BottleInspection

/-- `DecisionAgentRuntime(settings)`. -/
def DecisionAgentRuntime.initial (settings : DecisionAgentSettings) : DecisionAgentRuntime where
  rule := {}
  state := .initial settings
  inspectionRule := .initial
  rejections := .initial
  count := none
  receiptEvent := none

/-- The process and, with an inbox, its store. -/
structure DecisionAgent (δ : Type) where
  runtime : DecisionAgentRuntime
  store : Option (ConsumerStore δ)

namespace DecisionAgent

variable (agent : DecisionAgent δ)

/-- The rows of the inbox. -/
def rows : List (InspectionRow δ) := (agent.store.map fun s => s.inbox.rows.rows).getD []

def withState (state : StateTracker) (positions : Option PositionTable) : DecisionAgent δ where
  runtime := { agent.runtime with state := state }
  store := agent.store.map fun s => { s with positions := positions.getD s.positions }

def withRule (rule : ProductionModeRule) : DecisionAgent δ :=
  { agent with runtime := { agent.runtime with rule := rule } }

def withInspectionRule (rule : InspectionRule) : DecisionAgent δ :=
  { agent with runtime := { agent.runtime with inspectionRule := rule } }

def withRejections (rejections : RejectionTracker) : DecisionAgent δ :=
  { agent with runtime := { agent.runtime with rejections := rejections } }

def withCount (count : Option FeedbackSample) : DecisionAgent δ :=
  { agent with runtime := { agent.runtime with count := count } }

def withReceiptEvent (event : Option BottleInspection) : DecisionAgent δ :=
  { agent with runtime := { agent.runtime with receiptEvent := event } }

def withInbox (inbox : Inbox δ) : DecisionAgent δ :=
  { agent with store := agent.store.map fun s => { s with inbox := inbox } }

end DecisionAgent

/-! ## Reading an observation -/

def keyError (key : String) : PyError := ⟨.other "KeyError", key⟩

/-- `datetime.fromisoformat(payload["sosa:resultTime"])`. -/
def readResultTime (cfg : AgentConfig δ) (payload : List (String × Json)) :
    Except PyError Datetime :=
  match Json.member payload "sosa:resultTime" with
  | none => .error (keyError "sosa:resultTime")
  | some (.str text) => cfg.fromisoformat text
  | some _ => .error ⟨.typeError, "fromisoformat: argument must be str"⟩

/-- `payload.get("eirvah:position")`. -/
def readPosition (payload : List (String × Json)) : Option Json :=
  match Json.member payload "eirvah:position" with
  | none | some .null => none
  | some position => some position

/-- `payload.get("eirvah:unit") == unit`. -/
def hasUnit (payload : List (String × Json)) (unit : String) : Bool :=
  Json.member payload "eirvah:unit" = some (.str unit)

/-- A state topic is checked by the tracker and not on arrival. -/
def isStateTopic (settings : DecisionAgentSettings) (topic : String) : Bool :=
  topic == settings.subscribeTopic || topic == settings.rejectCountTopic ||
    topic == settings.rejectedBottleTopic

/-- `BottleInspection.model_validate_json`. -/
def readInspection (cfg : AgentConfig δ) (text : String) : Except PyError BottleInspection := do
  let j ← cfg.loads text
  parseInspection cfg.datetimeText j

/-! ## State observations -/

/-- `audit_state` is refused for a payload that JSON cannot hold; what it stores
nothing reads. -/
def auditState (agent : DecisionAgent δ) (payload : List (String × Json)) : Except PyError Unit :=
  if agent.store.isSome && !(Json.obj payload).allFinite then
    .error (valueError "Out of range float values are not JSON compliant")
  else .ok ()

/-- `_state_update`. -/
def stateUpdate (cfg : AgentConfig δ) (agent : DecisionAgent δ) (topic : String)
    (value : SignalValue) (observedAt now : AwareDatetime) (payload : List (String × Json)) :
    DecisionAgent δ × Except PyError Bool :=
  match Json.member payload "eirvah:quality" with
  | none => (agent, .error (keyError "eirvah:quality"))
  | some quality =>
      let r := agent.runtime.state.update cfg.bindingText
        (agent.store.map ConsumerStore.positions) topic value (.aware observedAt) (.aware now)
        quality (readPosition payload)
      andThen (agent.withState r.1.1 r.1.2, r.2) fun agent accepted =>
        (agent, (auditState agent payload).map fun _ => accepted)

/-- The speed setpoint as the value the tracker retains. -/
def speedValue : Json → SignalValue
  | .int n => .int n
  | .float x => .float x
  | _ => .bool false

/-- An observation of the conveyor's speed setpoint. -/
def observeSpeed (cfg : AgentConfig δ) (agent : DecisionAgent δ) (topic : String)
    (payload : List (String × Json)) (value : Json) (observedAt now : AwareDatetime)
    (freshId : String) : DecisionAgent δ × Except PyError (Option ActuationRequest) :=
  match admissibleSpeed value with
  | .error e => (agent, .error e)
  | .ok none => (agent, .ok none)
  | .ok (some _) =>
      andThen (stateUpdate cfg agent topic (speedValue value) observedAt now payload)
        fun agent accepted =>
          if !accepted then (agent, .ok none)
          else
            let r := agent.runtime.rule.update cfg.settings cfg.shown value (.aware observedAt)
              (.aware now) "good" freshId
            (agent.withRule r.1, r.2)

/-- A value of a feedback stream: an `int` that a register holds. -/
def readFeedback (payload : List (String × Json)) : Json → Option ℤ
  | .int n => if 0 ≤ n ∧ n ≤ 65535 ∧ hasUnit payload "dimensionless" then some n else none
  | _ => none

def feedbackKind (settings : DecisionAgentSettings) (topic : String) : FeedbackKind :=
  if topic = settings.rejectCountTopic then .count else .bottle

/-- A count is remembered as a baseline unless a later one is. -/
def noteCount (agent : DecisionAgent δ) (kind : FeedbackKind) (sample : FeedbackSample) :
    DecisionAgent δ :=
  match kind with
  | .count => agent.withCount (some (newerSample agent.runtime.count sample))
  | .bottle => agent

/-- An observation of the rejection count or the last rejected bottle. -/
def observeFeedback (cfg : AgentConfig δ) (agent : DecisionAgent δ) (topic : String)
    (payload : List (String × Json)) (value : Json) (observedAt now : AwareDatetime) :
    DecisionAgent δ × Except PyError (Option ActuationRequest) :=
  match readFeedback payload value with
  | none => (agent, .ok none)
  | some n =>
      andThen (stateUpdate cfg agent topic (.int n) observedAt now payload)
        fun agent accepted =>
          if !accepted then (agent, .ok none)
          else
            let kind := feedbackKind cfg.settings topic
            let agent := noteCount agent kind ⟨n, observedAt⟩
            let r := agent.runtime.rejections.feedback kind.name n (.aware observedAt) (.aware now)
            (agent.withRejections r.1, r.2.map fun _ => none)

/-! ## Inspections -/

/-- `0 <= age < inspection_max_age_s`. -/
def isFresh (settings : DecisionAgentSettings) (event : BottleInspection)
    (now : AwareDatetime) : Bool :=
  decide (0 ≤ settings.ageSeconds now event.inspectedAt ∧
    settings.ageSeconds now event.inspectedAt < settings.inspectionMaxAgeS)

/-- A count that can still grow and is not stale. -/
def isUsableBaseline (settings : DecisionAgentSettings) (count : FeedbackSample)
    (now : AwareDatetime) : Bool :=
  count.value != 65535 &&
    !decide (settings.maxObservationAgeS < settings.ageSeconds now count.observedAt)

/-- `_rejections.add`. -/
def track (agent : DecisionAgent δ) (entry : PendingRejection) :
    DecisionAgent δ × Except PyError Unit :=
  let r := agent.runtime.rejections.add entry
  (agent.withRejections r.1, r.2)

/-- The row that `receive` answered is tracked when its command still waits. -/
def trackRow (cfg : AgentConfig δ) (agent : DecisionAgent δ) (row : InspectionRow δ)
    (event : BottleInspection) (now : AwareDatetime) : DecisionAgent δ × Except PyError Unit :=
  match row.command with
  | none => (agent, .ok ())
  | some command =>
      if row.disposition = .pending ∧
          (agent.runtime.rejections.pending.lookup command.correlationId).isNone ∧
          isFresh cfg.settings event now then
        track agent ⟨command, event, row.baselineCount.map Nat.cast, false⟩
      else (agent, .ok ())

/-- A fresh failure waits, unless it is known, until there is a count to compare
with. -/
def lacksBaseline (cfg : AgentConfig δ) (agent : DecisionAgent δ) (store : ConsumerStore δ)
    (event : BottleInspection) (now : AwareDatetime) : Bool :=
  isFresh cfg.settings event now && !event.passed &&
    (store.inbox.rows.lookup event.inspectionId).isNone &&
    !agent.runtime.count.any fun count => isUsableBaseline cfg.settings count now

/-- `_receive_durable`. -/
def receiveDurable [DecidableEq δ] (cfg : AgentConfig δ) (agent : DecisionAgent δ)
    (store : ConsumerStore δ) (event : BottleInspection) (now : AwareDatetime)
    (freshId : String) : DecisionAgent δ × Except PyError Unit :=
  if lacksBaseline cfg agent store event now then (agent, .ok ())
  else
    let r := receive cfg.inbox store.inbox event (now.roundedTimestamp cfg.settings.rounding)
      (rejectRequest cfg.settings event now freshId)
      (agent.runtime.count.map fun count => count.value.toNat)
    andThen (agent.withInbox r.2, r.1) fun agent row =>
      trackRow cfg (agent.withReceiptEvent (some event)) row event now

/-- The decision without a store. -/
def decideInMemory (cfg : AgentConfig δ) (agent : DecisionAgent δ) (event : BottleInspection)
    (now : AwareDatetime) (freshId : String) :
    DecisionAgent δ × Except PyError (Option ActuationRequest) :=
  match agent.runtime.count with
  | none => (agent, .ok none)
  | some count =>
      if !isUsableBaseline cfg.settings count now then (agent, .ok none)
      else if agent.runtime.rejections.capacity ≤
          agent.runtime.rejections.pending.rows.length then (agent, .ok none)
      else
        let r := agent.runtime.inspectionRule.update cfg.settings event now freshId
        andThen (agent.withInspectionRule r.1, r.2) fun agent request =>
          match request with
          | none => (agent, .ok none)
          | some request =>
              andThen (track agent ⟨request, event, some count.value, false⟩)
                fun agent _ => (agent, .ok (some request))

section Views

variable {cfg : AgentConfig δ} {agent : DecisionAgent δ} {now : AwareDatetime} {freshId : String}
  {τ : Type} (view : DecisionAgent δ → τ)
  (hrejections : ∀ agent rejections, view (agent.withRejections rejections) = view agent)
include hrejections

/-- Tracking a row touches the rejections only. -/
theorem trackRow_fst (row : InspectionRow δ) (event : BottleInspection) :
    view (trackRow cfg agent row event now).1 = view agent := by
  unfold trackRow
  split
  · rfl
  · split
    · exact hrejections _ _
    · rfl

/-- A decision without a store touches the rule and the rejections only. -/
theorem decideInMemory_fst
    (hrule : ∀ agent rule, view (agent.withInspectionRule rule) = view agent)
    (event : BottleInspection) :
    view (decideInMemory cfg agent event now freshId).1 = view agent := by
  unfold decideInMemory
  split
  · rfl
  · split
    · rfl
    · split
      · rfl
      · refine (andThen_fst view fun s request => ?_).trans (hrule _ _)
        cases request with
        | none => rfl
        | some request => exact (andThen_fst view fun _ _ => rfl).trans (hrejections _ _)

end Views

/-- An observation of the inspection topic. -/
def observeInspection [DecidableEq δ] (cfg : AgentConfig δ) (agent : DecisionAgent δ)
    (value : Json) (observedAt now : AwareDatetime) (freshId : String) :
    DecisionAgent δ × Except PyError (Option ActuationRequest) :=
  match value with
  | .str text =>
      match readInspection cfg text with
      | .error e => (agent, .error e)
      | .ok event =>
          if event.inspectedAt.timestamp ≠ observedAt.timestamp then (agent, .ok none)
          else
            match agent.store with
            | some store =>
                andThen (receiveDurable cfg agent store event now freshId)
                  fun agent _ => (agent, .ok none)
            | none => decideInMemory cfg agent event now freshId
  | _ => (agent, .ok none)

/-! ## Dispatch -/

/-- The branch a topic and a unit lead to. -/
def dispatch [DecidableEq δ] (cfg : AgentConfig δ) (agent : DecisionAgent δ) (topic : String)
    (payload : List (String × Json)) (value : Json) (observedAt now : AwareDatetime)
    (freshId : String) : DecisionAgent δ × Except PyError (Option ActuationRequest) :=
  if topic = cfg.settings.subscribeTopic ∧ hasUnit payload "m/s" then
    observeSpeed cfg agent topic payload value observedAt now freshId
  else if topic = cfg.settings.rejectCountTopic ∨ topic = cfg.settings.rejectedBottleTopic then
    observeFeedback cfg agent topic payload value observedAt now
  else if topic ≠ cfg.settings.inspectionTopic ∨ !hasUnit payload "json" then
    (agent, .ok none)
  else observeInspection cfg agent value observedAt now freshId

/-- The quality, the time, the age and the value of an observation, in the order
they are looked at.  The age is left to the tracker for a state topic and to the
store in an agent that has one. -/
def readObservation (cfg : AgentConfig δ) (durable : Bool) (topic : String)
    (payload : List (String × Json)) (now : AwareDatetime) :
    Except PyError (Option (Json × AwareDatetime)) :=
  if !isStateTopic cfg.settings topic ∧
      Json.member payload "eirvah:quality" ≠ some (.str "good") then .ok none
  else
    match readResultTime cfg payload with
    | .error e => .error e
    | .ok (.naive _) => .ok none
    | .ok (.aware observedAt) =>
        if !isStateTopic cfg.settings topic ∧ !durable ∧
            ¬ (0 ≤ cfg.settings.ageSeconds now observedAt ∧
              cfg.settings.ageSeconds now observedAt ≤ cfg.settings.maxObservationAgeS) then
          .ok none
        else
          match Json.member payload "sosa:hasSimpleResult" with
          | none => .error (keyError "sosa:hasSimpleResult")
          | some value => .ok (some (value, observedAt))

/-- `self._state.last_decision = ...` for a state topic. -/
def markInvalid (cfg : AgentConfig δ) (agent : DecisionAgent δ) (topic : String) :
    DecisionAgent δ :=
  if isStateTopic cfg.settings topic then
    { agent with
      runtime := { agent.runtime with
        state := { agent.runtime.state with lastDecision := ⟨false, .invalidContract⟩ } } }
  else agent

/-- `DecisionAgentRuntime.observation`; `freshId` is what
`generate_correlation_id` would return. -/
def observation [DecidableEq δ] (cfg : AgentConfig δ) (agent : DecisionAgent δ) (topic : String)
    (payload : List (String × Json)) (now : AwareDatetime) (freshId : String) :
    DecisionAgent δ × Except PyError (Option ActuationRequest) :=
  let agent := agent.withReceiptEvent none
  match cfg.validateObservation topic payload with
  | .error e => (agent, .error e)
  | .ok () =>
      let r := agent.runtime.rejections.expire (.aware now)
      andThen (agent.withRejections r.1, r.2) fun agent _ =>
        let agent := markInvalid cfg agent topic
        match readObservation cfg agent.store.isSome topic payload now with
        | .error e => (agent, .error e)
        | .ok none => (agent, .ok none)
        | .ok (some (value, observedAt)) =>
            dispatch cfg agent topic payload value observedAt now freshId

/-- `_result` for a message that is a JSON object. -/
def commandResult (cfg : AgentConfig δ) (agent : DecisionAgent δ) (result : List (String × Json))
    (now : AwareDatetime) : DecisionAgent δ × Except PyError Unit :=
  let settled : DecisionAgent δ × Except PyError Unit :=
    match agent.store with
    | none => (agent, .ok ())
    | some store =>
        let r := settle cfg.inbox store.inbox result
        (agent.withInbox r.2, r.1)
  andThen settled fun agent _ =>
    let r := agent.runtime.rejections.result result (.aware now)
    (agent.withRejections r.1, r.2.map fun _ => ())

/-! ## Runs -/

/-- What can happen to the agent.  `ready` and `sent` are the two halves of
`_send_pending`; anything may come between them. -/
inductive AgentEvent where
  | observation (topic : String) (payload : List (String × Json)) (now : AwareDatetime)
      (freshId : String)
  | result (result : List (String × Json)) (now : AwareDatetime)
  | ready (now : ℚ)
  | sent (identity : String) (now : ℚ)
  | restart

/-- The agent with every command it has returned from `observation`, kept in a
row of its inbox, or been offered by `ready`. -/
structure AgentRun (δ : Type) where
  agent : DecisionAgent δ
  returned : List ActuationRequest
  stored : List ActuationRequest
  offered : List ActuationRequest

/-- The commands of some rows. -/
def commandsOf (rows : List (InspectionRow δ)) : List ActuationRequest :=
  rows.filterMap InspectionRow.command

/-- The command a call returns, when it returns one. -/
def requestOf (answer : Except PyError (Option ActuationRequest)) : List ActuationRequest :=
  match answer with
  | .ok (some request) => [request]
  | _ => []

/-- The agent on a new volume. -/
def AgentRun.initial (cfg : AgentConfig δ) : AgentRun δ where
  agent :=
    { runtime := .initial cfg.settings
      store := cfg.settings.inboxPath.map fun _ => ⟨⟨.empty, 1⟩, .empty⟩ }
  returned := []
  stored := []
  offered := []

/-- `ready` and `sent` of the store, when there is one. -/
def readyRows (agent : DecisionAgent δ) (now : ℚ) : List (InspectionRow δ) :=
  (agent.store.map fun s => (ready s.inbox now).1).getD []

def agentAfterReady (agent : DecisionAgent δ) (now : ℚ) : DecisionAgent δ :=
  { agent with store := agent.store.map fun s => { s with inbox := (ready s.inbox now).2 } }

def agentAfterSent (agent : DecisionAgent δ) (identity : String) (now : ℚ) : DecisionAgent δ :=
  { agent with store := agent.store.map fun s => { s with inbox := sent s.inbox identity now } }

/-- One event. -/
def agentStep [DecidableEq δ] (cfg : AgentConfig δ) (s : AgentRun δ) :
    AgentEvent → Option (AgentRun δ)
  | .observation topic payload now freshId =>
      let r := observation cfg s.agent topic payload now freshId
      some
        { agent := r.1
          returned := requestOf r.2 ++ s.returned
          stored := commandsOf r.1.rows ++ s.stored
          offered := s.offered }
  | .result result now => some { s with agent := (commandResult cfg s.agent result now).1 }
  | .ready now =>
      some
        { s with
          agent := agentAfterReady s.agent now
          offered := commandsOf (readyRows s.agent now) ++ s.offered }
  | .sent identity now => some { s with agent := agentAfterSent s.agent identity now }
  | .restart =>
      some { s with agent := { s.agent with runtime := .initial cfg.settings } }

end EirvahEdge.Agent
