import EirvahEdge.Conformance.Verdict
import EirvahEdge.Contracts.Hops
import EirvahEdge.Contracts.Inspection

/-!
# Evidence of the consumer replay

`check_data_evidence` holds a package of recorded consumer decisions against the
pinned plan: a list of cases, each with the steps that are replayed and what the
consumer has to decide at every step.  The package is read from a file, so nothing
about it is taken for granted.  What is wrong in a record is an error, what is
missing or malformed is a gap, and the rest of the case is judged all the same.

The policy and the plan are pinned files and typed here; the package is the JSON
it is.

`checkDataEvidence_cases` lists what can be reported.  A package that is not
bound to the policy is reported under both rules, one without a usable origin of
its clock under C05 only.
-/

namespace EirvahEdge.Conformance

open EirvahEdge.Lib
open EirvahEdge.Contracts

/-! ## Equality of JSON values -/

/-- The number a scalar compares as. -/
def number? : Json → Option ℚ
  | .bool b => some (if b then 1 else 0)
  | .int n => some n
  | .float x => x.toRat?
  | _ => none

/-- `==` between scalars: `1`, `1.0` and `True` are equal and a NaN equals
nothing. -/
def scalarEq (j k : Json) : Bool :=
  match number? j, number? k with
  | some x, some y => decide (x = y)
  | none, none => decide (j = k) && decide (j ≠ .float .nan)
  | _, _ => false

mutual

/-- `==` between the values of two JSON texts. -/
def jsonEq : Json → Json → Bool
  | .arr xs, .arr ys => jsonEqList xs ys
  | .obj fs, .obj gs => fs.length == gs.length && jsonEqFields fs gs
  | j, k => scalarEq j k

def jsonEqList : List Json → List Json → Bool
  | [], [] => true
  | x :: xs, y :: ys => jsonEq x y && jsonEqList xs ys
  | _, _ => false

def jsonEqFields : List (String × Json) → List (String × Json) → Bool
  | [], _ => true
  | (name, v) :: fs, gs =>
      (match Json.member gs name with
        | some w => jsonEq v w
        | none => false) && jsonEqFields fs gs

end

/-- `value.get(name) == expected`. -/
def memberIs (fields : List (String × Json)) (name : String) (expected : Json) : Bool :=
  jsonEq ((Json.member fields name).getD .null) expected

/-! ## The policy and the plan -/

/-- What is read of `state-event-policy.json`. -/
structure Policy where
  topicBindings : List (String × String)
  inspectionTopic : String
  inspectionMaxAgeS : ℚ
  requiredCases : List String
  temperatureTopic : String
  rejectTopic : String
deriving DecidableEq, Repr

/-- The input of a `receive` step; for an inspection also the diagnostics that are
expected with the decision. -/
inductive StepInput where
  | sample (value : SignalValue) (quality : String)
  | inspection (session : String) (sequence : Fin 65536) (bottleId : ℕ) (passed : Bool)
      (missingSequences : ℕ) (lateSequence : Bool)
deriving DecidableEq, Repr

/-- `op`, and for a reception its source time and the expected decision. -/
inductive StepOp where
  | receive (sourceS : ℚ) (input : StepInput) (accepted : Bool) (reason : String)
  | tick
  | publisherRestart
  | consumerRestart
deriving DecidableEq, Repr

def StepOp.name : StepOp → String
  | .receive .. => "receive"
  | .tick => "tick"
  | .publisherRestart => "publisher_restart"
  | .consumerRestart => "consumer_restart"

/-- The snapshot a state case expects after a step. -/
structure StateOracle where
  status : String
  value : Option SignalValue
deriving DecidableEq, Repr

/-- A step of the plan with its `expect`. -/
structure PlanStep where
  op : StepOp
  nowS : ℚ
  commandValue : Option SignalValue
  state : Option StateOracle
deriving DecidableEq, Repr

inductive CaseKind where
  | state
  | event
deriving DecidableEq, Repr

structure PlanCase where
  id : String
  kind : CaseKind
  stream : Option String
  steps : List PlanStep
deriving DecidableEq, Repr

/-- The rule a case counts for. -/
def CaseKind.rule : CaseKind → RuleId
  | .state => .c05
  | .event => .c06

/-- `("C05." if expected["kind"] == "state" else "C06.") + expected["id"]`. -/
def PlanCase.name (c : PlanCase) : CheckName := ⟨c.kind.rule, c.id⟩

/-- The names of what a replay cannot show, which `check_recovery` reports on. -/
def recoveryNames : List CheckName :=
  [⟨.c05, "source_epochs"⟩, ⟨.c05, "deployed_restart"⟩, ⟨.c06, "business_effects"⟩,
    ⟨.c06, "delivery_coverage"⟩, ⟨.c06, "durable_recovery"⟩]

/-- `state-events.json`: cases of both kinds, none named like a check of another
source. -/
structure Plan where
  cases : List PlanCase
  covers : ∀ k : CaseKind, ∃ c ∈ cases, c.kind = k
  names_fresh : ∀ c ∈ cases, c.name ∉ recoveryNames

/-- What a package is checked with: the pinned files with their digests, and how
times are written and read. -/
structure Pinned where
  policy : Policy
  plan : Plan
  policySha256 : String
  planSha256 : String
  texts : DatetimeText
  fromisoformat : String → Except PyError Datetime

/-! ## The header -/

/-- `MODE`. -/
def executionMode : String := "in_process_virtual_time_no_transport_no_actuation"

/-- The files whose digests a package has to name. -/
def requiredSources : List String :=
  ["scripts/state_event_case.py", "scripts/data_conformance.py",
    "services/decision-agent-stub/src/decision_agent_stub/service.py",
    "services/decision-agent-stub/src/decision_agent_stub/state.py",
    "services/decision-agent-stub/src/decision_agent_stub/inspection.py",
    "services/decision-agent-stub/src/decision_agent_stub/config.py",
    "libs/eirvah-contracts/src/eirvah_contracts/inspection.py"]

/-- `source_attribution`. -/
def sourceAttribution (package : List (String × Json)) : Bool :=
  match Json.member package "source_sha256" with
  | some (.obj hashes) =>
      requiredSources.all (fun name => (Json.member hashes name).isSome) &&
        hashes.all fun f => match f.2 with
          | .str s => isHexDigest s
          | _ => false
  | _ => false

/-- The cases of a package with a valid header. -/
def boundCases (E : Pinned) : Json → Option (List (String × Json) × List Json)
  | .obj package =>
      match Json.member package "cases" with
      | some (.arr cases) =>
          if memberIs package "schema_version" (.str "1.0") &&
              memberIs package "execution_mode" (.str executionMode) &&
              memberIs package "policy_sha256" (.str E.policySha256) &&
              memberIs package "plan_sha256" (.str E.planSha256) &&
              sourceAttribution package then some (package, cases)
          else none
      | _ => none
  | _ => none

/-- `virtual_origin`, when it is a time with an offset. -/
def virtualOrigin (E : Pinned) (package : List (String × Json)) : Option AwareDatetime :=
  match Json.member package "virtual_origin" with
  | some (.str s) =>
      match E.fromisoformat s with
      | .ok (.aware base) => some base
      | _ => none
  | _ => none

/-! ## Judging one step -/

/-- What is kept from step to step of a case; the ids of commands are kept from case
to case. -/
structure Judged where
  instance? : Option String := none
  seenInstances : List String := []
  commandIds : List String
  errors : List String := []
  gaps : List String := []
deriving DecidableEq, Repr

/-- Judging a step keeps what was found before an exception. -/
abbrev Judge := EStateM PyError Judged

/-- `value[name]`. -/
def item (fields : List (String × Json)) (name : String) : Judge Json :=
  match Json.member fields name with
  | some j => pure j
  | none => throw (missing name)

/-- A member that has to be an object. -/
def itemObject (fields : List (String × Json)) (name : String) :
    Judge (List (String × Json)) := do
  match ← item fields name with
  | .obj gs => pure gs
  | _ => throw (missing name)

def atStep (index : ℕ) (text : String) : String := "step " ++ toString index ++ ": " ++ text

/-- `if wrong: errors.append(...)`. -/
def complain (wrong : Bool) (index : ℕ) (text : String) : Judge Unit :=
  modify fun s => if wrong then { s with errors := s.errors ++ [atStep index text] } else s

/-- `base + timedelta(seconds=...)`. -/
def moved (base : AwareDatetime) (seconds : ℚ) : Judge AwareDatetime :=
  match addSeconds base seconds with
  | .ok d => pure d
  | .error e => throw e

def optionalValue : Option SignalValue → Json
  | none => .null
  | some v => .ofSignalValue v

def optionalText : Option String → Json
  | none => .null
  | some s => .str s

/-- The step without its `expect`. -/
def PlanStep.input (s : PlanStep) : Json :=
  .obj (("op", .str s.op.name) :: ("now_s", .float (.finite s.nowS)) ::
    match s.op with
    | .receive sourceS (.sample value quality) _ _ =>
        [("source_s", .float (.finite sourceS)), ("value", .ofSignalValue value),
          ("quality", .str quality)]
    | .receive sourceS (.inspection session sequence bottleId passed _ _) _ _ =>
        [("source_s", .float (.finite sourceS)), ("session", .str session),
          ("sequence", .int sequence), ("bottle_id", .int bottleId), ("passed", .bool passed)]
    | _ => [])

section Judging

variable (E : Pinned) (base : AwareDatetime) (c : PlanCase)

/-- The topic a record has to name. -/
def expectedTopic : Judge String :=
  match c.kind with
  | .event => pure E.policy.inspectionTopic
  | .state =>
      match c.stream with
      | none => throw (missing "stream")
      | some stream =>
          match E.policy.topicBindings.find? fun f => f.1 == stream with
          | some f => pure f.2
          | none => throw (missing stream)

/-- The instance that made the decision, and whether it had to be a fresh one. -/
def judgeInstance (index : ℕ) (step : PlanStep) (record : List (String × Json)) :
    Judge Unit := do
  let current ← item record "consumer_instance"
  match current with
  | .str s =>
      if s = "" then throw (valueError "missing instance")
      else
        let judged ← get
        if step.op = .consumerRestart then
          complain (decide (s ∈ judged.seenInstances)) index
            "consumer restart did not create a fresh instance"
        else
          complain (judged.instance?.isSome && judged.instance? != some s) index
            "unrecorded consumer restart"
        modify fun j => { j with instance? := some s, seenInstances := s :: j.seenInstances }
  | _ => throw (valueError "missing instance")

/-- The decision and the payload of a reception. -/
def judgeReception (index : ℕ) (record : List (String × Json)) (sourceS : ℚ)
    (input : StepInput) (accepted : Bool) (reason : String) : Judge Unit := do
  let decision ← itemObject record "decision"
  let _ ← item decision "accepted"
  let _ ← item decision "reason"
  complain (Json.member decision "accepted" != some (.bool accepted) ||
    !memberIs decision "reason" (.str reason)) index "consumer decision violates selected policy"
  let at' ← moved base sourceS
  let payload ← itemObject record "payload"
  let written := Json.str (E.texts.isoformat (.aware at'))
  match c.kind, input with
  | .state, .sample value quality =>
      complain (!memberIs payload "sosa:hasSimpleResult" (.ofSignalValue value) ||
        !memberIs payload "sosa:resultTime" written ||
        !memberIs payload "eirvah:quality" (.str quality)) index "state payload/input mismatch"
  | .event, .inspection session sequence bottleId passed missingSequences lateSequence => do
      let identity := session ++ ":" ++ String.ofList (Hex.pad 4 sequence)
      complain (!memberIs payload "inspection_id" (.str identity) ||
        !memberIs payload "bottle_id" (.int bottleId) ||
        Json.member payload "passed" != some (.bool passed) ||
        !memberIs payload "inspected_at" written) index "inspection payload/input mismatch"
      let late ← item decision "late_sequence"
      complain (late != .bool lateSequence) index "late event diagnostic incorrect"
      let _ ← item decision "missing_sequences"
      complain (!memberIs decision "missing_sequences" (.int missingSequences)) index
        "missing snapshot diagnostic incorrect"
  -- the plan has no member for the other kind of input
  | .state, .inspection .. => throw (missing "value")
  | .event, .sample .. => throw (missing "session")

/-- `request.requested_at == now`: a time without an offset equals none with one. -/
def isInstant (d : Datetime) (now : AwareDatetime) : Bool :=
  match d with
  | .aware e => decide (e.instantMicros = now.instantMicros)
  | .naive _ => false

/-- A command that was decided, held against the one that was expected. -/
def judgeRequest (index : ℕ) (step : PlanStep) (now : AwareDatetime) (expected : SignalValue)
    (command : Json) : Judge Unit := do
  let request ← match ActuationRequest.parse E.texts command with
    | .ok request => pure request
    | .error e => throw e
  complain (!jsonEq (.ofSignalValue request.requestedValue) (.ofSignalValue expected) ||
    !isInstant request.requestedAt now || request.requester != "decision-agent-stub" ||
    !isValidCorrelationId request.correlationId) index "command does not match observed work"
  let judged ← get
  complain (decide (request.correlationId ∈ judged.commandIds)) index
    "command identity reused for another decision"
  modify fun j => { j with commandIds := request.correlationId :: j.commandIds }
  match c.kind, step.op with
  | .event, .receive sourceS _ _ _ => do
      let deadline ← moved base (PyFloat.nearest (sourceS + E.policy.inspectionMaxAgeS))
      complain (!request.deadline.any (isInstant · deadline) ||
        request.valueType != .int64 || request.targetUnsTopic != E.policy.rejectTopic) index
        "inspection/command binding mismatch"
  | .event, _ => throw (missing "source_s")
  | .state, _ =>
      complain (request.valueType != .double ||
        request.targetUnsTopic != E.policy.temperatureTopic) index
        "state/command binding mismatch"

def judgeCommand (index : ℕ) (step : PlanStep) (now : AwareDatetime)
    (record : List (String × Json)) : Judge Unit :=
  let command := (Json.member record "command").getD .null
  match step.commandValue with
  | none => complain (command != .null) index "unexpected command decision"
  | some expected =>
      if command = .null then complain true index "expected decision absent"
      else judgeRequest E base c index step now expected command

/-- The snapshot of a state case. -/
def judgeState (latest : Option String) (index : ℕ) (step : PlanStep)
    (record : List (String × Json)) : Judge Unit := do
  let state ← itemObject record "state"
  let _ ← item state "status"
  let _ ← item state "value"
  let _ ← item state "source_timestamp"
  match step.state with
  | none => throw (missing "status")
  | some oracle =>
      complain (!memberIs state "status" (.str oracle.status) ||
        !memberIs state "value" (optionalValue oracle.value) ||
        !memberIs state "source_timestamp" (optionalText latest)) index
        "latest state/freshness mismatch"

/-- The body of the `try` for one step. -/
def judgeStep (latest : Option String) (index : ℕ) (step : PlanStep) : Json → Judge Unit
  | .obj record => do
      let _ ← item record "command"
      let topic ← expectedTopic E c
      let named ← item record "topic"
      complain (!jsonEq named (.str topic)) index "topic binding mismatch"
      let given ← item record "input"
      complain (!jsonEq given step.input) index "input differs from pinned case"
      let now ← moved base step.nowS
      let evaluated ← item record "now"
      complain (!jsonEq evaluated (.str (E.texts.isoformat (.aware now)))) index
        "evaluation time mismatch"
      judgeInstance index step record
      match step.op with
      | .receive sourceS input accepted reason =>
          judgeReception E base c index record sourceS input accepted reason
      | _ => pure ()
      judgeCommand E base c index step now record
      match c.kind with
      | .state => judgeState latest index step record
      | .event => pure ()
  | _ => throw (missing "missing decision record")

/-- `except (KeyError, TypeError, ValueError, OverflowError)`; a `ValidationError` is
a `ValueError`. -/
def isCaught (e : PyError) : Bool :=
  match e.kind with
  | .valueError | .typeError | .overflowError => true
  | .other name => name == "KeyError" || name == "ValidationError"
  | _ => false

/-- The source time of the latest sample the plan has accepted. -/
def latestAt (latest : Option String) (step : PlanStep) : Except PyError (Option String) :=
  match c.kind, step.op with
  | .state, .consumerRestart => .ok none
  | .state, .receive sourceS _ true _ =>
      (addSeconds base sourceS).map fun d => some (E.texts.isoformat (.aware d))
  | _, _ => .ok latest

def judgeSteps : ℕ → Option String → Judged → List (PlanStep × Json) → Except PyError Judged
  | _, _, judged, [] => .ok judged
  | index, latest, judged, (step, record) :: rest => do
      let latest ← latestAt E base c latest step
      match judgeStep E base c latest index step record judged with
      | .ok _ judged => judgeSteps (index + 1) latest judged rest
      | .error e judged =>
          if isCaught e then
            judgeSteps (index + 1) latest
              { judged with
                gaps := judged.gaps ++ [atStep index "evidence missing or malformed"] } rest
          else .error e

end Judging

/-! ## Judging the cases -/

/-- `check` of the data evidence. -/
def dataCheck (name : CheckName) (status : Status) (reason : String)
    (evidence : List Json := []) (executed : Bool := true) : Check where
  name := name
  status := status
  reason := reason
  scope := "selected_production_consumer_replay"
  executed := executed
  evidence := evidence

/-- `by_id` and the checks made while it is filled. -/
structure Captured where
  byId : List (String × List (String × Json)) := []
  checks : List Check := []

def dataIntegrity : CheckName := ⟨.c12, "data_integrity"⟩

/-- The id of a case that has one. -/
def caseId : Json → Option (String × List (String × Json))
  | .obj fields =>
      match Json.member fields "id" with
      | some (.str id) => some (id, fields)
      | _ => none
  | _ => none

def Captured.find (t : Captured) (id : String) : Option (List (String × Json)) :=
  (t.byId.find? fun f => f.1 == id).map Prod.snd

/-- One turn of `for case in package["cases"]`. -/
def Captured.add (t : Captured) (case : Json) : Captured :=
  match caseId case with
  | none =>
      { t with
        checks := t.checks ++ [dataCheck dataIntegrity .unknown "Malformed consumer case"] }
  | some (id, fields) =>
      { byId := (id, fields) :: t.byId
        checks :=
          if (t.find id).isSome then
            t.checks ++ [dataCheck dataIntegrity .fail "Duplicated consumer case identity"
              [.str id]]
          else t.checks }

/-- The ids in evidence that the policy does not require, in order. -/
def Captured.unpinned (t : Captured) (policy : Policy) : List String :=
  ((t.byId.map Prod.fst).dedup.filter (· ∉ policy.requiredCases)).insertionSort (· ≤ ·)

/-- The checks about the list of cases. -/
def Captured.integrity (t : Captured) (policy : Policy) : List Check :=
  if t.unpinned policy = [] then t.checks
  else
    t.checks ++ [dataCheck dataIntegrity .fail "Unpinned cases in evidence"
      ((t.unpinned policy).map .str)]

/-- What was judged, as the status of a case. -/
def Judged.status (j : Judged) : Status :=
  if j.errors ≠ [] then .fail else if j.gaps ≠ [] then .unknown else .pass

/-- `errors + gaps or [expected["id"], len(actual["records"])]`. -/
def Judged.evidence (j : Judged) (id : String) (records : ℕ) : List Json :=
  if j.errors ++ j.gaps = [] then [.str id, .int records] else (j.errors ++ j.gaps).map .str

def caseReason : String :=
  "Pinned finite input/refusal/restart case checked against recorded production-code decisions"

section Cases

variable (E : Pinned) (base : AwareDatetime) (captured : Captured)

/-- One turn of `for expected in plan["cases"]`. -/
def caseCheck (commandIds : List String) (c : PlanCase) :
    Except PyError (Check × List String) :=
  match (captured.find c.id).bind (Json.member · "records") with
  | some (.arr records) =>
      if records.length ≠ c.steps.length then
        .ok (dataCheck c.name (if records.length < c.steps.length then .unknown else .fail)
          "Case sequence incomplete or contains extra records", commandIds)
      else do
        let judged ← judgeSteps E base c 0 none { commandIds } (c.steps.zip records)
        return (dataCheck c.name judged.status caseReason (judged.evidence c.id records.length),
          judged.commandIds)
  | _ =>
      .ok (dataCheck c.name .unknown "Required consumer case not captured" [] false, commandIds)

def caseChecks : List String → List PlanCase → Except PyError (List Check)
  | _, [] => .ok []
  | commandIds, c :: cs => do
      let (check, commandIds) ← caseCheck E base captured commandIds c
      let checks ← caseChecks commandIds cs
      return check :: checks

end Cases

/-- Why a replay leaves a check to `check_recovery`. -/
def notReplayed (name : CheckName) : String :=
  if name = ⟨.c05, "source_epochs"⟩ then
    "Legacy timestamp-only replay supplies no deployed source epoch/sequence evidence"
  else if name = ⟨.c05, "deployed_restart"⟩ then
    "In-process recreation is not a measured pod/device restart"
  else if name = ⟨.c06, "business_effects"⟩ then
    "No native write, acknowledgement or physical rejection counter is supplied by consumer " ++
      "replay"
  else if name = ⟨.c06, "delivery_coverage"⟩ then
    "Consumer replay alone supplies no complete source-event and durable-receipt reconciliation"
  else
    "Legacy memory-only replay supplies no deployed durable ownership and command recovery " ++
      "evidence"

/-- The last five checks. -/
def placeholders : List Check :=
  recoveryNames.map fun name => dataCheck name .unknown (notReplayed name) [] false

def unavailable (rule : RuleId) (reason : String) : Check :=
  dataCheck ⟨rule, "data_evidence"⟩ .unknown reason [] false

/-- `check_data_evidence`. -/
def checkDataEvidence (E : Pinned) (package : Json) : Except PyError (List Check) :=
  match boundCases E package with
  | none =>
      .ok ([.c05, .c06].map fun rule =>
        unavailable rule "Valid policy-bound consumer evidence not supplied")
  | some (fields, cases) =>
      match virtualOrigin E fields with
      | none => .ok [unavailable .c05 "Injected clock origin unavailable"]
      | some base => do
          let captured := cases.foldl Captured.add {}
          let checks ← caseChecks E base captured [] E.plan.cases
          return captured.integrity E.policy ++ checks ++ placeholders

/-! ## What can be reported -/

section Cases

variable (E : Pinned) (base : AwareDatetime) (captured : Captured)

/-- All steps of the case were recorded and judged without a finding. -/
def CasePassed (p : PlanCase) : Prop :=
  ∃ records commandIds judged,
    (captured.find p.id).bind (Json.member · "records") = some (.arr records) ∧
      records.length = p.steps.length ∧
      judgeSteps E base p 0 none { commandIds } (p.steps.zip records) = .ok judged ∧
      judged.errors = [] ∧ judged.gaps = []

/-- The check of a case: it passes exactly with the case. -/
structure JudgesCase (p : PlanCase) (c : Check) : Prop where
  name : c.name = p.name
  passed : c.status = .pass → CasePassed E base captured p

end Cases

/-- A check of the list of cases: never a pass. -/
def IsIntegrity (c : Check) : Prop := c.name = dataIntegrity ∧ c.status ≠ .pass

theorem append_integrity {checks : List Check} (h : ∀ c ∈ checks, IsIntegrity c)
    {status : Status} (hne : status ≠ .pass) (reason : String) (evidence : List Json) :
    ∀ c ∈ checks ++ [dataCheck dataIntegrity status reason evidence], IsIntegrity c := by
  intro c hc
  rw [List.mem_append, List.mem_singleton] at hc
  cases hc with
  | inl hold => exact h c hold
  | inr hnew =>
      subst hnew
      exact ⟨rfl, hne⟩

theorem add_integrity {t : Captured} (h : ∀ c ∈ t.checks, IsIntegrity c) (case : Json) :
    ∀ c ∈ (t.add case).checks, IsIntegrity c := by
  unfold Captured.add
  split
  · exact append_integrity h (by decide) _ _
  · dsimp only
    split_ifs
    · exact append_integrity h (by decide) _ _
    · exact h

theorem foldl_add_integrity {cases : List Json} {t : Captured}
    (h : ∀ c ∈ t.checks, IsIntegrity c) :
    ∀ c ∈ (cases.foldl Captured.add t).checks, IsIntegrity c := by
  induction cases generalizing t with
  | nil => exact h
  | cons case cases ih => exact ih (add_integrity h case)

theorem integrity_checks {t : Captured} (h : ∀ c ∈ t.checks, IsIntegrity c)
    (policy : Policy) : ∀ c ∈ t.integrity policy, IsIntegrity c := by
  unfold Captured.integrity
  split_ifs
  · exact h
  · exact append_integrity h (by decide) _ _

theorem Judged.status_eq_pass {j : Judged} :
    j.status = .pass ↔ j.errors = [] ∧ j.gaps = [] := by
  unfold Judged.status
  split_ifs with herrors hgaps
  · simp [herrors]
  · simp [hgaps]
  · exact ⟨fun _ => ⟨not_not.1 herrors, not_not.1 hgaps⟩, fun _ => rfl⟩

section Cases

variable {E : Pinned} {base : AwareDatetime} {captured : Captured}

theorem caseCheck_judges {commandIds ids : List String} {p : PlanCase} {c : Check}
    (h : caseCheck E base captured commandIds p = .ok (c, ids)) :
    JudgesCase E base captured p c := by
  unfold caseCheck at h
  split at h
  · next records hrecords =>
      by_cases hlength : records.length = p.steps.length
      · rw [if_neg (not_not.2 hlength)] at h
        obtain ⟨judged, hjudged, h⟩ := bind_eq_ok.1 h
        cases h
        refine ⟨rfl, fun hpass => ?_⟩
        obtain ⟨herrors, hgaps⟩ := Judged.status_eq_pass.1 hpass
        exact ⟨records, commandIds, judged, hrecords, hlength, hjudged, herrors, hgaps⟩
      · rw [if_pos hlength] at h
        cases h
        refine ⟨rfl, fun hpass => ?_⟩
        dsimp only [dataCheck] at hpass
        split_ifs at hpass
  · cases h
    exact ⟨rfl, fun hpass => absurd hpass (by simp [dataCheck])⟩

/-- Every case of the plan has its check, and every check its case. -/
theorem caseChecks_judge {commandIds : List String} {ps : List PlanCase} {cs : List Check}
    (h : caseChecks E base captured commandIds ps = .ok cs) :
    (∀ p ∈ ps, ∃ c ∈ cs, JudgesCase E base captured p c) ∧
      ∀ c ∈ cs, ∃ p ∈ ps, JudgesCase E base captured p c := by
  induction ps generalizing commandIds cs with
  | nil =>
      cases h
      simp
  | cons p ps ih =>
      obtain ⟨⟨c, ids⟩, hc, h⟩ := bind_eq_ok.1 h
      obtain ⟨rest, hrest, h⟩ := bind_eq_ok.1 h
      cases h
      have hhead := caseCheck_judges hc
      obtain ⟨hleft, hright⟩ := ih hrest
      constructor
      · intro q hq
        cases List.mem_cons.1 hq with
        | inl heq => exact ⟨c, List.mem_cons_self, heq ▸ hhead⟩
        | inr hq =>
            obtain ⟨d, hd, hjudges⟩ := hleft q hq
            exact ⟨d, List.mem_cons_of_mem c hd, hjudges⟩
      · intro d hd
        cases List.mem_cons.1 hd with
        | inl heq => exact ⟨p, List.mem_cons_self, heq ▸ hhead⟩
        | inr hd =>
            obtain ⟨q, hq, hjudges⟩ := hright d hd
            exact ⟨q, List.mem_cons_of_mem p hq, hjudges⟩

end Cases

section Report

variable (E : Pinned) (package : Json)

/-- The package is bound to the policy and has no usable origin of its clock. -/
def OriginUnavailable : Prop :=
  ∃ fields cases, boundCases E package = some (fields, cases) ∧ virtualOrigin E fields = none

/-- Every case of a kind was captured in the package and passed. -/
def CasesPassed (kind : CaseKind) : Prop :=
  ∃ fields cases base, boundCases E package = some (fields, cases) ∧
    virtualOrigin E fields = some base ∧
    ∀ p ∈ E.plan.cases, p.kind = kind → CasePassed E base (cases.foldl Captured.add {}) p

/-- The report of a package whose cases are judged. -/
structure JudgesPackage (report : List Check) (fields : List (String × Json))
    (cases : List Json) (base : AwareDatetime) (listed checks : List Check) : Prop where
  bound : boundCases E package = some (fields, cases)
  origin : virtualOrigin E fields = some base
  report_eq : report = listed ++ checks ++ placeholders
  integrity : ∀ c ∈ listed, IsIntegrity c
  judges : ∀ p ∈ E.plan.cases, ∃ c ∈ checks, JudgesCase E base (cases.foldl Captured.add {}) p c
  judged : ∀ c ∈ checks, ∃ p ∈ E.plan.cases, JudgesCase E base (cases.foldl Captured.add {}) p c

/-- The two checks of a package that is not bound to the policy. -/
def unboundReport : List Check :=
  [.c05, .c06].map fun rule =>
    unavailable rule "Valid policy-bound consumer evidence not supplied"

/-- The one check of a package without an origin. -/
def originReport : List Check := [unavailable .c05 "Injected clock origin unavailable"]

end Report

/-- **All that can be reported**: the package is not bound to the policy, it has no
origin, or every case of the plan is judged. -/
theorem checkDataEvidence_cases {E : Pinned} {package : Json} {report : List Check}
    (h : checkDataEvidence E package = .ok report) :
    (boundCases E package = none ∧ report = unboundReport) ∨
      (OriginUnavailable E package ∧ report = originReport) ∨
      ∃ fields cases base listed checks,
        JudgesPackage E package report fields cases base listed checks := by
  unfold checkDataEvidence at h
  split at h
  · next hbound =>
      cases h
      exact Or.inl ⟨hbound, rfl⟩
  · next fields cases hbound =>
      split at h
      · next horigin =>
          cases h
          exact Or.inr (Or.inl ⟨⟨fields, cases, hbound, horigin⟩, rfl⟩)
      · next base horigin =>
          obtain ⟨checks, hchecks, h⟩ := bind_eq_ok.1 h
          cases h
          have hstart : ∀ c ∈ ({} : Captured).checks, IsIntegrity c := by
            intro c hc
            exact absurd hc (by simp)
          obtain ⟨hjudges, hjudged⟩ := caseChecks_judge hchecks
          exact Or.inr (Or.inr ⟨fields, cases, base, _, checks,
            { bound := hbound
              origin := horigin
              report_eq := rfl
              integrity := integrity_checks (foldl_add_integrity hstart) E.policy
              judges := hjudges
              judged := hjudged }⟩)

end EirvahEdge.Conformance
