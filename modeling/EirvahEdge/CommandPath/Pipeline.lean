import EirvahEdge.Contracts.Replies

/-!
# The actuation pipeline

`run_actuation_pipeline` takes one authenticated request through the validator and the
writer, and publishes what came of it.  A stage may time out, raise, or answer with any
bytes; `decode` is the JSON decoder those bytes go through.

A run collects what it sends: the requests to the stages, the messages for the dead
letter subject and the result events, and the error it ends with, if any.  Publishing
and the evidence journal succeed.

`PipelineCase` says once how a run can go, and what has to be true of the two replies
for it.

## Main results

* `runActuationPipeline_cases`: every run goes one of these ways.
-/

namespace EirvahEdge.CommandPath

open EirvahEdge.Lib
open EirvahEdge.Contracts

/-! ## Configuration -/

/-- `ActuationPipelineStage`. -/
structure ActuationPipelineStage where
  name : String
  subject : String
  timeoutS : PyFloat := .finite 2
deriving DecidableEq, Repr

/-- `ActuationPipelineConfig`. -/
structure ActuationPipelineConfig where
  stages : List ActuationPipelineStage
  dlqSubject : String := "act.dlq.rejected"
deriving DecidableEq, Repr

/-- `next((s for s in cfg.stages if s.name == name), None)`. -/
def ActuationPipelineConfig.stage (cfg : ActuationPipelineConfig) (name : String) :
    Option ActuationPipelineStage :=
  cfg.stages.find? fun s => s.name = name

theorem ActuationPipelineConfig.name_of_stage {cfg : ActuationPipelineConfig} {name : String}
    {s : ActuationPipelineStage} (h : cfg.stage name = some s) : s.name = name := by
  simpa using List.find?_some h

/-- What a call of `request_reply_fn` comes to. -/
inductive StageReply (β : Type) where
  | timeout
  | raised (error : PyError)
  | reply (data : β)
deriving DecidableEq, Repr

/-! ## Results -/

/-- What a result says about the request. -/
inductive Outcome where
  | approve (writtenAt : AwareDatetime) (replayed : Bool)
  | reject (rejectionReason : String) (retryable : Bool)
  | pending (outcomeReason : String)
  | unknown (outcomeReason : String)
deriving DecidableEq, Repr

def Outcome.isReject : Outcome → Bool
  | .reject .. => true
  | _ => false

/-- `ActuationApproveResult`, `ActuationRejectResult`, `ActuationPendingResult` and
`ActuationUnknownResult`: the request with an outcome. -/
structure ActuationResult where
  request : ActuationRequest
  outcome : Outcome
deriving DecidableEq, Repr

/-- The keywords that a result is constructed with, next to the members of the
request. -/
def Outcome.keywords : Outcome → List String
  | .approve .. => ["decision", "written_at", "replayed"]
  | .reject .. => ["decision", "rejection_reason", "retryable"]
  | .pending _ | .unknown _ => ["decision", "outcome_reason"]

/-- `Model(**req.model_dump(), keyword=...)`: a keyword that is a member of the request
as well is refused before the model is called; the model checks the request again. -/
def ActuationResult.construct (req : ActuationRequest) (outcome : Outcome) :
    Except PyError ActuationResult :=
  match outcome.keywords.find? fun k => k ∈ declaredNames ++ req.extra.map Prod.fst with
  | some k => .error ⟨.typeError, "got multiple values for keyword argument '" ++ k ++ "'"⟩
  | none =>
      if !isValidCorrelationId req.correlationId then
        .error (Json.validationError "correlation_id")
      else if !isUnsTopic req.targetUnsTopic then
        .error (Json.validationError "target_uns_topic")
      else .ok ⟨req, outcome⟩

/-- A result is constructed when no extra member has the name of a keyword. -/
theorem ActuationResult.construct_eq_ok {req : ActuationRequest} {outcome : Outcome}
    (hvalid : req.Valid) (hfree : ∀ k ∈ outcome.keywords, k ∉ req.extra.map Prod.fst) :
    construct req outcome = .ok ⟨req, outcome⟩ := by
  have hdeclared : ∀ k ∈ outcome.keywords, k ∉ declaredNames := by
    cases outcome <;> simp [Outcome.keywords, declaredNames]
  have hnone : outcome.keywords.find?
      (fun k => k ∈ declaredNames ++ req.extra.map Prod.fst) = none := by
    rw [List.find?_eq_none]
    intro k hk hmem
    rcases List.mem_append.1 (of_decide_eq_true hmem) with h | h
    · exact hdeclared k hk h
    · exact hfree k hk h
  simp [construct, hnone, hvalid.correlationId, hvalid.targetUnsTopic]

/-- Otherwise the call fails. -/
theorem ActuationResult.construct_eq_error {req : ActuationRequest} {outcome : Outcome}
    {k : String} (hk : k ∈ outcome.keywords) (hmem : k ∈ req.extra.map Prod.fst) :
    ∃ message, construct req outcome = .error ⟨.typeError, message⟩ := by
  have hsome : (outcome.keywords.find?
      fun k => k ∈ declaredNames ++ req.extra.map Prod.fst).isSome = true :=
    List.find?_isSome.2 ⟨k, hk, decide_eq_true (List.mem_append_right _ hmem)⟩
  obtain ⟨l, hl⟩ := Option.isSome_iff_exists.1 hsome
  exact ⟨_, by rw [construct, hl]⟩

/-! ## A run -/

/-- A message to a stage. -/
structure StageRequest where
  stage : ActuationPipelineStage
  envelope : NATSEnvelope
deriving DecidableEq, Repr

/-- What a run sent, and how it ended. -/
structure PipelineRun where
  requests : List StageRequest := []
  deadLetters : List (String × ActuationResult) := []
  results : List ActuationResult := []
  raised : Option PyError := none
deriving DecidableEq, Repr

/-- A result is constructed and published, for a refusal on the dead letter subject
first. -/
def PipelineRun.publish (run : PipelineRun) (dlqSubject : Option String)
    (req : ActuationRequest) (outcome : Outcome) : PipelineRun :=
  match ActuationResult.construct req outcome with
  | .error e => { run with raised := some e }
  | .ok result =>
      { run with
        deadLetters := run.deadLetters ++ dlqSubject.toList.map fun subject => (subject, result)
        results := run.results ++ [result] }

/-- `_emit_unsettled`. -/
def PipelineRun.emitPending (run : PipelineRun) (req : ActuationRequest) (reason : String) :
    PipelineRun :=
  run.publish none req (.pending reason)

def PipelineRun.emitUnknown (run : PipelineRun) (req : ActuationRequest) (reason : String) :
    PipelineRun :=
  run.publish none req (.unknown reason)

/-- `_emit_reject`. -/
def PipelineRun.emitReject (run : PipelineRun) (dlqSubject : String) (req : ActuationRequest)
    (reason : String) (retryable : Bool) : PipelineRun :=
  run.publish (some dlqSubject) req (.reject reason retryable)

/-- `_emit_approve`. -/
def PipelineRun.emitApprove (run : PipelineRun) (req : ActuationRequest)
    (writtenAt : AwareDatetime) (replayed : Bool) : PipelineRun :=
  run.publish none req (.approve writtenAt replayed)

/-- `reason or default`. -/
def orDefault (reason : Option String) (default : String) : String :=
  match reason with
  | some s => if s = "" then default else s
  | none => default

section Pipeline

variable {β : Type} (T : DatetimeText) (decode : β → Except PyError Json)

/-- `NATSEnvelope.model_validate_json`. -/
def readEnvelope (data : β) : Except PyError NATSEnvelope := do
  NATSEnvelope.parse (← decode data)

/-- The reply of the validator, read. -/
def readValidation (correlationId : String) (data : β) : Except PyError ValidationReply := do
  let env ← readEnvelope decode data
  if env.status ≠ .ok ∨ env.correlationId ≠ correlationId then
    .error (valueError "invalid validation reply")
  else ValidationReply.parse T env.body

/-- The reply of the writer, read. -/
def readWrite (correlationId : String) (data : β) : Except PyError WriteResult := do
  let env ← readEnvelope decode data
  if env.correlationId ≠ correlationId then
    .error (valueError "writer reply identity mismatch")
  else do
    let result ← WriteResult.parse T env.body
    if result.outcome = .completed ∧ (env.status ≠ .ok ∨ result.writtenAt = none) then
      .error (valueError "writer completion evidence missing")
    else .ok result

/-- The validate stage: the approval, or the reason of the refusal. -/
def validateStage (correlationId : String) :
    StageReply β → Except String (SignedEvidence String String)
  | .timeout => .error "validate_timeout"
  | .raised e => .error e.kind.name
  | .reply data =>
      match readValidation T decode correlationId data with
      | .error _ => .error "bad_validate_reply"
      | .ok validation =>
          if validation.decision = .reject then .error (orDefault validation.reason "rejected")
          else
            match validation.approval with
            | none => .error "missing_approval"
            | some approval => .ok approval

/-- What follows from a reply of the writer. -/
def settleWrite (dlqSubject : String) (req : ActuationRequest) (result : WriteResult)
    (run : PipelineRun) : PipelineRun :=
  match result.outcome with
  | .unknown => run.emitUnknown req (orDefault result.reason "unknown")
  | .pending => run.emitPending req (orDefault result.reason "pending")
  | .conflict => run.emitReject dlqSubject req "command_id_reused" result.retryable
  | .notExecuted =>
      run.emitReject dlqSubject req (orDefault result.reason "writer_refused") result.retryable
  | .completed =>
      match result.writtenAt with
      | some writtenAt => run.emitApprove req writtenAt result.replayed
      | none => { run with raised := some ⟨.other "AssertionError", ""⟩ }

/-- The write stage, from the request that was sent. -/
def writeStage (dlqSubject correlationId : String) (req : ActuationRequest)
    (run : PipelineRun) : StageReply β → PipelineRun
  | .timeout => run.emitUnknown req "write_timeout"
  | .raised _ => run.emitUnknown req "write_transport_error"
  | .reply data =>
      match readWrite T decode correlationId data with
      | .error _ => run.emitUnknown req "bad_write_reply"
      | .ok result => settleWrite dlqSubject req result run

/-- The message to the validator. -/
def validateRequestTo (stage : ActuationPipelineStage) (correlationId : String)
    (a : AuthenticatedRequest String String) : StageRequest :=
  ⟨stage, { correlationId, payload := some (a.dump T) }⟩

/-- The message to the writer. -/
def writeRequestTo (stage : ActuationPipelineStage) (correlationId : String)
    (a : ApprovedWriteRequest String String) : StageRequest :=
  ⟨stage, { correlationId, payload := some (a.dump T) }⟩

/-- The run on an authenticated request whose stage `validate` was found. -/
def runStages (cfg : ActuationPipelineConfig) (allowWrites : Bool)
    (a : AuthenticatedRequest String String) (correlationId : String)
    (validateReply writeReply : StageReply β) (run : PipelineRun) : PipelineRun :=
  match validateStage T decode correlationId validateReply with
  | .error reason => run.emitReject cfg.dlqSubject a.command reason false
  | .ok approval =>
      if !allowWrites then run.emitReject cfg.dlqSubject a.command "writes_disabled" false
      else
        match cfg.stage "write_signal" with
        | none => run
        | some stage =>
            writeStage T decode cfg.dlqSubject correlationId a.command
              { run with
                requests := run.requests ++
                  [writeRequestTo T stage correlationId ⟨a.command, approval⟩] }
              writeReply

/-- `run_actuation_pipeline`. -/
def runActuationPipeline (cfg : ActuationPipelineConfig) (allowWrites : Bool)
    (envelope : NATSEnvelope) (validateReply writeReply : StageReply β) : PipelineRun :=
  match AuthenticatedRequest.parse T envelope.body with
  | .error _ => {}
  | .ok a =>
      if a.command.correlationId ≠ envelope.correlationId then {}
      else
        match cfg.stage "validate" with
        | none => {}
        | some stage =>
            runStages T decode cfg allowWrites a envelope.correlationId validateReply writeReply
              { requests := [validateRequestTo T stage envelope.correlationId a] }

/-! ## What the replies say -/

/-- The validator's reply is ok, is for this command, and approves it. -/
def Approves (correlationId : String) (reply : StageReply β)
    (approval : SignedEvidence String String) : Prop :=
  ∃ data env validation, reply = .reply data ∧ readEnvelope decode data = .ok env ∧
    env.status = .ok ∧ env.correlationId = correlationId ∧
    ValidationReply.parse T env.body = .ok validation ∧ validation.decision = .approve ∧
    validation.approval = some approval

/-- The writer's reply is for this command, and is read as this result. -/
def Answers (correlationId : String) (reply : StageReply β) (env : NATSEnvelope)
    (result : WriteResult) : Prop :=
  ∃ data, reply = .reply data ∧ readEnvelope decode data = .ok env ∧
    env.correlationId = correlationId ∧ WriteResult.parse T env.body = .ok result

/-- The writer reports the completion at this time. -/
def Completes (correlationId : String) (reply : StageReply β) (writtenAt : AwareDatetime)
    (replayed : Bool) : Prop :=
  ∃ env result, Answers T decode correlationId reply env result ∧ env.status = .ok ∧
    result.outcome = .completed ∧ result.writtenAt = some writtenAt ∧
    result.replayed = replayed

/-- The writer reports that it did not execute the command. -/
def Refuses (correlationId : String) (reply : StageReply β) : Prop :=
  ∃ env result, Answers T decode correlationId reply env result ∧
    (result.outcome = .notExecuted ∨ result.outcome = .conflict)

variable {T decode} {correlationId : String}

theorem readEnvelope_unique {data : β} {env env' : NATSEnvelope}
    (h : readEnvelope decode data = .ok env) (h' : readEnvelope decode data = .ok env') :
    env = env' :=
  Except.ok.inj (h.symm.trans h')

/-- A reply is read in one way. -/
theorem Answers.unique {reply : StageReply β} {env env' : NATSEnvelope}
    {result result' : WriteResult} (h : Answers T decode correlationId reply env result)
    (h' : Answers T decode correlationId reply env' result') : env = env' ∧ result = result' := by
  obtain ⟨data, rfl, henv, -, hresult⟩ := h
  obtain ⟨_, ⟨⟩, henv', -, hresult'⟩ := h'
  obtain rfl := readEnvelope_unique henv henv'
  exact ⟨rfl, Except.ok.inj (hresult.symm.trans hresult')⟩

theorem readValidation_eq_ok {data : β} {validation : ValidationReply} :
    readValidation T decode correlationId data = .ok validation ↔
      ∃ env, readEnvelope decode data = .ok env ∧ env.status = .ok ∧
        env.correlationId = correlationId ∧
        ValidationReply.parse T env.body = .ok validation := by
  constructor
  · intro h
    obtain ⟨env, henv, h⟩ := bind_eq_ok.1 h
    obtain ⟨hok, h⟩ := ite_error_eq_ok.1 h
    rw [not_or, not_not, not_not] at hok
    exact ⟨env, henv, hok.1, hok.2, h⟩
  · rintro ⟨env, henv, hstatus, hid, h⟩
    simpa [readValidation, henv, hstatus, hid, bind, Except.bind, pure, Except.pure] using h

theorem validateStage_eq_ok {reply : StageReply β} {approval : SignedEvidence String String} :
    validateStage T decode correlationId reply = .ok approval ↔
      Approves T decode correlationId reply approval := by
  constructor
  · intro h
    cases reply with
    | timeout => cases h
    | raised e => cases h
    | reply data =>
        unfold validateStage at h
        dsimp only at h
        split at h
        · cases h
        · next validation hread =>
            obtain ⟨env, henv, hstatus, hid, hparse⟩ := readValidation_eq_ok.1 hread
            split at h
            · cases h
            · next hdecision =>
                split at h
                · cases h
                · next approval' happroval =>
                    cases h
                    have happrove : validation.decision = .approve := by
                      cases hd : validation.decision
                      · rfl
                      · exact absurd hd hdecision
                    exact ⟨data, env, validation, rfl, henv, hstatus, hid, hparse, happrove,
                      happroval⟩
  · rintro ⟨data, env, validation, rfl, henv, hstatus, hid, hparse, hdecision, happroval⟩
    have hread := readValidation_eq_ok.2 ⟨env, henv, hstatus, hid, hparse⟩
    simp [validateStage, hread, hdecision, happroval]

theorem readWrite_eq_ok {data : β} {result : WriteResult} :
    readWrite T decode correlationId data = .ok result ↔
      ∃ env, Answers T decode correlationId (.reply data) env result ∧
        (result.outcome = .completed → env.status = .ok ∧ result.writtenAt ≠ none) := by
  constructor
  · intro h
    obtain ⟨env, henv, h⟩ := bind_eq_ok.1 h
    obtain ⟨hid, h⟩ := ite_error_eq_ok.1 h
    obtain ⟨result', hresult, h⟩ := bind_eq_ok.1 h
    obtain ⟨hcomplete, h⟩ := ite_error_eq_ok.1 h
    cases h
    rw [not_and, not_or, not_not] at hcomplete
    exact ⟨env, ⟨data, rfl, henv, not_not.1 hid, hresult⟩, hcomplete⟩
  · rintro ⟨env, ⟨_, ⟨⟩, henv, hid, hresult⟩, hcomplete⟩
    have hnot : ¬(result.outcome = .completed ∧ (env.status ≠ .ok ∨ result.writtenAt = none)) := by
      rintro ⟨hdone, hbad⟩
      obtain ⟨hstatus, hwritten⟩ := hcomplete hdone
      exact hbad.elim (absurd hstatus) hwritten
    simp only [readWrite, henv, hid, hresult, if_neg hnot, bind, Except.bind, ne_eq,
      not_true_eq_false, if_false]

/-! ## How a run can go -/

/-- Only a refusal goes to the dead letter subject. -/
def Outcome.deadLetter (dlqSubject : String) (outcome : Outcome) : Option String :=
  if outcome.isReject then some dlqSubject else none

/-- The outcome of a write request, by the writer's reply. -/
inductive WriteCase (T : DatetimeText) (decode : β → Except PyError Json)
    (correlationId : String) (reply : StageReply β) : Outcome → Prop where
  | approve (writtenAt : AwareDatetime) (replayed : Bool)
      (h : Completes T decode correlationId reply writtenAt replayed) :
      WriteCase T decode correlationId reply (.approve writtenAt replayed)
  | reject (reason : String) (retryable : Bool) (h : Refuses T decode correlationId reply) :
      WriteCase T decode correlationId reply (.reject reason retryable)
  | unsettled (outcome : Outcome)
      (hcompletes : ∀ writtenAt replayed,
        ¬Completes T decode correlationId reply writtenAt replayed)
      (hrefuses : ¬Refuses T decode correlationId reply)
      (houtcome : ∃ reason, outcome = .pending reason ∨ outcome = .unknown reason) :
      WriteCase T decode correlationId reply outcome

/-- Without a result that says so, nothing was completed or refused. -/
theorem WriteCase.unknown {reply : StageReply β} (reason : String)
    (h : ∀ env result, Answers T decode correlationId reply env result →
      result.outcome = .completed ∧ (env.status ≠ .ok ∨ result.writtenAt = none)) :
    WriteCase T decode correlationId reply (.unknown reason) := by
  refine .unsettled _ ?_ ?_ ⟨reason, Or.inr rfl⟩
  · rintro writtenAt replayed ⟨env, result, hanswers, hstatus, -, hwritten, -⟩
    rcases (h env result hanswers).2 with hbad | hbad
    · exact hbad hstatus
    · rw [hwritten] at hbad
      cases hbad
  · rintro ⟨env, result, hanswers, houtcome⟩
    have hdone := (h env result hanswers).1
    rcases houtcome with hout | hout <;> rw [hdone] at hout <;> cases hout

/-- A pending or unknown execution is neither completed nor refused. -/
theorem WriteCase.open {reply : StageReply β} {env : NATSEnvelope} {result : WriteResult}
    {outcome : Outcome} (hanswers : Answers T decode correlationId reply env result)
    (hopen : result.outcome = .pending ∨ result.outcome = .unknown)
    (houtcome : ∃ reason, outcome = .pending reason ∨ outcome = .unknown reason) :
    WriteCase T decode correlationId reply outcome := by
  refine .unsettled outcome ?_ ?_ houtcome
  · rintro writtenAt replayed ⟨env', result', hanswers', -, hdone, -, -⟩
    obtain ⟨-, rfl⟩ := hanswers.unique hanswers'
    rcases hopen with hout | hout <;> rw [hdone] at hout <;> cases hout
  · rintro ⟨env', result', hanswers', hrefused⟩
    obtain ⟨-, rfl⟩ := hanswers.unique hanswers'
    rcases hopen with hout | hout <;> rw [hout] at hrefused <;>
      rcases hrefused with hout | hout <;> cases hout

/-- A result that was read settles the request. -/
theorem settleWrite_case (dlqSubject : String) (req : ActuationRequest) (run : PipelineRun)
    {reply : StageReply β} {env : NATSEnvelope} {result : WriteResult}
    (hanswers : Answers T decode correlationId reply env result)
    (hcomplete : result.outcome = .completed → env.status = .ok ∧ result.writtenAt ≠ none) :
    ∃ outcome, WriteCase T decode correlationId reply outcome ∧
      settleWrite dlqSubject req result run =
        run.publish (outcome.deadLetter dlqSubject) req outcome := by
  obtain ⟨out, writtenAt, reason, retryable, replayed⟩ := result
  cases out with
  | unknown => exact ⟨_, .open hanswers (Or.inr rfl) ⟨_, Or.inr rfl⟩, rfl⟩
  | pending => exact ⟨_, .open hanswers (Or.inl rfl) ⟨_, Or.inl rfl⟩, rfl⟩
  | conflict => exact ⟨_, .reject _ _ ⟨env, _, hanswers, Or.inr rfl⟩, rfl⟩
  | notExecuted => exact ⟨_, .reject _ _ ⟨env, _, hanswers, Or.inl rfl⟩, rfl⟩
  | completed =>
      obtain ⟨hstatus, hwritten⟩ := hcomplete rfl
      cases writtenAt with
      | none => exact absurd rfl hwritten
      | some writtenAt =>
          exact ⟨_, .approve writtenAt replayed ⟨env, _, hanswers, hstatus, rfl, rfl, rfl⟩, rfl⟩

/-- The write stage publishes one outcome. -/
theorem writeStage_case (dlqSubject : String) (req : ActuationRequest) (run : PipelineRun)
    (reply : StageReply β) :
    ∃ outcome, WriteCase T decode correlationId reply outcome ∧
      writeStage T decode dlqSubject correlationId req run reply =
        run.publish (outcome.deadLetter dlqSubject) req outcome := by
  cases reply with
  | timeout =>
      refine ⟨.unknown "write_timeout", .unknown _ ?_, rfl⟩
      rintro env result ⟨data, hdata, -⟩
      cases hdata
  | raised e =>
      refine ⟨.unknown "write_transport_error", .unknown _ ?_, rfl⟩
      rintro env result ⟨data, hdata, -⟩
      cases hdata
  | reply data =>
      unfold writeStage
      dsimp only
      cases hread : readWrite T decode correlationId data with
      | error e =>
          refine ⟨.unknown "bad_write_reply", .unknown _ ?_, rfl⟩
          intro env result hanswers
          by_contra hnot
          rw [not_and, not_or, not_not] at hnot
          rw [readWrite_eq_ok.2 ⟨env, hanswers, hnot⟩] at hread
          cases hread
      | ok result =>
          obtain ⟨env, hanswers, hcomplete⟩ := readWrite_eq_ok.1 hread
          exact settleWrite_case dlqSubject req run hanswers hcomplete

/-- How a run on an authenticated request goes: it is refused before the writer is
asked, or the writer is asked and its reply decides. -/
inductive PipelineCase (T : DatetimeText) (decode : β → Except PyError Json)
    (cfg : ActuationPipelineConfig) (allowWrites : Bool)
    (a : AuthenticatedRequest String String) (correlationId : String)
    (stage : ActuationPipelineStage) (validateReply writeReply : StageReply β) :
    PipelineRun → Prop where
  | refused (reason : String)
      (h : allowWrites = false ∨
        ∀ approval, ¬Approves T decode correlationId validateReply approval) :
      PipelineCase T decode cfg allowWrites a correlationId stage validateReply writeReply
        (({ requests := [validateRequestTo T stage correlationId a] } : PipelineRun).publish
          (some cfg.dlqSubject) a.command (.reject reason false))
  | unwired (h : cfg.stage "write_signal" = none) :
      PipelineCase T decode cfg allowWrites a correlationId stage validateReply writeReply
        { requests := [validateRequestTo T stage correlationId a] }
  | written (write : ActuationPipelineStage) (approval : SignedEvidence String String)
      (outcome : Outcome) (hallow : allowWrites = true)
      (happroves : Approves T decode correlationId validateReply approval)
      (hwrite : cfg.stage "write_signal" = some write)
      (hcase : WriteCase T decode correlationId writeReply outcome) :
      PipelineCase T decode cfg allowWrites a correlationId stage validateReply writeReply
        (({ requests := [validateRequestTo T stage correlationId a,
            writeRequestTo T write correlationId ⟨a.command, approval⟩] } :
          PipelineRun).publish (outcome.deadLetter cfg.dlqSubject) a.command outcome)

theorem runStages_case (cfg : ActuationPipelineConfig) (allowWrites : Bool)
    (a : AuthenticatedRequest String String) (stage : ActuationPipelineStage)
    (validateReply writeReply : StageReply β) :
    PipelineCase T decode cfg allowWrites a correlationId stage validateReply writeReply
      (runStages T decode cfg allowWrites a correlationId validateReply writeReply
        { requests := [validateRequestTo T stage correlationId a] }) := by
  unfold runStages
  cases hvalidate : validateStage T decode correlationId validateReply with
  | error reason =>
      refine .refused reason (Or.inr fun approval happroves => ?_)
      rw [validateStage_eq_ok.2 happroves] at hvalidate
      cases hvalidate
  | ok approval =>
      have happroves := validateStage_eq_ok.1 hvalidate
      cases allowWrites with
      | false => exact .refused "writes_disabled" (Or.inl rfl)
      | true =>
          cases hwrite : cfg.stage "write_signal" with
          | none =>
              simp only [Bool.not_true, Bool.false_eq_true, if_false]
              exact .unwired hwrite
          | some write =>
              have hstages : ∃ outcome, WriteCase T decode correlationId writeReply outcome ∧ _ :=
                writeStage_case cfg.dlqSubject a.command
                  { requests := [validateRequestTo T stage correlationId a,
                      writeRequestTo T write correlationId ⟨a.command, approval⟩] } writeReply
              obtain ⟨outcome, hcase, hrun⟩ := hstages
              simp only [Bool.not_true, Bool.false_eq_true, if_false, List.cons_append,
                List.nil_append, hrun]
              exact .written write approval outcome rfl happroves hwrite hcase

/-- **Every run** does nothing, because the request is not one for this envelope or
nobody validates, or goes one of these ways. -/
theorem runActuationPipeline_cases (cfg : ActuationPipelineConfig) (allowWrites : Bool)
    (envelope : NATSEnvelope) (validateReply writeReply : StageReply β) :
    runActuationPipeline T decode cfg allowWrites envelope validateReply writeReply = {} ∨
      ∃ a stage, AuthenticatedRequest.parse T envelope.body = .ok a ∧
        a.command.correlationId = envelope.correlationId ∧ cfg.stage "validate" = some stage ∧
        PipelineCase T decode cfg allowWrites a envelope.correlationId stage validateReply
          writeReply
          (runActuationPipeline T decode cfg allowWrites envelope validateReply writeReply) := by
  unfold runActuationPipeline
  cases hparse : AuthenticatedRequest.parse T envelope.body with
  | error e => exact Or.inl rfl
  | ok a =>
      by_cases hid : a.command.correlationId = envelope.correlationId
      · cases hstage : cfg.stage "validate" with
        | none => exact Or.inl (by simp [hid])
        | some stage =>
            refine Or.inr ⟨a, stage, rfl, hid, rfl, ?_⟩
            simp only [hid, ne_eq, not_true_eq_false, if_false]
            exact runStages_case cfg allowWrites a stage validateReply writeReply
      · exact Or.inl (by simp [hid])

end Pipeline

end EirvahEdge.CommandPath
