import EirvahEdge.CommandPath.Encoding
import EirvahEdge.CommandPath.Pipeline

/-!
# What a run publishes

A request comes from outside with members that the contract does not name, and a result
is constructed from all members of the request next to its own keywords.  When a member
has the name of such a keyword the construction fails, nothing is published, and the
run ends with the error.  `one_outcome_iff` says when a run publishes exactly one
result; `outcome_classification` says what its result means on requests whose members
have other names.
-/

namespace EirvahEdge.CommandPath

open EirvahEdge.Lib
open EirvahEdge.Contracts

/-- The keywords of all results. -/
def resultKeywords : List String :=
  ["decision", "written_at", "replayed", "rejection_reason", "retryable", "outcome_reason"]

theorem Outcome.keywords_subset (outcome : Outcome) : outcome.keywords ⊆ resultKeywords := by
  cases outcome <;> simp [keywords, resultKeywords]

/-- A result was published and nothing was raised. -/
def PipelineRun.PublishedOnce (run : PipelineRun) : Prop :=
  run.raised = none ∧ run.results.length = 1

/-- The writer was asked. -/
def PipelineRun.AskedWriter (run : PipelineRun) : Prop :=
  ∃ q ∈ run.requests, q.stage.name = "write_signal"

/-- A command that was read has what its validators check. -/
theorem AuthenticatedRequest.valid_of_parse {T : DatetimeText} {j : Json}
    {a : AuthenticatedRequest String String} (h : AuthenticatedRequest.parse T j = .ok a) :
    a.command.Valid := by
  obtain ⟨⟨command, identity⟩, hwith, rfl⟩ := map_eq_ok.1 h
  unfold parseWith at hwith
  split at hwith
  · obtain ⟨-, -, hwith⟩ := bind_eq_ok.1 hwith
    obtain ⟨-, -, hwith⟩ := bind_eq_ok.1 hwith
    split at hwith
    · obtain ⟨command', hcommand, hwith⟩ := bind_eq_ok.1 hwith
      obtain ⟨identity', -, hwith⟩ := bind_eq_ok.1 hwith
      obtain ⟨rfl, -⟩ := Prod.mk.inj (Except.ok.inj hwith)
      exact ActuationRequest.valid_of_parse hcommand
    · cases hwith
    · cases hwith
  · cases hwith

section Publish

variable {run : PipelineRun} {dlqSubject : Option String} {req : ActuationRequest}
  {outcome : Outcome}

theorem PipelineRun.publish_of_free (hvalid : req.Valid)
    (hfree : ∀ k ∈ outcome.keywords, k ∉ req.extra.map Prod.fst) :
    run.publish dlqSubject req outcome =
      { run with
        deadLetters := run.deadLetters ++
          dlqSubject.toList.map fun subject => (subject, ⟨req, outcome⟩)
        results := run.results ++ [⟨req, outcome⟩] } := by
  rw [publish, ActuationResult.construct_eq_ok hvalid hfree]

/-- The first result of a run. -/
theorem PipelineRun.publishedOnce_iff (hvalid : req.Valid) (hraised : run.raised = none)
    (hresults : run.results = []) :
    (run.publish dlqSubject req outcome).PublishedOnce ↔
      ∀ k ∈ outcome.keywords, k ∉ req.extra.map Prod.fst := by
  constructor
  · rintro ⟨hnone, -⟩ k hk hmem
    obtain ⟨message, herror⟩ := ActuationResult.construct_eq_error hk hmem
    simp [publish, herror] at hnone
  · intro hfree
    rw [publish_of_free hvalid hfree]
    exact ⟨hraised, by simp [hresults]⟩

end Publish

section Pipeline

variable {β : Type} {T : DatetimeText} {decode : β → Except PyError Json}
  {correlationId : String} {reply : StageReply β}

/-- A completion is no refusal. -/
theorem Completes.not_refuses {writtenAt : AwareDatetime} {replayed : Bool}
    (h : Completes T decode correlationId reply writtenAt replayed) :
    ¬Refuses T decode correlationId reply := by
  rintro ⟨env', result', hanswers', hrefused⟩
  obtain ⟨env, result, hanswers, -, hdone, -⟩ := h
  obtain ⟨-, rfl⟩ := hanswers.unique hanswers'
  rcases hrefused with hout | hout <;> rw [hdone] at hout <;> cases hout

/-! ## Exactly one result -/

/-- No extra member has the name of a keyword of the result that is due: of a refusal
when writes are disabled, the validator did not approve or the writer refused; of an
approval when the writer completed the write; of an unsettled result otherwise. -/
structure KeywordsFree (T : DatetimeText) (decode : β → Except PyError Json)
    (allowWrites : Bool) (correlationId : String) (validateReply writeReply : StageReply β)
    (names : List String) : Prop where
  refused : (allowWrites = false ∨
      (∀ approval, ¬Approves T decode correlationId validateReply approval) ∨
      Refuses T decode correlationId writeReply) →
    ∀ k ∈ ["decision", "rejection_reason", "retryable"], k ∉ names
  approved : allowWrites = true →
    (∃ approval, Approves T decode correlationId validateReply approval) →
    (∃ writtenAt replayed, Completes T decode correlationId writeReply writtenAt replayed) →
    ∀ k ∈ ["decision", "written_at", "replayed"], k ∉ names
  unsettled : allowWrites = true →
    (∃ approval, Approves T decode correlationId validateReply approval) →
    (∀ writtenAt replayed, ¬Completes T decode correlationId writeReply writtenAt replayed) →
    ¬Refuses T decode correlationId writeReply →
    ∀ k ∈ ["decision", "outcome_reason"], k ∉ names

variable {cfg : ActuationPipelineConfig} {allowWrites : Bool}
  {a : AuthenticatedRequest String String} {stage write : ActuationPipelineStage}
  {validateReply writeReply : StageReply β} {names : List String}

/-- Before the writer is asked only a refusal is due. -/
theorem keywordsFree_of_refused
    (h : allowWrites = false ∨
      ∀ approval, ¬Approves T decode correlationId validateReply approval) :
    KeywordsFree T decode allowWrites correlationId validateReply writeReply names ↔
      ∀ k ∈ ["decision", "rejection_reason", "retryable"], k ∉ names := by
  constructor
  · intro hfree
    exact hfree.refused (h.imp_right Or.inl)
  · intro hnames
    have hcontra : allowWrites = true →
        (∃ approval, Approves T decode correlationId validateReply approval) → False := by
      rintro hallow ⟨approval, happroves⟩
      rcases h with hdisabled | hnone
      · rw [hallow] at hdisabled
        cases hdisabled
      · exact hnone approval happroves
    exact ⟨fun _ => hnames, fun hallow happroves => (hcontra hallow happroves).elim,
      fun hallow happroves => (hcontra hallow happroves).elim⟩

/-- Afterwards the writer's reply decides. -/
theorem keywordsFree_of_case {approval : SignedEvidence String String} {outcome : Outcome}
    (hallow : allowWrites = true)
    (happroves : Approves T decode correlationId validateReply approval)
    (hcase : WriteCase T decode correlationId writeReply outcome) :
    KeywordsFree T decode allowWrites correlationId validateReply writeReply names ↔
      ∀ k ∈ outcome.keywords, k ∉ names := by
  have hdue : ¬(allowWrites = false ∨
      ∀ approval, ¬Approves T decode correlationId validateReply approval) := by
    rintro (hdisabled | hnone)
    · rw [hallow] at hdisabled
      cases hdisabled
    · exact hnone approval happroves
  have hrefused : (allowWrites = false ∨
      (∀ approval, ¬Approves T decode correlationId validateReply approval) ∨
      Refuses T decode correlationId writeReply) →
      Refuses T decode correlationId writeReply := by
    intro hor
    rw [← or_assoc] at hor
    exact hor.resolve_left hdue
  cases hcase with
  | approve writtenAt replayed hcompletes =>
      constructor
      · exact fun hfree =>
          hfree.approved hallow ⟨approval, happroves⟩ ⟨writtenAt, replayed, hcompletes⟩
      · exact fun hnames => ⟨fun hor => absurd (hrefused hor) hcompletes.not_refuses,
          fun _ _ _ => hnames, fun _ _ hnone => absurd hcompletes (hnone _ _)⟩
  | reject reason retryable hrefuses =>
      constructor
      · exact fun hfree => hfree.refused (Or.inr (Or.inr hrefuses))
      · exact fun hnames => ⟨fun _ => hnames,
          fun _ _ ⟨_, _, hcompletes⟩ => absurd hrefuses hcompletes.not_refuses,
          fun _ _ _ hnot => absurd hrefuses hnot⟩
  | unsettled _ hcompletes hrefuses houtcome =>
      have hkeywords : outcome.keywords = ["decision", "outcome_reason"] := by
        obtain ⟨reason, rfl | rfl⟩ := houtcome <;> rfl
      rw [hkeywords]
      constructor
      · exact fun hfree => hfree.unsettled hallow ⟨approval, happroves⟩ hcompletes hrefuses
      · exact fun hnames => ⟨fun hor => absurd (hrefused hor) hrefuses,
          fun _ _ ⟨_, _, hdone⟩ => absurd hdone (hcompletes _ _), fun _ _ _ _ => hnames⟩

/-- **Exactly one result**: a run on an authenticated request for its envelope, with both
stages configured, returns and publishes exactly one result if and only if no extra
member of the request has the name of a keyword of the result that is due. -/
theorem one_outcome_iff {envelope : NATSEnvelope}
    (hparse : AuthenticatedRequest.parse T envelope.body = .ok a)
    (hid : a.command.correlationId = envelope.correlationId)
    (hvalidate : cfg.stage "validate" = some stage)
    (hwrite : cfg.stage "write_signal" = some write) :
    (runActuationPipeline T decode cfg allowWrites envelope validateReply
        writeReply).PublishedOnce ↔
      KeywordsFree T decode allowWrites envelope.correlationId validateReply writeReply
        (a.command.extra.map Prod.fst) := by
  have hvalid := AuthenticatedRequest.valid_of_parse hparse
  have hrun : runActuationPipeline T decode cfg allowWrites envelope validateReply writeReply =
      runStages T decode cfg allowWrites a envelope.correlationId validateReply writeReply
        { requests := [validateRequestTo T stage envelope.correlationId a] } := by
    simp [runActuationPipeline, hparse, hid, hvalidate]
  have hcase : PipelineCase T decode cfg allowWrites a envelope.correlationId stage validateReply
      writeReply _ := runStages_case cfg allowWrites a stage validateReply writeReply
  rw [hrun]
  generalize runStages T decode cfg allowWrites a envelope.correlationId validateReply writeReply
    { requests := [validateRequestTo T stage envelope.correlationId a] } = run at hcase
  cases hcase with
  | refused reason h =>
      rw [PipelineRun.publishedOnce_iff hvalid rfl rfl, keywordsFree_of_refused h]
      rfl
  | unwired h =>
      rw [hwrite] at h
      cases h
  | written write approval outcome hallow happroves _ hcase =>
      rw [PipelineRun.publishedOnce_iff hvalid rfl rfl,
        keywordsFree_of_case hallow happroves hcase]

/-! ## What a result means -/

/-- The run asked the writer only with an approval, and published what the replies
say. -/
structure Classified (T : DatetimeText) (decode : β → Except PyError Json)
    (cfg : ActuationPipelineConfig) (allowWrites : Bool) (correlationId : String)
    (validateReply writeReply : StageReply β) (run : PipelineRun) : Prop where
  once : run.results.length ≤ 1
  asked : run.AskedWriter →
    allowWrites = true ∧ ∃ approval, Approves T decode correlationId validateReply approval
  approve : ∀ r ∈ run.results, ∀ writtenAt replayed, r.outcome = .approve writtenAt replayed →
    run.AskedWriter ∧ Completes T decode correlationId writeReply writtenAt replayed
  reject : ∀ r ∈ run.results, r.outcome.isReject = true →
    ¬run.AskedWriter ∨ Refuses T decode correlationId writeReply
  unsettled : run.AskedWriter →
    (∀ writtenAt replayed, ¬Completes T decode correlationId writeReply writtenAt replayed) →
    ¬Refuses T decode correlationId writeReply →
    ∃ r reason, run.results = [r] ∧ (r.outcome = .pending reason ∨ r.outcome = .unknown reason)
  deadLetters : run.deadLetters =
    (run.results.filter fun r => r.outcome.isReject).map fun r => (cfg.dlqSubject, r)

/-- A run that publishes nothing and asks at most the validator. -/
theorem Classified.silent {run : PipelineRun} (hresults : run.results = [])
    (hdead : run.deadLetters = []) (hasked : ¬run.AskedWriter) :
    Classified T decode cfg allowWrites correlationId validateReply writeReply run where
  once := by simp [hresults]
  asked := fun h => absurd h hasked
  approve := by simp [hresults]
  reject := by simp [hresults]
  unsettled := fun h => absurd h hasked
  deadLetters := by simp [hresults, hdead]

theorem not_askedWriter (hstage : cfg.stage "validate" = some stage) {run : PipelineRun}
    (hrequests : run.requests = [validateRequestTo T stage correlationId a]) :
    ¬run.AskedWriter := by
  rintro ⟨q, hq, hname⟩
  rw [hrequests, List.mem_singleton] at hq
  rw [hq] at hname
  have hvalidate : stage.name = "validate" := ActuationPipelineConfig.name_of_stage hstage
  have hwrite : stage.name = "write_signal" := hname
  rw [hvalidate] at hwrite
  exact absurd hwrite (by decide)

/-- A refusal before the writer was asked. -/
theorem Classified.refused {run : PipelineRun} {reason : String}
    (hstage : cfg.stage "validate" = some stage)
    (hrequests : run.requests = [validateRequestTo T stage correlationId a])
    (hdead : run.deadLetters = [(cfg.dlqSubject, ⟨a.command, .reject reason false⟩)])
    (hresults : run.results = [⟨a.command, .reject reason false⟩]) :
    Classified T decode cfg allowWrites correlationId validateReply writeReply run := by
  have hasked := not_askedWriter hstage hrequests
  constructor
  · simp [hresults]
  · exact fun h => absurd h hasked
  · simp [hresults]
  · exact fun _ _ _ => Or.inl hasked
  · exact fun h => absurd h hasked
  · rw [hdead, hresults]
    rfl

/-- The writer was asked, and its reply is published. -/
theorem Classified.written {approval : SignedEvidence String String} {outcome : Outcome}
    (hallow : allowWrites = true)
    (happroves : Approves T decode correlationId validateReply approval)
    (hwrite : cfg.stage "write_signal" = some write)
    (hcase : WriteCase T decode correlationId writeReply outcome) :
    Classified T decode cfg allowWrites correlationId validateReply writeReply
      { requests := [validateRequestTo T stage correlationId a,
          writeRequestTo T write correlationId ⟨a.command, approval⟩]
        deadLetters := (outcome.deadLetter cfg.dlqSubject).toList.map
          fun subject => (subject, ⟨a.command, outcome⟩)
        results := [⟨a.command, outcome⟩] } where
  once := le_rfl
  asked := fun _ => ⟨hallow, approval, happroves⟩
  approve := by
    intro r hr writtenAt replayed hout
    rw [List.mem_singleton] at hr
    rw [hr] at hout
    have hname : write.name = "write_signal" := ActuationPipelineConfig.name_of_stage hwrite
    refine ⟨⟨_, List.mem_cons_of_mem _ List.mem_cons_self, hname⟩, ?_⟩
    cases hcase with
    | approve writtenAt' replayed' h =>
        cases hout
        exact h
    | reject reason retryable h => cases hout
    | unsettled _ _ _ h =>
        obtain ⟨reason, rfl | rfl⟩ := h <;> cases hout
  reject := by
    intro r hr hreject
    rw [List.mem_singleton] at hr
    rw [hr] at hreject
    cases hcase with
    | approve writtenAt replayed h => cases hreject
    | reject reason retryable h => exact Or.inr h
    | unsettled _ _ _ h =>
        obtain ⟨reason, rfl | rfl⟩ := h <;> cases hreject
  unsettled := by
    intro _ hcompletes hrefuses
    cases hcase with
    | approve writtenAt replayed h => exact absurd h (hcompletes _ _)
    | reject reason retryable h => exact absurd h hrefuses
    | unsettled _ _ _ h =>
        obtain ⟨reason, h⟩ := h
        exact ⟨_, reason, rfl, h⟩
  deadLetters := by cases outcome <;> rfl

/-- **Classification**: for every request whose extra members have other names than the
keywords of results, a run publishes at most one result; it asks the writer only when
writes are allowed and the validator approved this command; an approval is published
only for a completion that the writer reported, with its time; a refusal only when the
writer was not asked or reported that nothing was executed; in every other case after
the writer was asked the result is unknown or pending; and the dead letter subject gets
exactly the refusals. -/
theorem outcome_classification (T : DatetimeText) (decode : β → Except PyError Json)
    (cfg : ActuationPipelineConfig) (allowWrites : Bool) (envelope : NATSEnvelope)
    (validateReply writeReply : StageReply β)
    (hfree : ∀ a, AuthenticatedRequest.parse T envelope.body = .ok a →
      ∀ k ∈ resultKeywords, k ∉ a.command.extra.map Prod.fst) :
    Classified T decode cfg allowWrites envelope.correlationId validateReply writeReply
      (runActuationPipeline T decode cfg allowWrites envelope validateReply writeReply) := by
  have hruns : runActuationPipeline T decode cfg allowWrites envelope validateReply writeReply =
      {} ∨ _ := runActuationPipeline_cases cfg allowWrites envelope validateReply writeReply
  rcases hruns with hrun | ⟨a, stage, hparse, -, hstage, hcase⟩
  · rw [hrun]
    exact .silent rfl rfl (by rintro ⟨q, hq, -⟩; cases hq)
  · have hvalid := AuthenticatedRequest.valid_of_parse hparse
    have hkeywords (outcome : Outcome) :
        ∀ k ∈ outcome.keywords, k ∉ a.command.extra.map Prod.fst :=
      fun k hk => hfree a hparse k (outcome.keywords_subset hk)
    generalize runActuationPipeline T decode cfg allowWrites envelope validateReply
      writeReply = run at hcase
    cases hcase with
    | refused reason h =>
        rw [PipelineRun.publish_of_free hvalid (hkeywords _)]
        exact .refused hstage rfl rfl rfl
    | unwired h => exact .silent rfl rfl (not_askedWriter hstage rfl)
    | written write approval outcome hallow happroves hwrite hcase =>
        rw [PipelineRun.publish_of_free hvalid (hkeywords _)]
        exact .written hallow happroves hwrite hcase

end Pipeline

/-! ## A valve command -/

namespace ValvePipeline

/-- The stages of the deployed pipeline. -/
def config : ActuationPipelineConfig where
  stages := [⟨"validate", "act.work.validate", .finite 2⟩,
    ⟨"write_signal", "act.work.write_signal", .finite 5⟩]

def identity : Json :=
  .obj [("purpose", .str "ingress"), ("command_digest", .str ValveText.sha256),
    ("writer", .str ""), ("issued_at", .str "2026-07-01T10:00:01Z"),
    ("signature", .str ValveText.hmacSha256)]

/-- The command with one more member. -/
def command (name : String) (value : Json) : Json :=
  .obj [("correlation_id", .str "01J0000000000000000000000A"),
    ("requester", .str "experiment-driver"),
    ("target_uns_topic", .str "acme/plant1/bottling/line1/cell1/valve1/state"),
    ("requested_value", .bool true), ("value_type", .str "bool"), ("reason", .str "test"),
    ("requested_at", .str "2026-07-01T12:00:00+02:00"),
    ("deadline", .str "2026-07-01T12:05:00+02:00"), (name, value)]

def envelope (name : String) (value : Json) : NATSEnvelope where
  correlationId := "01J0000000000000000000000A"
  payload := some (.obj [("command", command name value), ("identity", identity)])

def reply (payload : Json) : StageReply Json :=
  .reply (.obj [("correlation_id", .str "01J0000000000000000000000A"), ("payload", payload)])

/-- The validator approves. -/
def approved : StageReply Json :=
  reply (.obj [("decision", .str "approve"), ("approval", .obj [("purpose", .str "approval"),
    ("command_digest", .str ValveText.sha256), ("writer", .str "writer-1"),
    ("issued_at", .str "2026-07-01T10:00:01Z"), ("signature", .str ValveText.hmacSha256)])])

/-- The writer is done. -/
def completed : StageReply Json :=
  reply (.obj [("outcome", .str "completed"), ("written_at", .str "2026-07-01T10:00:01Z")])

def ingress : SignedEvidence String String :=
  ⟨.ingress, ValveText.sha256, "", ValveText.issuedAt, ValveText.hmacSha256⟩

/-- The command whose further member is a decision. -/
def decided : ActuationRequest :=
  { ValveText.command with
    extra := [("decision", .str "approve")]
    names_nodup := by decide }

end ValvePipeline

/-- A silent validator leads to one refusal of the command with a batch number. -/
theorem one_outcome_example :
    (runActuationPipeline ValveText.text .ok ValvePipeline.config true
      (ValvePipeline.envelope "batch" (.int 7)) .timeout
      ValvePipeline.completed).PublishedOnce := by
  have hparse : AuthenticatedRequest.parse ValveText.text
      (ValvePipeline.envelope "batch" (.int 7)).body =
        .ok ⟨ValveText.command, ValvePipeline.ingress⟩ := by decide +kernel
  have hnone : ∀ approval,
      ¬Approves ValveText.text .ok "01J0000000000000000000000A" (.timeout : StageReply Json)
        approval := by
    rintro approval ⟨data, env, validation, hdata, -⟩
    cases hdata
  exact (one_outcome_iff hparse rfl rfl rfl).2
    ((keywordsFree_of_refused (Or.inr hnone)).2 (by decide))

/-- A command with a member `decision` is approved and executed, and no result is
published. -/
theorem unpublished_of_extra :
    AuthenticatedRequest.parse ValveText.text
        (ValvePipeline.envelope "decision" (.str "approve")).body =
        .ok ⟨ValvePipeline.decided, ValvePipeline.ingress⟩ ∧
      ValvePipeline.decided.correlationId =
        (ValvePipeline.envelope "decision" (.str "approve")).correlationId ∧
      (ValvePipeline.config.stage "validate").isSome = true ∧
      (ValvePipeline.config.stage "write_signal").isSome = true ∧
      ¬(runActuationPipeline ValveText.text .ok ValvePipeline.config true
        (ValvePipeline.envelope "decision" (.str "approve")) ValvePipeline.approved
        ValvePipeline.completed).PublishedOnce := by
  refine ⟨by decide +kernel, rfl, rfl, rfl, ?_⟩
  rintro ⟨hraised, -⟩
  have herror : (runActuationPipeline ValveText.text .ok ValvePipeline.config true
      (ValvePipeline.envelope "decision" (.str "approve")) ValvePipeline.approved
      ValvePipeline.completed).raised =
        some ⟨.typeError, "got multiple values for keyword argument 'decision'"⟩ := by
    decide +kernel
  rw [hraised] at herror
  cases herror

/-- The approval of the command with a batch number is the writer's completion. -/
theorem outcome_classification_example :
    (runActuationPipeline ValveText.text .ok ValvePipeline.config true
        (ValvePipeline.envelope "batch" (.int 7)) ValvePipeline.approved
        ValvePipeline.completed).results =
        [⟨ValveText.command, .approve ValveText.issuedAt false⟩] ∧
      Completes ValveText.text .ok "01J0000000000000000000000A" ValvePipeline.completed
        ValveText.issuedAt false := by
  have hresults : (runActuationPipeline ValveText.text .ok ValvePipeline.config true
      (ValvePipeline.envelope "batch" (.int 7)) ValvePipeline.approved
      ValvePipeline.completed).results =
        [⟨ValveText.command, .approve ValveText.issuedAt false⟩] := by decide +kernel
  have hparse : AuthenticatedRequest.parse ValveText.text
      (ValvePipeline.envelope "batch" (.int 7)).body =
        .ok ⟨ValveText.command, ValvePipeline.ingress⟩ := by decide +kernel
  have hfree : ∀ a, AuthenticatedRequest.parse ValveText.text
      (ValvePipeline.envelope "batch" (.int 7)).body = .ok a →
      ∀ k ∈ resultKeywords, k ∉ a.command.extra.map Prod.fst := by
    intro a ha
    rw [hparse] at ha
    cases ha
    decide
  have hmeans := outcome_classification ValveText.text .ok ValvePipeline.config true
    (ValvePipeline.envelope "batch" (.int 7)) ValvePipeline.approved ValvePipeline.completed hfree
  refine ⟨hresults, (hmeans.approve ⟨ValveText.command, .approve ValveText.issuedAt false⟩
    ?_ _ _ rfl).2⟩
  rw [hresults]
  exact List.mem_singleton_self _

end EirvahEdge.CommandPath
