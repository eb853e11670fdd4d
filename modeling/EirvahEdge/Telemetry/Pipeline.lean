import EirvahEdge.CommandPath.Pipeline
import EirvahEdge.Contracts.Telemetry

/-!
# The telemetry pipeline

`run_pipeline` takes one raw signal through the configured stages, each a request to a
worker.  A stage may time out, raise, or answer with any bytes; `decode` is the JSON
decoder those bytes go through.

A run collects the requests it sends, the dead letters it publishes, what it counts, and
the error it ends with, if any.  Publishing a dead letter succeeds.

Whatever the stages are, a run counts one success, publishes one dead letter, or raises
(`runFrom_ends`).  What raises is reading the payload of a reply that says ok: it stands
outside the guards, so the message is accounted for when those payloads can be read, and
only then (`accounted_iff_readable`).
-/

namespace EirvahEdge.Telemetry

open EirvahEdge.Lib
open EirvahEdge.Contracts
open EirvahEdge.CommandPath (StageReply readEnvelope)

/-! ## Configuration and context -/

structure PipelineStage where
  name : String
  subject : String
  timeoutS : PyFloat := .finite 2
deriving DecidableEq, Repr

structure PipelineConfig where
  stages : List PipelineStage
  dlqSubject : String
deriving DecidableEq, Repr

structure PipelineContext where
  correlationId : String
  raw : RawSignalEnvelope
  normalized : Option NormalizedSignalEnvelope := none
  contextualized : Option ContextualizeResult := none
deriving DecidableEq, Repr

def assertionError (message : String) : PyError := ⟨.other "AssertionError", message⟩

/-- `build_publish_request`; the model checks the correlation id. -/
def PipelineContext.buildPublishRequest (ctx : PipelineContext) : Except PyError PublishRequest :=
  match ctx.normalized with
  | none => .error (assertionError "normalized must be set")
  | some normalized =>
      match ctx.contextualized with
      | none => .error (assertionError "contextualized must be set")
      | some contextualized =>
          if isValidCorrelationId ctx.correlationId then
            .ok {
              position := ctx.raw.position
              unsTopic := contextualized.unsTopic
              correlationId := ctx.correlationId
              value := normalized.value
              valueType := normalized.valueType
              unit := normalized.unit
              quality := normalized.quality
              semanticType := contextualized.semanticType
              unsPath := contextualized.unsPath
              sourceEndpoint := ctx.raw.sourceEndpoint
              sourceNodeId := ctx.raw.nodeId
              sourceTimestamp := ctx.raw.sourceTimestamp
              edgeIngress := ctx.raw.receivedAt
              sensorUri := contextualized.sensorUri
              featureUri := contextualized.featureUri
              propertyUri := contextualized.propertyUri }
          else .error (Json.validationError "correlation_id")

/-- A request that was built has its fields from the raw signal, the normalized signal and
the place. -/
theorem PipelineContext.buildPublishRequest_eq_ok {ctx : PipelineContext} {req : PublishRequest}
    (h : ctx.buildPublishRequest = .ok req) :
    ∃ normalized contextualized, ctx.normalized = some normalized ∧
      ctx.contextualized = some contextualized ∧
      isValidCorrelationId ctx.correlationId = true ∧ req = {
        position := ctx.raw.position
        unsTopic := contextualized.unsTopic
        correlationId := ctx.correlationId
        value := normalized.value
        valueType := normalized.valueType
        unit := normalized.unit
        quality := normalized.quality
        semanticType := contextualized.semanticType
        unsPath := contextualized.unsPath
        sourceEndpoint := ctx.raw.sourceEndpoint
        sourceNodeId := ctx.raw.nodeId
        sourceTimestamp := ctx.raw.sourceTimestamp
        edgeIngress := ctx.raw.receivedAt
        sensorUri := contextualized.sensorUri
        featureUri := contextualized.featureUri
        propertyUri := contextualized.propertyUri } := by
  unfold buildPublishRequest at h
  split at h
  · cases h
  · next normalized hnormalized =>
      split at h
      · cases h
      · next contextualized hcontextualized =>
          split at h
          · next hid =>
              exact ⟨normalized, contextualized, hnormalized, hcontextualized, hid,
                (Except.ok.inj h).symm⟩
          · cases h

/-! ## A run -/

/-- A message to a stage. -/
structure StageRequest where
  stage : PipelineStage
  envelope : NATSEnvelope
deriving DecidableEq, Repr

/-- `PipelineMetrics`: a counter that was incremented. -/
inductive PipelineCount where
  | success
  | stageError (stage reason : String)
  | stageTimeout (stage : String)
deriving DecidableEq, Repr

/-- What a run sent and counted, and how it ended. -/
structure PipelineRun where
  requests : List StageRequest := []
  deadLetters : List (String × NATSEnvelope) := []
  counts : List PipelineCount := []
  raised : Option PyError := none
deriving DecidableEq, Repr

/-- Why a stage did not reply ok. -/
inductive StageFailure where
  | timeout
  | error (reason : String)
deriving DecidableEq, Repr

def StageFailure.reason : StageFailure → String
  | .timeout => "timeout"
  | .error reason => reason

def StageFailure.count (stage : String) : StageFailure → PipelineCount
  | .timeout => .stageTimeout stage
  | .error reason => .stageError stage reason

section Pipeline

variable {β : Type} (T : DatetimeText) (decode : β → Except PyError Json)

/-- The reply of a stage, read up to its status. -/
def readReply : StageReply β → Except StageFailure NATSEnvelope
  | .timeout => .error .timeout
  | .raised e => .error (.error e.kind.name)
  | .reply data =>
      match readEnvelope decode data with
      | .error _ => .error (.error "BadReply")
      | .ok reply =>
          match reply.status with
          | .ok => .ok reply
          | .error => .error (.error ((reply.error.map EnvelopeError.kind).getD "unknown"))

/-- The payload for a stage; a stage of another name has none and is passed over. -/
def PipelineContext.payload (ctx : PipelineContext) : String → Except PyError (Option Json)
  | "convert" => .ok (some (ctx.raw.dump T))
  | "contextualize" =>
      match ctx.normalized with
      | none => .error (assertionError "")
      | some normalized => .ok (some (normalized.dump T))
  | "publish" => ctx.buildPublishRequest.map fun req => some (req.dump T)
  | _ => .ok none

/-- What is kept of a reply that said ok. -/
def PipelineContext.record (ctx : PipelineContext) (stage : String) (body : Json) :
    Except PyError PipelineContext :=
  match stage with
  | "convert" =>
      (NormalizedSignalEnvelope.parse T body).map fun n => { ctx with normalized := some n }
  | "contextualize" =>
      (ContextualizeResult.parse body).map fun c => { ctx with contextualized := some c }
  | _ => .ok ctx

/-- The envelope `_publish_dlq` publishes. -/
def PipelineContext.deadLetter (ctx : PipelineContext) (failingStage reason : String) :
    NATSEnvelope where
  correlationId := ctx.correlationId
  status := .error
  error := some ⟨"PipelineFailure", "stage=" ++ failingStage ++ " reason=" ++ reason⟩
  payload := some (ctx.raw.dump T)

/-- The stage is counted as failed, and the raw signal goes to the dead letters. -/
def PipelineRun.fail (run : PipelineRun) (dlqSubject : String) (ctx : PipelineContext)
    (stage : String) (failure : StageFailure) : PipelineRun :=
  { run with
    counts := run.counts ++ [failure.count stage]
    deadLetters := run.deadLetters ++ [(dlqSubject, ctx.deadLetter T stage failure.reason)] }

variable (requestReply : PipelineStage → NATSEnvelope → StageReply β) (dlqSubject : String)

/-- The loop of `run_pipeline` over the stages that are left. -/
def runFrom : List PipelineStage → PipelineContext → PipelineRun → PipelineRun
  | [], _, run => { run with counts := run.counts ++ [.success] }
  | stage :: stages, ctx, run =>
      match ctx.payload T stage.name with
      | .error e => { run with raised := some e }
      | .ok none => runFrom stages ctx run
      | .ok (some payload) =>
          let request : NATSEnvelope :=
            { correlationId := ctx.correlationId, payload := some payload }
          let sent := { run with requests := run.requests ++ [⟨stage, request⟩] }
          match readReply decode (requestReply stage request) with
          | .error failure => sent.fail T dlqSubject ctx stage.name failure
          | .ok reply =>
              -- no guard stands around the reading of the payload
              match ctx.record T stage.name reply.body with
              | .error e => { sent with raised := some e }
              | .ok ctx' => runFrom stages ctx' sent

/-- `run_pipeline`. -/
def runPipeline (cfg : PipelineConfig) (envelope : NATSEnvelope) : PipelineRun :=
  match RawSignalEnvelope.parse T envelope.body with
  | .error _ => {}
  | .ok raw =>
      runFrom T decode requestReply cfg.dlqSubject cfg.stages
        { correlationId := envelope.correlationId, raw } {}

/-! ## What is said about a run -/

/-- The stage replied ok, with this envelope. -/
def RepliedOk (answer : StageReply β) (reply : NATSEnvelope) : Prop :=
  ∃ data, answer = .reply data ∧ readEnvelope decode data = .ok reply ∧ reply.status = .ok

/-- Success was counted once, nothing went to the dead letters, and the stages of these
names were asked and all replied ok. -/
def Succeeded (names : List String) (run : PipelineRun) : Prop :=
  run.counts.count .success = 1 ∧ run.deadLetters = [] ∧
    run.requests.map (fun r => r.stage.name) = names ∧
    ∀ r ∈ run.requests, ∃ reply, RepliedOk decode (requestReply r.stage r.envelope) reply

/-- No success was counted, and one dead letter carries the raw signal. -/
def DeadLettered (raw : RawSignalEnvelope) (run : PipelineRun) : Prop :=
  PipelineCount.success ∉ run.counts ∧
    ∃ letter, run.deadLetters = [(dlqSubject, letter)] ∧ letter.payload = some (raw.dump T)

/-- The run returned and did one of the two. -/
def Accounted (names : List String) (raw : RawSignalEnvelope) (run : PipelineRun) : Prop :=
  run.raised = none ∧
    (Succeeded decode requestReply names run ∨ DeadLettered T dlqSubject raw run)

/-- What an ok reply to the converter's request carries is a normalized signal, and what
an ok reply to the request made of it carries is a place in the hierarchy. -/
def RepliesReadable (convert contextualize : PipelineStage) (correlationId : String)
    (raw : RawSignalEnvelope) : Prop :=
  ∀ reply, RepliedOk decode
      (requestReply convert { correlationId, payload := some (raw.dump T) }) reply →
    ∃ normalized, NormalizedSignalEnvelope.parse T reply.body = .ok normalized ∧
      ∀ reply', RepliedOk decode
          (requestReply contextualize { correlationId, payload := some (normalized.dump T) })
          reply' →
        ∃ contextualized, ContextualizeResult.parse reply'.body = .ok contextualized

variable {T decode requestReply dlqSubject}

theorem readReply_eq_ok {answer : StageReply β} {reply : NATSEnvelope} :
    readReply decode answer = .ok reply ↔ RepliedOk decode answer reply := by
  constructor
  · intro h
    unfold readReply at h
    split at h
    · cases h
    · cases h
    · next data =>
        split at h
        · cases h
        · next reply' hread =>
            split at h
            · next hstatus =>
                obtain rfl := Except.ok.inj h
                exact ⟨data, rfl, hread, hstatus⟩
            · cases h
  · rintro ⟨data, rfl, hread, hstatus⟩
    simp [readReply, hread, hstatus]

/-- Of a stage that did not reply ok anything can be said about its ok replies. -/
theorem forall_repliedOk_of_failure {answer : StageReply β} {failure : StageFailure}
    (h : readReply decode answer = .error failure) (P : NATSEnvelope → Prop) :
    ∀ reply, RepliedOk decode answer reply → P reply := by
  intro reply hok
  have hread := readReply_eq_ok.2 hok
  rw [h] at hread
  cases hread

/-- There is one reply. -/
theorem forall_repliedOk_iff {answer : StageReply β} {reply : NATSEnvelope}
    (h : RepliedOk decode answer reply) (P : NATSEnvelope → Prop) :
    (∀ reply', RepliedOk decode answer reply' → P reply') ↔ P reply := by
  constructor
  · intro hall
    exact hall reply h
  · intro hP reply' h'
    have hread := readReply_eq_ok.2 h
    have hread' := readReply_eq_ok.2 h'
    obtain rfl := Except.ok.inj (hread.symm.trans hread')
    exact hP

/-! ## One stage -/

section Stage

variable {stage : PipelineStage} {stages : List PipelineStage} {ctx ctx' : PipelineContext}
  {run : PipelineRun} {payload : Json}

/-- The request to a stage. -/
def requestTo (stage : PipelineStage) (ctx : PipelineContext) (payload : Json) : StageRequest :=
  ⟨stage, { correlationId := ctx.correlationId, payload := some payload }⟩

/-- The run with one request more. -/
def PipelineRun.ask (run : PipelineRun) (request : StageRequest) : PipelineRun :=
  { run with requests := run.requests ++ [request] }

theorem runFrom_unknown (h : ctx.payload T stage.name = .ok none) :
    runFrom T decode requestReply dlqSubject (stage :: stages) ctx run =
      runFrom T decode requestReply dlqSubject stages ctx run := by
  rw [runFrom, h]

theorem runFrom_unbuilt {e : PyError} (h : ctx.payload T stage.name = .error e) :
    runFrom T decode requestReply dlqSubject (stage :: stages) ctx run =
      { run with raised := some e } := by
  rw [runFrom, h]

theorem runFrom_failed {failure : StageFailure} (h : ctx.payload T stage.name = .ok (some payload))
    (hreply : readReply decode (requestReply stage (requestTo stage ctx payload).envelope) =
      .error failure) :
    runFrom T decode requestReply dlqSubject (stage :: stages) ctx run =
      (run.ask (requestTo stage ctx payload)).fail T dlqSubject ctx stage.name failure := by
  rw [requestTo] at hreply
  rw [runFrom, h]
  dsimp only
  rw [hreply]
  rfl

theorem runFrom_unread {reply : NATSEnvelope} {e : PyError}
    (h : ctx.payload T stage.name = .ok (some payload))
    (hreply : RepliedOk decode (requestReply stage (requestTo stage ctx payload).envelope) reply)
    (hrecord : ctx.record T stage.name reply.body = .error e) :
    runFrom T decode requestReply dlqSubject (stage :: stages) ctx run =
      { run.ask (requestTo stage ctx payload) with raised := some e } := by
  have hread := readReply_eq_ok.2 hreply
  rw [requestTo] at hread
  rw [runFrom, h]
  dsimp only
  rw [hread]
  dsimp only
  rw [hrecord]
  rfl

theorem runFrom_recorded {reply : NATSEnvelope}
    (h : ctx.payload T stage.name = .ok (some payload))
    (hreply : RepliedOk decode (requestReply stage (requestTo stage ctx payload).envelope) reply)
    (hrecord : ctx.record T stage.name reply.body = .ok ctx') :
    runFrom T decode requestReply dlqSubject (stage :: stages) ctx run =
      runFrom T decode requestReply dlqSubject stages ctx'
        (run.ask (requestTo stage ctx payload)) := by
  have hread := readReply_eq_ok.2 hreply
  rw [requestTo] at hread
  rw [runFrom, h]
  dsimp only
  rw [hread]
  dsimp only
  rw [hrecord]
  rfl

theorem payload_publish :
    ctx.payload T "publish" = ctx.buildPublishRequest.map fun req => some (req.dump T) := by
  simp [PipelineContext.payload]

theorem record_convert (body : Json) : ctx.record T "convert" body =
    (NormalizedSignalEnvelope.parse T body).map fun n => { ctx with normalized := some n } := by
  simp [PipelineContext.record]

theorem record_contextualize (body : Json) : ctx.record T "contextualize" body =
    (ContextualizeResult.parse body).map fun c => { ctx with contextualized := some c } := by
  simp [PipelineContext.record]

theorem record_publish (body : Json) : ctx.record T "publish" body = .ok ctx := by
  simp [PipelineContext.record]

/-- What a stage of each name is sent. -/
theorem payload_cases {name : String} (h : ctx.payload T name = .ok (some payload)) :
    (name = "convert" ∧ payload = ctx.raw.dump T) ∨
      (name = "contextualize" ∧
        ∃ normalized, ctx.normalized = some normalized ∧ payload = normalized.dump T) ∨
      (name = "publish" ∧ ∃ req, ctx.buildPublishRequest = .ok req ∧ payload = req.dump T) := by
  unfold PipelineContext.payload at h
  split at h
  · exact Or.inl ⟨rfl, (Option.some.inj (Except.ok.inj h)).symm⟩
  · split at h
    · cases h
    · next normalized hnormalized =>
        exact Or.inr (Or.inl ⟨rfl, normalized, hnormalized,
          (Option.some.inj (Except.ok.inj h)).symm⟩)
  · obtain ⟨req, hreq, hpayload⟩ := map_eq_ok.1 h
    exact Or.inr (Or.inr ⟨rfl, req, hreq, (Option.some.inj hpayload).symm⟩)
  · cases h

/-- Neither the raw signal nor the correlation id changes on the way. -/
theorem record_keeps {name : String} {body : Json} (h : ctx.record T name body = .ok ctx') :
    ctx'.raw = ctx.raw ∧ ctx'.correlationId = ctx.correlationId := by
  unfold PipelineContext.record at h
  split at h
  · obtain ⟨n, -, rfl⟩ := map_eq_ok.1 h
    exact ⟨rfl, rfl⟩
  · obtain ⟨c, -, rfl⟩ := map_eq_ok.1 h
    exact ⟨rfl, rfl⟩
  · obtain rfl := Except.ok.inj h
    exact ⟨rfl, rfl⟩

end Stage

/-! ## What holds of every request -/

/-- The request was made of such a context. -/
def MadeOf (T : DatetimeText) (P : PipelineContext → Prop) (request : StageRequest) : Prop :=
  ∃ ctx payload, P ctx ∧ ctx.payload T request.stage.name = .ok (some payload) ∧
    request = requestTo request.stage ctx payload

/-- What every recorded reply preserves of the context holds where a request is made. -/
theorem runFrom_madeOf {P : PipelineContext → Prop}
    (hstep : ∀ (stage : PipelineStage) (ctx : PipelineContext) (payload : Json)
      (reply : NATSEnvelope) (ctx' : PipelineContext), P ctx →
      ctx.payload T stage.name = .ok (some payload) →
      RepliedOk decode (requestReply stage (requestTo stage ctx payload).envelope) reply →
      ctx.record T stage.name reply.body = .ok ctx' → P ctx')
    (stages : List PipelineStage) (ctx : PipelineContext) (run : PipelineRun) (hctx : P ctx)
    (hrun : ∀ request ∈ run.requests, MadeOf T P request) :
    ∀ request ∈ (runFrom T decode requestReply dlqSubject stages ctx run).requests,
      MadeOf T P request := by
  induction stages generalizing ctx run with
  | nil => exact hrun
  | cons stage stages ih =>
      cases hpayload : ctx.payload T stage.name with
      | error e =>
          rw [runFrom_unbuilt hpayload]
          exact hrun
      | ok payload? =>
          cases payload? with
          | none =>
              rw [runFrom_unknown hpayload]
              exact ih ctx run hctx hrun
          | some payload =>
              have hasked : ∀ request ∈ (run.ask (requestTo stage ctx payload)).requests,
                  MadeOf T P request := by
                intro request hrequest
                rcases List.mem_append.1 hrequest with hold | hnew
                · exact hrun request hold
                · obtain rfl := List.mem_singleton.1 hnew
                  exact ⟨ctx, payload, hctx, hpayload, rfl⟩
              cases hreply : readReply decode
                  (requestReply stage (requestTo stage ctx payload).envelope) with
              | error failure =>
                  rw [runFrom_failed hpayload hreply]
                  exact hasked
              | ok reply =>
                  have hok := readReply_eq_ok.1 hreply
                  cases hrecord : ctx.record T stage.name reply.body with
                  | error e =>
                      rw [runFrom_unread hpayload hok hrecord]
                      exact hasked
                  | ok ctx' =>
                      rw [runFrom_recorded hpayload hok hrecord]
                      exact ih ctx' _ (hstep stage ctx payload reply ctx' hctx hpayload hok hrecord)
                        hasked

/-! ## How a run ends -/

/-- The stages that are asked something. -/
def stageNames : List String := ["convert", "contextualize", "publish"]

theorem mem_stageNames {ctx : PipelineContext} {name : String} {payload : Json}
    (h : ctx.payload T name = .ok (some payload)) : name ∈ stageNames := by
  rcases payload_cases h with ⟨rfl, -⟩ | ⟨rfl, -⟩ | ⟨rfl, -⟩ <;> simp [stageNames]

theorem notMem_stageNames {ctx : PipelineContext} {name : String}
    (h : ctx.payload T name = .ok none) : name ∉ stageNames := by
  unfold PipelineContext.payload at h
  split at h
  · cases h
  · split at h
    · cases h
    · cases h
  · obtain ⟨req, -, hreq⟩ := map_eq_ok.1 h
    cases hreq
  · next hconvert hcontextualize hpublish => simpa [stageNames] using
      ⟨hconvert, hcontextualize, hpublish⟩

/-- The three ways a run can end, from `run` on. -/
inductive Ends (T : DatetimeText) (decode : β → Except PyError Json)
    (requestReply : PipelineStage → NATSEnvelope → StageReply β) (dlqSubject : String)
    (raw : RawSignalEnvelope) (names : List String) (run : PipelineRun) : PipelineRun → Prop where
  | succeeded (requests : List StageRequest)
      (hnames : requests.map (fun r => r.stage.name) = names)
      (hok : ∀ r ∈ requests, ∃ reply, RepliedOk decode (requestReply r.stage r.envelope) reply) :
      Ends T decode requestReply dlqSubject raw names run
        { run with
          requests := run.requests ++ requests
          counts := run.counts ++ [.success] }
  | deadLettered (requests : List StageRequest) (stage : String) (failure : StageFailure)
      (letter : NATSEnvelope) (hletter : letter.payload = some (raw.dump T)) :
      Ends T decode requestReply dlqSubject raw names run
        { run with
          requests := run.requests ++ requests
          counts := run.counts ++ [failure.count stage]
          deadLetters := run.deadLetters ++ [(dlqSubject, letter)] }
  | raised (requests : List StageRequest) (e : PyError) :
      Ends T decode requestReply dlqSubject raw names run
        { run with
          requests := run.requests ++ requests
          raised := some e }

/-- Nothing was asked and an error is raised. -/
theorem Ends.unasked (raw : RawSignalEnvelope) (names : List String) (run : PipelineRun)
    (e : PyError) :
    Ends T decode requestReply dlqSubject raw names run { run with raised := some e } := by
  have hend : Ends T decode requestReply dlqSubject raw names run
      { run with requests := run.requests ++ [], raised := some e } := .raised [] e
  rwa [List.append_nil] at hend

/-- One more stage was asked, and replied ok. -/
theorem Ends.ask {raw : RawSignalEnvelope} {names : List String} {run run' : PipelineRun}
    {request : StageRequest} {reply : NATSEnvelope}
    (hreply : RepliedOk decode (requestReply request.stage request.envelope) reply)
    (h : Ends T decode requestReply dlqSubject raw names (run.ask request) run') :
    Ends T decode requestReply dlqSubject raw (request.stage.name :: names) run run' := by
  have happend (requests : List StageRequest) :
      (run.ask request).requests ++ requests = run.requests ++ request :: requests := by
    simp [PipelineRun.ask]
  cases h with
  | succeeded requests hnames hok =>
      rw [happend]
      refine .succeeded (request :: requests) (congrArg _ hnames) ?_
      intro r hr
      rcases List.mem_cons.1 hr with rfl | hr
      · exact ⟨reply, hreply⟩
      · exact hok r hr
  | deadLettered requests stage failure letter hletter =>
      rw [happend]
      exact .deadLettered (request :: requests) stage failure letter hletter
  | raised requests e =>
      rw [happend]
      exact .raised (request :: requests) e

/-- Every run ends in one of the three ways, whatever its stages are. -/
theorem runFrom_ends (stages : List PipelineStage) (ctx : PipelineContext) (run : PipelineRun) :
    Ends T decode requestReply dlqSubject ctx.raw
      ((stages.map PipelineStage.name).filter fun name => name ∈ stageNames) run
      (runFrom T decode requestReply dlqSubject stages ctx run) := by
  induction stages generalizing ctx run with
  | nil =>
      have hend : Ends T decode requestReply dlqSubject ctx.raw [] run
          { run with
            requests := run.requests ++ []
            counts := run.counts ++ [.success] } := .succeeded [] rfl (by simp)
      rwa [List.append_nil] at hend
  | cons stage stages ih =>
      cases hpayload : ctx.payload T stage.name with
      | error e =>
          rw [runFrom_unbuilt hpayload]
          exact .unasked _ _ _ e
      | ok payload? =>
          cases payload? with
          | none =>
              have hnot := notMem_stageNames hpayload
              rw [runFrom_unknown hpayload, List.map_cons, List.filter_cons_of_neg (by simpa)]
              exact ih ctx run
          | some payload =>
              have hmem := mem_stageNames hpayload
              rw [List.map_cons, List.filter_cons_of_pos (by simpa)]
              cases hreply : readReply decode
                  (requestReply stage (requestTo stage ctx payload).envelope) with
              | error failure =>
                  rw [runFrom_failed hpayload hreply]
                  exact .deadLettered [requestTo stage ctx payload] stage.name failure _ rfl
              | ok reply =>
                  have hok := readReply_eq_ok.1 hreply
                  cases hrecord : ctx.record T stage.name reply.body with
                  | error e =>
                      rw [runFrom_unread hpayload hok hrecord]
                      exact .raised [requestTo stage ctx payload] e
                  | ok ctx' =>
                      have hraw := (record_keeps hrecord).1
                      rw [runFrom_recorded hpayload hok hrecord]
                      have hrest := ih ctx' (run.ask (requestTo stage ctx payload))
                      rw [hraw] at hrest
                      exact hrest.ask hok

/-- A run that does not raise accounts for its message. -/
theorem accounted_of_ends {raw : RawSignalEnvelope} {names : List String} {run : PipelineRun}
    (h : Ends T decode requestReply dlqSubject raw names {} run) (hraised : run.raised = none) :
    Accounted T decode requestReply dlqSubject names raw run := by
  cases h with
  | succeeded requests hnames hok =>
      refine ⟨rfl, Or.inl ⟨rfl, rfl, hnames, hok⟩⟩
  | deadLettered requests stage failure letter hletter =>
      refine ⟨rfl, Or.inr ⟨?_, letter, rfl, hletter⟩⟩
      cases failure <;> simp [StageFailure.count]
  | raised requests e => cases hraised

/-! ## Convert, contextualize, publish -/

section Standard

variable {convert contextualize publish : PipelineStage} {correlationId : String}
  {raw : RawSignalEnvelope}

/-- Once both payloads were read, nothing raises. -/
theorem raised_publish (hpublish : publish.name = "publish")
    (hid : isValidCorrelationId correlationId = true) (normalized : NormalizedSignalEnvelope)
    (contextualized : ContextualizeResult) (run : PipelineRun) :
    (runFrom T decode requestReply dlqSubject [publish]
      ⟨correlationId, raw, some normalized, some contextualized⟩ run).raised = run.raised := by
  obtain ⟨req, hreq⟩ : ∃ req, PipelineContext.buildPublishRequest
      ⟨correlationId, raw, some normalized, some contextualized⟩ = .ok req := by
    simp [PipelineContext.buildPublishRequest, hid]
  have hpayload : PipelineContext.payload T
      ⟨correlationId, raw, some normalized, some contextualized⟩ publish.name =
        .ok (some (req.dump T)) := by
    simp [PipelineContext.payload, hpublish, hreq, Except.map]
  cases hreply : readReply decode (requestReply publish
      (requestTo publish ⟨correlationId, raw, some normalized, some contextualized⟩
        (req.dump T)).envelope) with
  | error failure =>
      rw [runFrom_failed hpayload hreply]
      rfl
  | ok reply =>
      have hrecord : PipelineContext.record T
          ⟨correlationId, raw, some normalized, some contextualized⟩ publish.name reply.body =
            .ok ⟨correlationId, raw, some normalized, some contextualized⟩ := by
        rw [hpublish, record_publish]
      rw [runFrom_recorded hpayload (readReply_eq_ok.1 hreply) hrecord]
      rfl

/-- With a normalized signal at hand, what raises is the reading of the place in the
hierarchy. -/
theorem raised_contextualize (hcontextualize : contextualize.name = "contextualize")
    (hpublish : publish.name = "publish") (hid : isValidCorrelationId correlationId = true)
    (normalized : NormalizedSignalEnvelope) {run : PipelineRun} (hrun : run.raised = none) :
    (runFrom T decode requestReply dlqSubject [contextualize, publish]
        ⟨correlationId, raw, some normalized, none⟩ run).raised = none ↔
      ∀ reply, RepliedOk decode
          (requestReply contextualize { correlationId, payload := some (normalized.dump T) })
          reply →
        ∃ contextualized, ContextualizeResult.parse reply.body = .ok contextualized := by
  have hpayload : PipelineContext.payload T ⟨correlationId, raw, some normalized, none⟩
      contextualize.name = .ok (some (normalized.dump T)) := by
    simp [PipelineContext.payload, hcontextualize]
  cases hreply : readReply decode (requestReply contextualize
      (requestTo contextualize ⟨correlationId, raw, some normalized, none⟩
        (normalized.dump T)).envelope) with
  | error failure =>
      rw [runFrom_failed hpayload hreply]
      exact iff_of_true hrun (forall_repliedOk_of_failure hreply _)
  | ok reply =>
      have hok := readReply_eq_ok.1 hreply
      refine Iff.trans ?_ (forall_repliedOk_iff hok _).symm
      cases hparse : ContextualizeResult.parse reply.body with
      | error e =>
          have hrecord : PipelineContext.record T ⟨correlationId, raw, some normalized, none⟩
              contextualize.name reply.body = .error e := by
            rw [hcontextualize, record_contextualize, hparse]
            rfl
          rw [runFrom_unread hpayload hok hrecord]
          exact iff_of_false (by simp) (by simp)
      | ok contextualized =>
          have hrecord : PipelineContext.record T ⟨correlationId, raw, some normalized, none⟩
              contextualize.name reply.body =
                .ok ⟨correlationId, raw, some normalized, some contextualized⟩ := by
            rw [hcontextualize, record_contextualize, hparse]
            rfl
          rw [runFrom_recorded hpayload hok hrecord, raised_publish hpublish hid]
          exact iff_of_true hrun ⟨contextualized, rfl⟩

/-- Of the whole run, what raises is the reading of one of the two payloads. -/
theorem raised_convert (hconvert : convert.name = "convert")
    (hcontextualize : contextualize.name = "contextualize")
    (hpublish : publish.name = "publish") (hid : isValidCorrelationId correlationId = true) :
    (runFrom T decode requestReply dlqSubject [convert, contextualize, publish]
        ⟨correlationId, raw, none, none⟩ {}).raised = none ↔
      RepliesReadable T decode requestReply convert contextualize correlationId raw := by
  have hpayload : PipelineContext.payload T ⟨correlationId, raw, none, none⟩ convert.name =
      .ok (some (raw.dump T)) := by
    simp [PipelineContext.payload, hconvert]
  cases hreply : readReply decode (requestReply convert
      (requestTo convert ⟨correlationId, raw, none, none⟩ (raw.dump T)).envelope) with
  | error failure =>
      rw [runFrom_failed hpayload hreply]
      exact iff_of_true rfl (forall_repliedOk_of_failure hreply _)
  | ok reply =>
      have hok := readReply_eq_ok.1 hreply
      refine Iff.trans ?_ (forall_repliedOk_iff hok _).symm
      cases hparse : NormalizedSignalEnvelope.parse T reply.body with
      | error e =>
          have hrecord : PipelineContext.record T ⟨correlationId, raw, none, none⟩
              convert.name reply.body = .error e := by
            rw [hconvert, record_convert, hparse]
            rfl
          rw [runFrom_unread hpayload hok hrecord]
          exact iff_of_false (by simp) (by simp)
      | ok normalized =>
          have hrecord : PipelineContext.record T ⟨correlationId, raw, none, none⟩
              convert.name reply.body = .ok ⟨correlationId, raw, some normalized, none⟩ := by
            rw [hconvert, record_convert, hparse]
            rfl
          rw [runFrom_recorded hpayload hok hrecord,
            raised_contextualize hcontextualize hpublish hid normalized rfl]
          simp

/-- A raw signal that was read is accounted for exactly when the payloads of the ok
replies can be read; otherwise the run raises, and neither counts it nor publishes a dead
letter. -/
theorem accounted_iff_readable {envelope : NATSEnvelope} (hconvert : convert.name = "convert")
    (hcontextualize : contextualize.name = "contextualize")
    (hpublish : publish.name = "publish")
    (hid : isValidCorrelationId envelope.correlationId = true)
    (hraw : RawSignalEnvelope.parse T envelope.body = .ok raw) :
    Accounted T decode requestReply dlqSubject stageNames raw
        (runPipeline T decode requestReply ⟨[convert, contextualize, publish], dlqSubject⟩
          envelope) ↔
      RepliesReadable T decode requestReply convert contextualize envelope.correlationId raw := by
  have hrun : runPipeline T decode requestReply ⟨[convert, contextualize, publish], dlqSubject⟩
      envelope = runFrom T decode requestReply dlqSubject [convert, contextualize, publish]
        ⟨envelope.correlationId, raw, none, none⟩ {} := by
    rw [runPipeline, hraw]
  have hnames : ([convert, contextualize, publish].map PipelineStage.name).filter
      (fun name => name ∈ stageNames) = stageNames := by
    simp [hconvert, hcontextualize, hpublish, stageNames]
  have hends : Ends T decode requestReply dlqSubject raw stageNames {}
      (runFrom T decode requestReply dlqSubject [convert, contextualize, publish]
        ⟨envelope.correlationId, raw, none, none⟩ {}) := by
    rw [← hnames]
    exact runFrom_ends _ ⟨envelope.correlationId, raw, none, none⟩ {}
  rw [hrun, ← raised_convert hconvert hcontextualize hpublish hid]
  exact ⟨And.left, accounted_of_ends hends⟩

end Standard

end Pipeline

/-! A converter whose rule has the scale `2.0 ** 100` answers a raw `2.0 ** 1000` with an
infinite value, which its text has as `null`. -/

namespace NullValue

/-- One time and its text. -/
def texts : DatetimeText := .ofTable [(.ofMicros 1767225600000000, "2026-01-01T00:00:00Z")]

def correlationId : String := "01ARZ3NDEKTSV4RRFFQ69G5FAV"

def raw : RawSignalEnvelope where
  sourceEndpoint := "opc.tcp://plc:4840"
  nodeId := "ns=2;s=Filler.Torque"
  value := .float (.finite (2 ^ 1000))
  valueType := .double
  quality := .good
  position := none
  sourceTimestamp := .aware (.ofMicros 1767225600000000)
  serverTimestamp := .aware (.ofMicros 1767225600000000)
  receivedAt := .aware (.ofMicros 1767225600000000)

/-- The converted signal, with this value. -/
def normalized (value : PyFloat) : NormalizedSignalEnvelope where
  nodeId := raw.nodeId
  value := .float value
  valueType := .double
  unit := "Nm"
  quality := .good
  position := none
  sourceTimestamp := raw.sourceTimestamp
  receivedAt := raw.receivedAt

def place : ContextualizeResult where
  unsTopic := "uniza/zilina/packaging/line1/filler/motor/torque"
  unsPath := ⟨"uniza", "zilina", "packaging", "line1", "filler", "motor", "torque", by decide⟩
  semanticType := "torque"
  sensorUri := "https://eirvah.uniza/ontology/TorqueSensor01"
  featureUri := "https://eirvah.uniza/ontology/Filler"
  propertyUri := "https://eirvah.uniza/ontology/Torque"

def convert : PipelineStage := { name := "convert", subject := "uns.work.convert" }

def contextualize : PipelineStage :=
  { name := "contextualize", subject := "uns.work.contextualize" }

def publish : PipelineStage := { name := "publish", subject := "uns.work.publish" }

def envelope : NATSEnvelope := { correlationId, payload := some (raw.dump texts) }

/-- An ok reply, as its text. -/
def answer (payload : Option Json) : StageReply Json :=
  .reply (NATSEnvelope.text { correlationId, payload })

/-- Every stage replies ok, the converter with this value. -/
def answers (value : PyFloat) (stage : PipelineStage) (_ : NATSEnvelope) : StageReply Json :=
  match stage.name with
  | "convert" => answer (some ((normalized value).dump texts))
  | "contextualize" => answer (some place.dump)
  | _ => answer none

def run (value : PyFloat) : PipelineRun :=
  runPipeline texts .ok (answers value)
    ⟨[convert, contextualize, publish], "uns.dlq.telemetry"⟩ envelope

end NullValue

open NullValue in
/-- The run raises: no success, and no dead letter. -/
theorem unaccounted_value : RawSignalEnvelope.parse texts envelope.body = .ok raw ∧
    isValidCorrelationId envelope.correlationId = true ∧
    (run (.inf false)).deadLetters = [] ∧ (run (.inf false)).counts = [] ∧
    ¬Accounted texts .ok (answers (.inf false)) "uns.dlq.telemetry" stageNames raw
      (run (.inf false)) := by
  have hraised : (run (.inf false)).raised ≠ none := by decide +kernel
  exact ⟨by decide +kernel, by decide +kernel, by decide +kernel, by decide +kernel,
    fun h => hraised h.1⟩

open NullValue in
/-- With a finite value the same signal is accounted for. -/
theorem accounted_value : Accounted texts .ok (answers (.finite 12)) "uns.dlq.telemetry"
    stageNames raw (run (.finite 12)) := by
  have hconvert : RepliedOk .ok (answers (.finite 12) convert
      { correlationId, payload := some (raw.dump texts) })
      { correlationId, payload := some ((normalized (.finite 12)).dump texts) } :=
    ⟨_, rfl, by decide +kernel, rfl⟩
  have hcontextualize : RepliedOk .ok (answers (.finite 12) contextualize
      { correlationId, payload := some ((normalized (.finite 12)).dump texts) })
      { correlationId, payload := some place.dump } :=
    ⟨_, rfl, by decide +kernel, rfl⟩
  apply (accounted_iff_readable rfl rfl rfl (by decide +kernel) (by decide +kernel)).2
  exact (forall_repliedOk_iff hconvert _).2 ⟨normalized (.finite 12), by decide +kernel,
    (forall_repliedOk_iff hcontextualize _).2 ⟨place, by decide +kernel⟩⟩

end EirvahEdge.Telemetry
