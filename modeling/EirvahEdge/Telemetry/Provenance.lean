import EirvahEdge.Telemetry.Workers

/-!
# Where a published observation comes from

The orchestrator with the workers as they are coded, every message between them going
through its text.  Whatever the stages are and wherever they are sent, a packet that the
publisher hands to its client is the observation of the raw signal: its position, time,
quality and correlation id, the value converted by the rule of the node, and the unit,
type and names that the ontology has for the node.

## Main results

* `handle_cases`: of the three payloads that a request can carry, each worker answers ok
  to its own.
* `traced_step`: what is kept of an ok reply comes from the raw signal.
* `provenance_preserved`: so does the packet, and it is read back as it was built.
-/

namespace EirvahEdge.Telemetry

open EirvahEdge.Lib
open EirvahEdge.Contracts
open EirvahEdge.CommandPath (StageReply readEnvelope)

section Provenance

variable {T I : DatetimeText} {W : Workers}

/-! ## Replies through their texts -/

theorem errorReply_valid {correlationId kind message : String}
    (hid : isValidCorrelationId correlationId = true) :
    (errorReply correlationId kind message).Valid where
  correlationId := hid
  payload := by simp [errorReply]
  context := by simp [errorReply]

theorem payload_valid {correlationId : String} {fields : List (String × Json)}
    (hid : isValidCorrelationId correlationId = true) :
    NATSEnvelope.Valid { correlationId, payload := some (.obj fields) } where
  correlationId := hid
  payload := by simp
  context := by simp

theorem handleConvertRequest_valid {envelope : NATSEnvelope}
    (hid : isValidCorrelationId envelope.correlationId = true) :
    (handleConvertRequest T W envelope).Valid := by
  unfold handleConvertRequest
  split
  · exact errorReply_valid hid
  · split
    · exact errorReply_valid hid
    · split
      · exact errorReply_valid hid
      · exact errorReply_valid hid
      · exact payload_valid hid

theorem handleContextualizeRequest_valid {envelope : NATSEnvelope}
    (hid : isValidCorrelationId envelope.correlationId = true) :
    (handleContextualizeRequest T W envelope).Valid := by
  unfold handleContextualizeRequest
  split
  · exact errorReply_valid hid
  · split
    · exact errorReply_valid hid
    · exact errorReply_valid hid
    · exact payload_valid hid

theorem handlePublishRequest_valid {envelope : NATSEnvelope}
    (hid : isValidCorrelationId envelope.correlationId = true) :
    (handlePublishRequest T I W envelope).reply.Valid := by
  unfold handlePublishRequest
  split
  · exact errorReply_valid hid
  · split
    · exact errorReply_valid hid
    · dsimp only
      split
      · exact errorReply_valid hid
      · exact ⟨hid, by simp, by simp⟩

/-- What a worker does with an envelope when it replies ok. -/
inductive Handled (T : DatetimeText) (W : Workers) (envelope : NATSEnvelope)
    (reply : NATSEnvelope) : Prop where
  | converted (raw : RawSignalEnvelope) (rule : ConversionRule)
      (normalized : NormalizedSignalEnvelope)
      (hraw : RawSignalEnvelope.parse T envelope.body = .ok raw)
      (hrule : W.rules raw.nodeId = some rule)
      (hnormalized : applyConversion W.pyRepr raw rule = .ok (some normalized))
      (hreply : reply.payload = some (normalized.dump T))
  | placed (normalized : NormalizedSignalEnvelope) (result : ContextualizeResult)
      (hnormalized : NormalizedSignalEnvelope.parse T envelope.body = .ok normalized)
      (hresult : contextualize normalized (W.graph normalized.nodeId) = .ok (some result))
      (hreply : reply.payload = some result.dump)
  | published (req : PublishRequest) (hreq : PublishRequest.parse T envelope.body = .ok req)

/-- Every reply of a worker can be read, and an ok reply is one of these. -/
theorem handle_cases {subject : String} {envelope : NATSEnvelope} {published : Published}
    (h : W.handle T I subject envelope = some published)
    (hid : isValidCorrelationId envelope.correlationId = true) :
    published.reply.Valid ∧
      (published.reply.status = .ok → Handled T W envelope published.reply) := by
  unfold Workers.handle at h
  split at h
  · obtain rfl := Option.some.inj h
    refine ⟨handleConvertRequest_valid hid, ?_⟩
    intro hok
    obtain ⟨raw, rule, normalized, hraw, hrule, hnormalized, hreply⟩ := handleConvertRequest_ok hok
    exact .converted raw rule normalized hraw hrule hnormalized (by rw [hreply])
  · split at h
    · obtain rfl := Option.some.inj h
      refine ⟨handleContextualizeRequest_valid hid, ?_⟩
      intro hok
      obtain ⟨normalized, result, hnormalized, hresult, hreply⟩ :=
        handleContextualizeRequest_ok hok
      exact .placed normalized result hnormalized hresult (by rw [hreply])
    · split at h
      · obtain rfl := Option.some.inj h
        refine ⟨handlePublishRequest_valid hid, ?_⟩
        intro hok
        cases hreq : PublishRequest.parse T envelope.body with
        | error e => simp [handlePublishRequest, hreq, exceptionReply_status] at hok
        | ok req => exact .published req hreq
      · cases h

/-- An ok reply to a request is the text of an ok reply of the worker to the text of the
request. -/
theorem handled_of_repliedOk {stage : PipelineStage} {correlationId : String}
    {fields : List (String × Json)} {reply : NATSEnvelope}
    (hid : isValidCorrelationId correlationId = true)
    (h : RepliedOk .ok (W.answer T I stage { correlationId, payload := some (.obj fields) })
      reply) :
    ∃ sent, Handled T W { correlationId, payload := some (Json.obj fields).wire } sent ∧
      reply.payload = sent.payload.map Json.wire := by
  obtain ⟨data, hdata, hread, hstatus⟩ := h
  have htext := NATSEnvelope.parse_text
    (show NATSEnvelope.Valid { correlationId, payload := some (.obj fields) } from
      payload_valid hid)
  simp only [Workers.answer, htext, Option.map_some, Option.map_none] at hdata
  split at hdata
  · cases hdata
  · next published hpublished =>
      obtain ⟨hvalid, hhandled⟩ := handle_cases hpublished hid
      obtain rfl := StageReply.reply.inj hdata
      have hback : NATSEnvelope.parse published.reply.text = .ok reply := hread
      rw [NATSEnvelope.parse_text hvalid] at hback
      obtain rfl := Except.ok.inj hback
      exact ⟨published.reply, hhandled hstatus, rfl⟩

/-! ## No worker takes another's payload -/

theorem normalized_refuses_raw {raw : RawSignalEnvelope} {normalized : NormalizedSignalEnvelope} :
    NormalizedSignalEnvelope.parse T (raw.dump T).wire ≠ .ok normalized := by
  intro h
  have hnames := NormalizedSignalEnvelope.names_of_parse h "source_endpoint"
    (by simp [Json.names_wireFields, RawSignalEnvelope.dumpFields])
  simp at hnames

theorem publish_refuses_raw {raw : RawSignalEnvelope} {req : PublishRequest} :
    PublishRequest.parse T (raw.dump T).wire ≠ .ok req := by
  intro h
  have hnames := PublishRequest.names_of_parse h "node_id"
    (by simp [Json.names_wireFields, RawSignalEnvelope.dumpFields])
  simp at hnames

theorem raw_refuses_normalized {raw : RawSignalEnvelope} {normalized : NormalizedSignalEnvelope} :
    RawSignalEnvelope.parse T (normalized.dump T).wire ≠ .ok raw := by
  intro h
  have hnames := RawSignalEnvelope.names_of_parse h "unit"
    (by simp [Json.names_wireFields, NormalizedSignalEnvelope.dumpFields])
  simp at hnames

theorem publish_refuses_normalized {normalized : NormalizedSignalEnvelope}
    {req : PublishRequest} : PublishRequest.parse T (normalized.dump T).wire ≠ .ok req := by
  intro h
  have hnames := PublishRequest.names_of_parse h "node_id"
    (by simp [Json.names_wireFields, NormalizedSignalEnvelope.dumpFields])
  simp at hnames

/-! ## What comes from the raw signal -/

/-- The signal is the conversion of the raw one. -/
structure Converted (T : DatetimeText) (W : Workers) (raw : RawSignalEnvelope)
    (normalized : NormalizedSignalEnvelope) : Prop where
  valid : normalized.Valid T
  isFinite : normalized.value.isFinite = true
  nodeId : normalized.nodeId = raw.nodeId
  quality : normalized.quality = raw.quality
  position : normalized.position = raw.position
  rule : ∃ rule, W.rules raw.nodeId = some rule ∧
    rule.convert W.pyRepr raw.value = .ok normalized.value ∧
    normalized.valueType = rule.valueType ∧ normalized.unit = rule.unit

/-- The place is the first that the ontology has for the node, with the unit and type of
the rule. -/
structure Placed (W : Workers) (raw : RawSignalEnvelope) (result : ContextualizeResult) :
    Prop where
  row : ∃ rule row rest, W.rules raw.nodeId = some rule ∧ W.graph raw.nodeId = row :: rest ∧
    rule.unit = row.unit ∧ rule.valueType.name = row.valueType ∧
    result.sensorUri = row.sensor ∧ result.featureUri = row.feature ∧
    result.propertyUri = row.property

/-- What the orchestrator keeps comes from the raw signal. -/
structure Traced (T : DatetimeText) (W : Workers) (raw : RawSignalEnvelope)
    (correlationId : String) (ctx : PipelineContext) : Prop where
  raw_eq : ctx.raw = raw
  correlationId_eq : ctx.correlationId = correlationId
  normalized : ∀ normalized ∈ ctx.normalized, Converted T W raw normalized
  contextualized : ∀ result ∈ ctx.contextualized, Placed W raw result

variable {raw : RawSignalEnvelope} {correlationId : String}

/-- The converter's answer to the raw signal, as it arrives. -/
theorem converted_of_handled (hT : T.KeepsTimes) (hraw : raw.Valid T) {sent : NATSEnvelope}
    (h : Handled T W { correlationId, payload := some (raw.dump T).wire } sent)
    {normalized : NormalizedSignalEnvelope}
    (hread : NormalizedSignalEnvelope.parse T ((sent.payload.map Json.wire).getD .null) =
      .ok normalized) : Converted T W raw normalized := by
  cases h with
  | converted raw' rule normalized' hraw' hrule hnormalized hreply =>
      have hsame := RawSignalEnvelope.same_of_parse_wire hT hraw hraw'
      have hvalid := RawSignalEnvelope.valid_of_parse hraw'
      obtain ⟨hvalue, hnode, htype, hunit, hquality, hposition, hsource, hreceived⟩ :=
        applyConversion_eq_some _ hnormalized
      have hvalid' : normalized'.Valid T := by
        constructor
        · rw [hposition]
          exact hvalid.position
        · rw [hsource]
          exact hvalid.sourceTimestamp
        · rw [hreceived]
          exact hvalid.receivedAt
      rw [hreply] at hread
      have hback := NormalizedSignalEnvelope.same_of_parse_wire hT hvalid' hread
      constructor
      · exact NormalizedSignalEnvelope.valid_of_parse hread
      · rw [hback.value]
        exact NormalizedSignalEnvelope.isFinite_of_parse_wire hread
      · rw [hback.nodeId, hnode, hsame.nodeId]
      · rw [hback.quality, hquality, hsame.quality]
      · rw [hback.position, hposition, hsame.position]
      · refine ⟨rule, ?_, ?_, ?_, ?_⟩
        · rw [← hsame.nodeId, hrule]
        · rw [← hsame.value, hvalue, hback.value]
        · rw [hback.valueType, htype]
        · rw [hback.unit, hunit]
  | placed normalized' result hnormalized hresult hreply =>
      exact absurd hnormalized normalized_refuses_raw
  | published req hreq => exact absurd hreq publish_refuses_raw

/-- The contextualizer's answer to the converted signal, as it arrives. -/
theorem placed_of_handled (hT : T.KeepsTimes) {normalized : NormalizedSignalEnvelope}
    (hconverted : Converted T W raw normalized) {sent : NATSEnvelope}
    (h : Handled T W { correlationId, payload := some (normalized.dump T).wire } sent)
    {result : ContextualizeResult}
    (hread : ContextualizeResult.parse ((sent.payload.map Json.wire).getD .null) = .ok result) :
    Placed W raw result := by
  cases h with
  | converted raw' rule normalized' hraw' hrule hnormalized hreply =>
      exact absurd hraw' raw_refuses_normalized
  | placed normalized' result' hnormalized hresult hreply =>
      have hsame := NormalizedSignalEnvelope.same_of_parse_wire hT hconverted.valid hnormalized
      obtain ⟨rule, hrule, -, htype, hunit⟩ := hconverted.rule
      obtain ⟨row, rest, hrows, hunit', htype', hnames⟩ := contextualize_eq_some hresult
      rw [hsame.nodeId, hconverted.nodeId] at hrows
      rw [hsame.unit, hunit] at hunit'
      rw [hsame.valueType, htype] at htype'
      rw [hreply, Option.map_some, Option.getD_some, ContextualizeResult.wire_dump,
        ContextualizeResult.parse_dump] at hread
      obtain rfl := Except.ok.inj hread
      exact ⟨rule, row, rest, hrule, hrows, hunit', htype', hnames⟩
  | published req hreq => exact absurd hreq publish_refuses_normalized

/-- What is kept of an ok reply comes from the raw signal. -/
theorem traced_step (hT : T.KeepsTimes) (hid : isValidCorrelationId correlationId = true)
    (hraw : raw.Valid T) {stage : PipelineStage} {ctx ctx' : PipelineContext} {payload : Json}
    {reply : NATSEnvelope} (htraced : Traced T W raw correlationId ctx)
    (hpayload : ctx.payload T stage.name = .ok (some payload))
    (hreply : RepliedOk .ok (W.answer T I stage (requestTo stage ctx payload).envelope) reply)
    (hrecord : ctx.record T stage.name reply.body = .ok ctx') :
    Traced T W raw correlationId ctx' := by
  obtain ⟨hctxRaw, hctxId, hnormalized, hcontextualized⟩ := htraced
  rcases payload_cases hpayload with ⟨hname, rfl⟩ | ⟨hname, normalized, hsome, rfl⟩ |
    ⟨hname, req, hreq, rfl⟩
  · rw [requestTo, hctxRaw, hctxId] at hreply
    obtain ⟨sent, hhandled, hpayload⟩ := handled_of_repliedOk hid hreply
    rw [hname, record_convert] at hrecord
    obtain ⟨normalized, hread, rfl⟩ := map_eq_ok.1 hrecord
    rw [NATSEnvelope.body, hpayload] at hread
    refine ⟨hctxRaw, hctxId, ?_, hcontextualized⟩
    intro normalized' hsome
    obtain rfl := Option.some.inj hsome
    exact converted_of_handled hT hraw hhandled hread
  · rw [requestTo, hctxId] at hreply
    obtain ⟨sent, hhandled, hpayload⟩ := handled_of_repliedOk hid hreply
    rw [hname, record_contextualize] at hrecord
    obtain ⟨result, hread, rfl⟩ := map_eq_ok.1 hrecord
    rw [NATSEnvelope.body, hpayload] at hread
    refine ⟨hctxRaw, hctxId, hnormalized, ?_⟩
    intro result' hsome'
    obtain rfl := Option.some.inj hsome'
    exact placed_of_handled hT (hnormalized normalized hsome) hhandled hread
  · rw [hname, record_publish] at hrecord
    obtain rfl := Except.ok.inj hrecord
    exact ⟨hctxRaw, hctxId, hnormalized, hcontextualized⟩

/-! ## The packet -/

/-- The observation is that of the raw signal. -/
structure Provenance (W : Workers) (raw : RawSignalEnvelope) (correlationId : String)
    (o : SOSAObservation) : Prop where
  position : o.position = raw.position
  resultTime : SameTime raw.sourceTimestamp o.resultTime
  quality : o.quality = raw.quality
  correlationId : o.correlationId = correlationId
  converted : ∃ rule, W.rules raw.nodeId = some rule ∧
    rule.convert W.pyRepr raw.value = .ok o.hasSimpleResult
  placed : ∃ row rest, W.graph raw.nodeId = row :: rest ∧ o.unit = row.unit ∧
    o.valueType.name = row.valueType ∧ o.madeBySensor = row.sensor ∧
    o.hasFeatureOfInterest = row.feature ∧ o.observedProperty = row.property

/-- The request that is built of such a context. -/
theorem valid_of_built (hraw : raw.Valid T) {ctx : PipelineContext} {req : PublishRequest}
    (htraced : Traced T W raw correlationId ctx) (hreq : ctx.buildPublishRequest = .ok req) :
    req.Valid T ∧ req.value.isFinite = true := by
  obtain ⟨normalized, contextualized, hnormalized, -, hid, rfl⟩ :=
    PipelineContext.buildPublishRequest_eq_ok hreq
  have hraw' : ctx.raw.Valid T := by rwa [htraced.raw_eq]
  exact ⟨⟨hid, hraw'.position, hraw'.sourceTimestamp, hraw'.receivedAt⟩,
    (htraced.normalized normalized hnormalized).isFinite⟩

/-- The observation of the request, as it was read again, is that of the raw signal. -/
theorem provenance_of_built {ctx : PipelineContext} {req req' : PublishRequest}
    (htraced : Traced T W raw correlationId ctx) (hreq : ctx.buildPublishRequest = .ok req)
    (hsame : req.Same req') : Provenance W raw correlationId (buildSosaObservation req') := by
  obtain ⟨normalized, contextualized, hnormalized, hcontextualized, -, rfl⟩ :=
    PipelineContext.buildPublishRequest_eq_ok hreq
  have hconverted := htraced.normalized normalized hnormalized
  obtain ⟨rule, hrule, hvalue, htype, hunit⟩ := hconverted.rule
  obtain ⟨rule', row, rest, hrule', hrows, hunit', htype', hsensor, hfeature, hproperty⟩ :=
    (htraced.contextualized contextualized hcontextualized).row
  obtain rfl := Option.some.inj (hrule.symm.trans hrule')
  have htime := hsame.sourceTimestamp
  rw [htraced.raw_eq] at htime
  constructor
  · rw [buildSosaObservation, hsame.position, htraced.raw_eq]
  · exact htime
  · rw [buildSosaObservation, hsame.quality, hconverted.quality]
  · rw [buildSosaObservation, hsame.correlationId, htraced.correlationId_eq]
  · exact ⟨rule, hrule, by rw [hvalue, buildSosaObservation, hsame.value]⟩
  · refine ⟨row, rest, hrows, ?_, ?_, ?_, ?_, ?_⟩
    · rw [buildSosaObservation, hsame.unit, hunit, hunit']
    · rw [buildSosaObservation, hsame.valueType, htype, htype']
    · rw [buildSosaObservation, hsame.sensorUri, hsensor]
    · rw [buildSosaObservation, hsame.featureUri, hfeature]
    · rw [buildSosaObservation, hsame.propertyUri, hproperty]

/-- Only the publisher hands over packets. -/
theorem handle_packet {subject : String} {envelope : NATSEnvelope} {packet : String × Json}
    (h : (W.handle T I subject envelope).bind Published.packet = some packet) :
    (handlePublishRequest T I W envelope).packet = some packet := by
  unfold Workers.handle at h
  split at h
  · cases h
  · split at h
    · cases h
    · split at h
      · exact h
      · cases h

/-- The worker gets the text of the request. -/
theorem packet_eq {stage : PipelineStage} {fields : List (String × Json)}
    (hid : isValidCorrelationId correlationId = true) :
    W.packet T I ⟨stage, { correlationId, payload := some (.obj fields) }⟩ =
      (W.handle T I stage.subject
        { correlationId, payload := some (Json.obj fields).wire }).bind Published.packet := by
  have htext := NATSEnvelope.parse_text
    (show NATSEnvelope.Valid { correlationId, payload := some (.obj fields) } from
      payload_valid hid)
  simp only [Workers.packet, htext, Option.map_some, Option.map_none]

/-- A packet for a request of the run is the observation of the raw signal. -/
theorem packet_provenance (hT : T.KeepsTimes) (hid : isValidCorrelationId correlationId = true)
    (hraw : raw.Valid T) {request : StageRequest}
    (hmade : MadeOf T (Traced T W raw correlationId) request) {topic : String} {packet : Json}
    (h : W.packet T I request = some (topic, packet)) :
    ∃ o : SOSAObservation, packet = o.toJsonld I ∧ (∀ p ∈ o.position, p.Valid) ∧
      Provenance W raw correlationId o := by
  obtain ⟨ctx, payload, htraced, hpayload, hrequest⟩ := hmade
  rw [hrequest, requestTo, htraced.correlationId_eq] at h
  rcases payload_cases hpayload with ⟨hname, rfl⟩ | ⟨hname, normalized, hsome, rfl⟩ |
    ⟨hname, req, hreq, rfl⟩
  · have hpacket := handle_packet ((packet_eq hid).symm.trans h)
    obtain ⟨req, hparse, -, -⟩ := handlePublishRequest_packet hpacket
    exact absurd hparse publish_refuses_raw
  · have hpacket := handle_packet ((packet_eq hid).symm.trans h)
    obtain ⟨req, hparse, -, -⟩ := handlePublishRequest_packet hpacket
    exact absurd hparse publish_refuses_normalized
  · have hpacket := handle_packet ((packet_eq hid).symm.trans h)
    obtain ⟨req', hparse, -, hobserved⟩ := handlePublishRequest_packet hpacket
    obtain ⟨hvalid, -⟩ := valid_of_built hraw htraced hreq
    have hsame := PublishRequest.same_of_parse_wire hT hvalid hparse
    refine ⟨buildSosaObservation req', hobserved, ?_, provenance_of_built htraced hreq hsame⟩
    rw [buildSosaObservation, hsame.position]
    exact hvalid.position

/-- A publish request to a connected publisher gives a packet. -/
theorem packet_of_publish (hT : T.KeepsTimes) (hid : isValidCorrelationId correlationId = true)
    (hraw : raw.Valid T) {request : StageRequest}
    (hmade : MadeOf T (Traced T W raw correlationId) request)
    (hname : request.stage.name = "publish") (hsubject : request.stage.subject = publishSubject)
    (hmqtt : W.mqtt ≠ none) : ∃ topic packet, W.packet T I request = some (topic, packet) := by
  obtain ⟨ctx, payload, htraced, hpayload, hrequest⟩ := hmade
  rw [hname, payload_publish] at hpayload
  obtain ⟨req, hreq, hdump⟩ := map_eq_ok.1 hpayload
  obtain rfl := Option.some.inj hdump
  obtain ⟨hvalid, hfinite⟩ := valid_of_built hraw htraced hreq
  obtain ⟨req', hparse, -⟩ := PublishRequest.parse_dump hT hvalid
  have hhandle : (W.handle T I request.stage.subject
      { correlationId, payload := some (req.dump T).wire }).bind Published.packet =
        some (req'.unsTopic, (buildSosaObservation req').toJsonld I) := by
    rw [PublishRequest.wire_dump hfinite, hsubject]
    exact handlePublishRequest_connected hparse hmqtt
  refine ⟨req'.unsTopic, (buildSosaObservation req').toJsonld I, ?_⟩
  rw [hrequest, requestTo, htraced.correlationId_eq]
  exact (packet_eq hid).trans hhandle

/-- **Telemetry provenance.**  Every packet of every run is read back as the observation of
the raw signal, and reaching the publisher gives one; and every observation is read back
as it was written. -/
theorem provenance_preserved (hT : T.KeepsTimes) (hI : I.Inverts) :
    (∀ (W : Workers) (cfg : PipelineConfig) (envelope : NATSEnvelope) (raw : RawSignalEnvelope),
      isValidCorrelationId envelope.correlationId = true →
      RawSignalEnvelope.parse T envelope.body = .ok raw →
      ∀ request ∈ (runPipeline T .ok (W.answer T I) cfg envelope).requests,
        (request.stage.name = "publish" → request.stage.subject = publishSubject →
          W.mqtt ≠ none → ∃ topic packet, W.packet T I request = some (topic, packet)) ∧
        ∀ topic packet, W.packet T I request = some (topic, packet) →
          ∀ j, Json.Same j packet → ∃ o, SOSAObservation.fromJsonld I j = .ok o ∧
            Provenance W raw envelope.correlationId o) ∧
    ∀ o : SOSAObservation, (∀ p ∈ o.position, p.Valid) →
      ∀ j, Json.Same j (o.toJsonld I) → SOSAObservation.fromJsonld I j = .ok o := by
  constructor
  · intro W cfg envelope raw hid hparse request hrequest
    have hraw := RawSignalEnvelope.valid_of_parse hparse
    have hmade : MadeOf T (Traced T W raw envelope.correlationId) request := by
      rw [runPipeline, hparse] at hrequest
      have hstart : Traced T W raw envelope.correlationId
          { correlationId := envelope.correlationId, raw } :=
        ⟨rfl, rfl, by simp, by simp⟩
      refine runFrom_madeOf ?_ cfg.stages _ _ hstart (by simp) request hrequest
      intro stage ctx payload reply ctx' hctx hpayload hreply hrecord
      exact traced_step hT hid hraw hctx hpayload hreply hrecord
    constructor
    · exact packet_of_publish hT hid hraw hmade
    · intro topic packet hpacket j hj
      obtain ⟨o, rfl, hposition, hprovenance⟩ := packet_provenance hT hid hraw hmade hpacket
      exact ⟨o, SOSAObservation.fromJsonld_toJsonld hI hposition hj, hprovenance⟩
  · intro o hposition j hj
    exact SOSAObservation.fromJsonld_toJsonld hI hposition hj

end Provenance

/-! One reading of a torque sensor whose rule scales by two. -/

namespace TorqueReading

def noon : AwareDatetime := .ofMicros 1767268800000000

def texts : DatetimeText := .ofTable [(noon, "2026-01-01T12:00:00Z")]

def isoTexts : DatetimeText :=
  (DatetimeText.ofTable [(noon, "2026-01-01T12:00:00+00:00")]).withNaive

def raw : RawSignalEnvelope where
  sourceEndpoint := "opc.tcp://plc:4840"
  nodeId := "Capper.Torque01"
  value := .float (.finite (5 / 4))
  valueType := .double
  quality := .good
  position := some ⟨"opcua", 3, 17, "adapter"⟩
  sourceTimestamp := .aware noon
  serverTimestamp := .aware noon
  receivedAt := .aware noon

def rule : ConversionRule where
  nodeId := raw.nodeId
  valueType := .double
  unit := "Nm"
  scale := some (.finite 2)

def row : OntologyRow where
  sensor := "https://eirvah.uniza/ontology/TorqueSensor01"
  feature := "https://eirvah.uniza/ontology/Capper"
  property := "https://eirvah.uniza/ontology/Torque"
  enterprise := "uniza"
  site := "zilina"
  area := "packaging"
  line := "line1"
  cell := "capping"
  equipment := "capper"
  measurement := "torque"
  unit := "Nm"
  semanticType := "torque"
  valueType := "double"

def workers : Workers where
  rules id := if id = raw.nodeId then some rule else none
  graph id := if id = raw.nodeId then [row] else []
  mqtt := some fun _ _ => .ok ()
  pyRepr s := "'" ++ s ++ "'"

def cfg : PipelineConfig where
  stages := [⟨"convert", convertSubject, .finite 2⟩,
    ⟨"contextualize", contextualizeSubject, .finite 2⟩, ⟨"publish", publishSubject, .finite 2⟩]
  dlqSubject := "uns.dlq.telemetry"

def envelope : NATSEnvelope where
  correlationId := "01ARZ3NDEKTSV4RRFFQ69G5FAV"
  payload := some (raw.dump texts)

def run : PipelineRun := runPipeline texts .ok (workers.answer texts isoTexts) cfg envelope

end TorqueReading

open TorqueReading in
/-- The reading reaches the publisher, and the packet is the observation of it. -/
theorem provenance_preserved_example : ∃ request ∈ run.requests, ∃ topic packet,
    workers.packet texts isoTexts request = some (topic, packet) ∧
      ∀ j, Json.Same j packet → ∃ o, SOSAObservation.fromJsonld isoTexts j = .ok o ∧
        Provenance workers raw envelope.correlationId o := by
  have hT : texts.KeepsTimes :=
    (DatetimeText.ofTable_keepsInstants (by decide +kernel) (by decide +kernel)).keepsTimes
      (DatetimeText.not_isRead_naive _)
  have hI : isoTexts.Inverts :=
    DatetimeText.ofTable_inverts (by decide +kernel) (by decide +kernel) (by decide +kernel)
  have hreached : ∃ request ∈ run.requests, request.stage.name = "publish" ∧
      request.stage.subject = publishSubject := by decide +kernel
  obtain ⟨request, hrequest, hname, hsubject⟩ := hreached
  obtain ⟨hpacket, hread⟩ := (provenance_preserved hT hI).1 workers cfg envelope raw
    (by decide +kernel) (by decide +kernel) request hrequest
  obtain ⟨topic, packet, hsent⟩ := hpacket hname hsubject (by simp [workers])
  exact ⟨request, hrequest, topic, packet, hsent, hread topic packet hsent⟩

end EirvahEdge.Telemetry
