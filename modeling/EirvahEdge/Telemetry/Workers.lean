import EirvahEdge.Contracts.Measurement
import EirvahEdge.Contracts.Sosa
import EirvahEdge.Telemetry.Pipeline

/-!
# The workers of the telemetry pipeline

The converter applies the rule of the node to the raw value; the contextualizer looks the
node up in the ontology and checks unit and type against it; the publisher makes an
observation of the request and hands it to its MQTT client.

What an ok reply of one of them says about its request is stated once for each
(`handleConvertRequest_ok`, `handleContextualizeRequest_ok`).
-/

namespace EirvahEdge.Telemetry

open EirvahEdge.Lib
open EirvahEdge.Contracts
open EirvahEdge.CommandPath (StageReply)

/-! ## Conversion -/

structure ConversionRule where
  nodeId : String
  valueType : SignalValueType
  unit : String
  dropBadQuality : Bool := false
  scale : Option PyFloat := none
  offset : Option PyFloat := none
  precision : Option EngineeringPrecision := none
deriving DecidableEq

section Conversion

variable (pyRepr : String → String)

/-- `float(value)`; a text is read as a number.  `pyRepr` is `repr` of a text. -/
def floatOf : SignalValue → Except PyError PyFloat
  | .str s =>
      match PyFloat.ofText s with
      | some x => .ok x
      | none => .error (valueError ("could not convert string to float: " ++ pyRepr s))
  | v => toFloat v

/-- The value that `apply_conversion` computes. -/
def ConversionRule.convert (rule : ConversionRule) (value : SignalValue) :
    Except PyError SignalValue := do
  let scaled ← match rule.scale with
    | none => .ok value
    | some scale => (floatOf pyRepr value).map fun x => .float (x.mul scale)
  let shifted ← match rule.offset with
    | none => .ok scaled
    | some offset => (floatOf pyRepr scaled).map fun x => .float (x.add offset)
  match rule.precision with
  | none => .ok shifted
  | some precision => (normalizeMeasurement shifted precision).map .float

/-- `apply_conversion`. -/
def applyConversion (raw : RawSignalEnvelope) (rule : ConversionRule) :
    Except PyError (Option NormalizedSignalEnvelope) :=
  if rule.dropBadQuality ∧ raw.quality = .bad then .ok none
  else (rule.convert pyRepr raw.value).map fun value => some {
    position := raw.position
    nodeId := raw.nodeId
    value := value
    valueType := rule.valueType
    unit := rule.unit
    quality := raw.quality
    sourceTimestamp := raw.sourceTimestamp
    receivedAt := raw.receivedAt }

/-- A signal that is kept has the converted value, the rule's type and unit, and the rest
of the raw signal. -/
theorem applyConversion_eq_some {raw : RawSignalEnvelope} {rule : ConversionRule}
    {normalized : NormalizedSignalEnvelope}
    (h : applyConversion pyRepr raw rule = .ok (some normalized)) :
    rule.convert pyRepr raw.value = .ok normalized.value ∧ normalized.nodeId = raw.nodeId ∧
      normalized.valueType = rule.valueType ∧ normalized.unit = rule.unit ∧
      normalized.quality = raw.quality ∧ normalized.position = raw.position ∧
      normalized.sourceTimestamp = raw.sourceTimestamp ∧
      normalized.receivedAt = raw.receivedAt := by
  unfold applyConversion at h
  split at h
  · cases h
  · obtain ⟨value, hvalue, heq⟩ := map_eq_ok.1 h
    obtain rfl := Option.some.inj heq
    exact ⟨hvalue, rfl, rfl, rfl, rfl, rfl, rfl, rfl⟩

end Conversion

/-! ## Replies -/

/-- A reply that names an error. -/
def errorReply (correlationId kind message : String) : NATSEnvelope where
  correlationId := correlationId
  status := .error
  error := some ⟨kind, message⟩

/-- The reply to a request that raised: `type(exc).__name__` and `str(exc)[:200]`. -/
def exceptionReply (correlationId : String) (e : PyError) : NATSEnvelope :=
  errorReply correlationId e.kind.name (String.ofList (e.message.toList.take 200))

/-! ## Ontology -/

/-- A row of the SPARQL result, each term as `str` has it. -/
structure OntologyRow where
  sensor : String
  feature : String
  property : String
  enterprise : String
  site : String
  area : String
  line : String
  cell : String
  equipment : String
  measurement : String
  unit : String
  semanticType : String
  valueType : String
deriving DecidableEq, Repr

/-- `contextualize`, with the rows for the node. -/
def contextualize (normalized : NormalizedSignalEnvelope) :
    List OntologyRow → Except PyError (Option ContextualizeResult)
  | [] => .ok none
  | row :: _ =>
      if normalized.unit ≠ row.unit ∨ normalized.valueType.name ≠ row.valueType then
        .error (valueError "normalized value does not match ontology unit/type")
      else do
        let path ← UNSPath.create row.enterprise row.site row.area row.line row.cell
          row.equipment row.measurement
        return some {
          unsTopic := buildUnsTopic path
          unsPath := path
          semanticType := row.semanticType
          sensorUri := row.sensor
          featureUri := row.feature
          propertyUri := row.property }

/-! ## Publishing -/

/-- `build_sosa_observation`. -/
def buildSosaObservation (req : PublishRequest) : SOSAObservation where
  position := req.position
  valueType := req.valueType
  madeBySensor := req.sensorUri
  hasFeatureOfInterest := req.featureUri
  observedProperty := req.propertyUri
  hasSimpleResult := req.value
  resultTime := req.sourceTimestamp
  unit := req.unit
  quality := req.quality
  correlationId := req.correlationId

/-- What handling a publish request came to: the packet that was handed to the client, and
the reply. -/
structure Published where
  packet : Option (String × Json) := none
  reply : NATSEnvelope
deriving DecidableEq

/-! ## The workers together -/

/-- What the workers were started with: the rules by node id, the result of the query by
node id, the MQTT client, if it is connected, and `repr` of a text. -/
structure Workers where
  rules : String → Option ConversionRule
  graph : String → List OntologyRow
  mqtt : Option (String → Json → Except PyError Unit)
  pyRepr : String → String

section Handlers

variable (T I : DatetimeText) (W : Workers)

/-- `handle_convert_request`. -/
def handleConvertRequest (envelope : NATSEnvelope) : NATSEnvelope :=
  match RawSignalEnvelope.parse T envelope.body with
  | .error e => exceptionReply envelope.correlationId e
  | .ok raw =>
      match W.rules raw.nodeId with
      | none =>
          errorReply envelope.correlationId "UnknownNode"
            ("no conversion rule for node_id " ++ W.pyRepr raw.nodeId)
      | some rule =>
          match applyConversion W.pyRepr raw rule with
          | .error e => exceptionReply envelope.correlationId e
          | .ok none =>
              errorReply envelope.correlationId "DroppedQuality"
                ("dropped bad-quality reading for " ++ W.pyRepr raw.nodeId)
          | .ok (some normalized) =>
              { correlationId := envelope.correlationId, payload := some (normalized.dump T) }

/-- `handle_contextualize_request`. -/
def handleContextualizeRequest (envelope : NATSEnvelope) : NATSEnvelope :=
  match NormalizedSignalEnvelope.parse T envelope.body with
  | .error e => exceptionReply envelope.correlationId e
  | .ok normalized =>
      match contextualize normalized (W.graph normalized.nodeId) with
      | .error e => exceptionReply envelope.correlationId e
      | .ok none =>
          errorReply envelope.correlationId "UnknownNode"
            ("no ontology entry for node_id " ++ W.pyRepr normalized.nodeId)
      | .ok (some result) =>
          { correlationId := envelope.correlationId, payload := some result.dump }

/-- `MqttPublisherWorker._handle`, from the envelope on. -/
def handlePublishRequest (envelope : NATSEnvelope) : Published :=
  match PublishRequest.parse T envelope.body with
  | .error e => { reply := exceptionReply envelope.correlationId e }
  | .ok req =>
      match W.mqtt with
      | none =>
          { reply := exceptionReply envelope.correlationId (runtimeError "MQTT not connected") }
      | some publish =>
          let packet := (buildSosaObservation req).toJsonld I
          let reply := match publish req.unsTopic packet with
            | .error e => exceptionReply envelope.correlationId e
            | .ok () => { correlationId := envelope.correlationId }
          { packet := some (req.unsTopic, packet), reply }

/-- `SUBJECT` of each worker. -/
def convertSubject : String := "uns.work.convert"

def contextualizeSubject : String := "uns.work.contextualize"

def publishSubject : String := "uns.work.publish"

/-- What the worker on a subject does with an envelope; there is none on other subjects. -/
def Workers.handle (subject : String) (envelope : NATSEnvelope) : Option Published :=
  if subject = convertSubject then some { reply := handleConvertRequest T W envelope }
  else if subject = contextualizeSubject then
    some { reply := handleContextualizeRequest T W envelope }
  else if subject = publishSubject then some (handlePublishRequest T I W envelope)
  else none

/-- A request to a stage goes to the worker on its subject as a text, and so does the
reply.  An envelope that cannot be read gets none. -/
def Workers.answer (stage : PipelineStage) (request : NATSEnvelope) : StageReply Json :=
  match NATSEnvelope.parse request.text with
  | .error _ => .timeout
  | .ok envelope =>
      match W.handle T I stage.subject envelope with
      | none => .raised ⟨.other "NoRespondersError", ""⟩
      | some published => .reply published.reply.text

/-- The packet that is handed to the MQTT client for a request to a stage. -/
def Workers.packet (request : StageRequest) : Option (String × Json) :=
  match NATSEnvelope.parse request.envelope.text with
  | .error _ => none
  | .ok envelope => (W.handle T I request.stage.subject envelope).bind Published.packet

variable {T I W}

theorem exceptionReply_status (correlationId : String) (e : PyError) :
    (exceptionReply correlationId e).status = .error := rfl

/-- An ok reply of the converter carries the converted signal. -/
theorem handleConvertRequest_ok {envelope : NATSEnvelope}
    (h : (handleConvertRequest T W envelope).status = .ok) :
    ∃ raw rule normalized, RawSignalEnvelope.parse T envelope.body = .ok raw ∧
      W.rules raw.nodeId = some rule ∧ applyConversion W.pyRepr raw rule = .ok (some normalized) ∧
      handleConvertRequest T W envelope =
        { correlationId := envelope.correlationId, payload := some (normalized.dump T) } := by
  cases hraw : RawSignalEnvelope.parse T envelope.body with
  | error e => simp [handleConvertRequest, hraw, exceptionReply_status] at h
  | ok raw =>
      cases hrule : W.rules raw.nodeId with
      | none => simp [handleConvertRequest, hraw, hrule, errorReply] at h
      | some rule =>
          cases hnormalized : applyConversion W.pyRepr raw rule with
          | error e =>
              simp [handleConvertRequest, hraw, hrule, hnormalized, exceptionReply_status] at h
          | ok normalized? =>
              cases normalized? with
              | none => simp [handleConvertRequest, hraw, hrule, hnormalized, errorReply] at h
              | some normalized =>
                  refine ⟨raw, rule, normalized, rfl, hrule, hnormalized, ?_⟩
                  simp [handleConvertRequest, hraw, hrule, hnormalized]

/-- A place that was found agrees with the first row. -/
theorem contextualize_eq_some {normalized : NormalizedSignalEnvelope} {rows : List OntologyRow}
    {result : ContextualizeResult} (h : contextualize normalized rows = .ok (some result)) :
    ∃ row rest, rows = row :: rest ∧ normalized.unit = row.unit ∧
      normalized.valueType.name = row.valueType ∧ result.sensorUri = row.sensor ∧
      result.featureUri = row.feature ∧ result.propertyUri = row.property := by
  cases rows with
  | nil => cases h
  | cons row rest =>
      rw [contextualize] at h
      obtain ⟨hagree, h⟩ := ite_error_eq_ok.1 h
      rw [not_or, not_not, not_not] at hagree
      obtain ⟨path, -, h⟩ := bind_eq_ok.1 h
      obtain rfl := Option.some.inj (Except.ok.inj h)
      exact ⟨row, rest, rfl, hagree.1, hagree.2, rfl, rfl, rfl⟩

/-- An ok reply of the contextualizer carries the place. -/
theorem handleContextualizeRequest_ok {envelope : NATSEnvelope}
    (h : (handleContextualizeRequest T W envelope).status = .ok) :
    ∃ normalized result, NormalizedSignalEnvelope.parse T envelope.body = .ok normalized ∧
      contextualize normalized (W.graph normalized.nodeId) = .ok (some result) ∧
      handleContextualizeRequest T W envelope =
        { correlationId := envelope.correlationId, payload := some result.dump } := by
  cases hnormalized : NormalizedSignalEnvelope.parse T envelope.body with
  | error e => simp [handleContextualizeRequest, hnormalized, exceptionReply_status] at h
  | ok normalized =>
      cases hresult : contextualize normalized (W.graph normalized.nodeId) with
      | error e =>
          simp [handleContextualizeRequest, hnormalized, hresult, exceptionReply_status] at h
      | ok result? =>
          cases result? with
          | none => simp [handleContextualizeRequest, hnormalized, hresult, errorReply] at h
          | some result =>
              refine ⟨normalized, result, rfl, hresult, ?_⟩
              simp [handleContextualizeRequest, hnormalized, hresult]

/-- A packet is the observation of the request. -/
theorem handlePublishRequest_packet {envelope : NATSEnvelope} {topic : String} {packet : Json}
    (h : (handlePublishRequest T I W envelope).packet = some (topic, packet)) :
    ∃ req, PublishRequest.parse T envelope.body = .ok req ∧ topic = req.unsTopic ∧
      packet = (buildSosaObservation req).toJsonld I := by
  cases hreq : PublishRequest.parse T envelope.body with
  | error e => simp [handlePublishRequest, hreq] at h
  | ok req =>
      cases hmqtt : W.mqtt with
      | none => simp [handlePublishRequest, hreq, hmqtt] at h
      | some publish =>
          simp only [handlePublishRequest, hreq, hmqtt, Option.some.injEq, Prod.mk.injEq] at h
          exact ⟨req, rfl, h.1.symm, h.2.symm⟩

/-- With a connected client there is one. -/
theorem handlePublishRequest_connected {envelope : NATSEnvelope} {req : PublishRequest}
    (hreq : PublishRequest.parse T envelope.body = .ok req) (hmqtt : W.mqtt ≠ none) :
    (handlePublishRequest T I W envelope).packet =
      some (req.unsTopic, (buildSosaObservation req).toJsonld I) := by
  cases hpublish : W.mqtt with
  | none => exact absurd hpublish hmqtt
  | some publish => simp [handlePublishRequest, hreq, hpublish]

end Handlers

end EirvahEdge.Telemetry
