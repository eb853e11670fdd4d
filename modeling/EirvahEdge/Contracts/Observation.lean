import EirvahEdge.Contracts.Inspection
import EirvahEdge.Contracts.Sosa

/-!
# Observations at their consumer

`validate_observation` holds a received observation against what the ontology declares for
its topic.  The binding is found by topic; names, unit and type have to be the declared
ones, and the value has to have the declared type as a Python value: a number where a
double is declared, but nothing else where anything else is.

`admits_of_validateObservation` is the last of these checks, which the converter has to
prepare for two services earlier.
-/

namespace EirvahEdge.Contracts

open EirvahEdge.Lib

/-- `type(value) in types[value_type]`. -/
def SignalValueType.admits : SignalValueType → SignalValue → Bool
  | .double, .float _ | .double, .int _ => true
  | .int64, .int _ => true
  | .bool, .bool _ => true
  | .string, .str _ => true
  | _, _ => false

inductive ObservationFlow where
  | event
  | industrialState
deriving DecidableEq, Repr

/-- A row of `load_bindings`. -/
structure ObservationBinding where
  node : String
  sensor : String
  feature : String
  property : String
  unit : String
  valueType : String
  flow : ObservationFlow
deriving DecidableEq, Repr

/-- The keys of `types`. -/
def signalValueType? : String → Option SignalValueType
  | "double" => some .double
  | "int64" => some .int64
  | "bool" => some .bool
  | "string" => some .string
  | _ => none

/-- A scalar of a packet as a Python value. -/
def Json.signalValue? : Json → Option SignalValue
  | .float x => some (.float x)
  | .int n => some (.int n)
  | .bool b => some (.bool b)
  | .str s => some (.str s)
  | _ => none

/-- `type(value) in (int, float) and not math.isfinite(value)`: an integer that is no double
raises. -/
def nonFinite : SignalValue → Except PyError Bool
  | .float x => .ok !x.isFinite
  | .int n =>
      match PyFloat.ofInt n with
      | some _ => .ok false
      | none => .error ⟨.overflowError, "int too large to convert to float"⟩
  | .bool _ | .str _ => .ok false

/-- The value of an observation has the declared type and is finite. -/
def checkValue (valueType : String) (value : Json) : Except PyError SignalValue :=
  match signalValueType? valueType, value.signalValue? with
  | none, _ => .error (Json.keyError valueType)
  | some _, none => .error (valueError "observation value type mismatch")
  | some t, some v =>
      if !t.admits v then .error (valueError "observation value type mismatch")
      else do
        if ← nonFinite v then .error (valueError "observation value type mismatch")
        else return v

section Validation

variable (I : DatetimeText) (readInspection : String → Except PyError BottleInspection)
  (bindings : String → Option ObservationBinding)

/-- The names, the unit and the type are the declared ones. -/
def ObservationBinding.agrees (binding : ObservationBinding) (o : SOSAObservation) : Bool :=
  o.madeBySensor == binding.sensor && o.hasFeatureOfInterest == binding.feature &&
    o.observedProperty == binding.property && o.unit == binding.unit &&
    o.valueType.name == binding.valueType

/-- An event carries its inspection as a text, made at the time of the observation. -/
def checkEvent (binding : ObservationBinding) (value : SignalValue) (resultTime : AwareDatetime) :
    Except PyError Unit :=
  match binding.flow, value with
  | .industrialState, _ => .ok ()
  | .event, .str s => do
      let event ← readInspection s
      if event.inspectedAt.instantMicros = resultTime.instantMicros then .ok ()
      else .error (valueError "inspection time binding mismatch")
  | .event, _ => .error (Json.validationError "BottleInspection")

/-- `bindings[topic]`. -/
def bindingOf (topic : String) : Except PyError ObservationBinding :=
  match bindings topic with
  | some binding => .ok binding
  | none => .error (Json.keyError topic)

/-- `validate_observation`; `readInspection` is `BottleInspection.model_validate_json`. -/
def validateObservation (topic : String) (packet : List (String × Json)) :
    Except PyError SOSAObservation := do
  let binding ← bindingOf bindings topic
  if Json.member packet "@type" ≠ some (.str "sosa:Observation") then
    .error (valueError "wrong observation kind")
  else
    let observation ← SOSAObservation.fromJsonld I (.obj packet)
    match observation.resultTime.aware? with
    | none => .error (valueError "invalid observation time or identity")
    | some resultTime =>
        if !isValidCorrelationId observation.correlationId then
          .error (valueError "invalid observation time or identity")
        else if !binding.agrees observation then
          .error (valueError "observation namespace or contract meaning mismatch")
        else
          let packed ← Json.item packet "sosa:hasSimpleResult"
          let value ← checkValue binding.valueType packed
          checkEvent readInspection binding value resultTime
          return observation

end Validation

/-! ## What a consumer may rely on -/

theorem signalValueType?_eq_some {s : String} {t : SignalValueType} :
    signalValueType? s = some t ↔ s = t.name := by
  constructor
  · intro h
    unfold signalValueType? at h
    split at h <;> first | (cases h; rfl) | cases h
  · rintro rfl
    cases t <;> rfl

theorem Json.signalValue?_ofSignalValue (v : SignalValue) :
    (ofSignalValue v).signalValue? = some v := by
  cases v <;> rfl

/-- A value that passed is in the declared type. -/
theorem admits_of_checkValue {valueType : String} {value : Json} {v : SignalValue}
    (h : checkValue valueType value = .ok v) :
    ∃ t : SignalValueType, valueType = t.name ∧ value.signalValue? = some v ∧
      t.admits v = true := by
  unfold checkValue at h
  split at h
  · cases h
  · cases h
  · next t w ht hw =>
      split at h
      · cases h
      · next hadmits =>
          obtain ⟨b, -, h⟩ := bind_eq_ok.1 h
          cases b with
          | true => cases h
          | false =>
              cases h
              exact ⟨t, signalValueType?_eq_some.1 ht, hw, by simpa using hadmits⟩

/-- **Consumers see declared types only.**  The value of an accepted packet has the type
that the observation in it declares. -/
theorem admits_of_validateObservation {I : DatetimeText}
    {readInspection : String → Except PyError BottleInspection}
    {bindings : String → Option ObservationBinding} {topic : String}
    {packet : List (String × Json)} {o : SOSAObservation}
    (h : validateObservation I readInspection bindings topic packet = .ok o) :
    SOSAObservation.fromJsonld I (.obj packet) = .ok o ∧
      ∃ packed v, Json.member packet "sosa:hasSimpleResult" = some packed ∧
        packed.signalValue? = some v ∧ o.valueType.admits v = true := by
  unfold validateObservation at h
  obtain ⟨binding, -, h⟩ := bind_eq_ok.1 h
  obtain ⟨-, h⟩ := ite_error_eq_ok.1 h
  obtain ⟨observation, hread, h⟩ := bind_eq_ok.1 h
  split at h
  · cases h
  · obtain ⟨-, h⟩ := ite_error_eq_ok.1 h
    obtain ⟨hagrees, h⟩ := ite_error_eq_ok.1 h
    obtain ⟨packed, hpacked, h⟩ := bind_eq_ok.1 h
    obtain ⟨v, hv, h⟩ := bind_eq_ok.1 h
    obtain ⟨-, -, h⟩ := bind_eq_ok.1 h
    cases h
    obtain ⟨t, ht, hvalue, hadmits⟩ := admits_of_checkValue hv
    have hname : o.valueType.name = binding.valueType := by
      simp only [ObservationBinding.agrees, Bool.not_eq_true, Bool.not_eq_false',
        Bool.and_eq_true, beq_iff_eq] at hagrees
      exact hagrees.2
    rw [SignalValueType.name_injective (hname.trans ht)]
    exact ⟨hread, packed, v, Json.item_eq_ok.1 hpacked, hvalue, hadmits⟩

end EirvahEdge.Contracts
