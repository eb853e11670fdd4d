import EirvahEdge.Contracts.Observation
import EirvahEdge.Telemetry.Workers

/-!
# The type of a converted value

The converter declares the type of its rule, and its consumer, two services later, refuses
an observation whose value does not have the declared type.  The rule is not applied to the
type, however: scaling, shifting and rounding make a double of every value, and without
them the value goes through as the device reported it.

So the declared type is kept by rules for doubles that compute, and by the other rules for
the raw values that are in it already (`converted_type_iff`).  A value that is not in its
declared type reaches the consumer and is refused there (`validateObservation_refuses`).
-/

namespace EirvahEdge.Telemetry

open EirvahEdge.Lib
open EirvahEdge.Contracts

/-- The rule has a step that computes with the value. -/
def ConversionRule.computes (rule : ConversionRule) : Bool :=
  rule.scale.isSome || rule.offset.isSome || rule.precision.isSome

section Conversion

variable {pyRepr : String → String} {rule : ConversionRule} {value converted : SignalValue}

/-- What the optional steps before rounding make of a value. -/
def ConversionRule.scaled (rule : ConversionRule) (pyRepr : String → String)
    (value : SignalValue) : Except PyError SignalValue :=
  match rule.scale with
  | none => .ok value
  | some scale => (floatOf pyRepr value).map fun x => .float (x.mul scale)

def ConversionRule.shifted (rule : ConversionRule) (pyRepr : String → String)
    (value : SignalValue) : Except PyError SignalValue :=
  match rule.offset with
  | none => .ok value
  | some offset => (floatOf pyRepr value).map fun x => .float (x.add offset)

/-- A conversion goes through the three steps. -/
theorem convert_eq_ok :
    rule.convert pyRepr value = .ok converted ↔
      ∃ v w, rule.scaled pyRepr value = .ok v ∧ rule.shifted pyRepr v = .ok w ∧
        match rule.precision with
        | none => w = converted
        | some precision => (normalizeMeasurement w precision).map .float = .ok converted := by
  unfold ConversionRule.convert ConversionRule.scaled ConversionRule.shifted
  cases rule.precision with
  | some precision => cases rule.scale <;> cases rule.offset <;> simp [bind_eq_ok]
  | none => cases rule.scale <;> cases rule.offset <;> simp [bind_eq_ok]

/-- What a step computes is a double. -/
theorem float_of_map {x : Except PyError PyFloat} {f : PyFloat → PyFloat}
    (h : x.map (fun y => SignalValue.float (f y)) = .ok converted) :
    ∃ y, converted = .float y := by
  obtain ⟨y, -, rfl⟩ := map_eq_ok.1 h
  exact ⟨f y, rfl⟩

theorem float_of_scaled {v : SignalValue} (h : rule.scaled pyRepr value = .ok v)
    (hrule : rule.scale.isSome = true) : ∃ y, v = .float y := by
  obtain ⟨scale, hscale⟩ := Option.isSome_iff_exists.1 hrule
  simp only [ConversionRule.scaled, hscale] at h
  exact float_of_map h

/-- A shifted value is a double as soon as the value was one or is shifted at all. -/
theorem float_of_shifted {v : SignalValue} (h : rule.shifted pyRepr value = .ok v)
    (hrule : rule.offset.isSome = true ∨ ∃ y, value = .float y) : ∃ y, v = .float y := by
  unfold ConversionRule.shifted at h
  split at h
  · next hoffset =>
      cases h
      simpa [hoffset] using hrule
  · exact float_of_map h

/-- A rule with such a step makes a double. -/
theorem convert_of_computes (hrule : rule.computes = true)
    (h : rule.convert pyRepr value = .ok converted) : ∃ y, converted = .float y := by
  obtain ⟨v, w, hscaled, hshifted, h⟩ := convert_eq_ok.1 h
  split at h
  · next hprecision =>
      subst h
      apply float_of_shifted hshifted
      simp only [ConversionRule.computes, hprecision, Option.isSome_none, Bool.or_false,
        Bool.or_eq_true] at hrule
      rcases hrule with hscale | hoffset
      · exact Or.inr (float_of_scaled hscaled hscale)
      · exact Or.inl hoffset
  · exact float_of_map (f := id) h

/-- A rule without one passes the value through. -/
theorem convert_of_not_computes (hrule : rule.computes = false)
    (h : rule.convert pyRepr value = .ok converted) : converted = value := by
  simp only [ConversionRule.computes, Bool.or_eq_false_iff, Option.isSome_eq_false_iff,
    Option.isNone_iff_eq_none] at hrule
  obtain ⟨⟨hscale, hoffset⟩, hprecision⟩ := hrule
  obtain ⟨v, w, hscaled, hshifted, h⟩ := convert_eq_ok.1 h
  simp only [ConversionRule.scaled, hscale, Except.ok.injEq] at hscaled
  simp only [ConversionRule.shifted, hoffset, Except.ok.injEq] at hshifted
  simp only [hprecision] at h
  rw [← h, ← hshifted, ← hscaled]

theorem admits_float {t : SignalValueType} {x : PyFloat} :
    t.admits (.float x) = true ↔ t = .double := by
  cases t <;> simp [SignalValueType.admits]

/-- **When the declared type is kept.**  A rule that computes keeps it if and only if it
declares doubles, another one if and only if the raw value has the type already. -/
theorem converted_type_iff {raw : RawSignalEnvelope} {normalized : NormalizedSignalEnvelope}
    (h : applyConversion pyRepr raw rule = .ok (some normalized)) :
    normalized.valueType.admits normalized.value = true ↔
      if rule.computes = true then rule.valueType = .double
      else rule.valueType.admits raw.value = true := by
  obtain ⟨hvalue, -, htype, -⟩ := applyConversion_eq_some pyRepr h
  rw [htype]
  split_ifs with hrule
  · obtain ⟨y, hy⟩ := convert_of_computes hrule hvalue
    rw [hy, admits_float]
  · rw [Bool.not_eq_true] at hrule
    rw [convert_of_not_computes hrule hvalue]

end Conversion

namespace MotorSpeed

/-! The speed of the capper motor, reported in half revolutions. -/

def raw : RawSignalEnvelope where
  sourceEndpoint := "s7://s7-simulator:1102"
  nodeId := "Capper.Motor01.Rpm"
  value := .int 120
  valueType := .int64
  quality := .good
  position := none
  sourceTimestamp := .aware (.ofMicros 0)
  serverTimestamp := .aware (.ofMicros 0)
  receivedAt := .aware (.ofMicros 0)

def rule : ConversionRule where
  nodeId := "Capper.Motor01.Rpm"
  valueType := .int64
  unit := "rpm"
  scale := some (.finite (1 / 2))

def normalized : NormalizedSignalEnvelope where
  position := none
  nodeId := "Capper.Motor01.Rpm"
  value := .float (.finite 60)
  valueType := .int64
  unit := "rpm"
  quality := .good
  sourceTimestamp := .aware (.ofMicros 0)
  receivedAt := .aware (.ofMicros 0)

theorem converted : applyConversion id raw rule = .ok (some normalized) := by decide +kernel

end MotorSpeed

/-- Scaled, a speed that is declared an integer is a double. -/
theorem converted_speed : applyConversion id MotorSpeed.raw MotorSpeed.rule =
      .ok (some MotorSpeed.normalized) ∧
    MotorSpeed.raw.valueType.admits MotorSpeed.raw.value = true ∧
    MotorSpeed.normalized.valueType.admits MotorSpeed.normalized.value = false :=
  ⟨MotorSpeed.converted, by decide, by decide⟩

/-- Exactly because the rule does not declare doubles. -/
theorem converted_speed_iff :
    MotorSpeed.normalized.valueType.admits MotorSpeed.normalized.value = true ↔
      MotorSpeed.rule.valueType = .double :=
  converted_type_iff MotorSpeed.converted

/-! ## The consumer -/

/-- An observation whose value is not in its declared type is refused. -/
theorem validateObservation_refuses {I : DatetimeText} (hI : I.Inverts)
    {readInspection : String → Except PyError BottleInspection}
    {bindings : String → Option ObservationBinding} {topic : String} {o o' : SOSAObservation}
    (hposition : ∀ p ∈ o.position, p.Valid)
    (hvalue : o.valueType.admits o.hasSimpleResult = false) :
    validateObservation I readInspection bindings topic (o.jsonldFields I) ≠ .ok o' := by
  intro h
  obtain ⟨hread, packed, v, hpacked, hv, hadmits⟩ := admits_of_validateObservation h
  have hsame := SOSAObservation.fromJsonld_toJsonld hI hposition (Json.Same.refl (o.toJsonld I))
  obtain rfl := Except.ok.inj (hsame.symm.trans hread)
  have hmember : Json.member (o.jsonldFields I) "sosa:hasSimpleResult" =
      some (.ofSignalValue o.hasSimpleResult) :=
    Json.member_of_mem o.jsonldFields_nodup (by simp [SOSAObservation.jsonldFields])
  rw [hmember] at hpacked
  obtain rfl := Option.some.inj hpacked
  rw [Json.signalValue?_ofSignalValue] at hv
  obtain rfl := Option.some.inj hv
  rw [hvalue] at hadmits
  cases hadmits

end EirvahEdge.Telemetry
