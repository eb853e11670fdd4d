import EirvahEdge.Contracts.Signals
import EirvahEdge.Contracts.Uns
import EirvahEdge.Contracts.Wire

/-!
# Signals on their way to a topic

The models that the telemetry pipeline passes on: the raw signal, the normalized
one, the place in the hierarchy it was given, and the request to publish it.  Each
has its writer, `dumpFields`, and its reader, `parse`.

A model that was read is written so that it is read again as the same model, its times as
the same times (`parse_dump`).  In the text of one with an infinite value or a NaN the value
is `null`, and that is refused; so what is read from a text is what was written
(`same_of_parse_wire`).
-/

namespace EirvahEdge.Contracts

open EirvahEdge.Lib

/-! ## Times -/

/-- One instant, or one local time without an offset. -/
def SameTime : Datetime → Datetime → Prop
  | .aware d, .aware e => d.instantMicros = e.instantMicros
  | .naive d, .naive e => d = e
  | _, _ => False

theorem SameTime.refl (d : Datetime) : SameTime d d := by
  cases d <;> rfl

theorem SameTime.trans {c d e : Datetime} (h : SameTime c d) (h' : SameTime d e) :
    SameTime c e := by
  cases c with
  | aware c =>
      cases d with
      | naive d => cases h
      | aware d =>
          cases e with
          | naive e => cases h'
          | aware e => exact Eq.trans h h'
  | naive c =>
      cases d with
      | aware d => cases h
      | naive d =>
          cases e with
          | aware e => cases h'
          | naive e => exact Eq.trans h h'

/-- The reader returns this time for some value. -/
def DatetimeText.IsRead (T : DatetimeText) (d : Datetime) : Prop := ∃ j, T.parse j = .ok d

/-- A time that was read is written so that it is read as the same time. -/
def DatetimeText.KeepsTimes (T : DatetimeText) : Prop :=
  ∀ d, T.IsRead d → ∃ e, T.parse (.str (T.isoformat d)) = .ok e ∧ SameTime d e

/-- Without times that have no offset, instants are enough. -/
theorem DatetimeText.KeepsInstants.keepsTimes {T : DatetimeText} (hT : T.KeepsInstants)
    (hnaive : ∀ m, ¬T.IsRead (.naive m)) : T.KeepsTimes := by
  intro d hd
  cases d with
  | aware d =>
      obtain ⟨e, he, hinstant⟩ := hT d
      exact ⟨.aware e, he, hinstant.symm⟩
  | naive m => exact absurd hd (hnaive m)

theorem DatetimeText.not_isRead_naive (table : List (AwareDatetime × String)) (m : ℤ) :
    ¬(DatetimeText.ofTable table).IsRead (.naive m) := by
  rintro ⟨j, hj⟩
  unfold DatetimeText.ofTable DatetimeText.unspelled at hj
  dsimp only at hj
  split at hj
  · split at hj
    · cases hj
    · split at hj
      · cases hj
      · cases hj
  · cases hj

theorem isRead_of_readDatetime {T : DatetimeText} {fields : List (String × Json)} {name : String}
    {d : Datetime} (h : readDatetime T fields name = .ok d) : T.IsRead d := by
  unfold readDatetime at h
  split at h
  · cases h
  · next j hj => exact ⟨j, h⟩

theorem readDatetime_of_member {T : DatetimeText} (hT : T.KeepsTimes)
    {fields : List (String × Json)} {name : String} {d : Datetime} (hd : T.IsRead d)
    (h : Json.member fields name = some (.str (T.isoformat d))) :
    ∃ e, readDatetime T fields name = .ok e ∧ SameTime d e := by
  obtain ⟨e, he, hsame⟩ := hT d hd
  exact ⟨e, by rw [readDatetime, h]; exact he, hsame⟩

/-! ## Fields -/

/-- `position: SourcePosition | None = None`. -/
def readSourcePosition (fields : List (String × Json)) (name : String) :
    Except PyError SourcePosition :=
  match Json.member fields name with
  | some j => SourcePosition.parse j
  | none => .error (Json.validationError name)

/-- `model_dump(mode="json")` of an optional position. -/
def dumpPosition (position : Option SourcePosition) : Json :=
  (position.map SourcePosition.dump).getD .null

/-- A field of type `UNSPath`. -/
def readUnsPath (fields : List (String × Json)) (name : String) : Except PyError UNSPath :=
  match Json.member fields name with
  | some j => UNSPath.parse j
  | none => .error (Json.validationError name)

/-- A float that JSON can hold, or no float. -/
def SignalValue.isFinite (v : SignalValue) : Bool := (Json.ofSignalValue v).allFinite

/-- A position is read as it was written, in whatever order. -/
theorem SourcePosition.parse_of_same {p : SourcePosition} (h : p.Valid) {j : Json}
    (hj : Json.Same j p.dump) : parse j = .ok p := by
  obtain ⟨fs, rfl, hperm⟩ := Json.same_obj hj
  have hnodup : (p.dumpFields.map Prod.fst).Nodup := by simp [dumpFields]
  have readInt {name : String} {n : ℤ} (hmem : (name, Json.int n) ∈ p.dumpFields) :
      Json.member fs name = some (.int n) := by
    obtain ⟨w, hw, hsame⟩ := Json.member_of_same hperm hnodup hmem
    rw [hw, Json.same_int.1 hsame]
  have hnames : Json.forbidExtra fs ["producer", "epoch", "sequence", "boundary"] = .ok () := by
    rw [Json.forbidExtra_eq_ok]
    exact fun k hk => (Json.names_perm hperm).mem_iff.1 hk
  have hproducer : Json.member fs "producer" = some (.str p.producer) :=
    Json.member_str_of_same hperm hnodup (by simp [dumpFields])
  have hepoch : Json.member fs "epoch" = some (.int p.epoch) := readInt (by simp [dumpFields])
  have hsequence : Json.member fs "sequence" = some (.int p.sequence) :=
    readInt (by simp [dumpFields])
  have hboundary : Json.member fs "boundary" = some (.str p.boundary) :=
    Json.member_str_of_same hperm hnodup (by simp [dumpFields])
  obtain ⟨producer, epoch, sequence, boundary⟩ := p
  obtain rfl : boundary = "adapter" := h.boundary
  simp [parse, hnames, Json.readStrWith_eq_ok.2 ⟨hproducer, h.producer⟩, readPositive, hepoch,
    h.epoch, hsequence, h.sequence, readBoundary, hboundary, bind, Except.bind, pure, Except.pure]

theorem SourcePosition.parse_dump {p : SourcePosition} (h : p.Valid) : parse p.dump = .ok p :=
  parse_of_same h (Json.Same.refl _)

/-- What was read satisfies the constraints. -/
theorem SourcePosition.valid_of_parse {j : Json} {p : SourcePosition} (h : parse j = .ok p) :
    p.Valid := by
  unfold parse at h
  split at h
  · next fields =>
      obtain ⟨-, -, h⟩ := bind_eq_ok.1 h
      obtain ⟨producer, hproducer, h⟩ := bind_eq_ok.1 h
      obtain ⟨epoch, hepoch, h⟩ := bind_eq_ok.1 h
      obtain ⟨sequence, hsequence, h⟩ := bind_eq_ok.1 h
      obtain ⟨boundary, hboundary, h⟩ := bind_eq_ok.1 h
      obtain rfl := Except.ok.inj h
      have hpositive : ∀ {name : String} {n : ℤ}, readPositive fields name = .ok n → 1 ≤ n := by
        intro name n hn
        unfold readPositive at hn
        split at hn
        · split at hn
          · next hle =>
              obtain rfl := Except.ok.inj hn
              exact hle
          · cases hn
        · cases hn
      have hadapter : boundary = "adapter" := by
        unfold readBoundary at hboundary
        split at hboundary
        · exact (Except.ok.inj hboundary).symm
        · exact (Except.ok.inj hboundary).symm
        · cases hboundary
      exact ⟨(Json.readStrWith_eq_ok.1 hproducer).2, hpositive hepoch, hpositive hsequence,
        hadapter⟩
  · cases h

/-- An optional position is read as it was written. -/
theorem readOptional_position {fields : List (String × Json)} {position : Option SourcePosition}
    (hvalid : ∀ p ∈ position, p.Valid)
    (h : Json.member fields "position" = some (dumpPosition position)) :
    Json.readOptional readSourcePosition fields "position" = .ok position := by
  cases position with
  | none => simp [Json.readOptional, h, dumpPosition]
  | some p =>
      have hparse := SourcePosition.parse_dump (hvalid p rfl)
      have hm : Json.member fields "position" = some p.dump := h
      rw [Json.readOptional, hm]
      simp only [SourcePosition.dump, readSourcePosition, hm]
      rw [show SourcePosition.parse (.obj p.dumpFields) = .ok p from hparse]
      rfl

theorem valid_of_readOptional {fields : List (String × Json)} {position : Option SourcePosition}
    (h : Json.readOptional readSourcePosition fields "position" = .ok position) :
    ∀ p ∈ position, p.Valid := by
  intro p hp
  unfold Json.readOptional at h
  split at h
  · obtain rfl := Except.ok.inj h
    cases hp
  · obtain rfl := Except.ok.inj h
    cases hp
  · obtain ⟨q, hq, heq⟩ := map_eq_ok.1 h
    rw [← heq] at hp
    obtain rfl := Option.some.inj hp
    unfold readSourcePosition at hq
    split at hq
    · exact SourcePosition.valid_of_parse hq
    · cases hq

theorem readQuality_name {fields : List (String × Json)} {name : String} {q : Quality}
    (h : Json.member fields name = some (.str q.name)) : readQuality fields name = .ok q := by
  cases q <;> simp [readQuality, h, Quality.name]

/-- In a text an infinite value or a NaN is `null`, and that is no signal value. -/
theorem isFinite_of_wire {fields : List (String × Json)} {name : String} {v w : SignalValue}
    (h : Json.member fields name = some (Json.ofSignalValue v).wire)
    (hread : Json.readSignalValue fields name = .ok w) : v.isFinite = true := by
  cases v with
  | float x =>
      by_cases hfinite : x.isFinite = true
      · exact hfinite
      · have hwire : (Json.float x).wire = .null := by rw [Json.wire, if_neg hfinite]
        rw [Json.ofSignalValue, hwire] at h
        rw [Json.readSignalValue, h] at hread
        cases hread
  | int | bool | str => rfl

theorem allFinite_dumpPosition (position : Option SourcePosition) :
    (dumpPosition position).allFinite = true := by
  cases position <;> rfl

/-! ## Raw signals -/

/-- `RawSignalEnvelope`. -/
structure RawSignalEnvelope where
  sourceEndpoint : String
  nodeId : String
  value : SignalValue
  valueType : SignalValueType
  quality : Quality
  position : Option SourcePosition
  sourceTimestamp : Datetime
  serverTimestamp : Datetime
  receivedAt : Datetime
deriving DecidableEq, Repr

section Models

variable (T : DatetimeText)

namespace RawSignalEnvelope

/-- `model_dump(mode="json")`. -/
def dumpFields (raw : RawSignalEnvelope) : List (String × Json) :=
  [("schema_version", .str "1.0"), ("source_endpoint", .str raw.sourceEndpoint),
    ("node_id", .str raw.nodeId), ("value", .ofSignalValue raw.value),
    ("value_type", .str raw.valueType.name), ("quality", .str raw.quality.name),
    ("position", dumpPosition raw.position),
    ("source_timestamp", .str (T.isoformat raw.sourceTimestamp)),
    ("server_timestamp", .str (T.isoformat raw.serverTimestamp)),
    ("received_at", .str (T.isoformat raw.receivedAt))]

def dump (raw : RawSignalEnvelope) : Json := .obj (raw.dumpFields T)

/-- `RawSignalEnvelope.model_validate`. -/
def parse : Json → Except PyError RawSignalEnvelope
  | .obj fields => do
      Json.forbidExtra fields
        ["schema_version", "source_endpoint", "node_id", "value", "value_type", "quality",
          "position", "source_timestamp", "server_timestamp", "received_at"]
      Json.readVersion fields
      let sourceEndpoint ← Json.readStr fields "source_endpoint"
      let nodeId ← Json.readStr fields "node_id"
      let value ← Json.readSignalValue fields "value"
      let valueType ← Json.readSignalValueType fields "value_type"
      let quality ← readQuality fields "quality"
      let position ← Json.readOptional readSourcePosition fields "position"
      let sourceTimestamp ← readDatetime T fields "source_timestamp"
      let serverTimestamp ← readDatetime T fields "server_timestamp"
      let receivedAt ← readDatetime T fields "received_at"
      return ⟨sourceEndpoint, nodeId, value, valueType, quality, position, sourceTimestamp,
        serverTimestamp, receivedAt⟩
  | _ => .error (Json.validationError "")

variable {T} {raw raw' : RawSignalEnvelope}

/-- What the types of the fields promise of a signal that was read. -/
structure Valid (T : DatetimeText) (raw : RawSignalEnvelope) : Prop where
  position : ∀ p ∈ raw.position, p.Valid
  sourceTimestamp : T.IsRead raw.sourceTimestamp
  serverTimestamp : T.IsRead raw.serverTimestamp
  receivedAt : T.IsRead raw.receivedAt

/-- The same signal, at the same times. -/
structure Same (raw raw' : RawSignalEnvelope) : Prop where
  sourceEndpoint : raw'.sourceEndpoint = raw.sourceEndpoint
  nodeId : raw'.nodeId = raw.nodeId
  value : raw'.value = raw.value
  valueType : raw'.valueType = raw.valueType
  quality : raw'.quality = raw.quality
  position : raw'.position = raw.position
  sourceTimestamp : SameTime raw.sourceTimestamp raw'.sourceTimestamp
  serverTimestamp : SameTime raw.serverTimestamp raw'.serverTimestamp
  receivedAt : SameTime raw.receivedAt raw'.receivedAt

/-- A member that the model does not declare is refused. -/
theorem names_of_parse {fields : List (String × Json)} (h : parse T (.obj fields) = .ok raw) :
    ∀ k ∈ fields.map Prod.fst, k ∈
      ["schema_version", "source_endpoint", "node_id", "value", "value_type", "quality",
        "position", "source_timestamp", "server_timestamp", "received_at"] := by
  rw [parse] at h
  obtain ⟨_, hnames, -⟩ := bind_eq_ok.1 h
  exact Json.forbidExtra_eq_ok.1 hnames

theorem valid_of_parse {j : Json} (h : parse T j = .ok raw) : raw.Valid T := by
  unfold parse at h
  split at h
  · next fields =>
      obtain ⟨-, -, h⟩ := bind_eq_ok.1 h
      obtain ⟨-, -, h⟩ := bind_eq_ok.1 h
      obtain ⟨sourceEndpoint, -, h⟩ := bind_eq_ok.1 h
      obtain ⟨nodeId, -, h⟩ := bind_eq_ok.1 h
      obtain ⟨value, -, h⟩ := bind_eq_ok.1 h
      obtain ⟨valueType, -, h⟩ := bind_eq_ok.1 h
      obtain ⟨quality, -, h⟩ := bind_eq_ok.1 h
      obtain ⟨position, hposition, h⟩ := bind_eq_ok.1 h
      obtain ⟨sourceTimestamp, hsource, h⟩ := bind_eq_ok.1 h
      obtain ⟨serverTimestamp, hserver, h⟩ := bind_eq_ok.1 h
      obtain ⟨receivedAt, hreceived, h⟩ := bind_eq_ok.1 h
      obtain rfl := Except.ok.inj h
      exact ⟨valid_of_readOptional hposition, isRead_of_readDatetime hsource,
        isRead_of_readDatetime hserver, isRead_of_readDatetime hreceived⟩
  · cases h

/-- A signal is read as it was written. -/
theorem parse_dump (hT : T.KeepsTimes) (hraw : raw.Valid T) :
    ∃ raw', parse T (raw.dump T) = .ok raw' ∧ raw.Same raw' := by
  obtain ⟨source, hsource, hsame⟩ := readDatetime_of_member hT hraw.sourceTimestamp
    (show Json.member (raw.dumpFields T) "source_timestamp" = _ from rfl)
  obtain ⟨server, hserver, hsame'⟩ := readDatetime_of_member hT hraw.serverTimestamp
    (show Json.member (raw.dumpFields T) "server_timestamp" = _ from rfl)
  obtain ⟨received, hreceived, hsame''⟩ := readDatetime_of_member hT hraw.receivedAt
    (show Json.member (raw.dumpFields T) "received_at" = _ from rfl)
  have hnames : Json.forbidExtra (raw.dumpFields T)
      ["schema_version", "source_endpoint", "node_id", "value", "value_type", "quality",
        "position", "source_timestamp", "server_timestamp", "received_at"] = .ok () :=
    Json.forbidExtra_eq_ok.2 fun k hk => hk
  have hversion : Json.readVersion (raw.dumpFields T) = .ok () := rfl
  have hendpoint : Json.readStr (raw.dumpFields T) "source_endpoint" = .ok raw.sourceEndpoint := rfl
  have hnode : Json.readStr (raw.dumpFields T) "node_id" = .ok raw.nodeId := rfl
  have hvalue : Json.readSignalValue (raw.dumpFields T) "value" = .ok raw.value :=
    Json.readSignalValue_ofSignalValue rfl
  have htype : Json.readSignalValueType (raw.dumpFields T) "value_type" = .ok raw.valueType :=
    Json.readSignalValueType_name rfl
  have hquality : readQuality (raw.dumpFields T) "quality" = .ok raw.quality :=
    readQuality_name rfl
  have hposition : Json.readOptional readSourcePosition (raw.dumpFields T) "position" =
      .ok raw.position := readOptional_position hraw.position rfl
  refine ⟨{ raw with
    sourceTimestamp := source
    serverTimestamp := server
    receivedAt := received }, ?_, rfl, rfl, rfl, rfl, rfl, rfl, hsame, hsame', hsame''⟩
  rw [dump, parse]
  simp only [hnames, hversion, hendpoint, hnode, hvalue, htype, hquality, hposition, hsource,
    hserver, hreceived, bind, Except.bind, pure, Except.pure]

theorem isFinite_of_parse_wire (h : parse T (raw.dump T).wire = .ok raw') :
    raw.value.isFinite = true := by
  rw [dump, Json.wire, parse] at h
  obtain ⟨-, -, h⟩ := bind_eq_ok.1 h
  obtain ⟨-, -, h⟩ := bind_eq_ok.1 h
  obtain ⟨sourceEndpoint, -, h⟩ := bind_eq_ok.1 h
  obtain ⟨nodeId, -, h⟩ := bind_eq_ok.1 h
  obtain ⟨value, hvalue, -⟩ := bind_eq_ok.1 h
  exact isFinite_of_wire (Json.member_wireFields _ _) hvalue

theorem wire_dump (h : raw.value.isFinite = true) : (raw.dump T).wire = raw.dump T := by
  apply Json.wire_of_allFinite
  have hposition := allFinite_dumpPosition raw.position
  have hvalue : (Json.ofSignalValue raw.value).allFinite = true := h
  simp [dump, dumpFields, Json.allFinite, Json.allFiniteFields, hposition, hvalue]

/-- What is read from the text of a signal is this signal. -/
theorem same_of_parse_wire (hT : T.KeepsTimes) (hraw : raw.Valid T)
    (h : parse T (raw.dump T).wire = .ok raw') : raw.Same raw' := by
  obtain ⟨raw'', hparse, hsame⟩ := parse_dump hT hraw
  rw [wire_dump (isFinite_of_parse_wire h), hparse] at h
  rwa [← Except.ok.inj h]

end RawSignalEnvelope

/-! ## Normalized signals -/

/-- `NormalizedSignalEnvelope`. -/
structure NormalizedSignalEnvelope where
  nodeId : String
  value : SignalValue
  valueType : SignalValueType
  unit : String
  quality : Quality
  position : Option SourcePosition
  sourceTimestamp : Datetime
  receivedAt : Datetime
deriving DecidableEq, Repr

namespace NormalizedSignalEnvelope

/-- `model_dump(mode="json")`. -/
def dumpFields (normalized : NormalizedSignalEnvelope) : List (String × Json) :=
  [("schema_version", .str "1.0"), ("node_id", .str normalized.nodeId),
    ("value", .ofSignalValue normalized.value), ("value_type", .str normalized.valueType.name),
    ("unit", .str normalized.unit), ("quality", .str normalized.quality.name),
    ("position", dumpPosition normalized.position),
    ("source_timestamp", .str (T.isoformat normalized.sourceTimestamp)),
    ("received_at", .str (T.isoformat normalized.receivedAt))]

def dump (normalized : NormalizedSignalEnvelope) : Json := .obj (normalized.dumpFields T)

/-- `NormalizedSignalEnvelope.model_validate`. -/
def parse : Json → Except PyError NormalizedSignalEnvelope
  | .obj fields => do
      Json.forbidExtra fields
        ["schema_version", "node_id", "value", "value_type", "unit", "quality", "position",
          "source_timestamp", "received_at"]
      Json.readVersion fields
      let nodeId ← Json.readStr fields "node_id"
      let value ← Json.readSignalValue fields "value"
      let valueType ← Json.readSignalValueType fields "value_type"
      let unit ← Json.readStr fields "unit"
      let quality ← readQuality fields "quality"
      let position ← Json.readOptional readSourcePosition fields "position"
      let sourceTimestamp ← readDatetime T fields "source_timestamp"
      let receivedAt ← readDatetime T fields "received_at"
      return { nodeId, value, valueType, unit, quality, position, sourceTimestamp, receivedAt }
  | _ => .error (Json.validationError "")

variable {T} {normalized normalized' : NormalizedSignalEnvelope}

/-- What the types of the fields promise of a signal that was read. -/
structure Valid (T : DatetimeText) (normalized : NormalizedSignalEnvelope) : Prop where
  position : ∀ p ∈ normalized.position, p.Valid
  sourceTimestamp : T.IsRead normalized.sourceTimestamp
  receivedAt : T.IsRead normalized.receivedAt

/-- The same signal, at the same times. -/
structure Same (normalized normalized' : NormalizedSignalEnvelope) : Prop where
  nodeId : normalized'.nodeId = normalized.nodeId
  value : normalized'.value = normalized.value
  valueType : normalized'.valueType = normalized.valueType
  unit : normalized'.unit = normalized.unit
  quality : normalized'.quality = normalized.quality
  position : normalized'.position = normalized.position
  sourceTimestamp : SameTime normalized.sourceTimestamp normalized'.sourceTimestamp
  receivedAt : SameTime normalized.receivedAt normalized'.receivedAt

/-- A member that the model does not declare is refused. -/
theorem names_of_parse {fields : List (String × Json)} (h : parse T (.obj fields) = .ok normalized) :
    ∀ k ∈ fields.map Prod.fst, k ∈
      ["schema_version", "node_id", "value", "value_type", "unit", "quality", "position",
        "source_timestamp", "received_at"] := by
  rw [parse] at h
  obtain ⟨_, hnames, -⟩ := bind_eq_ok.1 h
  exact Json.forbidExtra_eq_ok.1 hnames

theorem valid_of_parse {j : Json} (h : parse T j = .ok normalized) : normalized.Valid T := by
  unfold parse at h
  split at h
  · next fields =>
      obtain ⟨-, -, h⟩ := bind_eq_ok.1 h
      obtain ⟨-, -, h⟩ := bind_eq_ok.1 h
      obtain ⟨nodeId, -, h⟩ := bind_eq_ok.1 h
      obtain ⟨value, -, h⟩ := bind_eq_ok.1 h
      obtain ⟨valueType, -, h⟩ := bind_eq_ok.1 h
      obtain ⟨unit, -, h⟩ := bind_eq_ok.1 h
      obtain ⟨quality, -, h⟩ := bind_eq_ok.1 h
      obtain ⟨position, hposition, h⟩ := bind_eq_ok.1 h
      obtain ⟨sourceTimestamp, hsource, h⟩ := bind_eq_ok.1 h
      obtain ⟨receivedAt, hreceived, h⟩ := bind_eq_ok.1 h
      obtain rfl := Except.ok.inj h
      exact ⟨valid_of_readOptional hposition, isRead_of_readDatetime hsource,
        isRead_of_readDatetime hreceived⟩
  · cases h

/-- A signal is read as it was written. -/
theorem parse_dump (hT : T.KeepsTimes) (hnormalized : normalized.Valid T) :
    ∃ normalized', parse T (normalized.dump T) = .ok normalized' ∧
      normalized.Same normalized' := by
  obtain ⟨source, hsource, hsame⟩ := readDatetime_of_member hT hnormalized.sourceTimestamp
    (show Json.member (normalized.dumpFields T) "source_timestamp" = _ from rfl)
  obtain ⟨received, hreceived, hsame'⟩ := readDatetime_of_member hT hnormalized.receivedAt
    (show Json.member (normalized.dumpFields T) "received_at" = _ from rfl)
  have hnames : Json.forbidExtra (normalized.dumpFields T)
      ["schema_version", "node_id", "value", "value_type", "unit", "quality", "position",
        "source_timestamp", "received_at"] = .ok () :=
    Json.forbidExtra_eq_ok.2 fun k hk => hk
  have hversion : Json.readVersion (normalized.dumpFields T) = .ok () := rfl
  have hnode : Json.readStr (normalized.dumpFields T) "node_id" = .ok normalized.nodeId := rfl
  have hvalue : Json.readSignalValue (normalized.dumpFields T) "value" = .ok normalized.value :=
    Json.readSignalValue_ofSignalValue rfl
  have htype : Json.readSignalValueType (normalized.dumpFields T) "value_type" =
      .ok normalized.valueType := Json.readSignalValueType_name rfl
  have hunit : Json.readStr (normalized.dumpFields T) "unit" = .ok normalized.unit := rfl
  have hquality : readQuality (normalized.dumpFields T) "quality" = .ok normalized.quality :=
    readQuality_name rfl
  have hposition : Json.readOptional readSourcePosition (normalized.dumpFields T) "position" =
      .ok normalized.position := readOptional_position hnormalized.position rfl
  refine ⟨{ normalized with sourceTimestamp := source, receivedAt := received }, ?_, rfl, rfl,
    rfl, rfl, rfl, rfl, hsame, hsame'⟩
  rw [dump, parse]
  simp only [hnames, hversion, hnode, hvalue, htype, hunit, hquality, hposition, hsource,
    hreceived, bind, Except.bind, pure, Except.pure]

theorem isFinite_of_parse_wire (h : parse T (normalized.dump T).wire = .ok normalized') :
    normalized.value.isFinite = true := by
  rw [dump, Json.wire, parse] at h
  obtain ⟨-, -, h⟩ := bind_eq_ok.1 h
  obtain ⟨-, -, h⟩ := bind_eq_ok.1 h
  obtain ⟨nodeId, -, h⟩ := bind_eq_ok.1 h
  obtain ⟨value, hvalue, -⟩ := bind_eq_ok.1 h
  exact isFinite_of_wire (Json.member_wireFields _ _) hvalue

theorem wire_dump (h : normalized.value.isFinite = true) :
    (normalized.dump T).wire = normalized.dump T := by
  apply Json.wire_of_allFinite
  have hposition := allFinite_dumpPosition normalized.position
  have hvalue : (Json.ofSignalValue normalized.value).allFinite = true := h
  simp [dump, dumpFields, Json.allFinite, Json.allFiniteFields, hposition, hvalue]

/-- What is read from the text of a signal is this signal. -/
theorem same_of_parse_wire (hT : T.KeepsTimes) (hnormalized : normalized.Valid T)
    (h : parse T (normalized.dump T).wire = .ok normalized') : normalized.Same normalized' := by
  obtain ⟨normalized'', hparse, hsame⟩ := parse_dump hT hnormalized
  rw [wire_dump (isFinite_of_parse_wire h), hparse] at h
  rwa [← Except.ok.inj h]

end NormalizedSignalEnvelope

/-! ## The place in the hierarchy -/

/-- `ContextualizeResult`. -/
structure ContextualizeResult where
  unsTopic : String
  unsPath : UNSPath
  semanticType : String
  sensorUri : String
  featureUri : String
  propertyUri : String
deriving DecidableEq, Repr

namespace ContextualizeResult

/-- `model_dump(mode="json")`. -/
def dump (result : ContextualizeResult) : Json :=
  .obj [("schema_version", .str "1.0"), ("uns_topic", .str result.unsTopic),
    ("uns_path", result.unsPath.dump), ("semantic_type", .str result.semanticType),
    ("sensor_uri", .str result.sensorUri), ("feature_uri", .str result.featureUri),
    ("property_uri", .str result.propertyUri)]

/-- `ContextualizeResult.model_validate`. -/
def parse : Json → Except PyError ContextualizeResult
  | .obj fields => do
      Json.forbidExtra fields
        ["schema_version", "uns_topic", "uns_path", "semantic_type", "sensor_uri", "feature_uri",
          "property_uri"]
      Json.readVersion fields
      let unsTopic ← Json.readStr fields "uns_topic"
      let unsPath ← readUnsPath fields "uns_path"
      let semanticType ← Json.readStr fields "semantic_type"
      let sensorUri ← Json.readStr fields "sensor_uri"
      let featureUri ← Json.readStr fields "feature_uri"
      let propertyUri ← Json.readStr fields "property_uri"
      return { unsTopic, unsPath, semanticType, sensorUri, featureUri, propertyUri }
  | _ => .error (Json.validationError "")

/-- A place is read as it was written, from its text as well. -/
theorem parse_dump (result : ContextualizeResult) : parse result.dump = .ok result := by
  have hnames : Json.forbidExtra
      [("schema_version", .str "1.0"), ("uns_topic", .str result.unsTopic),
        ("uns_path", result.unsPath.dump), ("semantic_type", .str result.semanticType),
        ("sensor_uri", .str result.sensorUri), ("feature_uri", .str result.featureUri),
        ("property_uri", .str result.propertyUri)]
      ["schema_version", "uns_topic", "uns_path", "semantic_type", "sensor_uri", "feature_uri",
        "property_uri"] = .ok () :=
    Json.forbidExtra_eq_ok.2 fun k hk => hk
  rw [dump, parse]
  simp [hnames, Json.readVersion, Json.readStr, readUnsPath, Json.member, UNSPath.parse_dump,
    bind, Except.bind, pure, Except.pure]

theorem wire_dump (result : ContextualizeResult) : result.dump.wire = result.dump :=
  Json.wire_of_allFinite rfl

end ContextualizeResult

/-! ## Publishing -/

/-- `PublishRequest`. -/
structure PublishRequest where
  unsTopic : String
  correlationId : String
  value : SignalValue
  valueType : SignalValueType
  unit : String
  quality : Quality
  semanticType : String
  unsPath : UNSPath
  sourceEndpoint : String
  sourceNodeId : String
  position : Option SourcePosition
  sourceTimestamp : Datetime
  edgeIngress : Datetime
  sensorUri : String
  featureUri : String
  propertyUri : String
deriving DecidableEq, Repr

namespace PublishRequest

/-- `model_dump(mode="json")`. -/
def dumpFields (req : PublishRequest) : List (String × Json) :=
  [("schema_version", .str "1.0"), ("uns_topic", .str req.unsTopic),
    ("correlation_id", .str req.correlationId), ("value", .ofSignalValue req.value),
    ("value_type", .str req.valueType.name), ("unit", .str req.unit),
    ("quality", .str req.quality.name), ("semantic_type", .str req.semanticType),
    ("uns_path", req.unsPath.dump), ("source_endpoint", .str req.sourceEndpoint),
    ("source_node_id", .str req.sourceNodeId), ("position", dumpPosition req.position),
    ("source_timestamp", .str (T.isoformat req.sourceTimestamp)),
    ("edge_ingress", .str (T.isoformat req.edgeIngress)), ("sensor_uri", .str req.sensorUri),
    ("feature_uri", .str req.featureUri), ("property_uri", .str req.propertyUri)]

def dump (req : PublishRequest) : Json := .obj (req.dumpFields T)

/-- `PublishRequest.model_validate`. -/
def parse : Json → Except PyError PublishRequest
  | .obj fields => do
      Json.forbidExtra fields
        ["schema_version", "uns_topic", "correlation_id", "value", "value_type", "unit",
          "quality", "semantic_type", "uns_path", "source_endpoint", "source_node_id",
          "position", "source_timestamp", "edge_ingress", "sensor_uri", "feature_uri",
          "property_uri"]
      Json.readVersion fields
      let unsTopic ← Json.readStr fields "uns_topic"
      let correlationId ← Json.readStrWith isValidCorrelationId fields "correlation_id"
      let value ← Json.readSignalValue fields "value"
      let valueType ← Json.readSignalValueType fields "value_type"
      let unit ← Json.readStr fields "unit"
      let quality ← readQuality fields "quality"
      let semanticType ← Json.readStr fields "semantic_type"
      let unsPath ← readUnsPath fields "uns_path"
      let sourceEndpoint ← Json.readStr fields "source_endpoint"
      let sourceNodeId ← Json.readStr fields "source_node_id"
      let position ← Json.readOptional readSourcePosition fields "position"
      let sourceTimestamp ← readDatetime T fields "source_timestamp"
      let edgeIngress ← readDatetime T fields "edge_ingress"
      let sensorUri ← Json.readStr fields "sensor_uri"
      let featureUri ← Json.readStr fields "feature_uri"
      let propertyUri ← Json.readStr fields "property_uri"
      return ⟨unsTopic, correlationId, value, valueType, unit, quality, semanticType, unsPath,
        sourceEndpoint, sourceNodeId, position, sourceTimestamp, edgeIngress, sensorUri,
        featureUri, propertyUri⟩
  | _ => .error (Json.validationError "")

variable {T} {req req' : PublishRequest}

/-- What the types of the fields promise. -/
structure Valid (T : DatetimeText) (req : PublishRequest) : Prop where
  correlationId : isValidCorrelationId req.correlationId = true
  position : ∀ p ∈ req.position, p.Valid
  sourceTimestamp : T.IsRead req.sourceTimestamp
  edgeIngress : T.IsRead req.edgeIngress

/-- The same request, with the same times. -/
structure Same (req req' : PublishRequest) : Prop where
  unsTopic : req'.unsTopic = req.unsTopic
  correlationId : req'.correlationId = req.correlationId
  value : req'.value = req.value
  valueType : req'.valueType = req.valueType
  unit : req'.unit = req.unit
  quality : req'.quality = req.quality
  semanticType : req'.semanticType = req.semanticType
  unsPath : req'.unsPath = req.unsPath
  sourceEndpoint : req'.sourceEndpoint = req.sourceEndpoint
  sourceNodeId : req'.sourceNodeId = req.sourceNodeId
  position : req'.position = req.position
  sensorUri : req'.sensorUri = req.sensorUri
  featureUri : req'.featureUri = req.featureUri
  propertyUri : req'.propertyUri = req.propertyUri
  sourceTimestamp : SameTime req.sourceTimestamp req'.sourceTimestamp
  edgeIngress : SameTime req.edgeIngress req'.edgeIngress

/-- A member that the model does not declare is refused. -/
theorem names_of_parse {fields : List (String × Json)} (h : parse T (.obj fields) = .ok req) :
    ∀ k ∈ fields.map Prod.fst, k ∈
      ["schema_version", "uns_topic", "correlation_id", "value", "value_type", "unit",
        "quality", "semantic_type", "uns_path", "source_endpoint", "source_node_id",
        "position", "source_timestamp", "edge_ingress", "sensor_uri", "feature_uri",
        "property_uri"] := by
  rw [parse] at h
  obtain ⟨_, hnames, -⟩ := bind_eq_ok.1 h
  exact Json.forbidExtra_eq_ok.1 hnames

/-- A request is read as it was written. -/
theorem parse_dump (hT : T.KeepsTimes) (hreq : req.Valid T) :
    ∃ req', parse T (req.dump T) = .ok req' ∧ req.Same req' := by
  obtain ⟨source, hsource, hsame⟩ := readDatetime_of_member hT hreq.sourceTimestamp
    (show Json.member (req.dumpFields T) "source_timestamp" = _ from rfl)
  obtain ⟨ingress, hingress, hsame'⟩ := readDatetime_of_member hT hreq.edgeIngress
    (show Json.member (req.dumpFields T) "edge_ingress" = _ from rfl)
  have hnames : Json.forbidExtra (req.dumpFields T)
      ["schema_version", "uns_topic", "correlation_id", "value", "value_type", "unit",
        "quality", "semantic_type", "uns_path", "source_endpoint", "source_node_id",
        "position", "source_timestamp", "edge_ingress", "sensor_uri", "feature_uri",
        "property_uri"] = .ok () :=
    Json.forbidExtra_eq_ok.2 fun k hk => hk
  have hversion : Json.readVersion (req.dumpFields T) = .ok () := rfl
  have htopic : Json.readStr (req.dumpFields T) "uns_topic" = .ok req.unsTopic := rfl
  have hid : Json.readStrWith isValidCorrelationId (req.dumpFields T) "correlation_id" =
      .ok req.correlationId := Json.readStrWith_eq_ok.2 ⟨rfl, hreq.correlationId⟩
  have hvalue : Json.readSignalValue (req.dumpFields T) "value" = .ok req.value :=
    Json.readSignalValue_ofSignalValue rfl
  have htype : Json.readSignalValueType (req.dumpFields T) "value_type" = .ok req.valueType :=
    Json.readSignalValueType_name rfl
  have hunit : Json.readStr (req.dumpFields T) "unit" = .ok req.unit := rfl
  have hquality : readQuality (req.dumpFields T) "quality" = .ok req.quality :=
    readQuality_name rfl
  have hsemantic : Json.readStr (req.dumpFields T) "semantic_type" = .ok req.semanticType := rfl
  have hpath : readUnsPath (req.dumpFields T) "uns_path" = .ok req.unsPath :=
    UNSPath.parse_dump req.unsPath
  have hendpoint : Json.readStr (req.dumpFields T) "source_endpoint" = .ok req.sourceEndpoint := rfl
  have hnode : Json.readStr (req.dumpFields T) "source_node_id" = .ok req.sourceNodeId := rfl
  have hposition : Json.readOptional readSourcePosition (req.dumpFields T) "position" =
      .ok req.position := readOptional_position hreq.position rfl
  have hsensor : Json.readStr (req.dumpFields T) "sensor_uri" = .ok req.sensorUri := rfl
  have hfeature : Json.readStr (req.dumpFields T) "feature_uri" = .ok req.featureUri := rfl
  have hproperty : Json.readStr (req.dumpFields T) "property_uri" = .ok req.propertyUri := rfl
  refine ⟨{ req with sourceTimestamp := source, edgeIngress := ingress }, ?_, rfl, rfl, rfl, rfl,
    rfl, rfl, rfl, rfl, rfl, rfl, rfl, rfl, rfl, rfl, hsame, hsame'⟩
  rw [dump, parse]
  simp only [hnames, hversion, htopic, hid, hvalue, htype, hunit, hquality, hsemantic, hpath,
    hendpoint, hnode, hposition, hsource, hingress, hsensor, hfeature, hproperty, bind,
    Except.bind, pure, Except.pure]

theorem isFinite_of_parse_wire (h : parse T (req.dump T).wire = .ok req') :
    req.value.isFinite = true := by
  rw [dump, Json.wire, parse] at h
  obtain ⟨-, -, h⟩ := bind_eq_ok.1 h
  obtain ⟨-, -, h⟩ := bind_eq_ok.1 h
  obtain ⟨unsTopic, -, h⟩ := bind_eq_ok.1 h
  obtain ⟨correlationId, -, h⟩ := bind_eq_ok.1 h
  obtain ⟨value, hvalue, -⟩ := bind_eq_ok.1 h
  exact isFinite_of_wire (Json.member_wireFields _ _) hvalue

theorem wire_dump (h : req.value.isFinite = true) : (req.dump T).wire = req.dump T := by
  apply Json.wire_of_allFinite
  have hposition := allFinite_dumpPosition req.position
  have hvalue : (Json.ofSignalValue req.value).allFinite = true := h
  simp [dump, dumpFields, UNSPath.dump, Json.allFinite, Json.allFiniteFields, hposition, hvalue]

/-- What is read from the text of a request is this request. -/
theorem same_of_parse_wire (hT : T.KeepsTimes) (hreq : req.Valid T)
    (h : parse T (req.dump T).wire = .ok req') : req.Same req' := by
  obtain ⟨req'', hparse, hsame⟩ := parse_dump hT hreq
  rw [wire_dump (isFinite_of_parse_wire h), hparse] at h
  rwa [← Except.ok.inj h]

end PublishRequest

end Models

end EirvahEdge.Contracts
