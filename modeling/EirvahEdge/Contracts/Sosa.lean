import EirvahEdge.Contracts.Telemetry

/-!
# Observations as JSON-LD

`SOSAObservation` is what the publisher sends and the consumers read.  Its times are
written by `datetime.isoformat` and read by `datetime.fromisoformat`, which are not the
functions that the other models use.

An observation is read as it was written, in whatever order a JSON text lists the
members (`fromJsonld_toJsonld`).
-/

namespace EirvahEdge.Contracts

open EirvahEdge.Lib

/-- The reader is an inverse of the writer. -/
def DatetimeText.Inverts (I : DatetimeText) : Prop :=
  ∀ d, I.parse (.str (I.isoformat d)) = .ok d

/-- The texts of `T`, with a letter before those of times without an offset. -/
def DatetimeText.withNaive (T : DatetimeText) : DatetimeText where
  isoformat
    | .aware d => T.isoformat (.aware d)
    | .naive m => String.ofList ('n' :: (DatetimeText.spelled ⟨m, 0⟩).toList)
  parse
    | .str s =>
        match s.toList with
        | 'n' :: cs =>
            match DatetimeText.unspelled (String.ofList cs) with
            | .ok (.aware d) => .ok (.naive d.localMicros)
            | _ => .error (Json.validationError "datetime")
        | _ => T.parse (.str s)
    | j => T.parse j

theorem DatetimeText.withNaive_inverts {T : DatetimeText}
    (hT : ∀ d, T.parse (.str (T.isoformat (.aware d))) = .ok (.aware d))
    (hfirst : ∀ d, (T.isoformat (.aware d)).toList.head? ≠ some 'n') :
    T.withNaive.Inverts := by
  intro d
  cases d with
  | aware d =>
      have hsplit : ∀ cs, (T.isoformat (.aware d)).toList ≠ 'n' :: cs := by
        intro cs hcs
        exact hfirst d (by rw [hcs]; rfl)
      simp only [withNaive, hT]
  | naive m => simp [withNaive, DatetimeText.unspelled_spelled]

/-- The texts of a table do not begin with that letter. -/
theorem DatetimeText.ofTable_inverts {table : List (AwareDatetime × String)}
    (hback : ∀ r ∈ table, table.find? (fun q => q.2 = r.2) = some r)
    (hdigit : ∀ r ∈ table, '2' ∈ r.2.toList)
    (hfirst : ∀ r ∈ table, r.2.toList.head? ≠ some 'n') :
    (DatetimeText.ofTable table).withNaive.Inverts := by
  apply DatetimeText.withNaive_inverts (DatetimeText.ofTable_parse_isoformat hback hdigit)
  intro d
  cases hd : table.find? fun r => r.1 = d with
  | some r => simpa [ofTable, hd] using hfirst r (List.mem_of_find?_eq_some hd)
  | none =>
      simp only [ofTable, hd, Option.map_none, Option.getD_none, spelled, String.toList_ofList]
      intro hhead
      exact absurd (List.eq_of_mem_replicate (List.mem_of_mem_head? hhead)) (by decide)

def Json.keyError (name : String) : PyError := ⟨.other "KeyError", name⟩

def Json.typeError (message : String) : PyError := ⟨.typeError, message⟩

/-- `fields[name]`. -/
def Json.item (fields : List (String × Json)) (name : String) : Except PyError Json :=
  match Json.member fields name with
  | some j => .ok j
  | none => .error (Json.keyError name)

theorem Json.item_eq_ok {fields : List (String × Json)} {name : String} {v : Json} :
    Json.item fields name = .ok v ↔ Json.member fields name = some v := by
  unfold Json.item
  cases Json.member fields name <;> simp

/-- `fields[name]["@id"]`. -/
def Json.itemId (fields : List (String × Json)) (name : String) : Except PyError Json :=
  match Json.member fields name with
  | none => .error (Json.keyError name)
  | some (.obj node) => Json.item node "@id"
  | some _ => .error (Json.typeError "value is not subscriptable")

/-- `SOSAObservation`. -/
structure SOSAObservation where
  valueType : SignalValueType := .double
  madeBySensor : String
  hasFeatureOfInterest : String
  observedProperty : String
  hasSimpleResult : SignalValue
  resultTime : Datetime
  unit : String
  quality : Quality
  position : Option SourcePosition := none
  correlationId : String
deriving DecidableEq, Repr

/-- `_CONTEXT`. -/
def jsonldContext : Json :=
  .obj [("sosa", .str "http://www.w3.org/ns/sosa/"), ("ssn", .str "http://www.w3.org/ns/ssn/"),
    ("eirvah", .str "https://eirvah.uniza/ontology/")]

namespace SOSAObservation

variable (I : DatetimeText)

/-- The members of `to_jsonld()`. -/
def jsonldFields (o : SOSAObservation) : List (String × Json) :=
  [("@context", jsonldContext), ("@type", .str "sosa:Observation"),
    ("eirvah:schemaVersion", .str "1.0"), ("eirvah:valueType", .str o.valueType.name),
    ("sosa:madeBySensor", .obj [("@id", .str o.madeBySensor)]),
    ("sosa:hasFeatureOfInterest", .obj [("@id", .str o.hasFeatureOfInterest)]),
    ("sosa:observedProperty", .obj [("@id", .str o.observedProperty)]),
    ("sosa:hasSimpleResult", .ofSignalValue o.hasSimpleResult),
    ("sosa:resultTime", .str (I.isoformat o.resultTime)), ("eirvah:unit", .str o.unit),
    ("eirvah:quality", .str o.quality.name), ("eirvah:correlationId", .str o.correlationId)] ++
  o.position.toList.map fun p => ("eirvah:position", p.dump)

/-- `to_jsonld()`. -/
def toJsonld (o : SOSAObservation) : Json := .obj (o.jsonldFields I)

/-- `SourcePosition.model_validate(doc["eirvah:position"])`, unless there is none. -/
def positionOf (doc : List (String × Json)) : Except PyError (Option SourcePosition) :=
  match Json.member doc "eirvah:position" with
  | none | some .null => .ok none
  | some j => (SourcePosition.parse j).map some

/-- The model reads its keywords. -/
def construct (keywords : List (String × Json)) (position : Option SourcePosition)
    (resultTime : Datetime) : Except PyError SOSAObservation := do
  Json.readVersion keywords
  let valueType ← Json.readSignalValueType keywords "value_type"
  let madeBySensor ← Json.readStr keywords "made_by_sensor"
  let hasFeatureOfInterest ← Json.readStr keywords "has_feature_of_interest"
  let observedProperty ← Json.readStr keywords "observed_property"
  let hasSimpleResult ← Json.readSignalValue keywords "has_simple_result"
  let unit ← Json.readStr keywords "unit"
  let quality ← readQuality keywords "quality"
  let correlationId ← Json.readStr keywords "correlation_id"
  return ⟨valueType, madeBySensor, hasFeatureOfInterest, observedProperty, hasSimpleResult,
    resultTime, unit, quality, position, correlationId⟩

/-- `from_jsonld(doc)`. -/
def fromJsonld : Json → Except PyError SOSAObservation
  | .obj doc => do
      let version ← Json.item doc "eirvah:schemaVersion"
      let valueType ← Json.item doc "eirvah:valueType"
      let position ← positionOf doc
      let sensor ← Json.itemId doc "sosa:madeBySensor"
      let feature ← Json.itemId doc "sosa:hasFeatureOfInterest"
      let observed ← Json.itemId doc "sosa:observedProperty"
      let result ← Json.item doc "sosa:hasSimpleResult"
      let time ← Json.item doc "sosa:resultTime"
      let resultTime ← I.parse time
      let unit ← Json.item doc "eirvah:unit"
      let quality ← Json.item doc "eirvah:quality"
      let correlationId ← Json.item doc "eirvah:correlationId"
      construct
        [("schema_version", version), ("value_type", valueType), ("made_by_sensor", sensor),
          ("has_feature_of_interest", feature), ("observed_property", observed),
          ("has_simple_result", result), ("unit", unit), ("quality", quality),
          ("correlation_id", correlationId)]
        position resultTime
  | _ => .error (Json.typeError "document is not a mapping")

variable {I}

/-! ## The way back -/

theorem jsonldFields_nodup (o : SOSAObservation) :
    ((o.jsonldFields I).map Prod.fst).Nodup := by
  cases hp : o.position <;> simp [jsonldFields, hp]

section Received

variable {o : SOSAObservation} {doc : List (String × Json)}
  (hdoc : (doc.map normal).Perm ((o.jsonldFields I).map normal))
include hdoc

theorem item_str {name s : String} (h : (name, .str s) ∈ o.jsonldFields I) :
    Json.item doc name = .ok (.str s) := by
  have hmember := Json.member_str_of_same hdoc o.jsonldFields_nodup h
  rw [Json.item, hmember]

theorem itemId_str {name s : String} (h : (name, .obj [("@id", .str s)]) ∈ o.jsonldFields I) :
    Json.itemId doc name = .ok (.str s) := by
  obtain ⟨node, hmember, hsame⟩ := Json.member_of_same hdoc o.jsonldFields_nodup h
  obtain ⟨members, rfl, hperm⟩ := Json.same_obj hsame
  have hid : Json.member members "@id" = some (.str s) :=
    Json.member_str_of_same hperm (by simp) (by simp)
  rw [Json.itemId, hmember]
  dsimp only
  rw [Json.item, hid]

theorem item_value :
    Json.item doc "sosa:hasSimpleResult" = .ok (.ofSignalValue o.hasSimpleResult) := by
  have hmem : ("sosa:hasSimpleResult", .ofSignalValue o.hasSimpleResult) ∈ o.jsonldFields I := by
    simp [jsonldFields]
  obtain ⟨w, hmember, hsame⟩ := Json.member_of_same hdoc o.jsonldFields_nodup hmem
  rw [Json.item, hmember, Json.same_ofSignalValue.1 hsame]

theorem positionOf_eq (hposition : ∀ p ∈ o.position, p.Valid) :
    positionOf doc = .ok o.position := by
  cases hp : o.position with
  | none =>
      have hnot : "eirvah:position" ∉ (o.jsonldFields I).map Prod.fst := by
        simp [jsonldFields, hp]
      rw [positionOf, Json.member_of_notMem hdoc hnot]
  | some p =>
      have hmem : ("eirvah:position", p.dump) ∈ o.jsonldFields I := by simp [jsonldFields, hp]
      obtain ⟨w, hmember, hsame⟩ := Json.member_of_same hdoc o.jsonldFields_nodup hmem
      have hparse := SourcePosition.parse_of_same (hposition p (by rw [hp]; rfl)) hsame
      obtain ⟨members, rfl, -⟩ := Json.same_obj hsame
      rw [positionOf, hmember]
      dsimp only
      rw [hparse]
      rfl

/-- An observation is read as it was written. -/
theorem fromJsonld_received (hI : I.Inverts) (hposition : ∀ p ∈ o.position, p.Valid) :
    fromJsonld I (.obj doc) = .ok o := by
  have hversion : Json.item doc "eirvah:schemaVersion" = .ok (.str "1.0") :=
    item_str hdoc (by simp [jsonldFields])
  have htype : Json.item doc "eirvah:valueType" = .ok (.str o.valueType.name) :=
    item_str hdoc (by simp [jsonldFields])
  have hsensor : Json.itemId doc "sosa:madeBySensor" = .ok (.str o.madeBySensor) :=
    itemId_str hdoc (by simp [jsonldFields])
  have hfeature : Json.itemId doc "sosa:hasFeatureOfInterest" =
      .ok (.str o.hasFeatureOfInterest) := itemId_str hdoc (by simp [jsonldFields])
  have hobserved : Json.itemId doc "sosa:observedProperty" = .ok (.str o.observedProperty) :=
    itemId_str hdoc (by simp [jsonldFields])
  have htime : Json.item doc "sosa:resultTime" = .ok (.str (I.isoformat o.resultTime)) :=
    item_str hdoc (by simp [jsonldFields])
  have hunit : Json.item doc "eirvah:unit" = .ok (.str o.unit) :=
    item_str hdoc (by simp [jsonldFields])
  have hquality : Json.item doc "eirvah:quality" = .ok (.str o.quality.name) :=
    item_str hdoc (by simp [jsonldFields])
  have hid : Json.item doc "eirvah:correlationId" = .ok (.str o.correlationId) :=
    item_str hdoc (by simp [jsonldFields])
  have hconstruct : construct
      [("schema_version", .str "1.0"), ("value_type", .str o.valueType.name),
        ("made_by_sensor", .str o.madeBySensor),
        ("has_feature_of_interest", .str o.hasFeatureOfInterest),
        ("observed_property", .str o.observedProperty),
        ("has_simple_result", .ofSignalValue o.hasSimpleResult), ("unit", .str o.unit),
        ("quality", .str o.quality.name), ("correlation_id", .str o.correlationId)]
      o.position o.resultTime = .ok o := by
    rw [construct, Json.readSignalValueType_name rfl, Json.readSignalValue_ofSignalValue rfl,
      readQuality_name rfl]
    rfl
  simp only [fromJsonld, hversion, htype, positionOf_eq hdoc hposition, hsensor, hfeature,
    hobserved, item_value hdoc, htime, hI o.resultTime, hunit, hquality, hid, bind, Except.bind,
    hconstruct]

end Received

/-- An observation is read from any text of what was written. -/
theorem fromJsonld_toJsonld (hI : I.Inverts) {o : SOSAObservation}
    (hposition : ∀ p ∈ o.position, p.Valid) {j : Json} (hj : Json.Same j (o.toJsonld I)) :
    fromJsonld I j = .ok o := by
  obtain ⟨doc, rfl, hdoc⟩ := Json.same_obj hj
  exact fromJsonld_received hdoc hI hposition

end SOSAObservation

end EirvahEdge.Contracts
