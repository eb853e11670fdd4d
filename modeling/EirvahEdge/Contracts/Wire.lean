import EirvahEdge.Contracts.Replies

/-!
# Envelopes as text

`model_dump_json` has no text for an infinite float or a NaN and writes `null`
instead.  A payload without such floats is read as it was written, and so is the
envelope around it.
-/

namespace EirvahEdge.Contracts

open EirvahEdge.Lib

namespace Json

mutual

/-- The value as it is read from the text of `model_dump_json`. -/
def wire : Json → Json
  | .float x => if x.isFinite then .float x else .null
  | .arr xs => .arr (wireList xs)
  | .obj fs => .obj (wireFields fs)
  | .null => .null
  | .bool b => .bool b
  | .int n => .int n
  | .str s => .str s
  | .time d => .time d

def wireList : List Json → List Json
  | [] => []
  | x :: xs => wire x :: wireList xs

def wireFields : List (String × Json) → List (String × Json)
  | [] => []
  | (k, v) :: fs => (k, wire v) :: wireFields fs

end

mutual

/-- Without infinite floats and NaNs nothing is lost. -/
theorem wire_of_allFinite {j : Json} (h : j.allFinite = true) : j.wire = j := by
  cases j with
  | float x =>
      have hfinite : x.isFinite = true := h
      rw [wire, if_pos hfinite]
  | arr xs => rw [wire, wireList_of_allFinite h]
  | obj fs => rw [wire, wireFields_of_allFinite h]
  | null | bool | int | str | time => rfl

theorem wireList_of_allFinite {xs : List Json} (h : allFiniteList xs = true) :
    wireList xs = xs := by
  cases xs with
  | nil => rfl
  | cons x xs =>
      obtain ⟨hx, hxs⟩ := (Bool.and_eq_true _ _).mp h
      rw [wireList, wire_of_allFinite hx, wireList_of_allFinite hxs]

theorem wireFields_of_allFinite {fs : List (String × Json)} (h : allFiniteFields fs = true) :
    wireFields fs = fs := by
  cases fs with
  | nil => rfl
  | cons f fs =>
      obtain ⟨k, v⟩ := f
      obtain ⟨hv, hfs⟩ := (Bool.and_eq_true _ _).mp h
      rw [wireFields, wire_of_allFinite hv, wireFields_of_allFinite hfs]

end

mutual

/-- What was read from such a text has a text. -/
theorem allFinite_wire (j : Json) : j.wire.allFinite = true := by
  cases j with
  | float x =>
      rw [wire]
      split
      · next hfinite => exact hfinite
      · rfl
  | arr xs =>
      rw [wire]
      exact allFiniteList_wire xs
  | obj fs =>
      rw [wire]
      exact allFiniteFields_wire fs
  | null | bool | int | str | time => rfl

theorem allFiniteList_wire (xs : List Json) : allFiniteList (wireList xs) = true := by
  cases xs with
  | nil => rfl
  | cons x xs => exact (Bool.and_eq_true _ _).mpr ⟨allFinite_wire x, allFiniteList_wire xs⟩

theorem allFiniteFields_wire (fs : List (String × Json)) :
    allFiniteFields (wireFields fs) = true := by
  cases fs with
  | nil => rfl
  | cons f fs =>
      obtain ⟨k, v⟩ := f
      exact (Bool.and_eq_true _ _).mpr ⟨allFinite_wire v, allFiniteFields_wire fs⟩

end

theorem wireFields_eq_map (fs : List (String × Json)) :
    wireFields fs = fs.map fun f => (f.1, f.2.wire) := by
  induction fs with
  | nil => rfl
  | cons f fs ih =>
      obtain ⟨k, v⟩ := f
      rw [wireFields, ih]
      rfl

/-- A member is read as the text of the member that was written. -/
theorem member_wireFields (fs : List (String × Json)) (name : String) :
    member (wireFields fs) name = (member fs name).map wire := by
  rw [wireFields_eq_map]
  induction fs with
  | nil => rfl
  | cons f fs ih =>
      simp only [member, List.map_cons, List.find?_cons] at ih ⊢
      cases f.1 == name with
      | true => rfl
      | false => exact ih

theorem names_wireFields (fs : List (String × Json)) :
    (wireFields fs).map Prod.fst = fs.map Prod.fst := by
  rw [wireFields_eq_map, List.map_map]
  rfl

end Json

/-! ## Envelopes -/

def EnvelopeError.dump (e : EnvelopeError) : Json :=
  .obj [("kind", .str e.kind), ("message", .str e.message)]

/-- The members of an envelope as `model_dump_json` lists them. -/
def NATSEnvelope.dumpFields (e : NATSEnvelope) : List (String × Json) :=
  [("schema_version", .str "1.0"), ("correlation_id", .str e.correlationId),
    ("status", .str e.status.name), ("payload", e.payload.getD .null),
    ("context", e.context.getD .null), ("error", (e.error.map EnvelopeError.dump).getD .null)]

/-- `model_dump_json()`, decoded. -/
def NATSEnvelope.text (e : NATSEnvelope) : Json := (Json.obj e.dumpFields).wire

/-- What the types of the fields promise. -/
structure NATSEnvelope.Valid (e : NATSEnvelope) : Prop where
  correlationId : isValidCorrelationId e.correlationId = true
  payload : ∀ j ∈ e.payload, ∃ fields, j = .obj fields
  context : ∀ j ∈ e.context, ∃ fields, j = .obj fields

theorem EnvelopeError.parse_dump (e : EnvelopeError) : parse e.dump = .ok e := by
  simp [parse, dump, Json.forbidExtra, Json.readStr, Json.member, bind, Except.bind, pure,
    Except.pure]

/-- An optional object is read as the text of what was written. -/
theorem readOptional_dict {fields : List (String × Json)} {name : String} {value : Option Json}
    (hobj : ∀ j ∈ value, ∃ fs, j = .obj fs)
    (h : Json.member fields name = some (value.getD .null).wire) :
    Json.readOptional Json.readDict fields name = .ok (value.map Json.wire) := by
  cases value with
  | none => simp [Json.readOptional, h, Json.wire]
  | some j =>
      obtain ⟨fs, rfl⟩ := hobj j rfl
      simp [Json.readOptional, Json.readDict, h, Json.wire, Except.map]

/-- An envelope is read as it was written, with the text of its payload. -/
theorem NATSEnvelope.parse_text {e : NATSEnvelope} (h : e.Valid) :
    parse e.text =
      .ok { e with payload := e.payload.map Json.wire, context := e.context.map Json.wire } := by
  have hmember (name : String) : Json.member (Json.wireFields e.dumpFields) name =
      (Json.member e.dumpFields name).map Json.wire := Json.member_wireFields _ _
  have hnames : Json.forbidExtra (Json.wireFields e.dumpFields)
      ["schema_version", "correlation_id", "status", "payload", "context", "error"] = .ok () := by
    rw [Json.forbidExtra_eq_ok, Json.names_wireFields]
    exact fun k hk => hk
  have hversion : Json.readVersion (Json.wireFields e.dumpFields) = .ok () := by
    rw [Json.readVersion, hmember]
    rfl
  have hid : Json.readStrWith isValidCorrelationId (Json.wireFields e.dumpFields)
      "correlation_id" = .ok e.correlationId := by
    rw [Json.readStrWith_eq_ok, hmember]
    exact ⟨rfl, h.correlationId⟩
  have hstatus : readStatus (Json.wireFields e.dumpFields) = .ok e.status := by
    rw [readStatus, hmember]
    cases hs : e.status <;> simp [dumpFields, Json.member, Json.wire, hs, EnvelopeStatus.name]
  have hpayload : Json.readOptional Json.readDict (Json.wireFields e.dumpFields) "payload" =
      .ok (e.payload.map Json.wire) := by
    apply readOptional_dict h.payload
    rw [hmember]
    rfl
  have hcontext : Json.readOptional Json.readDict (Json.wireFields e.dumpFields) "context" =
      .ok (e.context.map Json.wire) := by
    apply readOptional_dict h.context
    rw [hmember]
    rfl
  have herror : Json.readOptional readEnvelopeError (Json.wireFields e.dumpFields) "error" =
      .ok e.error := by
    have hm : Json.member (Json.wireFields e.dumpFields) "error" =
        some ((e.error.map EnvelopeError.dump).getD .null).wire := by
      rw [hmember]
      rfl
    cases he : e.error with
    | none =>
        rw [he] at hm
        simp [Json.readOptional, hm, Json.wire]
    | some error =>
        have hfinite : error.dump.wire = error.dump := Json.wire_of_allFinite rfl
        rw [he, Option.map_some, Option.getD_some, hfinite] at hm
        rw [Json.readOptional, hm]
        simp only [EnvelopeError.dump, readEnvelopeError, hm]
        rw [show EnvelopeError.parse (.obj [("kind", .str error.kind),
          ("message", .str error.message)]) = .ok error from EnvelopeError.parse_dump error]
        rfl
  rw [text, Json.wire, parse]
  simp only [hnames, hversion, hid, hstatus, hpayload, hcontext, herror, bind, Except.bind, pure,
    Except.pure]

end EirvahEdge.Contracts
