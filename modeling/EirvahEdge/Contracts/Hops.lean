import EirvahEdge.Contracts.JsonObject
import Mathlib.Logic.Relation

/-!
# Commands over the wire

What a service receives is read from the JSON that another one wrote:
`model_dump(mode="json")`, a text, `model_validate`.  On its way from the bridge to
the writer a command is written and read many times, alone, next to the bridge's
identity evidence and next to the validator's approval, and the texts may list
members in any order.

`Valid` is what the field validators of `ActuationRequest` establish, so that a
request that was read once is read again.  `CommandHop` and `EvidenceHop` are one
passage of a command and of a piece of evidence.  A passage keeps a command up to
the order of its extra members and the spelling of its times (`CommandHop.same`),
and that is all its digest depends on (`digestInput_of_same`).
-/

namespace EirvahEdge.Contracts

open EirvahEdge.Lib

/-! ## Field validators -/

/-- `[0-9A-HJKMNP-TV-Z]`. -/
def isUlidChar (c : Char) : Bool :=
  ('0' ≤ c && c ≤ '9') || ('A' ≤ c && c ≤ 'H') || c == 'J' || c == 'K' || c == 'M' ||
    c == 'N' || ('P' ≤ c && c ≤ 'T') || ('V' ≤ c && c ≤ 'Z')

/-- `is_valid_correlation_id`. -/
def isValidCorrelationId (value : String) : Bool :=
  value.toList.length == 26 && value.toList.all isUlidChar

/-- `[a-z0-9_]`. -/
def isSegmentChar (c : Char) : Bool :=
  ('a' ≤ c && c ≤ 'z') || ('0' ≤ c && c ≤ '9') || c == '_'

/-- A `UNSSegment`. -/
def isSegment (segment : List Char) : Bool :=
  !segment.isEmpty && segment.all isSegmentChar && decide (segment.length ≤ 128)

/-- Whether `parse_uns_topic` accepts a topic: seven segments. -/
def isUnsTopic (topic : String) : Bool :=
  let segments := topic.toList.splitOn '/'
  segments.length == 7 && segments.all isSegment

/-- `^[0-9a-f]{64}$`. -/
def isHexDigest (s : String) : Bool :=
  s.toList.length == 64 && s.toList.all fun c => ('0' ≤ c && c ≤ '9') || ('a' ≤ c && c ≤ 'f')

/-- The validators of `ActuationRequest` accept the request. -/
structure ActuationRequest.Valid (c : ActuationRequest) : Prop where
  correlationId : isValidCorrelationId c.correlationId = true
  targetUnsTopic : isUnsTopic c.targetUnsTopic = true

/-- The patterns of `SignedEvidence` do. -/
structure SignedEvidence.Valid (e : SignedEvidence String String) : Prop where
  commandDigest : isHexDigest e.commandDigest = true
  signature : isHexDigest e.signature = true

/-! ## Writing and reading -/

variable (T : DatetimeText)

/-- `model_dump(mode="json")` of an optional time. -/
def dumpDeadline : Option Datetime → Json
  | none => .null
  | some d => .str (T.isoformat d)

/-- The members of `model_dump(mode="json")`. -/
def ActuationRequest.dumpFields (c : ActuationRequest) : List (String × Json) :=
  [("schema_version", .str "1.0"),
    ("correlation_id", .str c.correlationId),
    ("requester", .str c.requester),
    ("target_uns_topic", .str c.targetUnsTopic),
    ("requested_value", .ofSignalValue c.requestedValue),
    ("value_type", .str c.valueType.name),
    ("reason", .str c.reason),
    ("requested_at", .str (T.isoformat c.requestedAt)),
    ("deadline", dumpDeadline T c.deadline)] ++ c.extra

def ActuationRequest.dump (c : ActuationRequest) : Json := .obj (c.dumpFields T)

/-- The members that the model does not declare. -/
def extraFields (fields : List (String × Json)) : List (String × Json) :=
  fields.filter fun f => f.1 ∉ declaredNames

theorem extraFields_nodup {fields : List (String × Json)}
    (h : (fields.map Prod.fst).Nodup) :
    (declaredNames ++ (extraFields fields).map Prod.fst).Nodup := by
  rw [List.nodup_append]
  refine ⟨by decide, ?_, ?_⟩
  · exact h.sublist (List.filter_sublist.map Prod.fst)
  · rintro a ha b hb rfl
    obtain ⟨f, hf, rfl⟩ := List.mem_map.1 hb
    have hnot := (List.mem_filter.1 hf).2
    exact absurd ha (by simpa using hnot)

/-- A field of type `datetime`. -/
def readDatetime (fields : List (String × Json)) (name : String) : Except PyError Datetime :=
  match Json.member fields name with
  | none => .error (Json.validationError name)
  | some j => T.parse j

/-- `deadline: datetime | None = None`. -/
def readDeadline (fields : List (String × Json)) : Except PyError (Option Datetime) :=
  match Json.member fields "deadline" with
  | none | some .null => .ok none
  | some j => (T.parse j).map some

/-- `ActuationRequest.model_validate`.  A mapping has every name once. -/
def ActuationRequest.parse : Json → Except PyError ActuationRequest
  | .obj fields =>
      if hnames : (fields.map Prod.fst).Nodup then do
        Json.readVersion fields
        let correlationId ← Json.readStrWith isValidCorrelationId fields "correlation_id"
        let requester ← Json.readStr fields "requester"
        let targetUnsTopic ← Json.readStrWith isUnsTopic fields "target_uns_topic"
        let requestedValue ← Json.readSignalValue fields "requested_value"
        let valueType ← Json.readSignalValueType fields "value_type"
        let reason ← Json.readStr fields "reason"
        let requestedAt ← readDatetime T fields "requested_at"
        let deadline ← readDeadline T fields
        return {
          correlationId, requester, targetUnsTopic, requestedValue, valueType, reason,
          requestedAt, deadline, extra := extraFields fields
          names_nodup := extraFields_nodup hnames }
      else .error (Json.validationError "")
  | _ => .error (Json.validationError "")

/-- The members of `SignedEvidence`. -/
def evidenceNames : List String :=
  ["schema_version", "purpose", "command_digest", "writer", "issued_at", "signature"]

/-- `SignedEvidence.model_dump(mode="json")`. -/
def SignedEvidence.dumpFields (e : SignedEvidence String String) : List (String × Json) :=
  [("schema_version", .str "1.0"),
    ("purpose", .str e.purpose.name),
    ("command_digest", .str e.commandDigest),
    ("writer", .str e.writer),
    ("issued_at", .str (T.isoformat (.aware e.issuedAt))),
    ("signature", .str e.signature)]

def SignedEvidence.dump (e : SignedEvidence String String) : Json := .obj (e.dumpFields T)

/-- `purpose: Literal["ingress", "approval"]`. -/
def readPurpose (fields : List (String × Json)) : Except PyError Purpose :=
  match Json.member fields "purpose" with
  | some (.str "ingress") => .ok .ingress
  | some (.str "approval") => .ok .approval
  | _ => .error (Json.validationError "purpose")

/-- `SignedEvidence.model_validate`. -/
def SignedEvidence.parse : Json → Except PyError (SignedEvidence String String)
  | .obj fields => do
      Json.forbidExtra fields evidenceNames
      Json.readVersion fields
      let purpose ← readPurpose fields
      let commandDigest ← Json.readStrWith isHexDigest fields "command_digest"
      let writer ← Json.readStr fields "writer"
      let issuedAt ← T.readAware fields "issued_at"
      let signature ← Json.readStrWith isHexDigest fields "signature"
      return ⟨purpose, commandDigest, writer, issuedAt, signature⟩
  | _ => .error (Json.validationError "")

/-- A command with a piece of evidence under a name: the members of
`AuthenticatedRequest` and of `ApprovedWriteRequest`. -/
def dumpWith (name : String) (c : ActuationRequest) (e : SignedEvidence String String) : Json :=
  .obj [("schema_version", .str "1.0"), ("command", c.dump T), (name, e.dump T)]

def parseWith (name : String) :
    Json → Except PyError (ActuationRequest × SignedEvidence String String)
  | .obj fields => do
      Json.forbidExtra fields ["schema_version", "command", name]
      Json.readVersion fields
      match Json.member fields "command", Json.member fields name with
      | some c, some e => do
          let command ← ActuationRequest.parse T c
          let evidence ← SignedEvidence.parse T e
          return (command, evidence)
      | none, _ => throw (Json.validationError "command")
      | some _, none => throw (Json.validationError name)
  | _ => .error (Json.validationError "")

/-- `AuthenticatedRequest.model_dump(mode="json")` and `model_validate`. -/
def AuthenticatedRequest.dump (a : AuthenticatedRequest String String) : Json :=
  dumpWith T "identity" a.command a.identity

def AuthenticatedRequest.parse (j : Json) : Except PyError (AuthenticatedRequest String String) :=
  (parseWith T "identity" j).map fun a => ⟨a.1, a.2⟩

/-- `ApprovedWriteRequest.model_dump(mode="json")` and `model_validate`. -/
def ApprovedWriteRequest.dump (a : ApprovedWriteRequest String String) : Json :=
  dumpWith T "approval" a.command a.approval

def ApprovedWriteRequest.parse (j : Json) : Except PyError (ApprovedWriteRequest String String) :=
  (parseWith T "approval" j).map fun a => ⟨a.1, a.2⟩

/-! ## One passage -/

/-- A command is written and read again: alone, with the identity evidence, or with
the approval. -/
inductive CommandHop (c c' : ActuationRequest) : Prop where
  | bare (j : Json) (hj : Json.Same j (c.dump T)) (h : ActuationRequest.parse T j = .ok c')
  | authenticated (j : Json) (e e' : SignedEvidence String String)
      (hj : Json.Same j (AuthenticatedRequest.dump T ⟨c, e⟩))
      (h : AuthenticatedRequest.parse T j = .ok ⟨c', e'⟩)
  | approved (j : Json) (e e' : SignedEvidence String String)
      (hj : Json.Same j (ApprovedWriteRequest.dump T ⟨c, e⟩))
      (h : ApprovedWriteRequest.parse T j = .ok ⟨c', e'⟩)

/-- A piece of evidence is written and read again: alone, as in the validator's
reply, or next to a command. -/
inductive EvidenceHop (e e' : SignedEvidence String String) : Prop where
  | bare (j : Json) (hj : Json.Same j (e.dump T)) (h : SignedEvidence.parse T j = .ok e')
  | authenticated (j : Json) (c c' : ActuationRequest)
      (hj : Json.Same j (AuthenticatedRequest.dump T ⟨c, e⟩))
      (h : AuthenticatedRequest.parse T j = .ok ⟨c', e'⟩)
  | approved (j : Json) (c c' : ActuationRequest)
      (hj : Json.Same j (ApprovedWriteRequest.dump T ⟨c, e⟩))
      (h : ApprovedWriteRequest.parse T j = .ok ⟨c', e'⟩)

/-- Any number of passages. -/
abbrev CommandHops := Relation.ReflTransGen (CommandHop T)

abbrev EvidenceHops := Relation.ReflTransGen (EvidenceHop T)

/-! ## What a passage keeps -/

/-- Both times of the request carry an offset. -/
structure ActuationRequest.Aware (c : ActuationRequest) : Prop where
  requestedAt : ∃ r, c.requestedAt = .aware r
  deadline : ∃ d, c.deadline = some (.aware d)

variable {T} {c c' : ActuationRequest} {e e' : SignedEvidence String String}

theorem SameCommand.refl (c : ActuationRequest) : SameCommand c c where
  correlationId := rfl
  requester := rfl
  targetUnsTopic := rfl
  requestedValue := rfl
  valueType := rfl
  reason := rfl
  requestedAt := rfl
  deadline := rfl
  extra _ _ := Iff.rfl

theorem SameCommand.symm (h : SameCommand c c') : SameCommand c' c where
  correlationId := h.correlationId.symm
  requester := h.requester.symm
  targetUnsTopic := h.targetUnsTopic.symm
  requestedValue := h.requestedValue.symm
  valueType := h.valueType.symm
  reason := h.reason.symm
  requestedAt := h.requestedAt.symm
  deadline := h.deadline.symm
  extra k v := (h.extra k v).symm

namespace ActuationRequest

theorem dumpFields_names (c : ActuationRequest) :
    (c.dumpFields T).map Prod.fst = declaredNames ++ c.extra.map Prod.fst := by
  simp [dumpFields, declaredNames]

theorem dumpFields_nodup (c : ActuationRequest) : ((c.dumpFields T).map Prod.fst).Nodup := by
  rw [dumpFields_names]
  exact c.names_nodup

/-- The extra members of a received object are the ones that were written. -/
theorem extraFields_perm {fs : List (String × Json)}
    (hperm : (fs.map normal).Perm ((c.dumpFields T).map normal)) :
    ((extraFields fs).map normal).Perm (c.extra.map normal) := by
  have hfilter (gs : List (String × Json)) : (extraFields gs).map normal =
      (gs.map normal).filter fun f => f.1 ∉ declaredNames := by
    rw [List.filter_map]
    rfl
  have hextra : extraFields (c.dumpFields T) = c.extra := by
    have hdisjoint := (List.nodup_append.1 c.names_nodup).2.2
    rw [extraFields, dumpFields, List.filter_append]
    have hdeclared (v : List (String × Json)) (hv : v.map Prod.fst = declaredNames) :
        v.filter (fun f => f.1 ∉ declaredNames) = [] := by
      rw [List.filter_eq_nil_iff]
      intro f hf
      have hmem : f.1 ∈ declaredNames := hv ▸ List.mem_map_of_mem hf
      simpa using hmem
    rw [hdeclared _ rfl, List.nil_append, List.filter_eq_self]
    intro f hf
    have hnot : f.1 ∉ declaredNames :=
      fun h => hdisjoint f.1 h f.1 (List.mem_map_of_mem hf) rfl
    simpa using hnot
  rw [hfilter, ← hextra, hfilter]
  exact hperm.filter _

/-- **A request is read as it was written**, up to the order of its extra members and
the spelling of its times. -/
theorem parse_of_same (hT : T.KeepsInstants) (hc : c.Valid) (ha : c.Aware) {j : Json}
    (hj : Json.Same j (c.dump T)) :
    ∃ c', parse T j = .ok c' ∧ c'.Valid ∧ c'.Aware ∧ SameCommand c c' := by
  obtain ⟨fs, rfl, hperm⟩ := Json.same_obj hj
  have hnodup : (fs.map Prod.fst).Nodup :=
    (Json.names_perm hperm).nodup_iff.2 c.dumpFields_nodup
  have readText {name s : String} (hmem : (name, Json.str s) ∈ c.dumpFields T) :
      Json.member fs name = some (.str s) :=
    Json.member_str_of_same hperm c.dumpFields_nodup hmem
  obtain ⟨r, hr⟩ := ha.requestedAt
  obtain ⟨d, hd⟩ := ha.deadline
  obtain ⟨r', hr', hri⟩ := hT r
  obtain ⟨d', hd', hdi⟩ := hT d
  have hversion : Json.member fs "schema_version" = some (.str "1.0") :=
    readText (by simp [dumpFields])
  have hcorrelation : Json.member fs "correlation_id" = some (.str c.correlationId) :=
    readText (by simp [dumpFields])
  have hrequester : Json.member fs "requester" = some (.str c.requester) :=
    readText (by simp [dumpFields])
  have htopic : Json.member fs "target_uns_topic" = some (.str c.targetUnsTopic) :=
    readText (by simp [dumpFields])
  have htype : Json.member fs "value_type" = some (.str c.valueType.name) :=
    readText (by simp [dumpFields])
  have hreason : Json.member fs "reason" = some (.str c.reason) :=
    readText (by simp [dumpFields])
  have hrequestedAt : Json.member fs "requested_at" =
      some (.str (T.isoformat (.aware r))) :=
    readText (by simp [dumpFields, hr])
  have hdeadline : Json.member fs "deadline" = some (.str (T.isoformat (.aware d))) :=
    readText (by simp [dumpFields, dumpDeadline, hd])
  have hvalue : Json.member fs "requested_value" = some (.ofSignalValue c.requestedValue) := by
    have hmem : ("requested_value", .ofSignalValue c.requestedValue) ∈ c.dumpFields T := by
      simp [dumpFields]
    obtain ⟨w, hw, hsame⟩ := Json.member_of_same hperm c.dumpFields_nodup hmem
    rw [hw, Json.same_ofSignalValue.1 hsame]
  have hparse : parse T (.obj fs) = .ok
      { c with
        requestedAt := .aware r', deadline := some (.aware d'), extra := extraFields fs
        names_nodup := extraFields_nodup hnodup } := by
    simp [parse, hnodup, Json.readVersion, Json.readStr, readDatetime, readDeadline, hversion,
      Json.readStrWith_eq_ok.2 ⟨hcorrelation, hc.correlationId⟩, hrequester,
      Json.readStrWith_eq_ok.2 ⟨htopic, hc.targetUnsTopic⟩, hreason, hrequestedAt, hdeadline,
      Json.readSignalValue_ofSignalValue hvalue, Json.readSignalValueType_name htype, hr', hd',
      bind, Except.bind, pure, Except.pure, Except.map]
  refine ⟨_, hparse, ⟨hc.correlationId, hc.targetUnsTopic⟩, ⟨⟨r', rfl⟩, ⟨d', rfl⟩⟩, ?_⟩
  constructor
  · rfl
  · rfl
  · rfl
  · rfl
  · rfl
  · rfl
  · rw [hr]
    exact congrArg some hri.symm
  · rw [hd]
    exact congrArg some hdi.symm
  · exact fun k v => (extraFields_perm hperm).mem_iff.symm

/-- What was read once satisfies the validators. -/
theorem valid_of_parse {j : Json} (h : parse T j = .ok c) : c.Valid := by
  unfold parse at h
  split at h
  · split at h
    · obtain ⟨-, -, h⟩ := bind_eq_ok.1 h
      obtain ⟨correlationId, hcorrelation, h⟩ := bind_eq_ok.1 h
      obtain ⟨requester, -, h⟩ := bind_eq_ok.1 h
      obtain ⟨topic, htopic, h⟩ := bind_eq_ok.1 h
      obtain ⟨value, -, h⟩ := bind_eq_ok.1 h
      obtain ⟨valueType, -, h⟩ := bind_eq_ok.1 h
      obtain ⟨reason, -, h⟩ := bind_eq_ok.1 h
      obtain ⟨requestedAt, -, h⟩ := bind_eq_ok.1 h
      obtain ⟨deadline, -, h⟩ := bind_eq_ok.1 h
      rw [← Except.ok.inj h]
      exact ⟨(Json.readStrWith_eq_ok.1 hcorrelation).2, (Json.readStrWith_eq_ok.1 htopic).2⟩
    · cases h
  · cases h

end ActuationRequest

/-- Two spellings of one piece of evidence. -/
structure SameEvidence (e e' : SignedEvidence String String) : Prop where
  purpose : e.purpose = e'.purpose
  commandDigest : e.commandDigest = e'.commandDigest
  writer : e.writer = e'.writer
  issuedAt : e.issuedAt.instantMicros = e'.issuedAt.instantMicros
  signature : e.signature = e'.signature

theorem SameEvidence.refl (e : SignedEvidence String String) : SameEvidence e e :=
  ⟨rfl, rfl, rfl, rfl, rfl⟩

theorem SameEvidence.trans {e'' : SignedEvidence String String} (h : SameEvidence e e')
    (h' : SameEvidence e' e'') : SameEvidence e e'' where
  purpose := h.purpose.trans h'.purpose
  commandDigest := h.commandDigest.trans h'.commandDigest
  writer := h.writer.trans h'.writer
  issuedAt := h.issuedAt.trans h'.issuedAt
  signature := h.signature.trans h'.signature

/-- **Evidence is read as it was written**, up to the spelling of its time. -/
theorem SignedEvidence.parse_of_same (hT : T.KeepsInstants) (he : e.Valid) {j : Json}
    (hj : Json.Same j (e.dump T)) :
    ∃ e', SignedEvidence.parse T j = .ok e' ∧ e'.Valid ∧ SameEvidence e e' := by
  obtain ⟨fs, rfl, hperm⟩ := Json.same_obj hj
  have hnodup : ((e.dumpFields T).map Prod.fst).Nodup := by
    show evidenceNames.Nodup
    decide
  have readText {name s : String} (hmem : (name, Json.str s) ∈ e.dumpFields T) :
      Json.member fs name = some (.str s) :=
    Json.member_str_of_same hperm hnodup hmem
  obtain ⟨d, hd, hinstant⟩ := hT e.issuedAt
  have hversion : Json.member fs "schema_version" = some (.str "1.0") :=
    readText (by simp [dumpFields])
  have hdigest : Json.member fs "command_digest" = some (.str e.commandDigest) :=
    readText (by simp [dumpFields])
  have hwriter : Json.member fs "writer" = some (.str e.writer) :=
    readText (by simp [dumpFields])
  have hissued : Json.member fs "issued_at" = some (.str (T.isoformat (.aware e.issuedAt))) :=
    readText (by simp [dumpFields])
  have hsignature : Json.member fs "signature" = some (.str e.signature) :=
    readText (by simp [dumpFields])
  have hpurpose : readPurpose fs = .ok e.purpose := by
    have hmem : Json.member fs "purpose" = some (.str e.purpose.name) :=
      readText (by simp [dumpFields])
    cases hp : e.purpose <;> simp [readPurpose, hmem, hp, Purpose.name]
  have hnames : Json.forbidExtra fs evidenceNames = .ok () := by
    rw [Json.forbidExtra_eq_ok]
    exact fun k hk => (Json.names_perm hperm).mem_iff.1 hk
  have hparse : parse T (.obj fs) = .ok { e with issuedAt := d } := by
    simp [parse, hnames, Json.readVersion, hversion, hpurpose, Json.readStr, hwriter,
      Json.readStrWith_eq_ok.2 ⟨hdigest, he.commandDigest⟩,
      Json.readStrWith_eq_ok.2 ⟨hsignature, he.signature⟩, DatetimeText.readAware, hissued, hd,
      bind, Except.bind, pure, Except.pure]
  exact ⟨_, hparse, ⟨he.commandDigest, he.signature⟩, ⟨rfl, rfl, rfl, hinstant.symm, rfl⟩⟩

/-! ## Wrapped commands -/

/-- The parts of a received pair are received parts. -/
theorem parts_of_parseWith {name : String}
    (hname : ["schema_version", "command", name].Nodup) {j : Json}
    (hj : Json.Same j (dumpWith T name c e)) (h : parseWith T name j = .ok (c', e')) :
    (∃ k, Json.Same k (c.dump T) ∧ ActuationRequest.parse T k = .ok c') ∧
      ∃ k, Json.Same k (e.dump T) ∧ SignedEvidence.parse T k = .ok e' := by
  obtain ⟨fs, rfl, hperm⟩ := Json.same_obj hj
  let gs : List (String × Json) :=
    [("schema_version", .str "1.0"), ("command", c.dump T), (name, e.dump T)]
  have hnodup : (gs.map Prod.fst).Nodup := hname
  have hcommand : ("command", c.dump T) ∈ gs := by simp [gs]
  have hevidence : (name, e.dump T) ∈ gs := by simp [gs]
  obtain ⟨v, hv, hvsame⟩ := Json.member_of_same hperm hnodup hcommand
  obtain ⟨w, hw, hwsame⟩ := Json.member_of_same hperm hnodup hevidence
  obtain ⟨-, -, h⟩ := bind_eq_ok.1 h
  obtain ⟨-, -, h⟩ := bind_eq_ok.1 h
  rw [hv, hw] at h
  obtain ⟨command, hcommand, h⟩ := bind_eq_ok.1 h
  obtain ⟨evidence, hevidence, h⟩ := bind_eq_ok.1 h
  obtain ⟨rfl, rfl⟩ := Prod.mk.inj (Except.ok.inj h)
  exact ⟨⟨v, hvsame, hcommand⟩, ⟨w, hwsame, hevidence⟩⟩

theorem AuthenticatedRequest.parts_of_parse {j : Json} (hj : Json.Same j (dump T ⟨c, e⟩))
    (h : parse T j = .ok ⟨c', e'⟩) :
    (∃ k, Json.Same k (c.dump T) ∧ ActuationRequest.parse T k = .ok c') ∧
      ∃ k, Json.Same k (e.dump T) ∧ SignedEvidence.parse T k = .ok e' := by
  obtain ⟨⟨command, evidence⟩, hparse, heq⟩ := map_eq_ok.1 h
  obtain ⟨rfl, rfl⟩ := AuthenticatedRequest.mk.inj heq
  exact parts_of_parseWith (by decide) hj hparse

theorem ApprovedWriteRequest.parts_of_parse {j : Json} (hj : Json.Same j (dump T ⟨c, e⟩))
    (h : parse T j = .ok ⟨c', e'⟩) :
    (∃ k, Json.Same k (c.dump T) ∧ ActuationRequest.parse T k = .ok c') ∧
      ∃ k, Json.Same k (e.dump T) ∧ SignedEvidence.parse T k = .ok e' := by
  obtain ⟨⟨command, evidence⟩, hparse, heq⟩ := map_eq_ok.1 h
  obtain ⟨rfl, rfl⟩ := ApprovedWriteRequest.mk.inj heq
  exact parts_of_parseWith (by decide) hj hparse

/-! ## Every passage -/

/-- A passage keeps a command. -/
theorem CommandHop.same (hT : T.KeepsInstants) (hc : c.Valid) (ha : c.Aware)
    (h : CommandHop T c c') : c'.Valid ∧ c'.Aware ∧ SameCommand c c' := by
  have hread (k : Json) (hk : Json.Same k (c.dump T))
      (hparse : ActuationRequest.parse T k = .ok c') :
      c'.Valid ∧ c'.Aware ∧ SameCommand c c' := by
    obtain ⟨d, hd, hvalid, haware, hsame⟩ := ActuationRequest.parse_of_same hT hc ha hk
    obtain rfl : d = c' := Except.ok.inj (hd.symm.trans hparse)
    exact ⟨hvalid, haware, hsame⟩
  cases h with
  | bare j hj h => exact hread j hj h
  | authenticated j e e' hj h =>
      obtain ⟨⟨k, hk, hparse⟩, -⟩ := AuthenticatedRequest.parts_of_parse hj h
      exact hread k hk hparse
  | approved j e e' hj h =>
      obtain ⟨⟨k, hk, hparse⟩, -⟩ := ApprovedWriteRequest.parts_of_parse hj h
      exact hread k hk hparse

/-- A passage keeps evidence. -/
theorem EvidenceHop.same (hT : T.KeepsInstants) (he : e.Valid) (h : EvidenceHop T e e') :
    e'.Valid ∧ SameEvidence e e' := by
  have hread (k : Json) (hk : Json.Same k (e.dump T))
      (hparse : SignedEvidence.parse T k = .ok e') : e'.Valid ∧ SameEvidence e e' := by
    obtain ⟨d, hd, hvalid, hsame⟩ := SignedEvidence.parse_of_same hT he hk
    obtain rfl : d = e' := Except.ok.inj (hd.symm.trans hparse)
    exact ⟨hvalid, hsame⟩
  cases h with
  | bare j hj h => exact hread j hj h
  | authenticated j c c' hj h =>
      obtain ⟨-, k, hk, hparse⟩ := AuthenticatedRequest.parts_of_parse hj h
      exact hread k hk hparse
  | approved j c c' hj h =>
      obtain ⟨-, k, hk, hparse⟩ := ApprovedWriteRequest.parts_of_parse hj h
      exact hread k hk hparse

theorem CommandHops.same (hT : T.KeepsInstants) (hc : c.Valid) (ha : c.Aware)
    (h : CommandHops T c c') : c'.Valid ∧ c'.Aware ∧ SameCommand c c' := by
  induction h with
  | refl => exact ⟨hc, ha, SameCommand.refl c⟩
  | tail _ hop ih =>
      obtain ⟨hvalid, haware, hsame⟩ := ih
      obtain ⟨hvalid', haware', hsame'⟩ := hop.same hT hvalid haware
      exact ⟨hvalid', haware', hsame.trans hsame'⟩

theorem EvidenceHops.same (hT : T.KeepsInstants) (he : e.Valid) (h : EvidenceHops T e e') :
    e'.Valid ∧ SameEvidence e e' := by
  induction h with
  | refl => exact ⟨he, SameEvidence.refl e⟩
  | tail _ hop ih =>
      obtain ⟨hvalid', hsame'⟩ := hop.same hT ih.1
      exact ⟨hvalid', ih.2.trans hsame'⟩

end EirvahEdge.Contracts
