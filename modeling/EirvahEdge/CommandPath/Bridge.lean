import EirvahEdge.CommandPath.Encoding
import EirvahEdge.Contracts.Replies

/-!
# Messages at the bridge

`AmqpSubscriberRuntime.run` takes one AMQP message after the other.  It builds the
envelope of the command, journals the command, publishes the envelope and acknowledges
the message.  A `ValueError` or a `TypeError` while the envelope is built means that
the message is refused for good; after any other exception, there or later, the message
goes back to the queue.

`handleMessage` collects the calls that are made on the message.  A call to the outside
may raise (`CallFaults`), the JSON reader of the models is the parameter `loads`, and
the clock that stamps a signature shows a `datetime` in UTC (`UtcClock`).

`BuildCase` says once how building an envelope can go and which messages it goes that
way for.  Moving a time to UTC is the one step with an exception of another class: it
raises an `OverflowError` for a time whose instant lies outside the years 1 to 9999.

## Main results

* `buildEnvelope_cases`: every message is refused, overflows, or is forwarded;
* `noPoison_iff`: when no message comes back for good.
-/

namespace EirvahEdge.CommandPath

open EirvahEdge.Lib
open EirvahEdge.Contracts

/-! ## Building the envelope -/

/-- What `current_time` reads: an instant of the years 1 to 9999. -/
structure UtcClock where
  micros : ℤ
  lower : AwareDatetime.minMicros ≤ micros
  upper : micros ≤ AwareDatetime.maxMicros

def UtcClock.now (t : UtcClock) : AwareDatetime := .ofMicros t.micros

/-- `isinstance(exc, (ValueError, TypeError))`; a `ValidationError` is a
`ValueError`. -/
def isRefusal (e : PyError) : Bool :=
  match e.kind with
  | .valueError | .typeError => true
  | .other name => name == "ValidationError"
  | _ => false

/-- `ActuationRequest.model_validate_json`. -/
def readBody (T : DatetimeText) (loads : List UInt8 → Option Json) (body : List UInt8) :
    Except PyError ActuationRequest :=
  match loads body with
  | none => .error (Json.validationError "")
  | some j => ActuationRequest.parse T j

/-- `NATSEnvelope(correlation_id=..., payload=...)`. -/
def commandEnvelope (T : DatetimeText) (request : AuthenticatedRequest String String) :
    Except PyError NATSEnvelope :=
  if isValidCorrelationId request.command.correlationId then
    .ok { correlationId := request.command.correlationId, payload := some (request.dump T) }
  else .error (Json.validationError "correlation_id")

/-- `build_nats_envelope` on the bytes of a message. -/
def buildEnvelope (K : Crypto String String) (T : DatetimeText)
    (loads : List UInt8 → Option Json) (ingressKey : String) (body : List UInt8)
    (userId : Option String) (issuedAt now : UtcClock) : Except PyError NATSEnvelope := do
  let request ← buildNatsEnvelope K ingressKey (readBody T loads body) userId issuedAt.now now.now
  commandEnvelope T request

/-! ## The message loop -/

/-- A call on an AMQP message: `reject(requeue=False)`, `ack()` or
`nack(requeue=True)`. -/
inductive MessageCall where
  | reject
  | ack
  | nack
deriving DecidableEq, Repr

/-- The exceptions of the calls to the outside, where one raises. -/
structure CallFaults where
  reject : Option PyError := none
  journal : Option PyError := none
  publish : Option PyError := none
  ack : Option PyError := none

/-- After the envelope is built. -/
def forward (T : DatetimeText) (faults : CallFaults) (envelope : NATSEnvelope) :
    List MessageCall :=
  match AuthenticatedRequest.parse T (envelope.payload.getD .null) with
  | .error _ => [.nack]
  | .ok _ =>
      match faults.journal, faults.publish, faults.ack with
      | some _, _, _ => [.nack]
      | none, some _, _ => [.nack]
      | none, none, some _ => [.ack, .nack]
      | none, none, none => [.ack]

/-- The calls that one message gets. -/
def handleMessage (T : DatetimeText) (faults : CallFaults) :
    Except PyError NATSEnvelope → List MessageCall
  | .error e =>
      if isRefusal e then
        match faults.reject with
        | none => [.reject]
        | some _ => [.reject, .nack]
      else [.nack]
  | .ok envelope => forward T faults envelope

/-- A message whose envelope cannot be built is rejected and does not go back to the
queue; one that goes back to the queue had an envelope, and the journal, the publish or
the acknowledgement failed. -/
def NoPoison (T : DatetimeText) (faults : CallFaults) (built : Except PyError NATSEnvelope) :
    Prop :=
  (∀ e, built = .error e →
    .reject ∈ handleMessage T faults built ∧ .nack ∉ handleMessage T faults built) ∧
  (.nack ∈ handleMessage T faults built →
    (∃ envelope, built = .ok envelope) ∧
      (faults.journal.isSome ∨ faults.publish.isSome ∨ faults.ack.isSome))

/-! ## Which messages -/

/-- Neither the value nor an extra member of the command holds a NaN or an infinity. -/
def finiteMembers (c : ActuationRequest) : Bool :=
  Json.allFinite (.ofSignalValue c.requestedValue) && Json.allFiniteFields c.extra

/-- The instant of a time lies in the years 1 to 9999. -/
def InUtcRange (d : AwareDatetime) : Prop :=
  AwareDatetime.minMicros ≤ d.instantMicros ∧ d.instantMicros ≤ AwareDatetime.maxMicros

section Messages

variable (T : DatetimeText) (loads : List UInt8 → Option Json) (body : List UInt8)
  (userId : Option String)

/-- A message that comes from a command publisher and holds a command whose two times
carry an offset. -/
structure TimedCommand (user : String) (c : ActuationRequest) (d r : AwareDatetime) :
    Prop where
  userId : userId = some user
  publisher : user ∈ commandPublishers
  body : readBody T loads body = .ok c
  deadline : c.deadline = some (.aware d)
  requestedAt : c.requestedAt = .aware r

/-- Where both times carry an offset, both can be moved to UTC. -/
def TimesInRange : Prop :=
  ∀ user c d r, TimedCommand T loads body userId user c d r → InUtcRange d ∧ InUtcRange r

/-- The messages the bridge can sign. -/
def Admissible (ingressKey : String) : Prop :=
  ∃ user c d r, TimedCommand T loads body userId user c d r ∧ finiteMembers c = true ∧
    32 ≤ ingressKey.utf8ByteSize

end Messages

/-- The exceptions of the `datetime` reader are those of the models. -/
def RaisesValidation (T : DatetimeText) : Prop :=
  ∀ j e, T.parse j = .error e → e.kind = .other "ValidationError"

/-! ## What reading a body raises -/

theorem isRefusal_validationError (field : String) :
    isRefusal (Json.validationError field) = true := rfl

section Readers

variable {fields : List (String × Json)} {name : String} {e : PyError}

theorem readStr_error (h : Json.readStr fields name = .error e) : isRefusal e = true := by
  unfold Json.readStr at h
  split at h
  · cases h
  · rw [← Except.error.inj h, isRefusal_validationError]

theorem readStrWith_error {check : String → Bool}
    (h : Json.readStrWith check fields name = .error e) : isRefusal e = true := by
  unfold Json.readStrWith at h
  split at h
  · split at h
    · cases h
    · rw [← Except.error.inj h, isRefusal_validationError]
  · rw [← Except.error.inj h, isRefusal_validationError]

theorem readVersion_error (h : Json.readVersion fields = .error e) : isRefusal e = true := by
  unfold Json.readVersion at h
  split at h
  · cases h
  · cases h
  · rw [← Except.error.inj h, isRefusal_validationError]

theorem readSignalValue_error (h : Json.readSignalValue fields name = .error e) :
    isRefusal e = true := by
  unfold Json.readSignalValue at h
  split at h
  · cases h
  · cases h
  · cases h
  · cases h
  · rw [← Except.error.inj h, isRefusal_validationError]

theorem readSignalValueType_error (h : Json.readSignalValueType fields name = .error e) :
    isRefusal e = true := by
  unfold Json.readSignalValueType at h
  split at h
  · cases h
  · cases h
  · cases h
  · cases h
  · rw [← Except.error.inj h, isRefusal_validationError]

variable {T : DatetimeText} (hT : RaisesValidation T)
include hT

theorem parseDatetime_error {j : Json} (h : T.parse j = .error e) : isRefusal e = true := by
  have hkind := hT j e h
  simp [isRefusal, hkind]

theorem readDatetime_error (h : readDatetime T fields name = .error e) :
    isRefusal e = true := by
  unfold readDatetime at h
  split at h
  · rw [← Except.error.inj h, isRefusal_validationError]
  · exact parseDatetime_error hT h

theorem readDeadline_error (h : readDeadline T fields = .error e) : isRefusal e = true := by
  unfold readDeadline at h
  split at h
  · cases h
  · cases h
  · exact parseDatetime_error hT (map_eq_error.1 h)

/-- A body that is no request is refused, -/
theorem parseRequest_error {j : Json} (h : ActuationRequest.parse T j = .error e) :
    isRefusal e = true := by
  unfold ActuationRequest.parse at h
  split at h
  · split at h
    · rcases bind_eq_error.1 h with h | ⟨_, -, h⟩
      · exact readVersion_error h
      rcases bind_eq_error.1 h with h | ⟨_, -, h⟩
      · exact readStrWith_error h
      rcases bind_eq_error.1 h with h | ⟨_, -, h⟩
      · exact readStr_error h
      rcases bind_eq_error.1 h with h | ⟨_, -, h⟩
      · exact readStrWith_error h
      rcases bind_eq_error.1 h with h | ⟨_, -, h⟩
      · exact readSignalValue_error h
      rcases bind_eq_error.1 h with h | ⟨_, -, h⟩
      · exact readSignalValueType_error h
      rcases bind_eq_error.1 h with h | ⟨_, -, h⟩
      · exact readStr_error h
      rcases bind_eq_error.1 h with h | ⟨_, -, h⟩
      · exact readDatetime_error hT h
      rcases bind_eq_error.1 h with h | ⟨_, -, h⟩
      · exact readDeadline_error hT h
      · cases h
    · rw [← Except.error.inj h, isRefusal_validationError]
  · rw [← Except.error.inj h, isRefusal_validationError]

/-- and so are bytes that are no JSON. -/
theorem readBody_error {loads : List UInt8 → Option Json} {body : List UInt8}
    (h : readBody T loads body = .error e) : isRefusal e = true := by
  unfold readBody at h
  split at h
  · rw [← Except.error.inj h, isRefusal_validationError]
  · exact parseRequest_error hT h

end Readers

/-! ## What signing raises -/

theorem astimezoneUtc_of_range {d : AwareDatetime} (h : InUtcRange d) :
    d.astimezoneUtc = .ok (.ofMicros d.instantMicros) := if_pos h

theorem astimezoneUtc_of_not_range {d : AwareDatetime} (h : ¬InUtcRange d) :
    d.astimezoneUtc = .error ⟨.overflowError, "date value out of range"⟩ := if_neg h

theorem UtcClock.inUtcRange (t : UtcClock) : InUtcRange t.now := by
  rw [InUtcRange, UtcClock.now, AwareDatetime.instantMicros_ofMicros]
  exact ⟨t.lower, t.upper⟩

/-- Only the value and the extra members can hold a float. -/
theorem allFinite_digestFields (c : ActuationRequest) (r d : AwareDatetime) :
    (Json.obj (digestFields c r d)).allFinite = finiteMembers c := by
  simp only [digestFields, Json.allFinite, finiteMembers, Json.allFiniteFields_eq_all,
    List.all_append, List.all_cons, List.all_nil, Bool.true_and, Bool.and_true]

section Signing

variable {K : Crypto String String} {c : ActuationRequest} {d r : AwareDatetime}
  (hd : c.deadline = some (.aware d)) (hr : c.requestedAt = .aware r)
include hd hr

/-- Both times are moved to UTC, the deadline first; then the text is refused if it
would hold a NaN or an infinity. -/
theorem digestInput_of_aware : digestInput c =
    (do
      let deadline ← d.astimezoneUtc
      let requestedAt ← r.astimezoneUtc
      if finiteMembers c then .ok (Json.obj (digestFields c requestedAt deadline)).sortKeys
      else .error (valueError "Out of range float values are not JSON compliant")) := by
  simp only [digestInput, hd, hr, Option.bind_some, Datetime.aware?, allFinite_digestFields]

theorem commandDigest_overflow (h : ¬(InUtcRange d ∧ InUtcRange r)) :
    commandDigest K c = .error ⟨.overflowError, "date value out of range"⟩ := by
  rw [commandDigest, digestInput_of_aware hd hr]
  by_cases hdeadline : InUtcRange d
  · have hrequested : ¬InUtcRange r := fun hrange => h ⟨hdeadline, hrange⟩
    rw [astimezoneUtc_of_range hdeadline, astimezoneUtc_of_not_range hrequested]
    rfl
  · rw [astimezoneUtc_of_not_range hdeadline]
    rfl

theorem commandDigest_of_range (hrange : InUtcRange d ∧ InUtcRange r) :
    if finiteMembers c then ∃ digest, commandDigest K c = .ok digest
    else ∃ e, commandDigest K c = .error e ∧ isRefusal e = true := by
  rw [commandDigest, digestInput_of_aware hd hr, astimezoneUtc_of_range hrange.1,
    astimezoneUtc_of_range hrange.2]
  by_cases hfinite : finiteMembers c = true
  · simp only [hfinite, if_true]
    exact ⟨_, rfl⟩
  · simp only [hfinite, Bool.false_eq_true, if_false]
    exact ⟨_, rfl, rfl⟩

end Signing

/-- The ingress signature of a command that has a digest only depends on the key. -/
theorem signIngress_of_digest {K : Crypto String String} {c : ActuationRequest}
    {d : AwareDatetime} (hd : c.deadline = some (.aware d)) {digest : String}
    (hdigest : commandDigest K c = .ok digest) (ingressKey : String) (issuedAt now : UtcClock) :
    if 32 ≤ ingressKey.utf8ByteSize then
      ∃ identity, signIngress K c ingressKey issuedAt.now now.now true = .ok identity
    else
      ∃ e, signIngress K c ingressKey issuedAt.now now.now true = .error e ∧
        isRefusal e = true := by
  unfold signIngress sign
  rw [hdigest, hd, astimezoneUtc_of_range issuedAt.inUtcRange]
  by_cases hkey : 32 ≤ ingressKey.utf8ByteSize
  · have hrequire : requireKey ingressKey = .ok ingressKey := if_neg (by omega)
    rw [if_pos hkey, hrequire]
    exact ⟨_, rfl⟩
  · have hrequire : requireKey ingressKey = .error
        (valueError "actuation authentication key must contain at least 32 bytes") :=
      if_pos (by omega)
    rw [if_neg hkey, hrequire]
    exact ⟨_, rfl, rfl⟩

/-! ## How building goes -/

/-- The payload that the bridge wrote is read again. -/
theorem parse_dump {T : DatetimeText} (hT : T.KeepsInstants)
    {request : AuthenticatedRequest String String} (hc : request.command.Valid)
    (ha : request.command.Aware) (he : request.identity.Valid) :
    ∃ admitted, AuthenticatedRequest.parse T (request.dump T) = .ok admitted := by
  obtain ⟨command, hcommand, -⟩ := ActuationRequest.parse_of_same hT hc ha (Json.Same.refl _)
  obtain ⟨identity, hidentity, -⟩ := SignedEvidence.parse_of_same hT he (Json.Same.refl _)
  refine ⟨⟨command, identity⟩, ?_⟩
  have hnames : Json.forbidExtra [("schema_version", .str "1.0"),
      ("command", request.command.dump T), ("identity", request.identity.dump T)]
      ["schema_version", "command", "identity"] = .ok () := by
    rw [Json.forbidExtra_eq_ok]
    intro k hk
    exact hk
  simp [AuthenticatedRequest.parse, AuthenticatedRequest.dump, parseWith, dumpWith, hnames,
    Json.readVersion, Json.member, hcommand, hidentity, bind, Except.bind, pure, Except.pure,
    Except.map]

section Cases

variable {K : Crypto String String} {T : DatetimeText} {loads : List UInt8 → Option Json}
  {ingressKey : String} {body : List UInt8} {userId : Option String} {issuedAt now : UtcClock}

theorem TimedCommand.unique {user user' : String} {c c' : ActuationRequest}
    {d d' r r' : AwareDatetime} (h : TimedCommand T loads body userId user c d r)
    (h' : TimedCommand T loads body userId user' c' d' r') : c = c' ∧ d = d' ∧ r = r' := by
  obtain rfl : c = c' := Except.ok.inj (h.body.symm.trans h'.body)
  have hd : some (Datetime.aware d) = some (.aware d') := h.deadline.symm.trans h'.deadline
  have hr : Datetime.aware r = .aware r' := h.requestedAt.symm.trans h'.requestedAt
  exact ⟨rfl, Datetime.aware.inj (Option.some.inj hd), Datetime.aware.inj hr⟩

/-- How building an envelope can go, and for which messages. -/
inductive BuildCase (T : DatetimeText) (loads : List UInt8 → Option Json) (ingressKey : String)
    (body : List UInt8) (userId : Option String) : Except PyError NATSEnvelope → Prop where
  | refused (e : PyError) (refusal : isRefusal e = true)
      (times : TimesInRange T loads body userId)
      (inadmissible : ¬Admissible T loads body userId ingressKey) :
      BuildCase T loads ingressKey body userId (.error e)
  | overflows (e : PyError) (noRefusal : isRefusal e = false)
      (times : ¬TimesInRange T loads body userId) :
      BuildCase T loads ingressKey body userId (.error e)
  | built (envelope : NATSEnvelope) (admitted : AuthenticatedRequest String String)
      (read : AuthenticatedRequest.parse T (envelope.payload.getD .null) = .ok admitted)
      (times : TimesInRange T loads body userId)
      (admissible : Admissible T loads body userId ingressKey) :
      BuildCase T loads ingressKey body userId (.ok envelope)

/-- A message without a command publisher, without a command or without offsets is
refused. -/
theorem buildEnvelope_untimed (hT : RaisesValidation T)
    (h : ∀ user c d r, ¬TimedCommand T loads body userId user c d r) :
    ∃ e, buildEnvelope K T loads ingressKey body userId issuedAt now = .error e ∧
      isRefusal e = true := by
  unfold buildEnvelope buildNatsEnvelope
  cases huser : userId with
  | none => exact ⟨_, rfl, rfl⟩
  | some user =>
      by_cases hpublisher : user ∈ commandPublishers
      · simp only [hpublisher, not_true_eq_false, if_false]
        cases hbody : readBody T loads body with
        | error e => exact ⟨e, rfl, readBody_error hT hbody⟩
        | ok c =>
            have hdigest : ∃ e, commandDigest K (withRequester c user) = .error e ∧
                isRefusal e = true := by
              unfold commandDigest digestInput
              cases hd : (withRequester c user).deadline.bind Datetime.aware? with
              | none => exact ⟨_, rfl, rfl⟩
              | some d =>
                  cases hr : (withRequester c user).requestedAt.aware? with
                  | none => exact ⟨_, rfl, rfl⟩
                  | some r =>
                      obtain ⟨deadline, hdeadline, haware⟩ := Option.bind_eq_some_iff.1 hd
                      have hd' : c.deadline = some (.aware d) := by
                        cases deadline with
                        | aware d' => rw [← Option.some.inj haware]; exact hdeadline
                        | naive micros => cases haware
                      have hr' : c.requestedAt = .aware r := by
                        change c.requestedAt.aware? = some r at hr
                        cases hat : c.requestedAt with
                        | aware r' => rw [hat] at hr; rw [← Option.some.inj hr]
                        | naive micros => rw [hat] at hr; cases hr
                      exact absurd ⟨huser, hpublisher, hbody, hd', hr'⟩ (h user c d r)
            obtain ⟨e, he, hrefusal⟩ := hdigest
            refine ⟨e, ?_, hrefusal⟩
            show (do
              let request ← (do
                let identity ← signIngress K (withRequester c user) ingressKey issuedAt.now
                  now.now true
                pure (⟨withRequester c user, identity⟩ : AuthenticatedRequest String String))
              commandEnvelope T request) = .error e
            rw [signIngress, sign, he]
            rfl
      · simp only [hpublisher, not_false_eq_true, if_true]
        exact ⟨_, rfl, rfl⟩

/-- The rest of a message is in signing its command. -/
theorem buildEnvelope_timed {user : String} {c : ActuationRequest} {d r : AwareDatetime}
    (h : TimedCommand T loads body userId user c d r) :
    buildEnvelope K T loads ingressKey body userId issuedAt now = (do
      let identity ← signIngress K (withRequester c user) ingressKey issuedAt.now now.now true
      commandEnvelope T ⟨withRequester c user, identity⟩) := by
  unfold buildEnvelope buildNatsEnvelope
  rw [h.userId, h.body]
  simp only [h.publisher, not_true_eq_false, if_false, bind, Except.bind, pure, Except.pure]
  cases hsign : signIngress K (withRequester c user) ingressKey issuedAt.now now.now true with
  | error e => rfl
  | ok identity => rfl

/-- Every message is refused, overflows, or is forwarded. -/
theorem buildEnvelope_cases (hK : HexDigests K) (hkeeps : T.KeepsInstants)
    (hraises : RaisesValidation T) :
    BuildCase T loads ingressKey body userId
      (buildEnvelope K T loads ingressKey body userId issuedAt now) := by
  by_cases htimed : ∃ user c d r, TimedCommand T loads body userId user c d r
  · obtain ⟨user, c, d, r, h⟩ := htimed
    have hd : (withRequester c user).deadline = some (.aware d) := h.deadline
    have hr : (withRequester c user).requestedAt = .aware r := h.requestedAt
    have htimes : TimesInRange T loads body userId ↔ InUtcRange d ∧ InUtcRange r := by
      constructor
      · exact fun ht => ht user c d r h
      · intro hrange user' c' d' r' h'
        obtain ⟨-, rfl, rfl⟩ := h.unique h'
        exact hrange
    have hadmissible : Admissible T loads body userId ingressKey ↔
        finiteMembers c = true ∧ 32 ≤ ingressKey.utf8ByteSize := by
      constructor
      · rintro ⟨user', c', d', r', h', hfinite, hkey⟩
        obtain ⟨rfl, -, -⟩ := h.unique h'
        exact ⟨hfinite, hkey⟩
      · exact fun ha => ⟨user, c, d, r, h, ha⟩
    rw [buildEnvelope_timed h]
    by_cases hrange : InUtcRange d ∧ InUtcRange r
    · have hdigest := commandDigest_of_range (K := K) hd hr hrange
      by_cases hfinite : finiteMembers c = true
      · have hfinite' : finiteMembers (withRequester c user) = true := hfinite
        rw [if_pos hfinite'] at hdigest
        obtain ⟨digest, hdigest⟩ := hdigest
        have hsign := signIngress_of_digest hd hdigest ingressKey issuedAt now
        by_cases hkey : 32 ≤ ingressKey.utf8ByteSize
        · rw [if_pos hkey] at hsign
          obtain ⟨identity, hidentity⟩ := hsign
          have hbody : ∃ j, ActuationRequest.parse T j = .ok c := by
            have hread := h.body
            unfold readBody at hread
            split at hread
            · cases hread
            · next j _ => exact ⟨j, hread⟩
          obtain ⟨j, hj⟩ := hbody
          have hvalid := ActuationRequest.valid_of_parse hj
          obtain ⟨admitted, hadmitted⟩ : ∃ admitted, AuthenticatedRequest.parse T
              (AuthenticatedRequest.dump T ⟨withRequester c user, identity⟩) = .ok admitted :=
            parse_dump hkeeps ⟨hvalid.correlationId, hvalid.targetUnsTopic⟩
              ⟨⟨r, hr⟩, ⟨d, hd⟩⟩ (valid_of_sign hK hidentity)
          rw [hidentity]
          have henvelope : commandEnvelope T ⟨withRequester c user, identity⟩ = .ok
              { correlationId := c.correlationId,
                payload := some (AuthenticatedRequest.dump T
                  ⟨withRequester c user, identity⟩) } :=
            if_pos hvalid.correlationId
          simp only [bind, Except.bind, henvelope]
          exact .built _ admitted hadmitted (htimes.2 hrange)
            (hadmissible.2 ⟨hfinite, hkey⟩)
        · rw [if_neg hkey] at hsign
          obtain ⟨e, he, hrefusal⟩ := hsign
          rw [he]
          exact .refused e hrefusal (htimes.2 hrange) fun ha => hkey (hadmissible.1 ha).2
      · have hfinite' : ¬finiteMembers (withRequester c user) = true := hfinite
        rw [if_neg hfinite'] at hdigest
        obtain ⟨e, he, hrefusal⟩ := hdigest
        rw [signIngress, sign, he]
        exact .refused e hrefusal (htimes.2 hrange) fun ha => hfinite (hadmissible.1 ha).1
    · rw [signIngress, sign, commandDigest_overflow hd hr hrange]
      exact .overflows _ rfl fun ht => hrange (htimes.1 ht)
  · push Not at htimed
    obtain ⟨e, he, hrefusal⟩ : ∃ e, buildEnvelope K T loads ingressKey body userId issuedAt now =
        .error e ∧ isRefusal e = true := buildEnvelope_untimed hraises htimed
    rw [he]
    refine .refused e hrefusal ?_ ?_
    · exact fun user c d r h => absurd h (htimed user c d r)
    · rintro ⟨user, c, d, r, h, -⟩
      exact htimed user c d r h

/-! ## Messages that come back -/

/-- A message whose command was forwarded goes back after a fault only. -/
theorem nack_mem_forward {faults : CallFaults} {envelope : NATSEnvelope}
    {admitted : AuthenticatedRequest String String}
    (hread : AuthenticatedRequest.parse T (envelope.payload.getD .null) = .ok admitted) :
    .nack ∈ forward T faults envelope ↔
      (faults.journal.isSome ∨ faults.publish.isSome ∨ faults.ack.isSome) := by
  unfold forward
  rw [hread]
  cases hjournal : faults.journal <;> cases hpublish : faults.publish <;>
    cases hack : faults.ack <;> simp

/-- For every message: it is refused for good when its envelope cannot be built, and
goes back to the queue only after the journal, the publish or the acknowledgement of
its envelope failed, exactly when both times of a command from a publisher lie in the
years 1 to 9999 in UTC, if they carry offsets, and the broker takes the rejection of a
message that cannot be signed. -/
theorem noPoison_iff (hK : HexDigests K) (hkeeps : T.KeepsInstants)
    (hraises : RaisesValidation T) (faults : CallFaults) :
    NoPoison T faults (buildEnvelope K T loads ingressKey body userId issuedAt now) ↔
      TimesInRange T loads body userId ∧
        (faults.reject = none ∨ Admissible T loads body userId ingressKey) := by
  have hcase : BuildCase T loads ingressKey body userId
      (buildEnvelope K T loads ingressKey body userId issuedAt now) :=
    buildEnvelope_cases hK hkeeps hraises
  generalize buildEnvelope K T loads ingressKey body userId issuedAt now = built at hcase ⊢
  cases hcase with
  | refused e refusal times inadmissible =>
      have hcalls : handleMessage T faults (.error e) =
          if faults.reject.isSome then [.reject, .nack] else [.reject] := by
        simp only [handleMessage, refusal, if_true]
        cases faults.reject <;> rfl
      cases hreject : faults.reject with
      | none => simp [NoPoison, hcalls, hreject, times]
      | some fault => simp [NoPoison, hcalls, hreject, inadmissible]
  | overflows e noRefusal times =>
      simp [NoPoison, handleMessage, noRefusal, times]
  | built envelope admitted read times admissible =>
      have hback : .nack ∈ forward T faults envelope ↔
          (faults.journal.isSome ∨ faults.publish.isSome ∨ faults.ack.isSome) :=
        nack_mem_forward read
      simp [NoPoison, handleMessage, hback, times, admissible]

end Cases

/-! ## A valve command, in its own time and at the end of time -/

theorem ofTable_raisesValidation (table : List (AwareDatetime × String)) :
    RaisesValidation (.ofTable table) := by
  intro j e h
  cases j with
  | str s =>
      simp only [DatetimeText.ofTable] at h
      split at h
      · cases h
      · unfold DatetimeText.unspelled at h
        split at h
        · cases h
        · rw [← Except.error.inj h]
          rfl
  | null | bool | int | float | time | arr | obj =>
      rw [← Except.error.inj h]
      rfl

namespace ValveMessage

/-! A valve command as an AMQP message, and the same command with a deadline on the
first day there is. -/

def ingressKey : String := "abcdefghijklmnopqrstuvwxyz012345"

def clock : UtcClock := ⟨1782900001000000, by decide, by decide⟩

/-- The members of the command, with this deadline. -/
def members (deadline : String) : List (String × String) :=
  [("correlation_id", "01J0000000000000000000000A"), ("requester", "experiment-driver"),
    ("target_uns_topic", "acme/plant1/bottling/line1/cell1/valve1/state"),
    ("requested_value", "open"), ("value_type", "string"), ("reason", "test"),
    ("requested_at", "2026-07-01T12:00:00+02:00"), ("deadline", deadline)]

/-- The bytes of the message and the value that they encode. -/
def bytes (deadline : String) : List UInt8 :=
  let quoted (s : String) : String := "\"" ++ s ++ "\""
  let fields := (members deadline).map fun m => quoted m.1 ++ ":" ++ quoted m.2
  ("\x7b" ++ String.intercalate "," fields ++ "\x7d").toUTF8.toList

def value (deadline : String) : Json :=
  .obj ((members deadline).map fun m => (m.1, .str m.2))

/-- The JSON reader, on the bytes of one message. -/
def loads (deadline : String) (body : List UInt8) : Option Json :=
  if body = bytes deadline then some (value deadline) else none

/-- Midnight of the first day, two hours east of Greenwich. -/
def firstMidnight : AwareDatetime := ⟨AwareDatetime.minMicros, 7200⟩

def text : DatetimeText :=
  .ofTable ((firstMidnight, "0001-01-01T00:00:00+02:00") :: ValveText.table)

theorem text_keepsInstants : text.KeepsInstants :=
  DatetimeText.ofTable_keepsInstants (by decide +kernel) (by decide +kernel)

def command (deadline : AwareDatetime) : ActuationRequest where
  correlationId := "01J0000000000000000000000A"
  requester := "experiment-driver"
  targetUnsTopic := "acme/plant1/bottling/line1/cell1/valve1/state"
  requestedValue := .str "open"
  valueType := .string
  reason := "test"
  requestedAt := .aware ValveText.requestedAt
  deadline := some (.aware deadline)
  extra := []
  names_nodup := declaredNames_nodup

theorem readBody_today : readBody text (loads "2026-07-01T12:05:00+02:00")
    (bytes "2026-07-01T12:05:00+02:00") = .ok (command ValveText.deadline) := by
  have hloads : loads "2026-07-01T12:05:00+02:00" (bytes "2026-07-01T12:05:00+02:00") =
      some (value "2026-07-01T12:05:00+02:00") := if_pos rfl
  rw [readBody, hloads]
  decide +kernel

theorem readBody_firstMidnight : readBody text (loads "0001-01-01T00:00:00+02:00")
    (bytes "0001-01-01T00:00:00+02:00") = .ok (command firstMidnight) := by
  have hloads : loads "0001-01-01T00:00:00+02:00" (bytes "0001-01-01T00:00:00+02:00") =
      some (value "0001-01-01T00:00:00+02:00") := if_pos rfl
  rw [readBody, hloads]
  decide +kernel

end ValveMessage

/-- A valve command of today is forwarded, or comes back after a fault. -/
theorem noPoison_example : NoPoison ValveMessage.text {}
    (buildEnvelope ValveText.crypto ValveMessage.text
      (ValveMessage.loads "2026-07-01T12:05:00+02:00") ValveMessage.ingressKey
      (ValveMessage.bytes "2026-07-01T12:05:00+02:00") (some "experiment-driver")
      ValveMessage.clock ValveMessage.clock) := by
  refine (noPoison_iff ValveText.crypto_hexDigests ValveMessage.text_keepsInstants
    (ofTable_raisesValidation _) {}).2 ⟨?_, Or.inl rfl⟩
  intro user c d r h
  obtain rfl : ValveMessage.command ValveText.deadline = c :=
    Except.ok.inj (ValveMessage.readBody_today.symm.trans h.body)
  obtain rfl : ValveText.deadline = d := Datetime.aware.inj (Option.some.inj h.deadline)
  obtain rfl : ValveText.requestedAt = r := Datetime.aware.inj h.requestedAt
  unfold InUtcRange
  decide

/-- A deadline at the first midnight east of Greenwich raises an `OverflowError`, and the
message goes back to the queue without any fault. -/
theorem overflowing_deadline_requeued :
    handleMessage ValveMessage.text {}
      (buildEnvelope ValveText.crypto ValveMessage.text
        (ValveMessage.loads "0001-01-01T00:00:00+02:00") ValveMessage.ingressKey
        (ValveMessage.bytes "0001-01-01T00:00:00+02:00") (some "experiment-driver")
        ValveMessage.clock ValveMessage.clock) = [.nack] ∧
    ¬NoPoison ValveMessage.text {}
      (buildEnvelope ValveText.crypto ValveMessage.text
        (ValveMessage.loads "0001-01-01T00:00:00+02:00") ValveMessage.ingressKey
        (ValveMessage.bytes "0001-01-01T00:00:00+02:00") (some "experiment-driver")
        ValveMessage.clock ValveMessage.clock) := by
  have htimed : TimedCommand ValveMessage.text (ValveMessage.loads "0001-01-01T00:00:00+02:00")
      (ValveMessage.bytes "0001-01-01T00:00:00+02:00") (some "experiment-driver")
      "experiment-driver" (ValveMessage.command ValveMessage.firstMidnight)
      ValveMessage.firstMidnight ValveText.requestedAt :=
    ⟨rfl, by decide, ValveMessage.readBody_firstMidnight, rfl, rfl⟩
  have hrange : ¬(InUtcRange ValveMessage.firstMidnight ∧ InUtcRange ValveText.requestedAt) := by
    unfold InUtcRange
    decide
  rw [buildEnvelope_timed htimed, signIngress, sign,
    commandDigest_overflow (r := ValveText.requestedAt) rfl rfl hrange]
  refine ⟨rfl, fun h => ?_⟩
  exact absurd (h.1 _ rfl).2 (by decide)

end EirvahEdge.CommandPath
