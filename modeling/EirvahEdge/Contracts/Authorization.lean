import EirvahEdge.Contracts.Actuation
import Mathlib.Tactic.Linarith

/-!
# Authenticated ingress and approval evidence

`command_digest`, signing and `verify_evidence`.  SHA-256 and HMAC are the two
parameters of `Crypto`; the functions around them are the code's own.

`verifyEvidence_ok_iff` is everything a successful check establishes, and
`sameCommand_of_digest` is what a collision-free digest binds: the whole
command, every member with its type, times as instants.
-/

namespace EirvahEdge.Contracts

variable {δ τ : Type}

/-- The two primitives of `hashlib` and `hmac` that the code calls. -/
structure Crypto (δ τ : Type) where
  /-- SHA-256 of the compact text of a JSON value. -/
  sha256 : Json → δ
  /-- HMAC-SHA256 under a key of the compact text of an evidence body. -/
  hmacSha256 : String → EvidenceBody δ → τ

/-- `require_key`. -/
def requireKey (key : String) : Except PyError String :=
  if key.utf8ByteSize < 32 then
    .error (valueError "actuation authentication key must contain at least 32 bytes")
  else .ok key

/-! ## The digest of a command -/

/-- `command.model_dump(mode="json")` with the two times moved to UTC. -/
def digestFields (c : ActuationRequest) (requestedAt deadline : AwareDatetime) :
    List (String × Json) :=
  [("schema_version", .str "1.0"),
    ("correlation_id", .str c.correlationId),
    ("requester", .str c.requester),
    ("target_uns_topic", .str c.targetUnsTopic),
    ("requested_value", .ofSignalValue c.requestedValue),
    ("value_type", .str c.valueType.name),
    ("reason", .str c.reason),
    ("requested_at", .time (.aware requestedAt)),
    ("deadline", .time (.aware deadline))] ++ c.extra

/-- The value `command_digest` serialises, or the exception it raises before
it gets there. -/
def digestInput (c : ActuationRequest) : Except PyError Json :=
  match c.deadline.bind Datetime.aware? with
  | none => .error (valueError "command requires a timezone-aware deadline")
  | some deadline =>
      match c.requestedAt.aware? with
      | none => .error (valueError "command requires a timezone-aware requested_at")
      | some requestedAt => do
          let deadline ← deadline.astimezoneUtc
          let requestedAt ← requestedAt.astimezoneUtc
          let payload := Json.obj (digestFields c requestedAt deadline)
          if payload.allFinite then .ok payload.sortKeys
          else .error (valueError "Out of range float values are not JSON compliant")

/-- `command_digest`. -/
def commandDigest (K : Crypto δ τ) (c : ActuationRequest) : Except PyError δ :=
  (digestInput c).map K.sha256

/-- SHA-256 has no collision among the texts commands are hashed as. -/
def CollisionFree (K : Crypto δ τ) : Prop :=
  ∀ c c' j j', digestInput c = .ok j → digestInput c' = .ok j' →
    K.sha256 j = K.sha256 j' → j = j'

/-! ## Signing and verification -/

/-- What the signature of a piece of evidence is over: its members without the
signature, `issued_at` in UTC. -/
def SignedEvidence.body (e : SignedEvidence δ τ) : Except PyError (EvidenceBody δ) :=
  e.issuedAt.astimezoneUtc.map fun issuedAt =>
    { purpose := e.purpose
      commandDigest := e.commandDigest
      writer := e.writer
      issuedAt := issuedAt }

/-- `_signature`. -/
def signatureOf (K : Crypto δ τ) (e : SignedEvidence δ τ) (key : String) :
    Except PyError τ := do
  let body ← e.body
  let key ← requireKey key
  return K.hmacSha256 key body

/-- `_sign` at the clock readings `issuedAt` and `now`. -/
def sign (K : Crypto δ τ) (c : ActuationRequest) (key : String)
    (purpose : Purpose) (writer : String) (issuedAt now : AwareDatetime)
    (allowExpired : Bool) : Except PyError (SignedEvidence δ τ) := do
  let digest ← commandDigest K c
  let body : EvidenceBody δ := ⟨purpose, digest, writer, issuedAt⟩
  match c.deadline.bind Datetime.aware? with
  | none => .error (valueError "command expired")
  | some deadline =>
      if !allowExpired && decide (deadline.timestamp < now.timestamp) then
        .error (valueError "command expired")
      else do
        let issuedUtc ← issuedAt.astimezoneUtc
        let key ← requireKey key
        return ⟨purpose, digest, writer, issuedAt,
          K.hmacSha256 key { body with issuedAt := issuedUtc }⟩

/-- `sign_ingress`. -/
def signIngress (K : Crypto δ τ) (c : ActuationRequest) (key : String)
    (issuedAt now : AwareDatetime) (allowExpired : Bool) :
    Except PyError (SignedEvidence δ τ) :=
  sign K c key .ingress "" issuedAt now allowExpired

/-- `sign_approval`. -/
def signApproval (K : Crypto δ τ) (c : ActuationRequest) (key writer : String)
    (issuedAt now : AwareDatetime) (allowExpired : Bool) :
    Except PyError (SignedEvidence δ τ) :=
  sign K c key .approval writer issuedAt now allowExpired

/-- `verify_evidence` at the clock reading `now`. -/
def verifyEvidence [DecidableEq δ] [DecidableEq τ] (K : Crypto δ τ)
    (c : ActuationRequest) (e : SignedEvidence δ τ) (key : String)
    (purpose : Purpose) (writer : String) (now : ℚ) (allowExpired : Bool) :
    Except PyError Unit := do
  if e.purpose ≠ purpose ∨ e.writer ≠ writer then
    throw (valueError "approval purpose or writer mismatch")
  let digest ← commandDigest K c
  if e.commandDigest ≠ digest then
    throw (valueError "approved command mismatch")
  let signature ← signatureOf K e key
  if e.signature ≠ signature then
    throw (valueError "invalid command authentication")
  match c.deadline.bind Datetime.aware? with
  | none => throw (valueError "command expired or evidence time invalid")
  | some deadline =>
      if (!allowExpired && decide (deadline.timestamp < now)) ||
          decide (now < e.issuedAt.timestamp) then
        throw (valueError "command expired or evidence time invalid")

/-! ## What the functions establish -/

/-- The instant a command expires at, once its deadline carries an offset. -/
def deadlineOf (c : ActuationRequest) : Option ℚ :=
  (c.deadline.bind Datetime.aware?).map AwareDatetime.timestamp

/-- The bind of `Except` returned a value exactly when both parts did. -/
theorem bind_eq_ok {α β : Type} {x : Except PyError α}
    {f : α → Except PyError β} {b : β} :
    (x >>= f) = .ok b ↔ ∃ a, x = .ok a ∧ f a = .ok b := by
  cases x with
  | error e => simp [bind, Except.bind]
  | ok a => simp [bind, Except.bind]

theorem map_eq_ok {α β : Type} {x : Except PyError α} {f : α → β} {b : β} :
    x.map f = .ok b ↔ ∃ a, x = .ok a ∧ f a = b := by
  cases x <;> simp [Except.map]

/-- Past a check that raises. -/
theorem ite_error_eq_ok {α : Type} {p : Prop} [Decidable p] {e : PyError}
    {x : Except PyError α} {a : α} :
    (if p then .error e else x) = .ok a ↔ ¬p ∧ x = .ok a := by
  by_cases hp : p <;> simp [hp]

/-- The digest input of a command: its members with both times in UTC. -/
theorem digestInput_eq_ok {c : ActuationRequest} {j : Json}
    (h : digestInput c = .ok j) :
    ∃ d r : AwareDatetime, c.deadline.bind Datetime.aware? = some d ∧
      c.requestedAt.aware? = some r ∧
      j = (Json.obj (digestFields c (.ofMicros r.instantMicros)
        (.ofMicros d.instantMicros))).sortKeys := by
  unfold digestInput at h
  split at h
  · cases h
  · next d hd =>
      split at h
      · cases h
      · next r hr =>
          obtain ⟨d', hd', h⟩ := bind_eq_ok.1 h
          obtain ⟨r', hr', h⟩ := bind_eq_ok.1 h
          rw [AwareDatetime.astimezoneUtc_eq_ok hd',
            AwareDatetime.astimezoneUtc_eq_ok hr'] at h
          dsimp only at h
          split at h
          · cases h
            exact ⟨d, r, hd, hr, rfl⟩
          · cases h

/-- A command with a digest has a deadline with an offset. -/
theorem deadlineOf_of_digest {K : Crypto δ τ} {c : ActuationRequest} {x : δ}
    (h : commandDigest K c = .ok x) : ∃ D, deadlineOf c = some D := by
  obtain ⟨j, hj, -⟩ := map_eq_ok.1 h
  obtain ⟨d, -, hd, -⟩ := digestInput_eq_ok hj
  exact ⟨d.timestamp, by rw [deadlineOf, hd]; rfl⟩

/-- A deadline that can be hashed lies in the years 1 to 9999. -/
theorem abs_deadline_lt {K : Crypto δ τ} {c : ActuationRequest} {x : δ} {D : ℚ}
    (h : commandDigest K c = .ok x) (hD : deadlineOf c = some D) :
    |D| < 2 ^ 52 := by
  obtain ⟨j, hj, -⟩ := map_eq_ok.1 h
  obtain ⟨d, hd, rfl⟩ := Option.map_eq_some_iff.1 hD
  unfold digestInput at hj
  rw [hd] at hj
  dsimp only at hj
  split at hj
  · cases hj
  · obtain ⟨d', hd', -⟩ := bind_eq_ok.1 hj
    have hrange := AwareDatetime.range_of_astimezoneUtc hd'
    have hlow : ((-62135596800000000 : ℤ) : ℚ) ≤ d.instantMicros :=
      Int.cast_le.2 hrange.1
    have hup : (d.instantMicros : ℚ) ≤ ((253402300799999999 : ℤ) : ℚ) :=
      Int.cast_le.2 hrange.2
    push_cast at hlow hup
    rw [abs_lt, AwareDatetime.timestamp]
    constructor <;> linarith

/-- A successful check established the purpose, the writer, the digest, the
signature and the times. -/
theorem verifyEvidence_ok_iff [DecidableEq δ] [DecidableEq τ] {K : Crypto δ τ}
    {c : ActuationRequest} {e : SignedEvidence δ τ} {key writer : String}
    {purpose : Purpose} {now : ℚ} {allowExpired : Bool} :
    verifyEvidence K c e key purpose writer now allowExpired = .ok () ↔
      e.purpose = purpose ∧ e.writer = writer ∧
      commandDigest K c = .ok e.commandDigest ∧
      signatureOf K e key = .ok e.signature ∧
      ∃ D, deadlineOf c = some D ∧ (allowExpired = true ∨ now ≤ D) ∧
        e.issuedAt.timestamp ≤ now := by
  unfold verifyEvidence
  by_cases hbinding : e.purpose ≠ purpose ∨ e.writer ≠ writer
  · rw [if_pos hbinding]
    constructor
    · intro h
      cases h
    · rintro ⟨hp, hw, -⟩
      exact absurd hbinding (by simp [hp, hw])
  · rw [if_neg hbinding]
    push Not at hbinding
    cases hdigest : commandDigest K c with
    | error err => simp [bind, Except.bind]
    | ok digest =>
        obtain ⟨D, hD⟩ := deadlineOf_of_digest hdigest
        obtain ⟨d, hd, rfl⟩ := Option.map_eq_some_iff.1 hD
        cases hsig : signatureOf K e key with
        | error err =>
            simp [bind, Except.bind, throw, throwThe, MonadExceptOf.throw]
            split <;> simp
        | ok signature =>
            simp only [bind, Except.bind, pure, Except.pure, throw, throwThe,
              MonadExceptOf.throw, hd, hD, hbinding, true_and, Except.ok.injEq,
              Option.some.injEq, exists_eq_left']
            by_cases hd1 : e.commandDigest = digest
            · by_cases hs1 : e.signature = signature
              · simp [hd1, hs1]
                grind
              · simp [hd1, hs1, Ne.symm hs1]
            · simp [hd1, Ne.symm hd1]

/-- `require_key` returns the key it was given. -/
theorem requireKey_eq_ok {key key' : String} (h : requireKey key = .ok key') :
    key' = key := by
  unfold requireKey at h
  split at h
  · cases h
  · exact (Except.ok.inj h).symm

/-- A verified piece of evidence was signed over its own body. -/
theorem signatureOf_eq_ok {K : Crypto δ τ} {e : SignedEvidence δ τ}
    {key : String} {s : τ} (h : signatureOf K e key = .ok s) :
    ∃ body, e.body = .ok body ∧ s = K.hmacSha256 key body := by
  unfold signatureOf at h
  obtain ⟨body, hbody, h⟩ := bind_eq_ok.1 h
  obtain ⟨key', hkey, h⟩ := bind_eq_ok.1 h
  rw [requireKey_eq_ok hkey] at h
  exact ⟨body, hbody, (Except.ok.inj h).symm⟩

/-- `astimezone` raises no `RuntimeError`. -/
theorem astimezoneUtc_error {d : AwareDatetime} {e : PyError}
    (h : d.astimezoneUtc = .error e) : e.isRuntimeError = false := by
  unfold AwareDatetime.astimezoneUtc at h
  split at h
  · cases h
  · rw [← Except.error.inj h]
    rfl

theorem bind_eq_error {α β : Type} {x : Except PyError α}
    {f : α → Except PyError β} {e : PyError} :
    (x >>= f) = .error e ↔ x = .error e ∨ ∃ a, x = .ok a ∧ f a = .error e := by
  cases x with
  | error e' => simp [bind, Except.bind]
  | ok a => simp [bind, Except.bind]

theorem map_eq_error {α β : Type} {x : Except PyError α} {f : α → β} {e : PyError} :
    x.map f = .error e ↔ x = .error e := by
  cases x <;> simp [Except.map]

/-- Neither does hashing a command, -/
theorem commandDigest_error {K : Crypto δ τ} {c : ActuationRequest} {e : PyError}
    (h : commandDigest K c = .error e) : e.isRuntimeError = false := by
  have hinput := map_eq_error.1 h
  unfold digestInput at hinput
  split at hinput
  · rw [← Except.error.inj hinput]
    rfl
  · split at hinput
    · rw [← Except.error.inj hinput]
      rfl
    · rcases bind_eq_error.1 hinput with hd | ⟨d, -, hinput⟩
      · exact astimezoneUtc_error hd
      · rcases bind_eq_error.1 hinput with hr | ⟨r, -, hinput⟩
        · exact astimezoneUtc_error hr
        · dsimp only at hinput
          split at hinput
          · cases hinput
          · rw [← Except.error.inj hinput]
            rfl

/-- nor recomputing a signature, -/
theorem signatureOf_error {K : Crypto δ τ} {ev : SignedEvidence δ τ} {key : String}
    {e : PyError} (h : signatureOf K ev key = .error e) : e.isRuntimeError = false := by
  rcases bind_eq_error.1 h with hbody | ⟨body, -, h⟩
  · exact astimezoneUtc_error (map_eq_error.1 hbody)
  · rcases bind_eq_error.1 h with hkey | ⟨key', -, h⟩
    · unfold requireKey at hkey
      split at hkey
      · rw [← Except.error.inj hkey]
        rfl
      · cases hkey
    · cases h

/-- nor the check of a piece of evidence. -/
theorem verifyEvidence_error [DecidableEq δ] [DecidableEq τ] {K : Crypto δ τ}
    {c : ActuationRequest} {ev : SignedEvidence δ τ} {key writer : String}
    {purpose : Purpose} {now : ℚ} {allowExpired : Bool} {e : PyError}
    (h : verifyEvidence K c ev key purpose writer now allowExpired = .error e) :
    e.isRuntimeError = false := by
  have hvalue {message : String} {u : Except PyError Unit}
      (h : u = .error e) (hu : u = .error (valueError message)) :
      e.isRuntimeError = false := by
    rw [← Except.error.inj (hu.symm.trans h)]
    rfl
  unfold verifyEvidence at h
  by_cases hbinding : ev.purpose ≠ purpose ∨ ev.writer ≠ writer
  · rw [if_pos hbinding] at h
    exact hvalue h rfl
  · rw [if_neg hbinding] at h
    cases hdigest : commandDigest K c with
    | error e' =>
        rw [hdigest] at h
        rw [← Except.error.inj h]
        exact commandDigest_error hdigest
    | ok digest =>
        rw [hdigest] at h
        by_cases hmatch : ev.commandDigest ≠ digest
        · simp only [bind, Except.bind, if_pos hmatch] at h
          exact hvalue h rfl
        · simp only [bind, Except.bind, if_neg hmatch] at h
          cases hsig : signatureOf K ev key with
          | error e' =>
              rw [hsig] at h
              rw [← Except.error.inj h]
              exact signatureOf_error hsig
          | ok signature =>
              simp only [hsig] at h
              by_cases hsame : ev.signature ≠ signature
              · simp only [if_pos hsame] at h
                exact hvalue h rfl
              · simp only [if_neg hsame] at h
                split at h
                · exact hvalue h rfl
                · split at h
                  · exact hvalue h rfl
                  · cases h

/-! ## What a collision-free digest binds -/

/-- The names of the members of a digest input are distinct. -/
theorem digestFields_nodup (c : ActuationRequest) (r d : AwareDatetime) :
    ((digestFields c r d).map Prod.fst).Nodup := by
  have hnames : (digestFields c r d).map Prod.fst =
      declaredNames ++ c.extra.map Prod.fst := by
    simp [digestFields, declaredNames]
  rw [hnames]
  exact c.names_nodup

/-- A member of a digest input, with its value in normal form. -/
def normal (f : String × Json) : String × Json := (f.1, f.2.sortKeys)

/-- Digest inputs with the same members agree on every member that both
declare. -/
theorem digestFields_value_eq {c c' : ActuationRequest}
    {r d r' d' : AwareDatetime}
    (hperm : ((digestFields c r d).map normal).Perm
      ((digestFields c' r' d').map normal))
    {k : String} {v v' : Json} (hv : (k, v) ∈ digestFields c r d)
    (hv' : (k, v') ∈ digestFields c' r' d') : v.sortKeys = v'.sortKeys := by
  have hmem : (k, v.sortKeys) ∈ (digestFields c' r' d').map normal :=
    hperm.mem_iff.1 (List.mem_map_of_mem (f := normal) hv)
  obtain ⟨⟨k', w⟩, hw, heq⟩ := List.mem_map.1 hmem
  simp only [normal, Prod.mk.injEq] at heq
  obtain ⟨rfl, hwv⟩ := heq
  have hsame := List.inj_on_of_nodup_map (digestFields_nodup c' r' d') hw hv' rfl
  simp only [Prod.mk.injEq, true_and] at hsame
  rw [← hwv, hsame]

/-- An extra member of one command is an extra member of the other. -/
theorem extra_mem_of_perm {c c' : ActuationRequest}
    {r d r' d' : AwareDatetime}
    (hperm : ((digestFields c r d).map normal).Perm
      ((digestFields c' r' d').map normal))
    {f : String × Json} (hf : f ∈ c.extra.map normal) :
    f ∈ c'.extra.map normal := by
  have hdisjoint := (List.nodup_append.1 c.names_nodup).2.2
  have hname : f.1 ∉ declaredNames := by
    obtain ⟨g, hg, rfl⟩ := List.mem_map.1 hf
    exact fun h => hdisjoint g.1 h g.1 (List.mem_map_of_mem hg) rfl
  have hmem : f ∈ (digestFields c' r' d').map normal :=
    hperm.mem_iff.1 (by
      rw [digestFields, List.map_append]
      exact List.mem_append_right _ hf)
  rw [digestFields, List.map_append] at hmem
  rcases List.mem_append.1 hmem with hdeclared | hextra
  · refine absurd ?_ hname
    obtain ⟨g, hg, rfl⟩ := List.mem_map.1 hdeclared
    have hnames : g.1 ∈ declaredNames :=
      List.mem_map_of_mem (f := Prod.fst) hg
    exact hnames
  · exact hextra

/-- **What approval binds.**  Two commands with one digest are the same
command. -/
theorem sameCommand_of_digest {K : Crypto δ τ} (hK : CollisionFree K)
    {c c' : ActuationRequest} {x : δ} (h : commandDigest K c = .ok x)
    (h' : commandDigest K c' = .ok x) : SameCommand c c' := by
  obtain ⟨j, hj, hx⟩ := map_eq_ok.1 h
  obtain ⟨j', hj', hx'⟩ := map_eq_ok.1 h'
  obtain rfl := hK c c' j j' hj hj' (hx.trans hx'.symm)
  obtain ⟨d, r, hd, hr, hjd⟩ := digestInput_eq_ok hj
  obtain ⟨d', r', hd', hr', hjd'⟩ := digestInput_eq_ok hj'
  have hperm := Json.sortKeys_obj_eq (hjd.symm.trans hjd')
  have hval (k : String) {v v' : Json}
      (hv : (k, v) ∈ digestFields c (.ofMicros r.instantMicros)
        (.ofMicros d.instantMicros))
      (hv' : (k, v') ∈ digestFields c' (.ofMicros r'.instantMicros)
        (.ofMicros d'.instantMicros)) : v.sortKeys = v'.sortKeys :=
    digestFields_value_eq hperm hv hv'
  have hstr {s s' : String} (hs : (Json.str s).sortKeys = (Json.str s').sortKeys) :
      s = s' := by simpa [Json.sortKeys] using hs
  have htime {t t' : ℤ} (ht : (Json.time (.aware (.ofMicros t))).sortKeys =
      (Json.time (.aware (.ofMicros t'))).sortKeys) : t = t' := by
    simpa [Json.sortKeys, AwareDatetime.ofMicros] using ht
  constructor
  · exact hstr (hval "correlation_id" (by simp [digestFields])
      (by simp [digestFields]))
  · exact hstr (hval "requester" (by simp [digestFields]) (by simp [digestFields]))
  · exact hstr (hval "target_uns_topic" (by simp [digestFields])
      (by simp [digestFields]))
  · have hv : (Json.ofSignalValue c.requestedValue).sortKeys =
        (Json.ofSignalValue c'.requestedValue).sortKeys :=
      hval "requested_value" (by simp [digestFields]) (by simp [digestFields])
    rw [Json.sortKeys_ofSignalValue, Json.sortKeys_ofSignalValue] at hv
    exact Json.ofSignalValue_injective hv
  · exact SignalValueType.name_injective (hstr (hval "value_type"
      (by simp [digestFields]) (by simp [digestFields])))
  · exact hstr (hval "reason" (by simp [digestFields]) (by simp [digestFields]))
  · rw [hr, hr']
    exact congrArg some (htime (hval "requested_at" (by simp [digestFields])
      (by simp [digestFields])))
  · rw [hd, hd']
    exact congrArg some (htime (hval "deadline" (by simp [digestFields])
      (by simp [digestFields])))
  · exact fun k v => ⟨extra_mem_of_perm hperm, extra_mem_of_perm hperm.symm⟩

/-- Commands with one digest expire together. -/
theorem SameCommand.deadlineOf_eq {c c' : ActuationRequest}
    (h : SameCommand c c') : deadlineOf c = deadlineOf c' := by
  have hdeadline := h.deadline
  unfold deadlineOf
  cases hd : c.deadline.bind Datetime.aware? <;>
    cases hd' : c'.deadline.bind Datetime.aware? <;>
    simp_all [AwareDatetime.timestamp_eq_iff]

end EirvahEdge.Contracts
