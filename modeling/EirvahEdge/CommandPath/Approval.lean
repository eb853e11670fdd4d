import EirvahEdge.Contracts.Authorization

/-!
# From the broker to an approval

The two services that sign: the bridge takes a command from an authenticated
AMQP publisher, overwrites its requester and signs it for ingress; the validator
checks that signature, applies the loaded policies, and signs an approval for
one writer.
-/

namespace EirvahEdge.CommandPath

open EirvahEdge.Lib
open EirvahEdge.Contracts

variable {δ τ : Type}

/-! ## The bridge -/

/-- The broker users whose commands are admitted. -/
def commandPublishers : List String := ["decision-agent-stub", "experiment-driver"]

/-- `model_copy(update={"requester": user_id})`. -/
def withRequester (c : ActuationRequest) (userId : String) : ActuationRequest :=
  { c with requester := userId }

/-- `build_nats_envelope` on the parsed body, at the two clock readings of the
signature.  The envelope carries the id of the command. -/
def buildNatsEnvelope (K : Crypto δ τ) (ingressKey : String)
    (body : Except PyError ActuationRequest) (userId : Option String)
    (issuedAt now : AwareDatetime) : Except PyError (AuthenticatedRequest δ τ) :=
  match userId with
  | some userId =>
      if userId ∉ commandPublishers then
        .error (valueError "authenticated command publisher required")
      else do
        let req := withRequester (← body) userId
        let identity ← signIngress K req ingressKey issuedAt now true
        return ⟨req, identity⟩
  | none => .error (valueError "authenticated command publisher required")

/-! ## Policies -/

/-- `NodePolicy`. -/
structure NodePolicy where
  unsTopic : String
  allowedRange : PyFloat × PyFloat
  allowlist : List String
  valueType : SignalValueType := .double
deriving DecidableEq, Repr

/-- `load_policy`: of several policies for a topic the last one counts. -/
def policyFor (policies : List NodePolicy) (topic : String) : Option NodePolicy :=
  policies.reverse.find? fun p => p.unsTopic = topic

/-- The value has the JSON type that the policy names. -/
def valueTypeOk (policy : NodePolicy) (req : ActuationRequest) : Bool :=
  req.valueType == policy.valueType &&
    match policy.valueType, req.requestedValue with
    | .bool, .bool _ => true
    | .int64, .int _ => true
    | .double, .int _ => true
    | .double, .float _ => true
    | _, _ => false

/-- `validate_request`.  A whole number too large for a float is not caught. -/
def validateRequest (req : ActuationRequest) (policies : List NodePolicy) :
    Except PyError ValidationResult :=
  match policyFor policies req.targetUnsTopic with
  | none => .ok (.reject (.noPolicy req.targetUnsTopic))
  | some policy =>
      if req.requester ∉ policy.allowlist then .ok (.reject (.notAllowlisted req.requester))
      else if !valueTypeOk policy req then .ok (.reject .wrongType)
      else
        match toFloat req.requestedValue with
        | .error e =>
            if e.kind = .typeError ∨ e.kind = .valueError then .ok (.reject .notNumeric)
            else .error e
        | .ok value =>
            let (lo, hi) := policy.allowedRange
            if value.isFinite && (PyFloat.le lo value && PyFloat.le value hi) then
              .ok .approve
            else .ok (.reject (.outOfRange value lo hi))

/-- What an approval says about the command. -/
theorem validateRequest_approve {req : ActuationRequest} {policies : List NodePolicy}
    (h : validateRequest req policies = .ok .approve) :
    ∃ policy value, policyFor policies req.targetUnsTopic = some policy ∧
      req.requester ∈ policy.allowlist ∧ valueTypeOk policy req = true ∧
      toFloat req.requestedValue = .ok value ∧ value.isFinite = true ∧
      PyFloat.le policy.allowedRange.1 value = true ∧
      PyFloat.le value policy.allowedRange.2 = true := by
  unfold validateRequest at h
  split at h
  · cases h
  · next policy hpolicy =>
      split at h
      · cases h
      · next hallowed =>
          split at h
          · cases h
          · next htype =>
              split at h
              · split at h <;> cases h
              · next value hvalue =>
                  dsimp only at h
                  split at h
                  · next hrange =>
                      simp only [Bool.and_eq_true] at hrange
                      exact ⟨policy, value, hpolicy, not_not.1 hallowed, by simpa using htype,
                        hvalue, hrange.1, hrange.2.1, hrange.2.2⟩
                  · cases h

/-- Policies read the topic, the requester, the value and its type. -/
theorem validateRequest_congr {c c' : ActuationRequest} (h : SameCommand c c')
    (policies : List NodePolicy) :
    validateRequest c policies = validateRequest c' policies := by
  have htype : ∀ policy, valueTypeOk policy c = valueTypeOk policy c' := by
    intro policy
    unfold valueTypeOk
    rw [h.valueType, h.requestedValue]
  simp only [validateRequest, htype, h.targetUnsTopic, h.requester, h.requestedValue]

/-! ## The validator -/

/-- What the validator is configured with. -/
structure ValidatorConfig where
  ingressKey : String
  approvalKey : String
  approvedWriter : String
  policies : List NodePolicy

/-- A message on the validation subject, as the two `model_validate` calls read
it. -/
inductive ValidatorMessage (δ τ : Type) where
  | malformed (error : PyError)
  | authenticated (correlationId : String) (request : AuthenticatedRequest δ τ)

/-- The body of `ValidatorWorker._handle`: the decision and, when it approves,
the signed approval. -/
def handle [DecidableEq δ] [DecidableEq τ] (K : Crypto δ τ) (cfg : ValidatorConfig)
    (verifyAt : ℚ) (issuedAt now : AwareDatetime) :
    ValidatorMessage δ τ → Except PyError (ValidationResult × Option (SignedEvidence δ τ))
  | .malformed e => .error e
  | .authenticated correlationId request => do
      let req := request.command
      if req.correlationId ≠ correlationId then
        throw (valueError "command envelope identity mismatch")
      verifyEvidence K req request.identity cfg.ingressKey .ingress "" verifyAt true
      match ← validateRequest req cfg.policies with
      | .approve =>
          let approval ← signApproval K req cfg.approvalKey cfg.approvedWriter issuedAt now true
          return (.approve, some approval)
      | result => return (result, none)

/-! ## What a signature was made for -/

/-- A signature of `_sign` is over the digest of the command, for one purpose and
one writer. -/
theorem sign_eq_ok {K : Crypto δ τ} {c : ActuationRequest} {key : String}
    {purpose : Purpose} {writer : String} {issuedAt now : AwareDatetime}
    {allowExpired : Bool} {e : SignedEvidence δ τ}
    (h : sign K c key purpose writer issuedAt now allowExpired = .ok e) :
    e.purpose = purpose ∧ e.writer = writer ∧ commandDigest K c = .ok e.commandDigest ∧
      ∃ body, e.body = .ok body := by
  unfold sign at h
  obtain ⟨digest, hdigest, h⟩ := bind_eq_ok.1 h
  dsimp only at h
  split at h
  · cases h
  · split at h
    · cases h
    · obtain ⟨issuedUtc, hissued, h⟩ := bind_eq_ok.1 h
      obtain ⟨key', -, h⟩ := bind_eq_ok.1 h
      cases h
      exact ⟨rfl, rfl, hdigest, _, by rw [SignedEvidence.body, hissued]; rfl⟩

/-- What the bridge signed was delivered by one of the publishers and names it. -/
theorem buildNatsEnvelope_eq_ok {K : Crypto δ τ} {ingressKey : String}
    {body : Except PyError ActuationRequest} {userId : Option String}
    {issuedAt now : AwareDatetime} {request : AuthenticatedRequest δ τ}
    (h : buildNatsEnvelope K ingressKey body userId issuedAt now = .ok request) :
    ∃ user c, userId = some user ∧ user ∈ commandPublishers ∧ body = .ok c ∧
      request.command = withRequester c user ∧
      signIngress K request.command ingressKey issuedAt now true = .ok request.identity := by
  unfold buildNatsEnvelope at h
  split at h
  · next user =>
      split at h
      · cases h
      · next huser =>
          obtain ⟨c, hc, h⟩ := bind_eq_ok.1 h
          obtain ⟨identity, hidentity, h⟩ := bind_eq_ok.1 h
          cases h
          exact ⟨user, c, rfl, not_not.1 huser, hc, rfl, hidentity⟩
  · cases h

/-- What the validator signed passed the ingress check and the policies. -/
theorem handle_eq_approval [DecidableEq δ] [DecidableEq τ] {K : Crypto δ τ}
    {cfg : ValidatorConfig} {verifyAt : ℚ} {issuedAt now : AwareDatetime}
    {m : ValidatorMessage δ τ} {result : ValidationResult} {approval : SignedEvidence δ τ}
    (h : handle K cfg verifyAt issuedAt now m = .ok (result, some approval)) :
    ∃ request, m = .authenticated request.command.correlationId request ∧
      verifyEvidence K request.command request.identity cfg.ingressKey .ingress ""
        verifyAt true = .ok () ∧
      validateRequest request.command cfg.policies = .ok .approve ∧
      signApproval K request.command cfg.approvalKey cfg.approvedWriter issuedAt now true =
        .ok approval := by
  cases m with
  | malformed e => cases h
  | authenticated correlationId request =>
      simp only [handle] at h
      split at h
      · cases h
      · next hid =>
          obtain ⟨u, hverify, h⟩ := bind_eq_ok.1 h
          obtain ⟨decision, hdecision, h⟩ := bind_eq_ok.1 h
          cases decision with
          | reject reason => cases h
          | approve =>
              obtain ⟨approval', hsign, h⟩ := bind_eq_ok.1 h
              cases h
              have hid' : request.command.correlationId = correlationId := not_not.1 hid
              exact ⟨request, by rw [hid'], hverify, hdecision, hsign⟩

end EirvahEdge.CommandPath
