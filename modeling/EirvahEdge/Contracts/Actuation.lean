import EirvahEdge.Contracts.Value

/-!
# Actuation contracts

The messages of the command path.  Digests and signatures are opaque here: `δ`
is the type of SHA-256 digests and `τ` the type of HMAC signatures, and only
their equality is ever used.

An `ActuationRequest` is open: a sender may add members.  The extra members are
kept in the order they arrived together with the proof that every name, declared
or extra, occurs once, which is what a Python mapping guarantees.
-/

namespace EirvahEdge.Contracts

open EirvahEdge.Lib

/-- What a piece of evidence was signed for. -/
inductive Purpose where
  | ingress
  | approval
deriving DecidableEq, Repr

def Purpose.name : Purpose → String
  | .ingress => "ingress"
  | .approval => "approval"

/-- `SignedEvidence` without its signature: what the signature is over. -/
structure EvidenceBody (δ : Type) where
  purpose : Purpose
  commandDigest : δ
  writer : String
  issuedAt : AwareDatetime
deriving DecidableEq, Repr

/-- `SignedEvidence`: HMAC evidence for one immutable command and handoff
purpose. -/
structure SignedEvidence (δ τ : Type) where
  purpose : Purpose
  commandDigest : δ
  writer : String
  issuedAt : AwareDatetime
  signature : τ
deriving DecidableEq, Repr

/-- The declared members of `ActuationRequest`. -/
def declaredNames : List String :=
  ["schema_version", "correlation_id", "requester", "target_uns_topic",
    "requested_value", "value_type", "reason", "requested_at", "deadline"]

/-- `ActuationRequest`: the AMQP payload of one command. -/
structure ActuationRequest where
  correlationId : String
  requester : String
  targetUnsTopic : String
  requestedValue : SignalValue
  valueType : SignalValueType
  reason : String
  requestedAt : Datetime
  deadline : Option Datetime
  extra : List (String × Json)
  names_nodup : (declaredNames ++ extra.map Prod.fst).Nodup
deriving DecidableEq, Repr

/-- The names of a command without further members. -/
theorem declaredNames_nodup :
    (declaredNames ++ ([] : List (String × Json)).map Prod.fst).Nodup := by decide

/-- `AuthenticatedRequest`: a command with the bridge's identity evidence. -/
structure AuthenticatedRequest (δ τ : Type) where
  command : ActuationRequest
  identity : SignedEvidence δ τ
deriving DecidableEq, Repr

/-- `ApprovedWriteRequest`: a command with the validator's approval. -/
structure ApprovedWriteRequest (δ τ : Type) where
  command : ActuationRequest
  approval : SignedEvidence δ τ
deriving DecidableEq, Repr

/-- `RejectionReasonCode`. -/
inductive RejectionReasonCode where
  | outOfRange
  | notAllowlisted
  | noPolicy
  | notNumeric
deriving DecidableEq, Repr

/-- Why a command is refused, with the values the text of the reason shows. -/
inductive RejectionReason where
  | noPolicy (topic : String)
  | notAllowlisted (requester : String)
  | wrongType
  | notNumeric
  | outOfRange (value lo hi : PyFloat)
deriving DecidableEq, Repr

def RejectionReason.code : RejectionReason → RejectionReasonCode
  | .noPolicy _ => .noPolicy
  | .notAllowlisted _ => .notAllowlisted
  | .wrongType | .notNumeric => .notNumeric
  | .outOfRange .. => .outOfRange

/-- The text of the reason; `quoted` is `repr` of a string and `shown` is `str`
of a float. -/
def RejectionReason.text (quoted : String → String) (shown : PyFloat → String) :
    RejectionReason → String
  | .noPolicy topic => "no policy for topic " ++ quoted topic
  | .notAllowlisted requester => "requester " ++ quoted requester ++ " not in allowlist"
  | .wrongType => "requested_value has wrong type"
  | .notNumeric => "requested_value is not numeric"
  | .outOfRange value lo hi =>
      "value " ++ shown value ++ " outside policy range [" ++ shown lo ++ ", " ++
        shown hi ++ "]"

/-- `ValidationResult`, before the approval is attached. -/
inductive ValidationResult where
  | approve
  | reject (reason : RejectionReason)
deriving DecidableEq, Repr

/-- The outcome of a `WriteResult`. -/
inductive WriteOutcome where
  | completed
  | notExecuted
  | pending
  | unknown
  | conflict
deriving DecidableEq, Repr

/-- `WriteResult`: the writer's answer, also the text stored in its ledger. -/
structure WriteResult where
  outcome : WriteOutcome
  writtenAt : Option AwareDatetime := none
  reason : Option String := none
  retryable : Bool := false
  replayed : Bool := false
deriving DecidableEq, Repr

/-- Two requests that Python compares as equal member by member, keeping the
types of values apart: times are compared as instants and extra members as a
mapping. -/
structure SameCommand (c c' : ActuationRequest) : Prop where
  correlationId : c.correlationId = c'.correlationId
  requester : c.requester = c'.requester
  targetUnsTopic : c.targetUnsTopic = c'.targetUnsTopic
  requestedValue : c.requestedValue = c'.requestedValue
  valueType : c.valueType = c'.valueType
  reason : c.reason = c'.reason
  requestedAt : (c.requestedAt.aware?.map AwareDatetime.instantMicros) =
    c'.requestedAt.aware?.map AwareDatetime.instantMicros
  deadline : (c.deadline.bind Datetime.aware?).map AwareDatetime.instantMicros =
    (c'.deadline.bind Datetime.aware?).map AwareDatetime.instantMicros
  extra : ∀ k v, (k, v) ∈ c.extra.map (fun f => (f.1, f.2.sortKeys)) ↔
    (k, v) ∈ c'.extra.map (fun f => (f.1, f.2.sortKeys))

theorem SameCommand.trans {c c' c'' : ActuationRequest} (h : SameCommand c c')
    (h' : SameCommand c' c'') : SameCommand c c'' where
  correlationId := h.correlationId.trans h'.correlationId
  requester := h.requester.trans h'.requester
  targetUnsTopic := h.targetUnsTopic.trans h'.targetUnsTopic
  requestedValue := h.requestedValue.trans h'.requestedValue
  valueType := h.valueType.trans h'.valueType
  reason := h.reason.trans h'.reason
  requestedAt := h.requestedAt.trans h'.requestedAt
  deadline := h.deadline.trans h'.deadline
  extra := fun k v => (h.extra k v).trans (h'.extra k v)

end EirvahEdge.Contracts
