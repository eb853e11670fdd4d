import EirvahEdge.Contracts.Hops

/-!
# Envelopes and replies

Every message between two services is a `NATSEnvelope`; what an orchestrator gets
back from a worker is read from the text of one, and the payload is read as the
model the worker answers with.

The readers below are those of the models: which members they know, which of them
have a default, and what a member may look like.
-/

namespace EirvahEdge.Contracts

open EirvahEdge.Lib

/-! ## Fields with a default -/

namespace Json

/-- A field of type `X | None = None`. -/
def readOptional {α : Type} (read : List (String × Json) → String → Except PyError α)
    (fields : List (String × Json)) (name : String) : Except PyError (Option α) :=
  match member fields name with
  | none | some .null => .ok none
  | some _ => (read fields name).map some

/-- What a field of type `bool` takes. -/
def laxBool : Json → Option Bool
  | .bool b => some b
  | .int 0 => some false
  | .int 1 => some true
  | .float .negZero => some false
  | .float (.finite q) => if q = 0 then some false else if q = 1 then some true else none
  | .str s =>
      if s.toLower ∈ ["0", "off", "f", "false", "n", "no"] then some false
      else if s.toLower ∈ ["1", "on", "t", "true", "y", "yes"] then some true
      else none
  | _ => none

/-- A field of type `bool` with a default. -/
def readBoolWith (default : Bool) (fields : List (String × Json)) (name : String) :
    Except PyError Bool :=
  match member fields name with
  | none => .ok default
  | some j =>
      match laxBool j with
      | some b => .ok b
      | none => .error (validationError name)

/-- A field of type `dict[str, Any]`. -/
def readDict (fields : List (String × Json)) (name : String) : Except PyError Json :=
  match member fields name with
  | some (.obj members) => .ok (.obj members)
  | _ => .error (validationError name)

end Json

/-! ## Envelopes -/

/-- `Status`. -/
inductive EnvelopeStatus where
  | ok
  | error
deriving DecidableEq, Repr

def EnvelopeStatus.name : EnvelopeStatus → String
  | .ok => "ok"
  | .error => "error"

/-- `EnvelopeError`. -/
structure EnvelopeError where
  kind : String
  message : String
deriving DecidableEq, Repr

/-- `NATSEnvelope`. -/
structure NATSEnvelope where
  correlationId : String
  status : EnvelopeStatus := .ok
  payload : Option Json := none
  context : Option Json := none
  error : Option EnvelopeError := none
deriving DecidableEq, Repr

/-- `status: Status = "ok"`. -/
def readStatus (fields : List (String × Json)) : Except PyError EnvelopeStatus :=
  match Json.member fields "status" with
  | none | some (.str "ok") => .ok .ok
  | some (.str "error") => .ok .error
  | some _ => .error (Json.validationError "status")

def EnvelopeError.parse : Json → Except PyError EnvelopeError
  | .obj fields => do
      Json.forbidExtra fields ["kind", "message"]
      let kind ← Json.readStr fields "kind"
      let message ← Json.readStr fields "message"
      return ⟨kind, message⟩
  | _ => .error (Json.validationError "error")

def readEnvelopeError (fields : List (String × Json)) (name : String) :
    Except PyError EnvelopeError :=
  match Json.member fields name with
  | some j => EnvelopeError.parse j
  | none => .error (Json.validationError name)

/-- `NATSEnvelope.model_validate_json`, on the decoded text. -/
def NATSEnvelope.parse : Json → Except PyError NATSEnvelope
  | .obj fields => do
      Json.forbidExtra fields
        ["schema_version", "correlation_id", "status", "payload", "context", "error"]
      Json.readVersion fields
      let correlationId ← Json.readStrWith isValidCorrelationId fields "correlation_id"
      let status ← readStatus fields
      let payload ← Json.readOptional Json.readDict fields "payload"
      let context ← Json.readOptional Json.readDict fields "context"
      let error ← Json.readOptional readEnvelopeError fields "error"
      return { correlationId, status, payload, context, error }
  | _ => .error (Json.validationError "")

/-- `payload` as the next reader gets it. -/
def NATSEnvelope.body (e : NATSEnvelope) : Json := e.payload.getD .null

/-! ## Replies of the workers -/

section Replies

variable (T : DatetimeText)

/-- `RejectionReasonCode`. -/
def readReasonCode (fields : List (String × Json)) (name : String) :
    Except PyError RejectionReasonCode :=
  match Json.member fields name with
  | some (.str "out_of_range") => .ok .outOfRange
  | some (.str "not_allowlisted") => .ok .notAllowlisted
  | some (.str "no_policy") => .ok .noPolicy
  | some (.str "not_numeric") => .ok .notNumeric
  | _ => .error (Json.validationError name)

/-- `decision` of a `ValidationResult`. -/
inductive Decision where
  | approve
  | reject
deriving DecidableEq, Repr

def readDecision (fields : List (String × Json)) : Except PyError Decision :=
  match Json.member fields "decision" with
  | some (.str "approve") => .ok .approve
  | some (.str "reject") => .ok .reject
  | _ => .error (Json.validationError "decision")

/-- A `ValidationResult` as the orchestrator receives it. -/
structure ValidationReply where
  decision : Decision
  reason : Option String
  reasonCode : Option RejectionReasonCode
  approval : Option (SignedEvidence String String)
deriving DecidableEq, Repr

def readEvidence (fields : List (String × Json)) (name : String) :
    Except PyError (SignedEvidence String String) :=
  match Json.member fields name with
  | some j => SignedEvidence.parse T j
  | none => .error (Json.validationError name)

/-- `ValidationResult.model_validate`; other members are ignored. -/
def ValidationReply.parse : Json → Except PyError ValidationReply
  | .obj fields => do
      Json.readVersion fields
      let decision ← readDecision fields
      let reason ← Json.readOptional Json.readStr fields "reason"
      let reasonCode ← Json.readOptional readReasonCode fields "reason_code"
      let approval ← Json.readOptional (readEvidence T) fields "approval"
      return ⟨decision, reason, reasonCode, approval⟩
  | _ => .error (Json.validationError "")

def WriteOutcome.name : WriteOutcome → String
  | .completed => "completed"
  | .notExecuted => "not_executed"
  | .pending => "pending"
  | .unknown => "unknown"
  | .conflict => "conflict"

def readOutcome (fields : List (String × Json)) : Except PyError WriteOutcome :=
  match Json.member fields "outcome" with
  | some (.str "completed") => .ok .completed
  | some (.str "not_executed") => .ok .notExecuted
  | some (.str "pending") => .ok .pending
  | some (.str "unknown") => .ok .unknown
  | some (.str "conflict") => .ok .conflict
  | _ => .error (Json.validationError "outcome")

/-- `WriteResult.model_validate`. -/
def WriteResult.parse : Json → Except PyError WriteResult
  | .obj fields => do
      Json.forbidExtra fields
        ["schema_version", "outcome", "written_at", "reason", "retryable", "replayed"]
      Json.readVersion fields
      let outcome ← readOutcome fields
      let writtenAt ← Json.readOptional T.readAware fields "written_at"
      let reason ← Json.readOptional Json.readStr fields "reason"
      let retryable ← Json.readBoolWith false fields "retryable"
      let replayed ← Json.readBoolWith false fields "replayed"
      return { outcome, writtenAt, reason, retryable, replayed }
  | _ => .error (Json.validationError "")

end Replies

end EirvahEdge.Contracts
