import EirvahEdge.Contracts.JsonObject
import EirvahEdge.Contracts.Position

/-!
# Signals on the wire

The models of `signals` as the JSON values they are written to and read from.
`SourcePosition` is strict and closed: a text or a truth value where a number
belongs is refused, and so is a member it does not declare.
-/

namespace EirvahEdge.Contracts

open EirvahEdge.Lib

/-- `Quality`. -/
inductive Quality where
  | good
  | uncertain
  | bad
deriving DecidableEq, Repr

def Quality.name : Quality → String
  | .good => "good"
  | .uncertain => "uncertain"
  | .bad => "bad"

/-- A field of type `Quality`. -/
def readQuality (fields : List (String × Json)) (name : String) : Except PyError Quality :=
  match Json.member fields name with
  | some (.str "good") => .ok .good
  | some (.str "uncertain") => .ok .uncertain
  | some (.str "bad") => .ok .bad
  | _ => .error (Json.validationError name)

/-! ## Positions -/

/-- `Field(min_length=1, max_length=512)`. -/
def isProducer (s : String) : Bool := decide (1 ≤ s.length ∧ s.length ≤ 512)

/-- `Field(ge=1)` on a strict `int`. -/
def readPositive (fields : List (String × Json)) (name : String) : Except PyError ℤ :=
  match Json.member fields name with
  | some (.int n) => if 1 ≤ n then .ok n else .error (Json.validationError name)
  | _ => .error (Json.validationError name)

/-- `boundary: Literal["adapter"] = "adapter"`. -/
def readBoundary (fields : List (String × Json)) : Except PyError String :=
  match Json.member fields "boundary" with
  | none | some (.str "adapter") => .ok "adapter"
  | some _ => .error (Json.validationError "boundary")

/-- The fields of `SourcePosition` satisfy their constraints. -/
structure SourcePosition.Valid (p : SourcePosition) : Prop where
  producer : isProducer p.producer = true
  epoch : 1 ≤ p.epoch
  sequence : 1 ≤ p.sequence
  boundary : p.boundary = "adapter"

/-- `SourcePosition.model_dump(mode="json")`. -/
def SourcePosition.dumpFields (p : SourcePosition) : List (String × Json) :=
  [("producer", .str p.producer), ("epoch", .int p.epoch), ("sequence", .int p.sequence),
    ("boundary", .str p.boundary)]

def SourcePosition.dump (p : SourcePosition) : Json := .obj p.dumpFields

/-- `SourcePosition.model_validate`. -/
def SourcePosition.parse : Json → Except PyError SourcePosition
  | .obj fields => do
      Json.forbidExtra fields ["producer", "epoch", "sequence", "boundary"]
      let producer ← Json.readStrWith isProducer fields "producer"
      let epoch ← readPositive fields "epoch"
      let sequence ← readPositive fields "sequence"
      let boundary ← readBoundary fields
      return { producer, epoch, sequence, boundary }
  | _ => .error (Json.validationError "")

end EirvahEdge.Contracts
