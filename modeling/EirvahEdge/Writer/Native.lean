import EirvahEdge.Contracts.Actuation

/-!
# Native writes

What the writer sends to a device.  A Modbus or S7 command goes through a
mailbox: one frame with the operation and the encoded value, then one frame with
a fresh sequence number; the device answers with that sequence and a status.
An OPC UA command is one write of the value itself.
-/

namespace EirvahEdge.Writer

open EirvahEdge.Lib
open EirvahEdge.Contracts

/-! ## Targets -/

inductive NativeProtocol where
  | modbus
  | s7
deriving DecidableEq, Repr

inductive NativeValueType where
  | bool
  | double
  | int64
deriving DecidableEq, Repr

def NativeValueType.name : NativeValueType → String
  | .bool => "bool"
  | .double => "double"
  | .int64 => "int64"

/-- The members of `NativeTarget` that a command depends on. -/
structure NativeTarget where
  protocol : NativeProtocol
  host : String
  port : ℕ
  unitId : ℤ := 1
  db : ℤ := 3
  commandAddress : ℕ
  ackAddress : ℕ
  operation : ℕ
  valueType : NativeValueType
  scale : ℕ := 1
  minimum : PyFloat
  maximum : PyFloat
deriving DecidableEq, Repr

/-- `WriteTarget`. -/
structure WriteTarget where
  browseNames : List String
  endpoint : String
  namespaceUri : String
deriving DecidableEq, Repr

/-! ## Encoding -/

/-- `type(value)` is one the target takes. -/
def NativeValueType.accepts : NativeValueType → SignalValue → Bool
  | .bool, .bool _ => true
  | .int64, .int _ => true
  | .double, .int _ => true
  | .double, .float _ => true
  | _, _ => false

/-- `encode_value`. -/
def encodeValue (target : NativeTarget) (value : SignalValue) : Except PyError ℕ := do
  if !target.valueType.accepts value then
    throw (valueError ("expected " ++ target.valueType.name))
  let numeric ← toFloat value
  if !(numeric.isFinite && PyFloat.le target.minimum numeric &&
      PyFloat.le numeric target.maximum) then
    throw (valueError "value outside native target range")
  let scale ← toFloat (.int target.scale)
  match PyFloat.ofRat (numeric.toRat?.getD 0 * scale.toRat?.getD 0) with
  | .finite scaled =>
      let raw := PyFloat.roundHalfEven scaled
      if PyFloat.isClose scaled raw (PyFloat.nearest (1 / 10 ^ 6)) ∧
          0 ≤ raw ∧ raw ≤ 65535 then
        return raw.toNat
      else throw (valueError "value cannot be represented by target encoding")
  | _ => throw ⟨.overflowError, "cannot convert float infinity to integer"⟩

/-! ## The mailbox -/

/-- `_sequence`, with the draw of `secrets.randbelow(65535)`: one of
1 to 65535, and not the previous one. -/
def nextSequence (previous draw : ℕ) : ℕ :=
  let sequence := draw % 65535 + 1
  if sequence ≠ previous then sequence else sequence % 65535 + 1

/-- `_check_ack` on the two registers of an acknowledgement. -/
def checkAck (sequence ackSequence status : ℕ) : Except PyError Bool :=
  if ackSequence ≠ sequence then .ok false
  else if status ≠ 1 then
    .error (valueError ("device rejected command: status=" ++ toString status))
  else .ok true

theorem nextSequence_ne (previous draw : ℕ) : nextSequence previous draw ≠ previous := by
  unfold nextSequence
  dsimp only
  split
  · assumption
  · omega

theorem nextSequence_pos (previous draw : ℕ) : 0 < nextSequence previous draw := by
  unfold nextSequence
  dsimp only
  split <;> omega

theorem nextSequence_le (previous draw : ℕ) : nextSequence previous draw ≤ 65535 := by
  have hmod : draw % 65535 < 65535 := Nat.mod_lt _ (by norm_num)
  have hmod' : (draw % 65535 + 1) % 65535 < 65535 := Nat.mod_lt _ (by norm_num)
  unfold nextSequence
  dsimp only
  split <;> omega

/-! ## Frames -/

/-- One message to a device that changes something there. -/
inductive Frame where
  | opcua (target : WriteTarget) (value : SignalValue)
  | registers (target : NativeTarget) (address : ℕ) (values : List ℕ)
  | dbWrite (target : NativeTarget) (start : ℕ) (data : List ℕ)
deriving DecidableEq, Repr

/-- `struct.pack(">H...", ...)`. -/
def packWords (words : List ℕ) : List ℕ :=
  words.flatMap fun w => [w / 256 % 256, w % 256]

/-- The frames of `_write_modbus` and `_write_s7`: payload first, sequence
last. -/
def mailboxFrames (target : NativeTarget) (raw sequence : ℕ) : List Frame :=
  match target.protocol with
  | .modbus =>
      [.registers target (target.commandAddress + 1) [target.operation, raw],
        .registers target target.commandAddress [sequence]]
  | .s7 =>
      [.dbWrite target (target.commandAddress + 2) (packWords [target.operation, raw]),
        .dbWrite target target.commandAddress (packWords [sequence])]

/-- Where a topic is written to. -/
inductive Route where
  | native (target : NativeTarget)
  | opcua (target : WriteTarget)
deriving DecidableEq, Repr

/-- The write runs in a worker thread that outlives its handler. -/
def Route.inThread : Route → Bool
  | .native target => target.protocol == .s7
  | .opcua _ => false

/-- The frames a write of the value sends, in order, when the sequence number
comes out as `sequence`. -/
def framesFor (route : Route) (value : SignalValue) (sequence : ℕ) :
    Except PyError (List Frame) :=
  match route with
  | .native target => (encodeValue target value).map (mailboxFrames target · sequence)
  | .opcua target => .ok [.opcua target value]

end EirvahEdge.Writer
