import EirvahEdge.Lib.Run
import EirvahEdge.Devices.Process

/-!
# The durable device

A simulator with a journal, from its boots to its crashes.  A tick goes through the
three mailboxes; a command that it finds is carried out in memory, then committed
together with its effect, and only then acknowledged in the registers.  After the
mailboxes the block advances, the result is committed, and the registers are
refreshed.

The master writes registers between any two steps, and the process may end between any
two steps; whatever raises in the process ends it as well.  What is kept is the
journal.  Its outbox is the subject of `Delivery`; here a full outbox and its head are
inputs of a tick.

`commits` records what was committed, latest first.
-/

namespace EirvahEdge.Recovery

open EirvahEdge.Lib
open EirvahEdge.Contracts
open EirvahEdge.Devices

/-! ## State -/

/-- A row of `native_effects`. -/
structure Effect where
  target : Target
  sequence : ℕ
  operation : ℕ
  value : ℕ
  status : Status
  beforeCount : ℕ
  afterCount : ℕ
  deviceBoot : ℕ
deriving DecidableEq, Repr

/-- The saved state, the effects (latest first) and the number of boots. -/
structure DeviceJournal where
  state : Option Json := none
  effects : List Effect := []
  boots : ℕ := 0

/-- What one transaction saves. -/
structure Commit where
  effect : Option Effect
  runtime : Runtime

/-- `commit`: the state in its canonical text, and the effect. -/
def DeviceJournal.commit (j : DeviceJournal) (c : Commit) : DeviceJournal :=
  { j with state := some c.runtime.snapshot.sortKeys, effects := c.effect.toList ++ j.effects }

/-- How far the process is. -/
inductive DevicePhase where
  /-- The state is read, and not served yet. -/
  | opened
  | idle
  /-- A tick comes to a mailbox. -/
  | mailbox (t : Target)
  /-- A command is carried out and not committed. -/
  | applied (e : Effect)
  /-- It is committed and not acknowledged. -/
  | committed (e : Effect)
  | controlled
  | advanced
  | saved
deriving DecidableEq, Repr

/-- A running process with the holding registers it serves. -/
structure Device where
  runtime : Runtime
  registers : ℕ → ℕ
  phase : DevicePhase
  boot : ℕ

/-- The journal, the process while it runs, and the commits so far. -/
structure DurableState where
  journal : DeviceJournal := {}
  device : Option Device := none
  commits : List Commit := []

/-- The settings of the simulator. -/
structure DeviceConfig where
  source : RandomSource
  jamProbability : ℚ
  everyNBottles : ℕ
  failEveryNInspections : ℕ
  every_pos : 0 < everyNBottles
  fail_pos : 0 < failEveryNInspections

inductive DeviceEvent where
  /-- `_open_recovery` counts the boot and reads the state, over a new runtime with this
  session and generator. -/
  | openRecovery (session : ℕ) (rng : RngState)
  /-- It commits, and `_build_context` serves the registers. -/
  | buildContext
  /-- A frame of the master. -/
  | write (address : ℕ) (values : List ℕ)
  | wake
  /-- `_process_controls` at one mailbox. -/
  | control
  | commitEffect
  | acknowledge
  /-- The rest of the tick in memory. -/
  | advance (full : Bool) (now : AwareDatetime)
  | save
  | refresh (head : Option BottleInspection)
  | crash

/-! ## Registers -/

/-- `setValues`. -/
def setValues (registers : ℕ → ℕ) (address : ℕ) (values : List ℕ) : ℕ → ℕ := fun a =>
  if address ≤ a ∧ a < address + values.length then values.getD (a - address) 0
  else registers a

/-- `setValues` of an acknowledgement, when there is one. -/
def setAck (acks : Acks) (registers : ℕ → ℕ) (t : Target) : ℕ → ℕ :=
  match acks.get t with
  | some ack => setValues registers t.ack [ack.1, ack.2]
  | none => registers

/-- `_build_context`. -/
def buildContext (r : Runtime) : ℕ → ℕ :=
  [Target.conveyor, .valve, .reject].foldl (setAck r.acks)
    (setValues (fun _ => 0) 0 r.block.asList)

/-- The registers at the end of a tick. -/
def refreshRegisters (r : Runtime) (head : Option BottleInspection) (registers : ℕ → ℕ) :
    ℕ → ℕ :=
  let block := setValues registers 0 r.block.asList
  let feedback := setValues block 8
    [r.block.valve.opened.toNat, r.block.conveyor.running.toNat, r.block.conveyor.setpoint,
      r.block.reject.lastBottle]
  let inspection := setValues feedback 32 r.inspection.registers
  setValues inspection 60 (encodeInspection head)

/-! ## Steps -/

/-- The runtime of a new process. -/
def newRuntime (cfg : DeviceConfig) (session : ℕ) (rng : RngState)
    (h : 0 < session ∧ session < 2 ^ 64) : Runtime where
  block := {}
  inspection :=
    { session
      everyNBottles := cfg.everyNBottles
      failEveryNInspections := cfg.failEveryNInspections
      session_pos := pos_of_inRange h
      session_lt := lt_of_inRange h
      every_pos := cfg.every_pos
      fail_pos := cfg.fail_pos
      sequence_le := zero_sequence_le }
  acks := {}
  rng := rng

/-- The inspection goes on in the next session. -/
def resume (r : Runtime) : Runtime := { r with inspection := r.inspection.resume }

/-- The runtime that `_open_recovery` starts with. -/
def openRuntime (state : Option Json) (new : Runtime) : Except PyError Runtime :=
  match state with
  | none => .ok new
  | some j => (restore j).map resume

/-- The effect of a command. -/
def effectOf (d : Device) (t : Target) : Effect where
  target := t
  sequence := d.registers t.address
  operation := d.registers (t.address + 1)
  value := d.registers (t.address + 2)
  status := (d.runtime.carryOut t (d.registers t.address) (d.registers (t.address + 1))
    (d.registers (t.address + 2))).2
  beforeCount := d.runtime.block.reject.count
  afterCount := (d.runtime.carryOut t (d.registers t.address) (d.registers (t.address + 1))
    (d.registers (t.address + 2))).1.block.reject.count
  deviceBoot := d.boot

/-- The mailbox shows a sequence that is not acknowledged. -/
def Device.Due (d : Device) (t : Target) : Prop :=
  d.registers t.address ≠ 0 ∧ d.registers t.address ≠ d.registers t.ack

instance (d : Device) (t : Target) : Decidable (d.Due t) :=
  inferInstanceAs (Decidable (_ ∧ _))

/-- The phase behind a mailbox. -/
def afterMailbox (t : Target) : DevicePhase :=
  match t.following with
  | some u => .mailbox u
  | none => .controlled

/-- One mailbox of `_process_controls`, in memory. -/
def Device.control (d : Device) (t : Target) : Device :=
  if d.Due t then
    { d with
      runtime := (d.runtime.carryOut t (d.registers t.address) (d.registers (t.address + 1))
        (d.registers (t.address + 2))).1
      phase := .applied (effectOf d t) }
  else { d with phase := afterMailbox t }

/-- A transaction of the process. -/
def DurableState.commit (s : DurableState) (d : Device) (effect : Option Effect) :
    DurableState where
  journal := s.journal.commit ⟨effect, d.runtime⟩
  device := some d
  commits := ⟨effect, d.runtime⟩ :: s.commits

def DurableState.openRecovery (cfg : DeviceConfig) (s : DurableState) (session : ℕ)
    (rng : RngState) : Option DurableState :=
  if h : 0 < session ∧ session < 2 ^ 64 then
    let journal := { s.journal with boots := s.journal.boots + 1 }
    match openRuntime s.journal.state (newRuntime cfg session rng h) with
    | .ok runtime =>
        some { s with
          journal
          device := some ⟨runtime, fun _ => 0, .opened, s.journal.boots + 1⟩ }
    | .error _ => some { s with journal }
  else none

/-- A step of the running process; `none` when it is not its turn. -/
def DurableState.run (cfg : DeviceConfig) (s : DurableState) (d : Device) :
    DeviceEvent → DevicePhase → Option DurableState
  | .buildContext, .opened =>
      some (s.commit { d with registers := buildContext d.runtime, phase := .idle } none)
  | .write _ _, .opened => none
  | .write address values, _ =>
      some { s with device := some { d with registers := setValues d.registers address values } }
  | .wake, .idle => some { s with device := some { d with phase := .mailbox .conveyor } }
  | .control, .mailbox t => some { s with device := some (d.control t) }
  | .commitEffect, .applied e => some (s.commit { d with phase := .committed e } (some e))
  | .acknowledge, .committed e =>
      some { s with
        device := some { d with
          registers := setValues d.registers e.target.ack [e.sequence, e.status]
          phase := afterMailbox e.target } }
  | .advance full now, .controlled =>
      match d.runtime.advance cfg.source cfg.jamProbability full now with
      | .ok runtime => some { s with device := some { d with runtime, phase := .advanced } }
      | .error _ => some { s with device := none }
  | .save, .advanced => some (s.commit { d with phase := .saved } none)
  | .refresh head, .saved =>
      some { s with
        device := some { d with
          registers := refreshRegisters d.runtime head d.registers
          phase := .idle } }
  | .crash, _ => some { s with device := none }
  | _, _ => none

def DurableState.step (cfg : DeviceConfig) (s : DurableState) (e : DeviceEvent) :
    Option DurableState :=
  match s.device with
  | some d => s.run cfg d e d.phase
  | none =>
      match e with
      | .openRecovery session rng => s.openRecovery cfg session rng
      | _ => none

/-- The master leaves the registers of the acknowledgements alone. -/
def DeviceEvent.LeavesAcks : DeviceEvent → Prop
  | .write address values => address + values.length ≤ 50 ∨ 56 ≤ address
  | _ => True

instance (e : DeviceEvent) : Decidable e.LeavesAcks := by
  unfold DeviceEvent.LeavesAcks
  split <;> infer_instance

end EirvahEdge.Recovery
