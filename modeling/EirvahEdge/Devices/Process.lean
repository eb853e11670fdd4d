import EirvahEdge.Devices.Snapshot

/-!
# The simulated process

What happens in the simulator between two commits: one command of a mailbox is
carried out, or the block advances by a tick.  A command writes its acknowledgement
into the runtime; a tick moves the belt and inspects the bottle that passes.

## Main results

* `acks_carryOut`, `count_carryOut`: a command acknowledges itself and nothing else,
  and counts when it is an accepted rejection;
* `advance_kept`: a tick changes neither the acknowledgements nor the count;
* `RegisterBlock.Wf`: both keep the controls well formed.
-/

namespace EirvahEdge.Devices

open EirvahEdge.Lib
open EirvahEdge.Contracts

/-! ## Mailboxes -/

namespace Target

/-- The first register of the mailbox. -/
def address : Target → ℕ
  | conveyor => 20
  | valve => 24
  | reject => 28

/-- The first of the two registers with the acknowledgement. -/
def ack : Target → ℕ
  | conveyor => 50
  | valve => 52
  | reject => 54

/-- The order in which a tick looks at the mailboxes. -/
def following : Target → Option Target
  | conveyor => some valve
  | valve => some reject
  | reject => none

theorem ack_cases (t : Target) : t.ack = 50 ∨ t.ack = 52 ∨ t.ack = 54 := by
  cases t <;> decide

end Target

/-- `_acks.get(str(address))`. -/
def Acks.get (a : Acks) : Target → Option (ℕ × ℕ)
  | .conveyor => a.conveyor
  | .valve => a.valve
  | .reject => a.reject

/-- `_acks[str(address)] = ack`. -/
def Acks.set (a : Acks) (t : Target) (ack : ℕ × ℕ) : Acks :=
  match t with
  | .conveyor => { a with conveyor := some ack }
  | .valve => { a with valve := some ack }
  | .reject => { a with reject := some ack }

theorem Acks.get_set (a : Acks) (t u : Target) (ack : ℕ × ℕ) :
    (a.set t ack).get u = if t = u then some ack else a.get u := by
  cases t <;> cases u <;> rfl

/-! ## Commands -/

/-- The controls with an invariant of their own keep it. -/
structure RegisterBlock.Wf (b : RegisterBlock) : Prop where
  conveyor : b.conveyor.Wf
  reject : b.reject.Wf

theorem RegisterBlock.new_wf : RegisterBlock.Wf {} where
  conveyor := ⟨by decide, by simp⟩
  reject := RejectControl.new_wf 32

/-- `control.apply(operation, value)` on the control of a mailbox. -/
def RegisterBlock.apply (b : RegisterBlock) (t : Target) (operation value : ℕ) :
    RegisterBlock × Status :=
  match t with
  | .conveyor =>
      ({ b with conveyor := (b.conveyor.apply operation value).1 },
        (b.conveyor.apply operation value).2)
  | .valve =>
      ({ b with valve := (b.valve.apply operation value).1 },
        (b.valve.apply operation value).2)
  | .reject =>
      ({ b with reject := (b.reject.apply operation value).1 },
        (b.reject.apply operation value).2)

theorem RegisterBlock.apply_wf {b : RegisterBlock} (h : b.Wf) (t : Target)
    (operation value : ℕ) : (b.apply t operation value).1.Wf := by
  cases t with
  | conveyor => exact ⟨MotorControl.apply_wf h.conveyor operation value, h.reject⟩
  | valve => exact ⟨h.conveyor, h.reject⟩
  | reject => exact ⟨h.conveyor, RejectControl.apply_wf h.reject operation value⟩

/-- A command is carried out, its acknowledgement noted, and the counter of the block
follows the control. -/
def Runtime.carryOut (r : Runtime) (t : Target) (sequence operation value : ℕ) :
    Runtime × Status :=
  let (block, status) := r.block.apply t operation value
  ({ r with
      block := { block with rejectCount := block.reject.count }
      acks := r.acks.set t (sequence, status) }, status)

/-- An accepted rejection is the only command that counts. -/
theorem RegisterBlock.count_apply (b : RegisterBlock) (t : Target) (operation value : ℕ) :
    (b.apply t operation value).1.reject.count =
      if t = .reject ∧ (b.apply t operation value).2 = 1 then min 65535 (b.reject.count + 1)
      else b.reject.count := by
  cases t with
  | conveyor => rfl
  | valve => rfl
  | reject =>
      show (b.reject.apply operation value).1.count =
        if _ ∧ (b.reject.apply operation value).2 = 1 then _ else _
      unfold RejectControl.apply
      split
      · rfl
      · split
        · rfl
        · split <;> rfl

section CarryOut

variable (r : Runtime) (t : Target) (sequence operation value : ℕ)

theorem Runtime.acks_carryOut (u : Target) :
    (r.carryOut t sequence operation value).1.acks.get u =
      if t = u then some (sequence, (r.carryOut t sequence operation value).2)
      else r.acks.get u :=
  Acks.get_set _ _ _ _

theorem Runtime.count_carryOut :
    (r.carryOut t sequence operation value).1.block.reject.count =
      if t = .reject ∧ (r.carryOut t sequence operation value).2 = 1 then
        min 65535 (r.block.reject.count + 1)
      else r.block.reject.count :=
  r.block.count_apply t operation value

theorem Runtime.rejectCount_carryOut :
    (r.carryOut t sequence operation value).1.block.rejectCount =
      (r.carryOut t sequence operation value).1.block.reject.count :=
  rfl

theorem Runtime.wf_carryOut (h : r.block.Wf) :
    (r.carryOut t sequence operation value).1.block.Wf := by
  obtain ⟨hconveyor, hreject⟩ := RegisterBlock.apply_wf h t operation value
  exact ⟨hconveyor, hreject⟩

theorem Runtime.inspection_carryOut :
    (r.carryOut t sequence operation value).1.inspection = r.inspection :=
  rfl

end CarryOut

/-! ## Ticks -/

/-- What a tick draws from `random.Random`: `randint(-span, span)` and `random()`. -/
structure RandomSource where
  randint : ℕ → RngState → ℤ × RngState
  random : RngState → ℚ × RngState

namespace RegisterBlock

/-- `as_list`. -/
def asList (b : RegisterBlock) : List ℕ :=
  [b.fillLevelRaw, b.motorState, b.throughputRaw, b.beltSpeedRaw, b.jamDetected,
    b.bottleCount, b.rejectCount, b.conveyorActive]

/-- The fill level moves while the valve is open. -/
def fill (source : RandomSource) (b : RegisterBlock) (rng : RngState) : ℕ × RngState :=
  if b.valve.opened then
    let (move, rng) := source.randint 20 rng
    ((max 500 (min 950 ((b.fillLevelRaw : ℤ) + move))).toNat, rng)
  else (b.fillLevelRaw, rng)

/-- The belt after a fault that happens by chance. -/
def jam (jamProbability draw : ℚ) (c : MotorControl) : MotorControl :=
  if draw < jamProbability then (c.apply 4 1).1 else c

/-- `tick`. -/
def tick (source : RandomSource) (jamProbability : ℚ) (b : RegisterBlock) (rng : RngState) :
    RegisterBlock × RngState :=
  let (fillLevelRaw, rng) := b.fill source rng
  let (draw, rng) := source.random rng
  let conveyor := jam jamProbability draw b.conveyor
  let moving := conveyor.speed ≠ 0
  let bottleCount := if moving then b.bottleCount % 65535 + 1 else b.bottleCount
  let reject := if moving then b.reject.observe bottleCount else b.reject
  ({ b with
      fillLevelRaw
      throughputRaw := if b.valve.opened then 80 else 0
      conveyor
      beltSpeedRaw := conveyor.speed
      jamDetected := conveyor.faulted.toNat
      conveyorActive := if moving then 1 else 0
      bottleCount
      reject
      rejectCount := reject.count }, rng)

/-- The line stands while the outbox is full. -/
def halt (b : RegisterBlock) : RegisterBlock :=
  { b with beltSpeedRaw := 0, throughputRaw := 0, conveyorActive := 0 }

theorem count_tick (source : RandomSource) (jamProbability : ℚ) (b : RegisterBlock)
    (rng : RngState) :
    (b.tick source jamProbability rng).1.reject.count = b.reject.count := by
  simp only [tick]
  split <;> rfl

theorem jam_wf {c : MotorControl} (h : c.Wf) (jamProbability draw : ℚ) :
    (jam jamProbability draw c).Wf := by
  unfold jam
  split
  · exact MotorControl.apply_wf h 4 1
  · exact h

theorem tick_wf {b : RegisterBlock} (h : b.Wf) (source : RandomSource) (jamProbability : ℚ)
    (rng : RngState) : (b.tick source jamProbability rng).1.Wf where
  conveyor := jam_wf h.conveyor _ _
  reject := by
    simp only [tick]
    split
    · exact RejectControl.observe_wf h.reject _
    · exact h.reject

end RegisterBlock

/-- The part of a tick after the mailboxes.  An error of the inspection ends the
process. -/
def Runtime.advance (source : RandomSource) (jamProbability : ℚ) (r : Runtime) (full : Bool)
    (now : AwareDatetime) : Except PyError Runtime :=
  if full then .ok { r with block := r.block.halt }
  else
    let ticked := r.block.tick source jamProbability r.rng
    if ticked.1.bottleCount ≠ r.block.bottleCount then
      (r.inspection.observe ticked.1.bottleCount now).map fun inspection =>
        { r with block := ticked.1, rng := ticked.2, inspection }
    else .ok { r with block := ticked.1, rng := ticked.2 }

theorem InspectionStream.length_inspect (st : InspectionStream) (bottleId : ℕ) (millis : ℤ) :
    (st.inspect bottleId millis).snapshot.length = 10 :=
  rfl

/-- An observation keeps the ten registers. -/
theorem InspectionStream.length_observe {st st' : InspectionStream} {bottleId : ℕ}
    {now : AwareDatetime} (hlength : st.snapshot.length = 10)
    (h : st.observe bottleId now = .ok st') : st'.snapshot.length = 10 := by
  rcases observe_cases h with hst | ⟨hst, -⟩
  · rw [hst]
    exact hlength
  · rw [hst]
    exact length_inspect _ _ _

/-- What no tick changes. -/
structure Runtime.Kept (r r' : Runtime) : Prop where
  wf : r.block.Wf → r'.block.Wf
  acks : r'.acks = r.acks
  count : r'.block.reject.count = r.block.reject.count
  rejectCount : r.block.rejectCount = r.block.reject.count →
    r'.block.rejectCount = r'.block.reject.count
  length : r.inspection.snapshot.length = 10 → r'.inspection.snapshot.length = 10

theorem Runtime.advance_kept {source : RandomSource} {jamProbability : ℚ} {r r' : Runtime}
    {full : Bool} {now : AwareDatetime}
    (h : r.advance source jamProbability full now = .ok r') : r.Kept r' := by
  have hcount := r.block.count_tick source jamProbability r.rng
  have hwf (h : r.block.Wf) := RegisterBlock.tick_wf h source jamProbability r.rng
  unfold advance at h
  split at h
  · cases h
    exact ⟨fun hwf => ⟨hwf.conveyor, hwf.reject⟩, rfl, rfl, id, id⟩
  · dsimp only at h
    split at h
    · obtain ⟨inspection, hobserve, rfl⟩ := map_eq_ok.1 h
      exact ⟨hwf, rfl, hcount, fun _ => rfl, fun hlength =>
        InspectionStream.length_observe hlength hobserve⟩
    · cases h
      exact ⟨hwf, rfl, hcount, fun _ => rfl, id⟩

end EirvahEdge.Devices
