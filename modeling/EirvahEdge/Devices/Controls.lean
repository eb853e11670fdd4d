import Mathlib.Data.List.Nodup
import Mathlib.Tactic.ByContra

/-!
# The simulated controls

A device carries out one command of its mailbox with `apply operation value` and
answers with a status: 1 applied, 2 invalid command or value, 3 a precondition
on the state or the identity failed, 4 duplicate bottle rejection.

Every control is a function from its state and the two payload registers to the
next state and the status; a mailbox is generic in it.

## Main results

* `MotorControl.apply_wf`, `RejectControl.apply_wf`, `RejectControl.observe_wf`:
  the operations keep the state well formed (a faulted motor does not run, a
  bottle is rejected only while it is in the window);
* `RejectControl.apply_again`: a bottle that was rejected is not counted again
  by the next command for it.
-/

namespace EirvahEdge.Devices

/-- What a device answers. -/
abbrev Status := ℕ

/-! ## Motor -/

structure MotorControl where
  maxSpeed : ℕ
  setpoint : ℕ
  running : Bool := true
  faulted : Bool := false
deriving DecidableEq, Repr

def MotorControl.speed (c : MotorControl) : ℕ :=
  if c.running && !c.faulted then c.setpoint else 0

/-- Operation 2 sets the speed, 1 stops or starts, 3 resets a fault, and 4
injects one. -/
def MotorControl.apply (c : MotorControl) (operation value : ℕ) : MotorControl × Status :=
  match operation with
  | 2 => if value ≤ c.maxSpeed then ({ c with setpoint := value }, 1) else (c, 2)
  | 1 =>
      if value ≠ 0 ∧ value ≠ 1 then (c, 2)
      else if value ≠ 0 ∧ c.faulted then (c, 3)
      else ({ c with running := value ≠ 0 }, 1)
  | 3 =>
      if value ≠ 1 then (c, 2)
      else if c.faulted then ({ c with faulted := false, running := false }, 1)
      else (c, 3)
  | 4 =>
      if value = 1 then ({ c with faulted := true, running := false }, 1) else (c, 2)
  | _ => (c, 2)

/-- The setpoint is in range, and a faulted motor does not run. -/
structure MotorControl.Wf (c : MotorControl) : Prop where
  setpoint_le : c.setpoint ≤ c.maxSpeed
  stopped : c.faulted = true → c.running = false

theorem MotorControl.apply_wf {c : MotorControl} (h : c.Wf) (operation value : ℕ) :
    (c.apply operation value).1.Wf := by
  have hset := h.setpoint_le
  have hstop := h.stopped
  unfold MotorControl.apply
  split
  · split
    · next hle => exact ⟨hle, hstop⟩
    · exact h
  · split
    · exact h
    · split
      · exact h
      · next hbad hfault =>
          refine ⟨hset, fun hf => ?_⟩
          by_contra hrun
          have hone : value ≠ 0 := by simpa using hrun
          exact hfault ⟨hone, hf⟩
  · split
    · exact h
    · split
      · exact ⟨hset, fun hf => by cases hf⟩
      · exact h
  · split
    · exact ⟨hset, fun _ => rfl⟩
    · exact h
  · exact h

/-- A command that is not applied changes nothing. -/
theorem MotorControl.apply_unchanged {c : MotorControl} {operation value : ℕ}
    (h : (c.apply operation value).2 ≠ 1) : (c.apply operation value).1 = c := by
  revert h
  unfold MotorControl.apply
  split <;> (repeat' split) <;> simp

/-! ## Valve -/

structure ValveControl where
  opened : Bool := true
deriving DecidableEq, Repr

def ValveControl.apply (c : ValveControl) (operation value : ℕ) : ValveControl × Status :=
  if operation ≠ 1 ∨ (value ≠ 0 ∧ value ≠ 1) then (c, 2)
  else ({ c with opened := value ≠ 0 }, 1)

theorem ValveControl.apply_unchanged {c : ValveControl} {operation value : ℕ}
    (h : (c.apply operation value).2 ≠ 1) : (c.apply operation value).1 = c := by
  revert h
  unfold ValveControl.apply
  split <;> simp

/-! ## Reject mechanism -/

structure RejectControl where
  window : ℕ := 32
  count : ℕ := 0
  lastBottle : ℕ := 0
  present : List ℕ := []
  rejected : List ℕ := []
deriving DecidableEq, Repr

/-- Drop the oldest bottles until the window holds, and forget with each of
them that it was rejected. -/
def RejectControl.trim (window : ℕ) : List ℕ → List ℕ → List ℕ × List ℕ
  | [], rejected => ([], rejected)
  | b :: present, rejected =>
      if window < (b :: present).length then trim window present (rejected.filter (· ≠ b))
      else (b :: present, rejected)

/-- A bottle passes; the oldest one leaves the window when it is full. -/
def RejectControl.observe (c : RejectControl) (bottleId : ℕ) : RejectControl :=
  let present := if bottleId ∈ c.present then c.present else c.present ++ [bottleId]
  let kept := trim c.window present c.rejected
  { c with present := kept.1, rejected := kept.2 }

def RejectControl.apply (c : RejectControl) (operation value : ℕ) :
    RejectControl × Status :=
  if operation ≠ 1 ∨ ¬ (1 ≤ value ∧ value ≤ 65535) then (c, 2)
  else if value ∉ c.present then (c, 3)
  else if value ∈ c.rejected then (c, 4)
  else
    ({ c with
        rejected := value :: c.rejected
        count := min 65535 (c.count + 1)
        lastBottle := value }, 1)

/-- No bottle is twice in the window, and only bottles in it are rejected. -/
structure RejectControl.Wf (c : RejectControl) : Prop where
  present_nodup : c.present.Nodup
  rejected_present : ∀ b ∈ c.rejected, b ∈ c.present
  within : c.present.length ≤ c.window
  count_le : c.count ≤ 65535

/-- The station when it starts. -/
theorem RejectControl.new_wf (window : ℕ) : RejectControl.Wf { window } where
  present_nodup := List.nodup_nil
  rejected_present := by simp
  within := Nat.zero_le _
  count_le := Nat.zero_le _

theorem RejectControl.length_trim_le (window : ℕ) (present rejected : List ℕ) :
    (trim window present rejected).1.length ≤ window := by
  induction present generalizing rejected with
  | nil => exact Nat.zero_le _
  | cons b present ih =>
      unfold trim
      split
      · exact ih _
      · next h => exact Nat.le_of_not_lt h

/-- What stays after trimming is a distinct list again, and every rejection kept
is of a bottle that stays. -/
theorem RejectControl.trim_wf {present rejected : List ℕ} (window : ℕ)
    (hnodup : present.Nodup) (hsub : ∀ b ∈ rejected, b ∈ present) :
    (trim window present rejected).1.Nodup ∧
      ∀ b ∈ (trim window present rejected).2, b ∈ (trim window present rejected).1 := by
  induction present generalizing rejected with
  | nil => exact ⟨hnodup, hsub⟩
  | cons b present ih =>
      unfold trim
      split
      · apply ih (List.nodup_cons.1 hnodup).2
        intro x hx
        have hx' := List.mem_filter.1 hx
        have hne : x ≠ b := by simpa using hx'.2
        exact (List.mem_cons.1 (hsub x hx'.1)).resolve_left hne
      · exact ⟨hnodup, hsub⟩

theorem RejectControl.observe_wf {c : RejectControl} (h : c.Wf) (bottleId : ℕ) :
    (c.observe bottleId).Wf := by
  have hnodup : (if bottleId ∈ c.present then c.present
      else c.present ++ [bottleId]).Nodup := by
    split
    · exact h.present_nodup
    · next hmem => simpa [List.nodup_append] using ⟨h.present_nodup, fun a ha he => hmem (he ▸ ha)⟩
  have hsub : ∀ b ∈ c.rejected, b ∈ (if bottleId ∈ c.present then c.present
      else c.present ++ [bottleId]) := by
    intro b hb
    split
    · exact h.rejected_present b hb
    · exact List.mem_append_left _ (h.rejected_present b hb)
  have htrim := trim_wf c.window hnodup hsub
  exact ⟨htrim.1, htrim.2, length_trim_le _ _ _, h.count_le⟩

theorem RejectControl.apply_wf {c : RejectControl} (h : c.Wf) (operation value : ℕ) :
    (c.apply operation value).1.Wf := by
  unfold RejectControl.apply
  split
  · exact h
  · split
    · exact h
    · next hpresent =>
        split
        · exact h
        · refine ⟨h.present_nodup, fun b hb => ?_, h.within, Nat.min_le_left _ _⟩
          rcases List.mem_cons.1 hb with rfl | hb
          · simpa using hpresent
          · exact h.rejected_present b hb

theorem RejectControl.apply_unchanged {c : RejectControl} {operation value : ℕ}
    (h : (c.apply operation value).2 ≠ 1) : (c.apply operation value).1 = c := by
  revert h
  unfold RejectControl.apply
  split
  · simp
  · split
    · simp
    · split <;> simp

/-- A command for a bottle that is already rejected answers 4 and counts
nothing, as long as the bottle has not left the window. -/
theorem RejectControl.apply_again {c : RejectControl} {value : ℕ}
    (h : (c.apply 1 value).2 = 1) :
    (c.apply 1 value).1.apply 1 value = ((c.apply 1 value).1, 4) := by
  unfold RejectControl.apply at h
  split at h
  · cases h
  · split at h
    · cases h
    · split at h
      · cases h
      · next hrange hpresent hrejected =>
          have hvalue : 1 ≤ value ∧ value ≤ 65535 := by omega
          simp [RejectControl.apply, hvalue.1, Nat.not_lt.2 hvalue.2, hpresent, hrejected]

end EirvahEdge.Devices
