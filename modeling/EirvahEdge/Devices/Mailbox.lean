import EirvahEdge.Lib.Run
import EirvahEdge.Writer.Native
import EirvahEdge.Devices.Controls

/-!
# One Modbus command mailbox

Three holding registers take a command (sequence, operation, value) and two hold
the acknowledgement (sequence, status).  The writer of `_write_modbus` and the
device of `_process_controls` meet only there, and their steps interleave: a
device tick may fall between any two frames of an attempt.

An attempt reads the acknowledgement and chooses its sequence, writes the
payload, writes the sequence, and polls until the acknowledgement shows its
sequence or its time is over.  It may end after any frame, and the next attempt
starts on the registers it leaves behind.

The trace records who wrote what and what the device did; `Attributed` says that
everything the device applied was some attempt's own command, under that
attempt's own sequence, and no attempt's twice.

## Main results

* `attributed_of_settled`: that holds on every run in which no tick finds a new
  sequence over a payload of a later attempt;
* `torn_of_overwritten`: a tick that does find one applies a command that nobody
  sent under that sequence;
* `torn_command`: and this happens, when an attempt times out just before the
  tick that would have taken its command.
-/

namespace EirvahEdge.Devices

open EirvahEdge.Lib
open EirvahEdge.Contracts
open EirvahEdge.Writer

/-! ## State -/

/-- One call of `_write_modbus`: the command and the sequence it chose. -/
structure Attempt where
  id : ℕ
  operation : ℕ
  value : ℕ
  sequence : ℕ
deriving DecidableEq, Repr

/-- How far an attempt is. -/
inductive AttemptPhase where
  | opened
  | paid
  | committed
deriving DecidableEq, Repr

inductive MailboxObs where
  | payload (a : Attempt)
  | commit (a : Attempt)
  | applied (sequence operation value : ℕ) (status : Status)
deriving DecidableEq, Repr

/-- The registers, the device behind them, the attempt that is running, and what
happened so far, latest first. -/
structure Mailbox (σ : Type) where
  sequence : ℕ := 0
  operation : ℕ := 0
  value : ℕ := 0
  ackSequence : ℕ := 0
  ackStatus : ℕ := 0
  control : σ
  running : Option (Attempt × AttemptPhase) := none
  attempts : ℕ := 0
  trace : List MailboxObs := []
deriving DecidableEq, Repr

/-- A tick of the device finds a command to carry out. -/
def Mailbox.Due {σ : Type} (m : Mailbox σ) : Prop :=
  m.sequence ≠ 0 ∧ m.sequence ≠ m.ackSequence

instance {σ : Type} (m : Mailbox σ) : Decidable m.Due :=
  inferInstanceAs (Decidable (_ ∧ _))

inductive MailboxEvent where
  /-- An attempt reads the acknowledgement and draws its sequence. -/
  | start (operation value draw : ℕ)
  | writePayload
  | writeSequence
  | poll
  /-- A timeout, an error, or the end of the process. -/
  | cutOff
  | tick
deriving DecidableEq, Repr

variable {σ : Type}

/-! ## Steps -/

/-- The writer's frame with the operation and the value. -/
def Mailbox.writePayload (m : Mailbox σ) (a : Attempt) : Mailbox σ :=
  { m with
    operation := a.operation
    value := a.value
    running := some (a, .paid)
    trace := .payload a :: m.trace }

/-- The writer's frame with the sequence. -/
def Mailbox.writeSequence (m : Mailbox σ) (a : Attempt) : Mailbox σ :=
  { m with
    sequence := a.sequence
    running := some (a, .committed)
    trace := .commit a :: m.trace }

/-- The part of `_process_controls` for this mailbox. -/
def Mailbox.processControls (apply : σ → ℕ → ℕ → σ × Status) (m : Mailbox σ) :
    Mailbox σ :=
  if m.Due then
    let (control, status) := apply m.control m.operation m.value
    { m with
      control
      ackSequence := m.sequence
      ackStatus := status
      trace := .applied m.sequence m.operation m.value status :: m.trace }
  else m

def Mailbox.step (apply : σ → ℕ → ℕ → σ × Status) (m : Mailbox σ) :
    MailboxEvent → Option (Mailbox σ)
  | .start operation value draw =>
      match m.running with
      | some _ => none
      | none =>
          let a : Attempt :=
            ⟨m.attempts, operation, value, nextSequence m.ackSequence draw⟩
          some { m with running := some (a, .opened), attempts := m.attempts + 1 }
  | .writePayload =>
      match m.running with
      | some (a, .opened) => some (m.writePayload a)
      | _ => none
  | .writeSequence =>
      match m.running with
      | some (a, .paid) => some (m.writeSequence a)
      | _ => none
  | .poll =>
      match m.running with
      | some (a, .committed) =>
          match checkAck a.sequence m.ackSequence m.ackStatus with
          | .ok false => some m
          | _ => some { m with running := none }
      | _ => none
  | .cutOff =>
      match m.running with
      | some _ => some { m with running := none }
      | none => none
  | .tick => some (m.processControls apply)

/-- The device after its start, with the acknowledgement it kept. -/
def Mailbox.initial (control : σ) (ackSequence ackStatus : ℕ) : Mailbox σ :=
  { control, ackSequence, ackStatus }

/-! ## The property -/

/-- Each command the device applied has an owner: an attempt that wrote this
payload and this sequence before, and that owns no earlier one. -/
def Attributed : List MailboxObs → List Attempt → Prop
  | [], owners => owners = []
  | .applied sequence operation value _ :: trace, owners =>
      ∃ a rest, owners = a :: rest ∧
        a.operation = operation ∧ a.value = value ∧ a.sequence = sequence ∧
        .payload a ∈ trace ∧ .commit a ∈ trace ∧
        a.id ∉ rest.map Attempt.id ∧ Attributed trace rest
  | _ :: trace, owners => Attributed trace owners

/-- The attempt whose sequence was written last. -/
def lastCommit : List MailboxObs → Option Attempt
  | [] => none
  | .commit a :: _ => some a
  | _ :: trace => lastCommit trace

/-- The attempt whose payload was written last. -/
def lastPayload : List MailboxObs → Option Attempt
  | [] => none
  | .payload a :: _ => some a
  | _ :: trace => lastPayload trace

/-- Another payload went over the one that belongs to the sequence. -/
def Overwritten (trace : List MailboxObs) : Prop :=
  (lastPayload trace).map (fun a => (a.operation, a.value)) ≠
    (lastCommit trace).map (fun a => (a.operation, a.value))

instance (trace : List MailboxObs) : Decidable (Overwritten trace) :=
  inferInstanceAs (Decidable (_ ≠ _))

/-- No tick finds a new sequence over a payload that does not belong to it. -/
def Settled (m : Mailbox σ) (e : MailboxEvent) : Prop :=
  e = .tick → m.Due → ¬ Overwritten m.trace

instance (m : Mailbox σ) (e : MailboxEvent) : Decidable (Settled m e) :=
  inferInstanceAs (Decidable (_ → _ → _))

/-! ## What the trace keeps -/

theorem lastCommit_mem {trace : List MailboxObs} {a : Attempt}
    (h : lastCommit trace = some a) : .commit a ∈ trace := by
  induction trace with
  | nil => cases h
  | cons o trace ih =>
      cases o with
      | commit b =>
          have hb : b = a := Option.some.inj h
          exact hb ▸ List.mem_cons_self
      | payload b => exact List.mem_cons_of_mem _ (ih h)
      | applied s o v st => exact List.mem_cons_of_mem _ (ih h)

theorem lastPayload_mem {trace : List MailboxObs} {a : Attempt}
    (h : lastPayload trace = some a) : .payload a ∈ trace := by
  induction trace with
  | nil => cases h
  | cons o trace ih =>
      cases o with
      | payload b =>
          have hb : b = a := Option.some.inj h
          exact hb ▸ List.mem_cons_self
      | commit b => exact List.mem_cons_of_mem _ (ih h)
      | applied s o v st => exact List.mem_cons_of_mem _ (ih h)

theorem lastPayload_ne_none {trace : List MailboxObs} {a : Attempt}
    (h : .payload a ∈ trace) : lastPayload trace ≠ none := by
  induction trace with
  | nil => cases h
  | cons o trace ih =>
      cases o with
      | payload b => simp [lastPayload]
      | commit b => exact ih ((List.mem_cons.1 h).resolve_left (by simp))
      | applied s o v st => exact ih ((List.mem_cons.1 h).resolve_left (by simp))

/-- Owners have written their sequence. -/
theorem Attributed.commit_mem {trace : List MailboxObs} {owners : List Attempt}
    (h : Attributed trace owners) {a : Attempt} (ha : a ∈ owners) : .commit a ∈ trace := by
  induction trace generalizing owners with
  | nil =>
      have hnil : owners = [] := h
      rw [hnil] at ha
      cases ha
  | cons o trace ih =>
      cases o with
      | payload b => exact List.mem_cons_of_mem _ (ih h ha)
      | commit b => exact List.mem_cons_of_mem _ (ih h ha)
      | applied s o v st =>
          obtain ⟨b, rest, rfl, -, -, -, -, hcommit, -, hrest⟩ := h
          rcases List.mem_cons.1 ha with rfl | ha
          · exact List.mem_cons_of_mem _ hcommit
          · exact List.mem_cons_of_mem _ (ih hrest ha)

/-- The writer's side of the registers, whatever the ticks do: the payload
registers hold the last payload, the sequence register the last sequence, a
sequence follows its own payload, and an attempt that has not written its
sequence yet is new to the trace. -/
structure WriterSide (m : Mailbox σ) : Prop where
  committed_lt : ∀ a, .commit a ∈ m.trace → a.id < m.attempts
  running_lt : ∀ a phase, m.running = some (a, phase) → a.id < m.attempts
  uncommitted : ∀ a phase, m.running = some (a, phase) → phase ≠ .committed →
    ∀ b, .commit b ∈ m.trace → b.id ≠ a.id
  paid : ∀ a, m.running = some (a, .paid) → lastPayload m.trace = some a
  commit_paid : ∀ a, .commit a ∈ m.trace → .payload a ∈ m.trace
  payload_eq : ∀ a, lastPayload m.trace = some a →
    m.operation = a.operation ∧ m.value = a.value
  sequence_eq : ∀ a, lastCommit m.trace = some a → m.sequence = a.sequence
  sequence_zero : lastCommit m.trace = none → m.sequence = 0

theorem WriterSide.initial (control : σ) (ackSequence ackStatus : ℕ) :
    WriterSide (Mailbox.initial control ackSequence ackStatus) where
  committed_lt := by simp [Mailbox.initial]
  running_lt := by simp [Mailbox.initial]
  uncommitted := by simp [Mailbox.initial]
  paid := by simp [Mailbox.initial]
  commit_paid := by simp [Mailbox.initial]
  payload_eq := by simp [Mailbox.initial, lastPayload]
  sequence_eq := by simp [Mailbox.initial, lastCommit]
  sequence_zero := fun _ => rfl

/-- A due sequence is that of the last commit. -/
theorem WriterSide.due {m : Mailbox σ} (h : WriterSide m) (hdue : m.Due) :
    ∃ a, lastCommit m.trace = some a ∧ m.sequence = a.sequence := by
  cases hl : lastCommit m.trace with
  | none => exact absurd (h.sequence_zero hl) hdue.1
  | some a => exact ⟨a, rfl, h.sequence_eq a hl⟩

theorem WriterSide.started {m : Mailbox σ} (h : WriterSide m)
    (operation value draw : ℕ) :
    WriterSide { m with
      running := some (⟨m.attempts, operation, value, nextSequence m.ackSequence draw⟩,
        .opened)
      attempts := m.attempts + 1 } := by
  refine { h with committed_lt := ?_, running_lt := ?_, uncommitted := ?_, paid := ?_ }
  · intro a ha
    exact Nat.lt_succ_of_lt (h.committed_lt a ha)
  · intro a phase ha
    obtain ⟨rfl, -⟩ := Prod.mk.inj (Option.some.inj ha)
    exact Nat.lt_succ_self _
  · intro a phase ha _ b hb
    obtain ⟨rfl, -⟩ := Prod.mk.inj (Option.some.inj ha)
    exact (h.committed_lt b hb).ne
  · intro a ha
    cases ha

theorem WriterSide.ended {m : Mailbox σ} (h : WriterSide m) :
    WriterSide { m with running := none } := by
  refine { h with running_lt := ?_, uncommitted := ?_, paid := ?_ }
  · intro a phase ha
    cases ha
  · intro a phase ha
    cases ha
  · intro a ha
    cases ha

theorem WriterSide.writePayload {m : Mailbox σ} (h : WriterSide m) {a : Attempt}
    (ha : m.running = some (a, .opened)) : WriterSide (m.writePayload a) where
  committed_lt := by
    intro b hb
    exact h.committed_lt b (by simpa [Mailbox.writePayload] using hb)
  running_lt := by
    intro b phase hb
    obtain ⟨rfl, -⟩ := Prod.mk.inj (Option.some.inj hb)
    exact h.running_lt _ _ ha
  uncommitted := by
    intro b phase hb _ c hc
    obtain ⟨rfl, -⟩ := Prod.mk.inj (Option.some.inj hb)
    exact h.uncommitted _ _ ha (by simp) c (by simpa [Mailbox.writePayload] using hc)
  paid := by
    intro b hb
    obtain ⟨rfl, -⟩ := Prod.mk.inj (Option.some.inj hb)
    rfl
  commit_paid := by
    intro b hb
    have hb' : MailboxObs.commit b ∈ m.trace := by simpa [Mailbox.writePayload] using hb
    exact List.mem_cons_of_mem _ (h.commit_paid b hb')
  payload_eq := by
    intro b hb
    have hab : a = b := Option.some.inj hb
    exact hab ▸ ⟨rfl, rfl⟩
  sequence_eq := h.sequence_eq
  sequence_zero := h.sequence_zero

theorem WriterSide.writeSequence {m : Mailbox σ} (h : WriterSide m) {a : Attempt}
    (ha : m.running = some (a, .paid)) : WriterSide (m.writeSequence a) where
  committed_lt := by
    intro b hb
    rcases List.mem_cons.1 hb with hb | hb
    · cases hb
      exact h.running_lt _ _ ha
    · exact h.committed_lt b hb
  running_lt := by
    intro b phase hb
    obtain ⟨rfl, -⟩ := Prod.mk.inj (Option.some.inj hb)
    exact h.running_lt _ _ ha
  uncommitted := by
    intro b phase hb hphase
    obtain ⟨-, rfl⟩ := Prod.mk.inj (Option.some.inj hb)
    exact absurd rfl hphase
  paid := by
    intro b hb
    cases hb
  commit_paid := by
    intro b hb
    rcases List.mem_cons.1 hb with hb | hb
    · cases hb
      exact List.mem_cons_of_mem _ (lastPayload_mem (h.paid a ha))
    · exact List.mem_cons_of_mem _ (h.commit_paid b hb)
  payload_eq := h.payload_eq
  sequence_eq := by
    intro b hb
    have hab : a = b := Option.some.inj hb
    exact hab ▸ rfl
  sequence_zero := by
    intro hnone
    cases hnone

theorem WriterSide.processControls {apply : σ → ℕ → ℕ → σ × Status} {m : Mailbox σ}
    (h : WriterSide m) : WriterSide (m.processControls apply) := by
  unfold Mailbox.processControls
  split
  · refine { h with committed_lt := ?_, uncommitted := ?_, commit_paid := ?_ }
    · intro a ha
      exact h.committed_lt a (by simpa using ha)
    · intro a phase ha hphase b hb
      exact h.uncommitted a phase ha hphase b (by simpa using hb)
    · intro a ha
      exact List.mem_cons_of_mem _ (h.commit_paid a (by simpa using ha))
  · exact h

theorem WriterSide.step {apply : σ → ℕ → ℕ → σ × Status} {m m' : Mailbox σ}
    {e : MailboxEvent} (h : WriterSide m) (hs : m.step apply e = some m') :
    WriterSide m' := by
  cases e with
  | start operation value draw =>
      simp only [Mailbox.step] at hs
      split at hs
      · cases hs
      · rw [← Option.some.inj hs]
        exact h.started operation value draw
  | writePayload =>
      simp only [Mailbox.step] at hs
      split at hs
      · next a ha =>
          rw [← Option.some.inj hs]
          exact h.writePayload ha
      · cases hs
  | writeSequence =>
      simp only [Mailbox.step] at hs
      split at hs
      · next a ha =>
          rw [← Option.some.inj hs]
          exact h.writeSequence ha
      · cases hs
  | poll =>
      simp only [Mailbox.step] at hs
      split at hs
      · split at hs
        · rw [← Option.some.inj hs]
          exact h
        · rw [← Option.some.inj hs]
          exact h.ended
      · cases hs
  | cutOff =>
      simp only [Mailbox.step] at hs
      split at hs
      · rw [← Option.some.inj hs]
        exact h.ended
      · cases hs
  | tick =>
      rw [← Option.some.inj hs]
      exact h.processControls

theorem WriterSide.of_run {apply : σ → ℕ → ℕ → σ × Status} {control : σ}
    {ackSequence ackStatus : ℕ} {m : Mailbox σ} {es : List MailboxEvent}
    (h : Run.exec (Mailbox.step apply) (.initial control ackSequence ackStatus) es =
      some m) : WriterSide m :=
  Run.exec_invariant (fun _ _ _ h hs => h.step hs) (.initial ..) h

/-! ## Every command applied has its own attempt -/

/-- The trace is attributed so far, and the attempt behind a due sequence owns
nothing yet. -/
structure Owned (m : Mailbox σ) (owners : List Attempt) : Prop where
  attributed : Attributed m.trace owners
  unused : m.Due → ∀ a, lastCommit m.trace = some a → a.id ∉ owners.map Attempt.id

theorem Owned.initial (control : σ) (ackSequence ackStatus : ℕ) :
    Owned (Mailbox.initial control ackSequence ackStatus) [] :=
  ⟨rfl, fun _ _ _ => List.not_mem_nil⟩

/-- A tick over the payload of the sequence gives the command to the attempt
that wrote both. -/
theorem Owned.processControls {apply : σ → ℕ → ℕ → σ × Status} {m : Mailbox σ}
    {owners : List Attempt} (h : Owned m owners) (hside : WriterSide m)
    (hsettled : m.Due → ¬ Overwritten m.trace) :
    ∃ owners', Owned (m.processControls apply) owners' := by
  unfold Mailbox.processControls
  split
  · next hdue =>
      obtain ⟨a, hlast, hsequence⟩ := hside.due hdue
      have hcommit := lastCommit_mem hlast
      have hpayload := hside.commit_paid a hcommit
      have hsame : (lastPayload m.trace).map (fun b => (b.operation, b.value)) =
          some (a.operation, a.value) := by
        have hkept := not_not.1 (hsettled hdue)
        rw [hkept, hlast, Option.map_some]
      obtain ⟨b, hb, hba⟩ := Option.map_eq_some_iff.1 hsame
      obtain ⟨hoperation, hvalue⟩ := Prod.mk.inj hba
      have hregisters := hside.payload_eq b hb
      refine ⟨a :: owners, ⟨a, owners, rfl, ?_, ?_, hsequence.symm, hpayload, hcommit,
        h.unused hdue a hlast, h.attributed⟩, ?_⟩
      · exact hoperation.symm.trans hregisters.1.symm
      · exact hvalue.symm.trans hregisters.2.symm
      · -- the acknowledgement shows the sequence now
        intro hagain
        exact absurd rfl hagain.2
  · exact ⟨owners, h⟩

theorem Owned.writeSequence {m : Mailbox σ} {owners : List Attempt} (h : Owned m owners)
    (hside : WriterSide m) {a : Attempt} (ha : m.running = some (a, .paid)) :
    Owned (m.writeSequence a) owners := by
  refine ⟨h.attributed, fun _ b hb hmem => ?_⟩
  have hab : a = b := Option.some.inj hb
  obtain ⟨c, hc, hid⟩ := List.mem_map.1 hmem
  have hold := h.attributed.commit_mem hc
  exact hside.uncommitted a _ ha (by simp) c hold (hid.trans (hab ▸ rfl))

theorem Owned.step {apply : σ → ℕ → ℕ → σ × Status} {m m' : Mailbox σ}
    {owners : List Attempt} {e : MailboxEvent} (h : Owned m owners) (hside : WriterSide m)
    (hG : Settled m e) (hs : m.step apply e = some m') : ∃ owners', Owned m' owners' := by
  cases e with
  | start operation value draw =>
      simp only [Mailbox.step] at hs
      split at hs
      · cases hs
      · rw [← Option.some.inj hs]
        exact ⟨owners, h.attributed, h.unused⟩
  | writePayload =>
      simp only [Mailbox.step] at hs
      split at hs
      · rw [← Option.some.inj hs]
        exact ⟨owners, h.attributed, h.unused⟩
      · cases hs
  | writeSequence =>
      simp only [Mailbox.step] at hs
      split at hs
      · next a ha =>
          rw [← Option.some.inj hs]
          exact ⟨owners, h.writeSequence hside ha⟩
      · cases hs
  | poll =>
      simp only [Mailbox.step] at hs
      split at hs
      · split at hs
        · rw [← Option.some.inj hs]
          exact ⟨owners, h⟩
        · rw [← Option.some.inj hs]
          exact ⟨owners, h.attributed, h.unused⟩
      · cases hs
  | cutOff =>
      simp only [Mailbox.step] at hs
      split at hs
      · rw [← Option.some.inj hs]
        exact ⟨owners, h.attributed, h.unused⟩
      · cases hs
  | tick =>
      rw [← Option.some.inj hs]
      exact h.processControls hside (hG rfl)

/-- Along every run in which no tick finds a new sequence over the payload of
another command, each command the device applies was written by an attempt that
also wrote its sequence, and no attempt owns two of them. -/
theorem attributed_of_settled (apply : σ → ℕ → ℕ → σ × Status) (control : σ)
    (ackSequence ackStatus : ℕ) (es : List MailboxEvent) (m : Mailbox σ)
    (hrun : Run.exec (Mailbox.step apply) (.initial control ackSequence ackStatus) es =
      some m)
    (hsettled : Run.Guarded (Mailbox.step apply) Settled
      (.initial control ackSequence ackStatus) es) :
    ∃ owners, Attributed m.trace owners := by
  have hinv : WriterSide m ∧ ∃ owners, Owned m owners := by
    apply Run.exec_invariant_of_guarded (I := fun m => WriterSide m ∧ ∃ owners, Owned m owners)
      _ ⟨.initial .., [], .initial ..⟩ hsettled hrun
    intro m e m' ⟨hside, owners, howned⟩ hG hs
    exact ⟨hside.step hs, howned.step hside hG hs⟩
  obtain ⟨-, owners, howned⟩ := hinv
  exact ⟨owners, howned.attributed⟩

/-- A conveyor takes two commands, one of them after a timeout. -/
theorem attributed_of_settled_example :
    ∃ m : Mailbox MotorControl,
      (∃ es, Run.exec (Mailbox.step MotorControl.apply)
          (.initial ⟨80, 50, true, false⟩ 7 1) es = some m) ∧
        (∃ owners, Attributed m.trace owners) ∧
        m.trace.head? = some (.applied 3 2 60 1) ∧ m.control.setpoint = 60 := by
  let es : List MailboxEvent :=
    [.start 2 40 0, .writePayload, .tick, .writeSequence, .poll, .cutOff, .tick,
      .start 2 60 2, .writePayload, .tick, .writeSequence, .tick, .poll]
  obtain ⟨m, hm, hend⟩ : ∃ m, Run.exec (Mailbox.step MotorControl.apply)
      (.initial ⟨80, 50, true, false⟩ 7 1) es = some m ∧
        m.trace.head? = some (.applied 3 2 60 1) ∧ m.control.setpoint = 60 :=
    Run.exists_exec (by decide +kernel)
  exact ⟨m, ⟨es, hm⟩, attributed_of_settled MotorControl.apply ⟨80, 50, true, false⟩ 7 1 es
    m hm (by decide +kernel), hend⟩

/-! ## Torn commands -/

/-- A tick that finds a due sequence over another payload applies what nobody
sent under that sequence, unless an earlier attempt drew the same number. -/
theorem torn_of_overwritten {apply : σ → ℕ → ℕ → σ × Status} {m : Mailbox σ}
    (hside : WriterSide m) (hdue : m.Due) (hover : Overwritten m.trace)
    (hdraw : ∀ a b, .commit a ∈ m.trace → .commit b ∈ m.trace →
      a.sequence = b.sequence → a = b) (owners : List Attempt) :
    ¬ Attributed (m.processControls apply).trace owners := by
  intro hattr
  rw [Mailbox.processControls, if_pos hdue] at hattr
  obtain ⟨a, rest, -, hoperation, hvalue, hsequence, -, hcommit, -⟩ := hattr
  obtain ⟨b, hlast, hregister⟩ := hside.due hdue
  have hab : a = b := hdraw a b hcommit (lastCommit_mem hlast) (hsequence.trans hregister)
  apply hover
  cases hpayload : lastPayload m.trace with
  | none => exact absurd hpayload (lastPayload_ne_none (hside.commit_paid a hcommit))
  | some c =>
      have hc := hside.payload_eq c hpayload
      rw [hlast, Option.map_some, Option.map_some, ← hab]
      exact congrArg some (Prod.ext (hc.1.symm.trans hoperation.symm)
        (hc.2.symm.trans hvalue.symm))

/-- The first attempt opens the valve, gives up, and the second writes its
payload before the tick comes: the device closes the valve under the first
attempt's sequence. -/
theorem torn_command :
    ∃ m : Mailbox ValveControl,
      (∃ es, Run.exec (Mailbox.step ValveControl.apply) (.initial ⟨false⟩ 0 0) es =
        some m) ∧ ∀ owners, ¬ Attributed m.trace owners := by
  let es : List MailboxEvent :=
    [.start 1 1 4, .writePayload, .writeSequence, .poll, .cutOff,
      .start 1 0 8, .writePayload, .tick]
  let trace : List MailboxObs :=
    [.applied 5 1 0 1, .payload ⟨1, 1, 0, 9⟩, .commit ⟨0, 1, 1, 5⟩, .payload ⟨0, 1, 1, 5⟩]
  obtain ⟨m, hm, htrace⟩ : ∃ m,
      Run.exec (Mailbox.step ValveControl.apply) (.initial ⟨false⟩ 0 0) es = some m ∧
        m.trace = trace :=
    Run.exists_exec (by decide +kernel)
  refine ⟨m, ⟨es, hm⟩, fun owners hattr => ?_⟩
  rw [htrace] at hattr
  obtain ⟨a, rest, -, hoperation, hvalue, hsequence, -, hcommit, -⟩ := hattr
  -- the only sequence written is that of the first attempt, whose value is 1
  have ha : a = ⟨0, 1, 1, 5⟩ := by simpa using hcommit
  rw [ha] at hvalue
  cases hvalue

end EirvahEdge.Devices
