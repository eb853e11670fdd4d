import EirvahEdge.Recovery.Device

/-!
# What the device keeps

The rows of `native_effects` say what every mailbox acknowledged last and how many
rejections were accepted.  A runtime that agrees with them (`Records`) keeps agreeing
with them under every operation; the registers show them, up to the one row whose
acknowledgement is still to come (`ShowsAcks`).  `Durable` puts this together with the
saved state, and holds in every state a run reaches as long as the master leaves the
registers of the acknowledgements alone.

## Main results

* `step_move`: what a step can do;
* `Durable.step`: the invariant is kept;
* `Durable.restart`: a restart gets the last committed state back;
* `durable_device`: the device is durable;
* `controls_of_exec`: its controls stay well formed.
-/

namespace EirvahEdge.Recovery

open EirvahEdge.Lib
open EirvahEdge.Contracts
open EirvahEdge.Devices

/-! ## What the effects say -/

/-- The last acknowledgement of a mailbox. -/
def lastAck (effects : List Effect) (t : Target) : Option (ℕ × ℕ) :=
  (effects.find? fun e => e.target = t).map fun e => (e.sequence, e.status)

/-- The rows with target 28 and status 1. -/
def rejections (effects : List Effect) : ℕ :=
  effects.countP fun e => e.target = .reject ∧ e.status = 1

theorem lastAck_cons (e : Effect) (effects : List Effect) (t : Target) :
    lastAck (e :: effects) t =
      if e.target = t then some (e.sequence, e.status) else lastAck effects t := by
  by_cases h : e.target = t <;> simp [lastAck, h]

/-- A mailbox that acknowledged something has a row that says so. -/
theorem mem_of_lastAck {effects : List Effect} {t : Target} {ack : ℕ × ℕ}
    (h : lastAck effects t = some ack) :
    ∃ e ∈ effects, e.target = t ∧ e.sequence = ack.1 ∧ e.status = ack.2 := by
  obtain ⟨e, he, rfl⟩ := Option.map_eq_some_iff.1 h
  have htarget : e.target = t := by simpa using List.find?_some he
  exact ⟨e, List.mem_of_find?_eq_some he, htarget, rfl, rfl⟩

theorem rejections_cons (e : Effect) (effects : List Effect) :
    rejections (e :: effects) =
      rejections effects + if e.target = .reject ∧ e.status = 1 then 1 else 0 := by
  by_cases h : e.target = .reject ∧ e.status = 1 <;> simp [rejections, h]

/-- The runtime is the result of the command of this effect. -/
def CarriedOut (r : Runtime) (e : Effect) : Prop :=
  ∃ before : Runtime,
    r = (before.carryOut e.target e.sequence e.operation e.value).1 ∧
    e.status = (before.carryOut e.target e.sequence e.operation e.value).2 ∧
    e.beforeCount = before.block.reject.count ∧ e.afterCount = r.block.reject.count

/-- The runtime agrees with the effects, and its controls are well formed. -/
structure Records (r : Runtime) (effects : List Effect) : Prop where
  wf : r.block.Wf
  acks : ∀ t, r.acks.get t = lastAck effects t
  count : r.block.reject.count = min 65535 (rejections effects)
  rejectCount : r.block.rejectCount = r.block.reject.count
  length : r.inspection.snapshot.length = 10

section Records

variable {r : Runtime} {effects : List Effect}

theorem Records.new (cfg : DeviceConfig) {session : ℕ} (rng : RngState)
    (h : 0 < session ∧ session < 2 ^ 64) : Records (newRuntime cfg session rng h) [] where
  wf := RegisterBlock.new_wf
  acks := by rintro ⟨⟩ <;> rfl
  count := rfl
  rejectCount := rfl
  length := rfl

theorem Records.kept {r' : Runtime} (h : Records r effects) (hkept : r.Kept r') :
    Records r' effects where
  wf := hkept.wf h.wf
  acks := fun t => by rw [hkept.acks, h.acks t]
  count := by rw [hkept.count, h.count]
  rejectCount := hkept.rejectCount h.rejectCount
  length := hkept.length h.length

/-- A restart changes nothing that the effects speak about. -/
theorem Records.resume_sorted (h : Records r effects) : Records (resume r.sorted) effects :=
  ⟨⟨h.wf.conveyor, RejectControl.sorted_wf h.wf.reject⟩, h.acks, h.count, h.rejectCount,
    h.length⟩

/-- A command agrees with the effects and its own. -/
theorem Records.carryOut (h : Records r effects) {e : Effect} {r' : Runtime}
    (hr : r' = (r.carryOut e.target e.sequence e.operation e.value).1)
    (hstatus : e.status = (r.carryOut e.target e.sequence e.operation e.value).2) :
    Records r' (e :: effects) where
  wf := by
    rw [hr]
    exact Runtime.wf_carryOut _ _ _ _ _ h.wf
  acks := by
    intro t
    rw [hr, Runtime.acks_carryOut, ← hstatus, lastAck_cons, h.acks t]
  count := by
    rw [hr, Runtime.count_carryOut, ← hstatus, rejections_cons, h.count]
    split <;> omega
  rejectCount := by
    rw [hr]
    exact Runtime.rejectCount_carryOut _ _ _ _ _
  length := by
    rw [hr, Runtime.inspection_carryOut]
    exact h.length

end Records

/-! ## What the registers show -/

/-- The registers of the acknowledgements show what the effects say. -/
def ShowsAcks (registers : ℕ → ℕ) (effects : List Effect) : Prop :=
  ∀ t, (registers t.ack, registers (t.ack + 1)) = (lastAck effects t).getD (0, 0)

theorem setValues_of_notMem {registers : ℕ → ℕ} {address a : ℕ} {values : List ℕ}
    (h : a < address ∨ address + values.length ≤ a) :
    setValues registers address values a = registers a := by
  rw [setValues, if_neg (by omega)]

/-- What is written elsewhere leaves them as they are. -/
theorem ShowsAcks.setValues {registers : ℕ → ℕ} {effects : List Effect} {address : ℕ}
    {values : List ℕ} (h : ShowsAcks registers effects)
    (haway : address + values.length ≤ 50 ∨ 56 ≤ address) :
    ShowsAcks (setValues registers address values) effects := by
  intro t
  have hack := t.ack_cases
  rw [setValues_of_notMem (by omega), setValues_of_notMem (by omega)]
  exact h t

theorem setValues_ack (registers : ℕ → ℕ) (t u : Target) (q st : ℕ) :
    (setValues registers t.ack [q, st] u.ack, setValues registers t.ack [q, st] (u.ack + 1)) =
      if t = u then (q, st) else (registers u.ack, registers (u.ack + 1)) := by
  cases t <;> cases u <;> rfl

/-- An acknowledgement is shown. -/
theorem ShowsAcks.acknowledge {registers : ℕ → ℕ} {effects : List Effect} {e : Effect}
    (h : ShowsAcks registers effects) :
    ShowsAcks (Recovery.setValues registers e.target.ack [e.sequence, e.status])
      (e :: effects) := by
  intro t
  rw [setValues_ack, lastAck_cons, h t]
  split <;> rfl

theorem setAck_ack (acks : Acks) (registers : ℕ → ℕ) (t u : Target) :
    (setAck acks registers t u.ack, setAck acks registers t (u.ack + 1)) =
      if t = u then (acks.get t).getD (registers u.ack, registers (u.ack + 1))
      else (registers u.ack, registers (u.ack + 1)) := by
  unfold setAck
  cases hack : acks.get t with
  | none => split <;> rfl
  | some ack => exact setValues_ack registers t u ack.1 ack.2

theorem buildContext_ack (r : Runtime) (u : Target) :
    (buildContext r u.ack, buildContext r (u.ack + 1)) = (r.acks.get u).getD (0, 0) := by
  have hzero : ∀ a, 50 ≤ a → setValues (fun _ => 0) 0 r.block.asList a = 0 := by
    intro a ha
    have hlength : r.block.asList.length = 8 := rfl
    rw [setValues_of_notMem (by omega)]
  have hack := u.ack_cases
  simp only [buildContext, List.foldl_cons, List.foldl_nil]
  rw [setAck_ack, setAck_ack, setAck_ack, hzero _ (by omega), hzero _ (by omega)]
  cases u <;> rfl

/-- The registers of a new process show what its runtime says. -/
theorem Records.buildContext {r : Runtime} {effects : List Effect} (h : Records r effects) :
    ShowsAcks (buildContext r) effects := by
  intro t
  rw [buildContext_ack, h.acks t]

/-- The end of a tick writes other registers only. -/
theorem ShowsAcks.refresh {registers : ℕ → ℕ} {effects : List Effect} {r : Runtime}
    {head : Option BottleInspection} (h : ShowsAcks registers effects)
    (hlength : r.inspection.snapshot.length = 10) :
    ShowsAcks (refreshRegisters r head registers) effects := by
  have hinspection : r.inspection.registers.length = 10 := hlength
  refine ((((h.setValues ?_).setValues ?_).setValues ?_).setValues ?_)
  · exact Or.inl (show 0 + 8 ≤ 50 by omega)
  · exact Or.inl (show 8 + 4 ≤ 50 by omega)
  · exact Or.inl (by omega)
  · exact Or.inr (by omega)

/-! ## Moves -/

/-- What a step of the system does. -/
inductive DeviceMove (cfg : DeviceConfig) (s : DurableState) :
    DeviceEvent → DurableState → Prop where
  | openRecovery (session : ℕ) (rng : RngState) (h : 0 < session ∧ session < 2 ^ 64)
      (runtime : Runtime) (hdown : s.device = none)
      (hopen : openRuntime s.journal.state (newRuntime cfg session rng h) = .ok runtime) :
      DeviceMove cfg s (.openRecovery session rng)
        { s with
          journal := { s.journal with boots := s.journal.boots + 1 }
          device := some ⟨runtime, fun _ => 0, .opened, s.journal.boots + 1⟩ }
  | unreadable (session : ℕ) (rng : RngState) (hdown : s.device = none) :
      DeviceMove cfg s (.openRecovery session rng)
        { s with journal := { s.journal with boots := s.journal.boots + 1 } }
  | buildContext (d : Device) (hd : s.device = some d) (hphase : d.phase = .opened) :
      DeviceMove cfg s .buildContext
        (s.commit { d with registers := buildContext d.runtime, phase := .idle } none)
  | write (address : ℕ) (values : List ℕ) (d : Device) (hd : s.device = some d)
      (hphase : d.phase ≠ .opened) :
      DeviceMove cfg s (.write address values)
        { s with device := some { d with registers := setValues d.registers address values } }
  | wake (d : Device) (hd : s.device = some d) (hphase : d.phase = .idle) :
      DeviceMove cfg s .wake
        { s with device := some { d with phase := .mailbox .conveyor } }
  | control (t : Target) (d : Device) (hd : s.device = some d) (hphase : d.phase = .mailbox t) :
      DeviceMove cfg s .control { s with device := some (d.control t) }
  | commitEffect (e : Effect) (d : Device) (hd : s.device = some d)
      (hphase : d.phase = .applied e) :
      DeviceMove cfg s .commitEffect (s.commit { d with phase := .committed e } (some e))
  | acknowledge (e : Effect) (d : Device) (hd : s.device = some d)
      (hphase : d.phase = .committed e) :
      DeviceMove cfg s .acknowledge
        { s with
          device := some { d with
            registers := setValues d.registers e.target.ack [e.sequence, e.status]
            phase := afterMailbox e.target } }
  | advance (full : Bool) (now : AwareDatetime) (d : Device) (runtime : Runtime)
      (hd : s.device = some d) (hphase : d.phase = .controlled)
      (hadvance : d.runtime.advance cfg.source cfg.jamProbability full now = .ok runtime) :
      DeviceMove cfg s (.advance full now)
        { s with device := some { d with runtime, phase := .advanced } }
  | save (d : Device) (hd : s.device = some d) (hphase : d.phase = .advanced) :
      DeviceMove cfg s .save (s.commit { d with phase := .saved } none)
  | refresh (head : Option BottleInspection) (d : Device) (hd : s.device = some d)
      (hphase : d.phase = .saved) :
      DeviceMove cfg s (.refresh head)
        { s with
          device := some { d with
            registers := refreshRegisters d.runtime head d.registers
            phase := .idle } }
  | stop (e : DeviceEvent) (d : Device) (hd : s.device = some d) :
      DeviceMove cfg s e { s with device := none }

theorem openRecovery_move {cfg : DeviceConfig} {s t : DurableState} {session : ℕ}
    {rng : RngState} (hdown : s.device = none)
    (h : s.openRecovery cfg session rng = some t) :
    DeviceMove cfg s (.openRecovery session rng) t := by
  unfold DurableState.openRecovery at h
  split at h
  · next hsession =>
      dsimp only at h
      split at h
      · next runtime hopen =>
          cases h
          exact .openRecovery session rng hsession runtime hdown hopen
      · cases h
        exact .unreadable session rng hdown
  · cases h

theorem step_move {cfg : DeviceConfig} {s t : DurableState} {e : DeviceEvent}
    (h : s.step cfg e = some t) : DeviceMove cfg s e t := by
  unfold DurableState.step at h
  split at h
  · next d hd =>
      unfold DurableState.run at h
      split at h
      · next hphase =>
          cases h
          exact .buildContext d hd hphase
      · cases h
      · next _ address values hphase =>
          cases h
          exact .write address values d hd hphase
      · next hphase =>
          cases h
          exact .wake d hd hphase
      · next u hphase =>
          cases h
          exact .control u d hd hphase
      · next e hphase =>
          cases h
          exact .commitEffect e d hd hphase
      · next e hphase =>
          cases h
          exact .acknowledge e d hd hphase
      · next full now hphase =>
          split at h
          · next runtime hadvance =>
              cases h
              exact .advance full now d runtime hd hphase hadvance
          · cases h
            exact .stop _ d hd
      · next hphase =>
          cases h
          exact .save d hd hphase
      · next head hphase =>
          cases h
          exact .refresh head d hd hphase
      · cases h
        exact .stop _ d hd
      · cases h
  · next hdown =>
      split at h
      · next session rng => exact openRecovery_move hdown h
      · cases h

/-! ## Invariant -/

/-- The effect that is carried out and not committed. -/
def Device.uncommitted (d : Device) : Option Effect :=
  match d.phase with
  | .applied e => some e
  | _ => none

/-- The effect that is committed and not acknowledged. -/
def Device.unshown (d : Device) : Option Effect :=
  match d.phase with
  | .committed e => some e
  | _ => none

/-- A running device agrees with the effects: its runtime knows at most one command
more, its registers show at most one less. -/
structure Device.Stands (d : Device) (effects : List Effect) : Prop where
  records : Records d.runtime (d.uncommitted.toList ++ effects)
  carried : ∀ e, d.phase = .applied e → CarriedOut d.runtime e ∧ e.sequence ≠ 0
  shown : d.phase ≠ .opened →
    ∃ shown, effects = d.unshown.toList ++ shown ∧ ShowsAcks d.registers shown

/-- The saved state is the one of the last commit, the rows are the effects of the
commits, and the process stands by them. -/
structure Durable (s : DurableState) : Prop where
  state : s.journal.state = s.commits.head?.map fun c => c.runtime.snapshot.sortKeys
  effects : s.journal.effects = s.commits.filterMap Commit.effect
  recorded : ∀ c, s.commits.head? = some c → Records c.runtime s.journal.effects
  carried : ∀ c ∈ s.commits, ∀ e, c.effect = some e →
    CarriedOut c.runtime e ∧ e.sequence ≠ 0
  running : ∀ d, s.device = some d → d.Stands s.journal.effects

theorem Durable.initial : Durable {} where
  state := rfl
  effects := rfl
  recorded := by simp
  carried := by simp
  running := by simp

/-- Between two commands nothing is open. -/
theorem Device.stands_of_quiet {d : Device} {effects : List Effect}
    (hrecords : Records d.runtime effects) (hshows : ShowsAcks d.registers effects)
    (hcommitted : d.uncommitted = none) (hshown : d.unshown = none) : d.Stands effects where
  records := by
    rw [hcommitted]
    exact hrecords
  carried := by
    intro e he
    simp [uncommitted, he] at hcommitted
  shown := fun _ => ⟨effects, by rw [hshown]; rfl, hshows⟩

theorem Device.Stands.records_of {d : Device} {effects : List Effect} (h : d.Stands effects)
    (hcommitted : d.uncommitted = none) : Records d.runtime effects := by
  have hrecords := h.records
  rw [hcommitted] at hrecords
  exact hrecords

theorem Device.Stands.shows_of {d : Device} {effects : List Effect} (h : d.Stands effects)
    (hopen : d.phase ≠ .opened) (hshown : d.unshown = none) : ShowsAcks d.registers effects := by
  obtain ⟨shown, heq, hshows⟩ := h.shown hopen
  rw [hshown] at heq
  rw [heq]
  exact hshows

section Steps

variable {s : DurableState}

/-- A step in memory. -/
theorem Durable.memory (h : Durable s) {d : Device} (hd : d.Stands s.journal.effects) :
    Durable { s with device := some d } :=
  ⟨h.state, h.effects, h.recorded, h.carried, by rintro _ ⟨⟩; exact hd⟩

/-- A boot is counted. -/
theorem Durable.counted (h : Durable s) {boots : ℕ} {device : Option Device}
    (hd : ∀ d, device = some d → d.Stands s.journal.effects) :
    Durable { s with journal := { s.journal with boots }, device } :=
  ⟨h.state, h.effects, h.recorded, h.carried, hd⟩

/-- A transaction. -/
theorem Durable.commit (h : Durable s) {d : Device} {effect : Option Effect}
    (hrecords : Records d.runtime (effect.toList ++ s.journal.effects))
    (hcarried : ∀ e, effect = some e → CarriedOut d.runtime e ∧ e.sequence ≠ 0)
    (hd : d.Stands (effect.toList ++ s.journal.effects)) : Durable (s.commit d effect) where
  state := rfl
  effects := by
    show effect.toList ++ s.journal.effects = _
    rw [h.effects]
    cases effect <;> rfl
  recorded := by
    rintro c ⟨⟩
    exact hrecords
  carried := by
    intro c hc e he
    rcases List.mem_cons.1 hc with rfl | hc
    · exact hcarried e he
    · exact h.carried c hc e he
  running := by
    rintro _ ⟨⟩
    exact hd

/-- The last commit is what a restart reads. -/
theorem Durable.openRuntime (h : Durable s) {c : Commit} (hc : s.commits.head? = some c)
    (new : Runtime) :
    openRuntime s.journal.state new = .ok (resume c.runtime.sorted) := by
  have hsame : Json.Same c.runtime.snapshot.sortKeys c.runtime.snapshot :=
    Json.same_sortKeys _
  rw [h.state, hc]
  simp only [Recovery.openRuntime, Option.map_some, restore_of_same hsame, Except.map]

/-- A restart agrees with the effects. -/
theorem Durable.records_open (h : Durable s) {cfg : DeviceConfig} {session : ℕ}
    {rng : RngState} {hsession : 0 < session ∧ session < 2 ^ 64} {runtime : Runtime}
    (hopen : Recovery.openRuntime s.journal.state (newRuntime cfg session rng hsession) =
      .ok runtime) : Records runtime s.journal.effects := by
  cases hc : s.commits.head? with
  | some c =>
      rw [h.openRuntime hc] at hopen
      cases hopen
      exact (h.recorded c hc).resume_sorted
  | none =>
      have hstate := h.state
      rw [hc] at hstate
      rw [hstate] at hopen
      cases hopen
      rw [h.effects, List.head?_eq_none_iff.1 hc]
      exact Records.new cfg rng hsession

/-- Behind a mailbox nothing is open. -/
theorem Device.stands_after {d : Device} {t : Target} {effects : List Effect}
    (hrecords : Records d.runtime effects) (hshows : ShowsAcks d.registers effects)
    (hphase : d.phase = afterMailbox t) : d.Stands effects := by
  apply stands_of_quiet hrecords hshows
  · rw [uncommitted, hphase]
    cases t <;> rfl
  · rw [unshown, hphase]
    cases t <;> rfl

/-- One mailbox. -/
theorem Device.Stands.control {d : Device} {t : Target} {effects : List Effect}
    (h : d.Stands effects) (hphase : d.phase = .mailbox t) : (d.control t).Stands effects := by
  have hrecords : Records d.runtime effects := h.records_of (by simp [uncommitted, hphase])
  have hshows : ShowsAcks d.registers effects :=
    h.shows_of (by simp [hphase]) (by simp [unshown, hphase])
  unfold Device.control
  split
  · next hdue =>
      constructor
      · exact hrecords.carryOut rfl rfl
      · rintro e ⟨⟩
        exact ⟨⟨d.runtime, rfl, rfl, rfl, rfl⟩, hdue.1⟩
      · exact fun _ => ⟨effects, rfl, hshows⟩
  · exact stands_after (t := t) hrecords hshows rfl

/-- **Every step keeps the device durable.** -/
theorem Durable.step (h : Durable s) {cfg : DeviceConfig} {e : DeviceEvent}
    {t : DurableState} (hleaves : e.LeavesAcks) (hs : s.step cfg e = some t) : Durable t := by
  cases step_move hs with
  | openRecovery session rng hsession runtime hdown hopen =>
      apply h.counted
      rintro _ ⟨⟩
      exact ⟨h.records_open hopen, by simp, fun hne => absurd rfl hne⟩
  | unreadable session rng hdown => exact h.counted (by simp [hdown])
  | buildContext d hd hphase =>
      have hrecords := (h.running d hd).records_of (by simp [Device.uncommitted, hphase])
      exact h.commit hrecords (by simp)
        (Device.stands_of_quiet hrecords hrecords.buildContext rfl rfl)
  | write address values d hd hphase =>
      obtain ⟨hrecords, hcarried, hshown⟩ := h.running d hd
      obtain ⟨shown, heq, hshows⟩ := hshown hphase
      exact h.memory ⟨hrecords, hcarried, fun _ => ⟨shown, heq, hshows.setValues hleaves⟩⟩
  | wake d hd hphase =>
      have hstands := h.running d hd
      exact h.memory (Device.stands_of_quiet
        (hstands.records_of (by simp [Device.uncommitted, hphase]))
        (hstands.shows_of (by simp [hphase]) (by simp [Device.unshown, hphase])) rfl rfl)
  | control u d hd hphase => exact h.memory ((h.running d hd).control hphase)
  | commitEffect e d hd hphase =>
      obtain ⟨hrecords, hcarried, -⟩ := h.running d hd
      have hshows := (h.running d hd).shows_of (by simp [hphase]) (by simp [Device.unshown, hphase])
      have hrecords' : Records d.runtime (e :: s.journal.effects) := by
        simpa [Device.uncommitted, hphase] using hrecords
      apply h.commit hrecords'
      · rintro _ ⟨⟩
        exact hcarried e hphase
      · exact ⟨hrecords', by simp, fun _ => ⟨s.journal.effects, rfl, hshows⟩⟩
  | acknowledge e d hd hphase =>
      have hstands := h.running d hd
      have hrecords := hstands.records_of (by simp [Device.uncommitted, hphase])
      obtain ⟨shown, heq, hshows⟩ := hstands.shown (by simp [hphase])
      have hrows : s.journal.effects = e :: shown := by
        simpa [Device.unshown, hphase] using heq
      have hshows' : ShowsAcks (setValues d.registers e.target.ack [e.sequence, e.status])
          s.journal.effects := by
        rw [hrows]
        exact hshows.acknowledge
      exact h.memory (Device.stands_after (t := e.target) hrecords hshows' rfl)
  | advance full now d runtime hd hphase hadvance =>
      have hstands := h.running d hd
      have hrecords := hstands.records_of (by simp [Device.uncommitted, hphase])
      have hshows := hstands.shows_of (by simp [hphase]) (by simp [Device.unshown, hphase])
      exact h.memory (Device.stands_of_quiet (hrecords.kept (Runtime.advance_kept hadvance))
        hshows rfl rfl)
  | save d hd hphase =>
      have hstands := h.running d hd
      have hrecords := hstands.records_of (by simp [Device.uncommitted, hphase])
      have hshows := hstands.shows_of (by simp [hphase]) (by simp [Device.unshown, hphase])
      exact h.commit hrecords (by simp) (Device.stands_of_quiet hrecords hshows rfl rfl)
  | refresh head d hd hphase =>
      have hstands := h.running d hd
      have hrecords := hstands.records_of (by simp [Device.uncommitted, hphase])
      have hshows := hstands.shows_of (by simp [hphase]) (by simp [Device.unshown, hphase])
      exact h.memory (Device.stands_of_quiet hrecords (hshows.refresh hrecords.length) rfl rfl)
  | stop e d hd => exact ⟨h.state, h.effects, h.recorded, h.carried, by simp⟩

end Steps

/-! ## The durable device -/

/-- The last commit again: everything as it was, the rejected bottles as a set, and the
inspection in its next session. -/
structure Restored (last r : Runtime) : Prop where
  conveyor : r.block.conveyor = last.block.conveyor
  valve : r.block.valve = last.block.valve
  reject : r.block.reject =
    { last.block.reject with rejected := r.block.reject.rejected }
  rejected : ∀ b, b ∈ r.block.reject.rejected ↔ b ∈ last.block.reject.rejected
  block : r.block = { last.block with reject := r.block.reject }
  acks : r.acks = last.acks
  rng : r.rng = last.rng
  inspection : r.inspection =
    { last.inspection with
      session := last.inspection.session % (2 ^ 64 - 1) + 1
      sequence := 0
      session_pos := advanceSession_pos _
      session_lt := advanceSession_lt _
      sequence_le := zero_sequence_le }

theorem restored_resume (last : Runtime) : Restored last (resume last.sorted) :=
  ⟨rfl, rfl, rfl, fun _ => RejectControl.mem_sorted, rfl, rfl, rfl, rfl⟩

section Run

variable {cfg : DeviceConfig} {s : DurableState}

theorem Durable.of_exec {es : List DeviceEvent}
    (h : Run.exec (DurableState.step cfg) {} es = some s) (hmaster : ∀ e ∈ es, e.LeavesAcks) :
    Durable s :=
  Run.exec_invariant_of_guarded (G := fun _ e => e.LeavesAcks)
    (fun _ _ _ hI hleaves hs => hI.step hleaves hs) Durable.initial
    (Run.Guarded.of_forall fun e he _ => hmaster e he) h

/-- In a run and in what it has saved, the setpoint of the belt is in range and a faulted
belt stands, and the station remembers no bottle twice and rejects only bottles it
remembers. -/
theorem controls_of_exec {es : List DeviceEvent}
    (h : Run.exec (DurableState.step cfg) {} es = some s) (hmaster : ∀ e ∈ es, e.LeavesAcks) :
    (∀ d, s.device = some d → d.runtime.block.Wf) ∧
      ∀ c, s.commits.head? = some c → c.runtime.block.Wf := by
  have hdurable := Durable.of_exec h hmaster
  exact ⟨fun d hd => (hdurable.running d hd).records.wf, fun c hc => (hdurable.recorded c hc).wf⟩

/-- What the registers show belongs to a commit. -/
theorem Durable.acknowledged (h : Durable s) {d : Device} {t : Target}
    (hd : s.device = some d) (hopen : d.phase ≠ .opened) (hack : d.registers t.ack ≠ 0) :
    ∃ c ∈ s.commits, ∃ e ∈ s.journal.effects, c.effect = some e ∧ e.target = t ∧
      e.sequence = d.registers t.ack ∧ e.status = d.registers (t.ack + 1) ∧
      CarriedOut c.runtime e := by
  obtain ⟨shown, heq, hshows⟩ := (h.running d hd).shown hopen
  have ht := hshows t
  cases hlast : lastAck shown t with
  | none =>
      rw [hlast] at ht
      exact absurd (Prod.mk.inj ht).1 hack
  | some ack =>
      rw [hlast] at ht
      obtain ⟨e, he, htarget, hsequence, hstatus⟩ := mem_of_lastAck hlast
      obtain ⟨hfirst, hsecond⟩ : d.registers t.ack = ack.1 ∧ d.registers (t.ack + 1) = ack.2 :=
        Prod.mk.inj ht
      have hmem : e ∈ s.journal.effects := by
        rw [heq]
        exact List.mem_append_right _ he
      have hcommit : e ∈ s.commits.filterMap Commit.effect := by
        rw [← h.effects]
        exact hmem
      obtain ⟨c, hc, hce⟩ := List.mem_filterMap.1 hcommit
      exact ⟨c, hc, e, hmem, hce, htarget, by rw [hsequence, hfirst], by rw [hstatus, hsecond],
        (h.carried c hc e hce).1⟩

/-- A sequence that was acknowledged last is passed over. -/
theorem Durable.control_again (h : Durable s) {d : Device} {t : Target} {ack : ℕ × ℕ}
    (hd : s.device = some d) (hphase : d.phase = .mailbox t)
    (hlast : lastAck s.journal.effects t = some ack) (hagain : d.registers t.address = ack.1) :
    s.step cfg .control = some { s with device := some { d with phase := afterMailbox t } } := by
  have hshows := (h.running d hd).shows_of (by simp [hphase]) (by simp [Device.unshown, hphase])
  have ht := hshows t
  rw [hlast] at ht
  have hshown : d.registers t.ack = ack.1 := (Prod.mk.inj ht).1
  have hdue : ¬d.Due t := fun hdue => hdue.2 (hagain.trans hshown.symm)
  simp [DurableState.step, hd, DurableState.run, hphase, Device.control, hdue]

/-- **A crash and a restart** lead back to the last commit. -/
theorem Durable.restart (h : Durable s) {c : Commit} (hc : s.commits.head? = some c)
    {session : ℕ} {rng : RngState} (hsession : 0 < session ∧ session < 2 ^ 64) :
    ∃ u d, Run.exec (DurableState.step cfg) { s with device := none }
        [.openRecovery session rng, .buildContext] = some u ∧
      u.device = some d ∧ Restored c.runtime d.runtime ∧
      u.journal.effects = s.journal.effects ∧
      ∀ t, (d.registers t.ack, d.registers (t.ack + 1)) =
        (lastAck s.journal.effects t).getD (0, 0) := by
  have hopen := h.openRuntime hc (newRuntime cfg session rng hsession)
  have hrecords := h.records_open hopen
  let runtime := resume c.runtime.sorted
  let d : Device := ⟨runtime, buildContext runtime, .idle, s.journal.boots + 1⟩
  let opened : DurableState :=
    { s with
      journal := { s.journal with boots := s.journal.boots + 1 }
      device := some ⟨runtime, fun _ => 0, .opened, s.journal.boots + 1⟩ }
  have hread : DurableState.step cfg { s with device := none } (.openRecovery session rng) =
      some opened := by
    simp only [DurableState.step, DurableState.openRecovery, dif_pos hsession, hopen]
    rfl
  refine ⟨opened.commit d none, d, ?_, rfl, restored_resume _, rfl, hrecords.buildContext⟩
  rw [Run.exec_cons, hread]
  rfl

/-- The saved count, below its bound, counts the accepted rejections. -/
theorem Durable.saved_count (h : Durable s) {j : Json} (hj : s.journal.state = some j) :
    ∃ r, restore j = .ok r ∧ r.block.rejectCount = r.block.reject.count ∧
      (r.block.reject.count < 65535 →
        r.block.reject.count =
          ({} : RegisterBlock).reject.count + rejections s.journal.effects) := by
  have hstate := h.state
  rw [hj] at hstate
  obtain ⟨c, hc, hsaved⟩ := Option.map_eq_some_iff.1 hstate.symm
  have hrecords := (h.recorded c hc).resume_sorted
  have hcount : c.runtime.sorted.block.reject.count = min 65535 (rejections s.journal.effects) :=
    hrecords.count
  rw [← hsaved]
  refine ⟨_, restore_of_same (Json.same_sortKeys _), hrecords.rejectCount, fun hlt => ?_⟩
  have hzero : ({} : RegisterBlock).reject.count = 0 := rfl
  omega

/-- **Durable device.**  As long as the master leaves the registers of the
acknowledgements alone, in every reachable state:

* an acknowledgement that the registers show belongs to a command whose effect and
  result are committed;
* a mailbox that shows the sequence acknowledged last is passed over, in memory and in
  the journal;
* a crash and a restart lead back to the last commit, with the inspection in its next
  session, and the registers show again what was acknowledged last;
* the saved count of rejections, below 65535, is the number of effects with target 28
  and status 1. -/
theorem durable_device {es : List DeviceEvent}
    (h : Run.exec (DurableState.step cfg) {} es = some s)
    (hmaster : ∀ e ∈ es, e.LeavesAcks) :
    (∀ d t, s.device = some d → d.phase ≠ .opened → d.registers t.ack ≠ 0 →
      ∃ c ∈ s.commits, ∃ e ∈ s.journal.effects, c.effect = some e ∧ e.target = t ∧
        e.sequence = d.registers t.ack ∧ e.status = d.registers (t.ack + 1) ∧
        CarriedOut c.runtime e) ∧
    (∀ d t ack, s.device = some d → d.phase = .mailbox t →
      lastAck s.journal.effects t = some ack → d.registers t.address = ack.1 →
      s.step cfg .control =
        some { s with device := some { d with phase := afterMailbox t } }) ∧
    (∀ c session rng, s.commits.head? = some c → 0 < session ∧ session < 2 ^ 64 →
      ∃ u d, Run.exec (DurableState.step cfg) { s with device := none }
          [.openRecovery session rng, .buildContext] = some u ∧
        u.device = some d ∧ Restored c.runtime d.runtime ∧
        u.journal.effects = s.journal.effects ∧
        ∀ t, (d.registers t.ack, d.registers (t.ack + 1)) =
          (lastAck s.journal.effects t).getD (0, 0)) ∧
    (∀ j, s.journal.state = some j →
      ∃ r, restore j = .ok r ∧ r.block.rejectCount = r.block.reject.count ∧
        (r.block.reject.count < 65535 →
          r.block.reject.count =
            ({} : RegisterBlock).reject.count + rejections s.journal.effects)) := by
  have hdurable := Durable.of_exec h hmaster
  refine ⟨?_, ?_, ?_, ?_⟩
  · intro d t hd hopen hack
    exact hdurable.acknowledged hd hopen hack
  · intro d t ack hd hphase hlast hagain
    exact hdurable.control_again hd hphase hlast hagain
  · intro c session rng hc hsession
    exact hdurable.restart hc hsession
  · intro j hj
    exact hdurable.saved_count hj

end Run

/-! ### A command and a crash -/

/-- A generator whose words are zero. -/
def zeroRng : RngState where
  words := List.replicate 624 0
  index := 0
  gaussNext := none
  length_eq := List.length_replicate
  words_lt := by
    intro w hw
    rw [List.eq_of_mem_replicate hw]
    norm_num
  index_le := Nat.zero_le _

/-- The default settings, over a source that never draws anything else. -/
def defaultConfig : DeviceConfig where
  source := ⟨fun _ rng => (0, rng), fun rng => (1 / 2, rng)⟩
  jamProbability := 1 / 1000
  everyNBottles := 4
  failEveryNInspections := 5
  every_pos := by norm_num
  fail_pos := by norm_num

/-- The conveyor is stopped by a command with sequence 7; the process crashes and starts
again, and the command is presented once more. -/
def presentedAgain : List DeviceEvent :=
  [.openRecovery 1 zeroRng, .buildContext, .write 20 [7, 1, 0], .wake, .control,
    .commitEffect, .acknowledge, .crash, .openRecovery 2 zeroRng, .buildContext,
    .write 20 [7, 1, 0], .wake]

/-- The restarted process shows the acknowledgement of the command and passes it over. -/
theorem durable_device_example :
    ∃ s d, Run.exec (DurableState.step defaultConfig) {} presentedAgain = some s ∧
      s.device = some d ∧ d.registers 50 = 7 ∧
      (∃ c ∈ s.commits, ∃ e ∈ s.journal.effects, c.effect = some e ∧ e.target = .conveyor ∧
        e.sequence = d.registers 50 ∧ e.status = d.registers 51 ∧ CarriedOut c.runtime e) ∧
      s.step defaultConfig .control =
        some { s with device := some { d with phase := .mailbox .valve } } := by
  obtain ⟨s, hrun, hlast, hdevice⟩ : ∃ s,
      Run.exec (DurableState.step defaultConfig) {} presentedAgain = some s ∧
      lastAck s.journal.effects .conveyor = some (7, 1) ∧
      (s.device.any fun d => decide (d.phase = .mailbox .conveyor ∧ d.registers 20 = 7 ∧
        d.registers 50 = 7)) = true :=
    Run.exists_exec (by decide +kernel)
  obtain ⟨d, hd, hat⟩ := (Option.any_eq_true _ _).1 hdevice
  obtain ⟨hphase, hagain, hack⟩ := of_decide_eq_true hat
  have hmaster : ∀ e ∈ presentedAgain, e.LeavesAcks := by
    simp [presentedAgain, DeviceEvent.LeavesAcks]
  have hack' : d.registers Target.conveyor.ack ≠ 0 := by
    rw [show Target.conveyor.ack = 50 from rfl, hack]
    decide
  have hdurable := durable_device hrun hmaster
  exact ⟨s, d, hrun, hd, hack, hdurable.1 d .conveyor hd (by simp [hphase]) hack',
    hdurable.2.1 d .conveyor (7, 1) hd hphase hlast hagain⟩

/-- A master that writes the register 50 itself shows an acknowledgement that no
command earned. -/
theorem shown_of_master :
    ¬∀ es s, Run.exec (DurableState.step defaultConfig) {} es = some s →
      ∀ d t, s.device = some d → d.phase ≠ .opened → d.registers t.ack ≠ 0 →
        ∃ e ∈ s.journal.effects, e.target = t ∧ e.sequence = d.registers t.ack ∧
          e.status = d.registers (t.ack + 1) := by
  intro hall
  obtain ⟨s, d, hrun, hd, hopen, hack, hnone⟩ : ∃ s d,
      Run.exec (DurableState.step defaultConfig) {}
        [.openRecovery 1 zeroRng, .buildContext, .write 50 [7, 1]] = some s ∧
      s.device = some d ∧ d.phase ≠ .opened ∧ d.registers 50 ≠ 0 ∧ s.journal.effects = [] :=
    ⟨_, _, rfl, rfl, by decide, by decide, rfl⟩
  obtain ⟨e, he, -⟩ := hall _ s hrun d .conveyor hd hopen hack
  rw [hnone] at he
  cases he

end EirvahEdge.Recovery
