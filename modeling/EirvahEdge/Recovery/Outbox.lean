import EirvahEdge.Devices.InspectionWire
import EirvahEdge.Lib.Run
import EirvahEdge.Recovery.Numbering

/-!
# The outbox of the simulator

The simulator alone, with a master that writes what it likes into the receipt
registers.  Beside the state of the delivery the exceptions are logged that a tick
raises, with the call that raised them, because a tick that raises ends and leaves
nothing else to see.

Three facts hold each other up.  An identity is fresh when its event is committed,
because the stream stands behind every saved position (`Numbered`); there is room for
the event, because the tick looked before it counted the bottle and only receipts come
in between; and what the registers show was committed, because they are written behind
the commit (`OutboxInv`).

The registers hold any time below `2 ^ 48` milliseconds, and `datetime` ends with the
year 9999.  The clock can be so close to that end that its seconds are rounded into the
year 10000, which `observe` accepts and `decode_inspection` refuses.
-/

namespace EirvahEdge.Recovery

open EirvahEdge.Lib
open EirvahEdge.Contracts
open EirvahEdge.Devices

variable {δ τ : Type}

/-! ## The system -/

/-- The calls of a tick that can raise. -/
inductive TickCall where
  | observe
  | decode
  | commit
deriving DecidableEq, Repr

/-- The delivery as far as the simulator takes part in it, and what its ticks raised,
latest first. -/
structure OutboxState (δ τ : Type) where
  delivery : DeliveryState δ τ
  raised : List (TickCall × PyError)

def OutboxState.initial (clock : ℚ) : OutboxState δ τ := ⟨.initial clock, []⟩

inductive OutboxEvent where
  | simulator (e : SimulatorEvent)
  | writeReceipt (values : List ℕ)

/-- What counting and inspecting a bottle raises. -/
def raisedByObserve (stream : InspectionStream) (bottleId : ℕ) (now : AwareDatetime) :
    List (TickCall × PyError) :=
  match stream.observe bottleId now with
  | .error e => [(.observe, e)]
  | .ok stream' =>
      if stream'.inspected = stream.inspected then []
      else
        match decodeInspection stream'.registers with
        | .error e => [(.decode, e)]
        | .ok _ => []

/-- What a step of the simulator raises. -/
def raisedBy (cfg : DeliveryConfig δ τ) (s : DeliveryState δ τ) (e : SimulatorEvent) :
    List (TickCall × PyError) :=
  match e, s.simulator with
  | .observe (some bottleId) now, some sim =>
      if sim.phase = .controlled ∧ s.journal.pending < cfg.outboxCapacity then
        raisedByObserve sim.stream bottleId now
      else []
  | .commit createdAt now, some sim =>
      match sim.phase with
      | .observed event =>
          match s.journal.commit cfg.outboxCapacity sim.stream event createdAt now with
          | .error e => [(.commit, e)]
          | .ok _ => []
      | _ => []
  | _, _ => []

/-- A step of the simulator, or a write of the master. -/
def outboxStep (cfg : DeliveryConfig δ τ) (s : OutboxState δ τ) :
    OutboxEvent → Option (OutboxState δ τ)
  | .simulator e => (simulatorStep cfg s.delivery e).map fun delivery =>
      ⟨delivery, raisedBy cfg s.delivery e ++ s.raised⟩
  | .writeReceipt values => s.delivery.simulator.map fun sim =>
      { s with delivery := { s.delivery with simulator := some { sim with receipt := values } } }

/-- The clock reading at which a step inspects a bottle: the outbox has room, and the
bottle is the n-th. -/
def inspectionTime (cfg : DeliveryConfig δ τ) (s : OutboxState δ τ) (e : OutboxEvent) :
    Option AwareDatetime :=
  match e, s.delivery.simulator with
  | .simulator (.observe (some _) now), some sim =>
      if sim.phase = .controlled ∧ s.delivery.journal.pending < cfg.outboxCapacity ∧
          (sim.stream.bottles + 1) % sim.stream.everyNBottles = 0 then some now
      else none
  | _, _ => none

/-- No bottle is inspected in the last fifteen microseconds of the year 9999. -/
def ClockBelowMax (cfg : DeliveryConfig δ τ) (s : OutboxState δ τ) (e : OutboxEvent) : Prop :=
  (inspectionTime cfg s e).all
    (fun now => decide (now.instantMicros ≤ AwareDatetime.maxMicros - 15)) = true

instance (cfg : DeliveryConfig δ τ) (s : OutboxState δ τ) (e : OutboxEvent) :
    Decidable (ClockBelowMax cfg s e) :=
  inferInstanceAs (Decidable (_ = _))

/-! ## What the decoder takes -/

/-- The last millisecond that is read as a time. -/
def maxWireMillis : ℕ := 253402300799999

/-- Rounding keeps a bound that is an integer. -/
theorem roundHalfEven_nearest_le {q : ℚ} {n : ℤ} (hn : |n| < 2 ^ 53) (h : q ≤ n) :
    PyFloat.roundHalfEven (PyFloat.nearest q) ≤ n := by
  have hnear := PyFloat.nearest_mono h
  rw [PyFloat.nearest_intCast hn] at hnear
  have hround := PyFloat.roundHalfEven_mono hnear
  rwa [PyFloat.roundHalfEven_intCast] at hround

/-- A time up to the last millisecond of `datetime` is read. -/
theorem wireTime_isOk {millis : ℕ} (h : millis ≤ maxWireMillis) :
    ∃ d, wireTime millis = .ok d := by
  have hle : (millis : ℚ) / 1000 ≤ 253402300799999 / 1000 := by
    have hcast : (millis : ℚ) ≤ 253402300799999 := by exact_mod_cast h
    linarith
  have hlast : PyFloat.nearest (253402300799999 / 1000) ≤ 253402300799 + 9991 / 10000 := by
    decide +kernel
  have hseconds := (PyFloat.nearest_mono hle).trans hlast
  unfold wireTime
  generalize PyFloat.nearest ((millis : ℚ) / 1000) = seconds at hseconds
  have hfloor := Int.floor_le seconds
  have hlt := Int.lt_floor_add_one seconds
  have hwhole : ⌊seconds⌋ ≤ 253402300799 := by
    have hbound : (⌊seconds⌋ : ℚ) < 253402300800 := by linarith
    have hbound' : ⌊seconds⌋ < 253402300800 := by exact_mod_cast hbound
    omega
  have htotal : ⌊seconds⌋ * 1000000 +
      PyFloat.roundHalfEven (PyFloat.nearest ((seconds - ⌊seconds⌋) * 1000000)) ≤
        AwareDatetime.maxMicros := by
    unfold AwareDatetime.maxMicros
    by_cases hend : ⌊seconds⌋ = 253402300799
    · -- in the last second the fraction is at most the one of the last millisecond
      have hfraction : (seconds - ⌊seconds⌋) * 1000000 ≤ ((999100 : ℤ) : ℚ) := by
        rw [hend]
        push_cast
        linarith
      have hmicros := roundHalfEven_nearest_le (by decide) hfraction
      omega
    · have hfraction : (seconds - ⌊seconds⌋) * 1000000 ≤ ((1000000 : ℤ) : ℚ) := by
        push_cast
        linarith
      have hmicros := roundHalfEven_nearest_le (by decide) hfraction
      omega
  exact ⟨_, if_pos htotal⟩

/-- Below the end of the clock the milliseconds are below the end of the wire. -/
theorem timestampMs_le {now : AwareDatetime}
    (h : now.instantMicros ≤ AwareDatetime.maxMicros - 15) :
    timestampMs now ≤ maxWireMillis := by
  have hinstant : (now.instantMicros : ℚ) / 1000000 ≤ 253402300799999984 / 1000000 := by
    have hcast : (now.instantMicros : ℚ) ≤ 253402300799999984 := by exact_mod_cast h
    linarith
  have hseconds := PyFloat.nearest_mono hinstant
  have hscaled : PyFloat.nearest (now.instantMicros / 1000000) * 1000 ≤
      PyFloat.nearest (253402300799999984 / 1000000) * 1000 := by
    linarith
  have hlast : PyFloat.nearest (PyFloat.nearest (253402300799999984 / 1000000) * 1000) <
      253402300800000 := by
    decide +kernel
  have hmillis := lt_of_le_of_lt (PyFloat.nearest_mono hscaled) hlast
  unfold timestampMs maxWireMillis
  dsimp only
  generalize PyFloat.nearest (PyFloat.nearest (now.instantMicros / 1000000) * 1000) = millis
    at hmillis
  split
  · have hfloor : (⌊millis⌋ : ℚ) < 253402300800000 := lt_of_le_of_lt (Int.floor_le _) hmillis
    have hfloor' : ⌊millis⌋ < 253402300800000 := by exact_mod_cast hfloor
    omega
  · next hneg =>
      have hceil : ⌈millis⌉ ≤ 0 := Int.ceil_le.2 (by push_cast; linarith)
      omega

/-! ## What the journal does to rows and room -/

section Rows

variable {j j' : Journal} {created inserted marked : List JournalRow}

/-- Every row of the table is one that was created. -/
def RowsCreated (j : Journal) (created : List JournalRow) : Prop :=
  ∀ r ∈ j.rows.rows, ∃ r' ∈ created, r'.payload = r.payload

theorem RowsCreated.change (h : RowsCreated j created)
    (hchange : Journal.JournalChange j inserted marked j') :
    RowsCreated j' (inserted ++ created) := by
  have hkept {r : JournalRow} (hr : r ∈ j.rows.rows) :
      ∃ r' ∈ inserted ++ created, r'.payload = r.payload := by
    obtain ⟨r', hr', hpayload⟩ := h r hr
    exact ⟨r', List.mem_append_right _ hr', hpayload⟩
  intro r hr
  cases hchange with
  | same => exact hkept hr
  | save state now => exact hkept (List.mem_filter.1 hr).1
  | insert event createdAt now state rows hrows =>
      have hmem : r ∈ rows.rows := (List.mem_filter.1 hr).1
      rw [(Table.insert_eq_some hrows).2, List.mem_append, List.mem_singleton] at hmem
      rcases hmem with hmem | rfl
      · exact hkept hmem
      · exact ⟨_, List.mem_append_left _ List.mem_cons_self, rfl⟩
  | mark x hx hpending =>
      obtain ⟨y, hy, rfl⟩ := List.mem_map.1 hr
      obtain ⟨r', hr', hpayload⟩ := hkept hy
      refine ⟨r', hr', hpayload.trans ?_⟩
      unfold Table.updateRow
      split <;> rfl

/-- A call adds to the waiting rows at most what it inserts. -/
theorem pending_change (hchange : Journal.JournalChange j inserted marked j') :
    j'.pending ≤ j.pending + inserted.length := by
  simp only [Journal.pending_eq_length]
  cases hchange with
  | same => exact Nat.le_add_right _ _
  | save state now =>
      rw [Journal.pendingRows_save]
      exact Nat.le_add_right _ _
  | insert event createdAt now state rows hrows =>
      rw [Journal.pendingRows_save]
      show (rows.rows.filter JournalRow.isPending).length ≤ _
      rw [Journal.pendingRows_insert rfl hrows, List.length_append]
  | mark x hx hpending =>
      show List.length (List.filter _ (List.map _ _)) ≤ _
      rw [Journal.pendingRows_mark]
      exact (List.length_filter_le _ _).trans (Nat.le_add_right _ _)

/-- A new event is committed when there is room for it. -/
theorem commit_fresh {capacity : ℕ} {event : BottleInspection}
    (hfresh : j.rows.lookup event.inspectionId = none) (hroom : j.pending < capacity)
    (state : InspectionStream) (createdAt now : ℚ) :
    ∃ journal, j.commit capacity state (some event) createdAt now =
      .ok ([⟨j.nextSerial, event, createdAt, false⟩], journal) := by
  have hsome := Table.insert_isSome (t := j.rows)
    (r := ⟨j.nextSerial, event, createdAt, false⟩) hfresh
  obtain ⟨rows, hrows⟩ := Option.isSome_iff_exists.1 hsome
  refine ⟨Journal.save
    { j with rows, nextSerial := j.nextSerial + 1, created := j.created + 1 } state now, ?_⟩
  simp only [Journal.commit, Journal.insertEvent, hfresh, if_neg (not_le.2 hroom), hrows]
  rfl

end Rows

/-! ## The invariant -/

/-- The registers show no event or a committed one. -/
def Committed (created : List JournalRow) (registers : List ℕ) : Prop :=
  decodeInspection registers = .ok none ∨
    ∃ r ∈ created, decodeInspection registers = .ok (some r.payload)

theorem Committed.append {created : List JournalRow} {registers : List ℕ}
    (h : Committed created registers) (inserted : List JournalRow) :
    Committed (inserted ++ created) registers := by
  rcases h with h | ⟨r, hr, h⟩
  · exact Or.inl h
  · exact Or.inr ⟨r, List.mem_append_right _ hr, h⟩

/-- What the registers 60 to 69 show: nothing, or a committed event. -/
def WindowCommitted (created : List JournalRow) (window : List ℕ) : Prop :=
  window = encodeInspection none ∨ ∃ r ∈ created, window = encodeInspection (some r.payload)

theorem WindowCommitted.append {created : List JournalRow} {window : List ℕ}
    (h : WindowCommitted created window) (inserted : List JournalRow) :
    WindowCommitted (inserted ++ created) window := by
  rcases h with h | ⟨r, hr, h⟩
  · exact Or.inl h
  · exact Or.inr ⟨r, List.mem_append_right _ hr, h⟩

/-- What a running simulator shows and is about to commit. -/
structure RunningInv (created : List JournalRow) (sim : Simulator) : Prop where
  /-- The event that waits for its commit is the one of the snapshot. -/
  awaiting : ∀ event, sim.phase = .observed (some event) →
    decodeInspection sim.stream.registers = .ok (some event)
  /-- Otherwise the snapshot was committed. -/
  snapshot : (∀ event, sim.phase ≠ .observed (some event)) →
    Committed created sim.stream.registers
  latest : Committed created sim.latest
  window : WindowCommitted created sim.window

/-- What the simulator and its journal keep until the sessions go round. -/
structure OutboxInv (cfg : DeliveryConfig δ τ) (s : DeliveryState δ τ) : Prop where
  numbered : ∃ first saved places,
    Numbered s.simulator s.journal.state s.created s.advances first saved places
  rows : RowsCreated s.journal s.created
  pending_le : s.journal.pending ≤ cfg.outboxCapacity
  room : ∀ sim event, s.simulator = some sim → sim.phase = .observed (some event) →
    s.journal.pending < cfg.outboxCapacity
  saved : ∀ st, s.journal.state = some st → Committed s.created st.registers
  running : ∀ sim, s.simulator = some sim → RunningInv s.created sim

section Invariant

variable {cfg : DeliveryConfig δ τ} {s s' : DeliveryState δ τ}

theorem OutboxInv.initial (clock : ℚ) : OutboxInv cfg (.initial clock) where
  numbered := ⟨0, 0, [], .initial⟩
  rows := by simp [RowsCreated, DeliveryState.initial, Journal.empty, Table.empty]
  pending_le := by simp [DeliveryState.initial, Journal.empty, Journal.pending, Table.count,
    Table.empty]
  room := by simp [DeliveryState.initial]
  saved := by simp [DeliveryState.initial, Journal.empty]
  running := by simp [DeliveryState.initial]

/-- A snapshot of a running simulator can always be read. -/
theorem RunningInv.decodes {created : List JournalRow} {sim : Simulator}
    (h : RunningInv created sim) :
    ∃ event, decodeInspection sim.stream.registers = .ok event := by
  by_cases hphase : ∃ event, sim.phase = .observed (some event)
  · obtain ⟨event, hphase⟩ := hphase
    exact ⟨_, h.awaiting event hphase⟩
  · push Not at hphase
    rcases h.snapshot hphase with h | ⟨r, -, h⟩
    · exact ⟨_, h⟩
    · exact ⟨_, h⟩

/-- **The event of a tick is committed**: its identity is new and there is room. -/
theorem OutboxInv.commits (h : OutboxInv cfg s) (hleft : s.advances < 2 ^ 64 - 1)
    {sim : Simulator} {event : Option BottleInspection} (hsim : s.simulator = some sim)
    (hphase : sim.phase = .observed event) (createdAt now : ℚ) :
    ∃ inserted journal, s.journal.commit cfg.outboxCapacity sim.stream event createdAt now =
      .ok (inserted, journal) ∧
        inserted.map JournalRow.payload = event.toList := by
  cases event with
  | none => exact ⟨[], _, Journal.commit_none s.journal cfg.outboxCapacity sim.stream createdAt now,
      rfl⟩
  | some event =>
      obtain ⟨first, saved, places, hnumbered⟩ := h.numbered
      obtain ⟨position, hle, -, hadv, hevent⟩ := hnumbered.running sim hsim
      obtain ⟨hid, hlt⟩ := hevent event hphase
      have hfresh : s.journal.rows.lookup event.inspectionId = none := by
        rw [Table.lookup_eq_none_iff]
        intro r hr hkey
        obtain ⟨r', hr', hpayload⟩ := h.rows r hr
        have hmem : r'.id ∈ places.map (idAt first) := by
          rw [← hnumbered.ids]
          exact List.mem_map_of_mem hr'
        obtain ⟨p, hp, hpid⟩ := List.mem_map.1 hmem
        have hps := hnumbered.le_saved p hp
        have hsame : idAt first p = idAt first position := by
          rw [hpid, ← hid, ← hkey]
          exact congrArg BottleInspection.inspectionId hpayload
        have heq := idAt_inj (by omega) (by omega) hsame
        omega
      obtain ⟨journal, hcommit⟩ := commit_fresh hfresh (h.room sim event hsim hphase)
        sim.stream createdAt now
      exact ⟨_, journal, hcommit, rfl⟩

/-- A step that leaves the journal and the stream alone. -/
theorem OutboxInv.frame (h : OutboxInv cfg s) {sim sim' : Simulator}
    (hsim : s.simulator = some sim) (hstream : sim'.stream = sim.stream)
    (hphase : sim'.phase = sim.phase) (hlatest : sim'.latest = sim.latest)
    (hwindow : sim'.window = sim.window) :
    OutboxInv cfg { s with simulator := some sim' } where
  numbered := by
    obtain ⟨first, saved, places, hnumbered⟩ := h.numbered
    rw [hsim] at hnumbered
    exact ⟨first, saved, places, hnumbered.frame sim' hstream fun event he => hphase ▸ he⟩
  rows := h.rows
  pending_le := h.pending_le
  room := by
    intro x event hx he
    rw [← Option.some.inj hx, hphase] at he
    exact h.room sim event hsim he
  saved := h.saved
  running := by
    intro x hx
    have hrunning := h.running sim hsim
    rw [← Option.some.inj hx]
    constructor
    · rw [hphase, hstream]
      exact hrunning.awaiting
    · rw [hphase, hstream]
      exact hrunning.snapshot
    · rw [hlatest]
      exact hrunning.latest
    · rw [hwindow]
      exact hrunning.window

/-- The zeros a simulator starts with. -/
theorem decode_zeros : decodeInspection (List.replicate 10 0) = .ok none := rfl

theorem OutboxInv.bootStream_committed (h : OutboxInv cfg s) {session : ℕ}
    {stream : InspectionStream}
    (hstream : bootStream cfg s.journal.state session = some stream) :
    Committed s.created stream.registers := by
  cases hstate : s.journal.state with
  | some st =>
      rw [hstate] at hstream
      rw [← Option.some.inj hstream]
      exact h.saved st hstate
  | none =>
      rw [hstate] at hstream
      unfold bootStream at hstream
      dsimp only at hstream
      split at hstream
      · rw [← Option.some.inj hstream]
        exact Or.inl decode_zeros
      · cases hstream

/-- A restart shows no more than what was saved. -/
theorem OutboxInv.boot (h : OutboxInv cfg s) {session : ℕ} {now : ℚ} {stream : InspectionStream}
    (hstream : bootStream cfg s.journal.state session = some stream) :
    OutboxInv cfg { s with
      simulator := some { stream }
      journal := s.journal.save stream now
      advances := s.advances + if s.journal.state.isSome then 1 else 0 } where
  numbered := by
    obtain ⟨first, saved, places, hnumbered⟩ := h.numbered
    exact hnumbered.boot hstream
  rows := h.rows.change (.save stream now)
  pending_le := (pending_change (.save stream now)).trans h.pending_le
  room := by
    intro sim event hsim he
    rw [← Option.some.inj hsim] at he
    cases he
  saved := by
    intro st hst
    rw [← Option.some.inj hst]
    exact h.bootStream_committed hstream
  running := by
    intro sim hsim
    rw [← Option.some.inj hsim]
    exact ⟨by simp, fun _ => h.bootStream_committed hstream, Or.inl decode_zeros, Or.inl rfl⟩

/-- The controls are processed on a journal with no more rows waiting. -/
theorem OutboxInv.controlled (h : OutboxInv cfg s) {sim : Simulator}
    (hsim : s.simulator = some sim) (hidle : sim.phase = .idle) {j : Journal}
    (hrows : RowsCreated j s.created) (hpending : j.pending ≤ cfg.outboxCapacity)
    (hstate : j.state = s.journal.state) (acknowledged : List JournalRow) :
    OutboxInv cfg { s with
      simulator := some { sim with phase := .controlled }, journal := j, acknowledged } where
  numbered := by
    obtain ⟨first, saved, places, hnumbered⟩ := h.numbered
    rw [hsim] at hnumbered
    rw [hstate]
    exact ⟨first, saved, places, hnumbered.frame _ rfl (by simp)⟩
  rows := hrows
  pending_le := hpending
  room := by
    intro x event hx he
    rw [← Option.some.inj hx] at he
    cases he
  saved := by
    intro st hst
    exact h.saved st (hstate ▸ hst)
  running := by
    intro x hx
    have hrunning := h.running sim hsim
    rw [← Option.some.inj hx]
    exact ⟨by simp, fun _ => hrunning.snapshot (by simp [hidle]), hrunning.latest,
      hrunning.window⟩

/-- A receipt takes a row out of the waiting ones, or none. -/
theorem OutboxInv.receipt (h : OutboxInv cfg s) {sim : Simulator}
    (hsim : s.simulator = some sim) (hidle : sim.phase = .idle) :
    OutboxInv cfg (s.processReceipt sim) := by
  unfold DeliveryState.processReceipt
  dsimp only
  split
  · exact h.controlled hsim hidle h.rows h.pending_le rfl s.acknowledged
  · next identity hidentity =>
      obtain ⟨hchange, hstate, -⟩ := s.journal.ack_change identity
      exact h.controlled hsim hidle (h.rows.change hchange)
        ((pending_change hchange).trans h.pending_le) hstate _

/-- An effect on the device saves the stream between two inspections. -/
theorem OutboxInv.save (h : OutboxInv cfg s) {sim : Simulator}
    (hsim : s.simulator = some sim) (hphase : ∀ event, sim.phase ≠ .observed (some event))
    (now : ℚ) : OutboxInv cfg { s with journal := s.journal.save sim.stream now } where
  numbered := by
    obtain ⟨first, saved, places, hnumbered⟩ := h.numbered
    rw [hsim] at hnumbered
    obtain ⟨saved', hsaved⟩ := hnumbered.save hphase
    exact ⟨first, saved', places, hsim ▸ hsaved⟩
  rows := h.rows.change (.save sim.stream now)
  pending_le := (pending_change (.save sim.stream now)).trans h.pending_le
  room := by
    intro x event hx he
    obtain rfl : sim = x := Option.some.inj (hsim.symm.trans hx)
    exact absurd he (hphase event)
  saved := by
    intro st hst
    rw [← Option.some.inj hst]
    exact (h.running sim hsim).snapshot hphase
  running := h.running

/-- A tick counts a bottle, or inspects it when there is room. -/
theorem OutboxInv.observe (h : OutboxInv cfg s) {sim : Simulator} {bottle : Option ℕ}
    {now : AwareDatetime} {stream : InspectionStream} {event : Option BottleInspection}
    (hsim : s.simulator = some sim) (hphase : sim.phase = .controlled)
    (hobserve : observeBottle (cfg.outboxCapacity ≤ s.journal.pending) sim.stream bottle now =
      .ok (stream, event)) :
    OutboxInv cfg { s with
      simulator := some { sim with stream, phase := .observed event }
      advances := s.advances + if stream.session = sim.stream.session then 0 else 1 } where
  numbered := by
    obtain ⟨first, saved, places, hnumbered⟩ := h.numbered
    rw [hsim] at hnumbered
    exact ⟨first, saved, places, hnumbered.observe hobserve⟩
  rows := h.rows
  pending_le := h.pending_le
  room := by
    intro x event' hx he
    rw [← Option.some.inj hx] at he
    obtain rfl : event = some event' := TickPhase.observed.inj he
    rcases observeBottle_move hobserve with ⟨hnone, -⟩ | ⟨bottleId, hfull, -⟩
    · cases hnone
    · exact not_le.1 (of_decide_eq_false hfull)
  saved := h.saved
  running := by
    intro x hx
    have hrunning := h.running sim hsim
    have hcommitted := hrunning.snapshot (by simp [hphase])
    rw [← Option.some.inj hx]
    refine ⟨?_, ?_, hrunning.latest, hrunning.window⟩
    · intro event' he
      obtain rfl : event = some event' := TickPhase.observed.inj he
      rcases observeBottle_move hobserve with ⟨hnone, -⟩ | ⟨bottleId, -, -, -, -, hdecode⟩
      · cases hnone
      · exact hdecode
    · intro hnot
      rcases observeBottle_move hobserve with ⟨-, rfl | rfl⟩ | ⟨bottleId, -, -, -, -, hdecode⟩
      · exact hcommitted
      · exact hcommitted
      · cases event with
        | none => exact Or.inl hdecode
        | some event => exact absurd rfl (hnot event)

/-- A commit adds the event of the snapshot to the committed ones. -/
theorem OutboxInv.commit (h : OutboxInv cfg s) (hleft : s.advances < 2 ^ 64 - 1)
    {sim : Simulator} {event : Option BottleInspection} {createdAt now : ℚ}
    {inserted : List JournalRow} {journal : Journal} (hsim : s.simulator = some sim)
    (hphase : sim.phase = .observed event)
    (hcommit : s.journal.commit cfg.outboxCapacity sim.stream event createdAt now =
      .ok (inserted, journal)) :
    OutboxInv cfg { s with
      simulator := some { sim with phase := .committed }
      journal
      created := inserted ++ s.created } := by
  obtain ⟨hchange, hstate, hinserted⟩ := Journal.commit_change hcommit
  obtain ⟨inserted', journal', hcommit', hpayload⟩ := h.commits hleft hsim hphase createdAt now
  obtain ⟨rfl, rfl⟩ : inserted' = inserted ∧ journal' = journal := by
    have hsame := Except.ok.inj (hcommit'.symm.trans hcommit)
    exact Prod.mk.inj hsame
  have hrunning := h.running sim hsim
  have hcommitted : Committed (inserted' ++ s.created) sim.stream.registers := by
    cases event with
    | none => exact (hrunning.snapshot (by simp [hphase])).append _
    | some event =>
        obtain ⟨r, hr, -⟩ := List.map_eq_singleton_iff.1 hpayload
        have hpayload' : r.payload = event := by
          rw [hr] at hpayload
          simpa using hpayload
        right
        refine ⟨r, by simp [hr], ?_⟩
        rw [hpayload']
        exact hrunning.awaiting event hphase
  have hroom : s.journal.pending + inserted'.length ≤ cfg.outboxCapacity := by
    have hlength := congrArg List.length hpayload
    rw [List.length_map] at hlength
    cases event with
    | none =>
        have hle := h.pending_le
        simp only [Option.toList_none, List.length_nil] at hlength
        omega
    | some event =>
        have hlt := h.room sim event hsim hphase
        simp only [Option.toList_some, List.length_singleton] at hlength
        omega
  constructor
  · obtain ⟨first, saved, places, hnumbered⟩ := h.numbered
    rw [hsim] at hnumbered
    have hone : inserted' = [] ∨ ∃ r, inserted' = [r] ∧ event = some r.payload := by
      cases event with
      | none => exact Or.inl (List.map_eq_nil_iff.1 hpayload)
      | some event =>
          obtain ⟨r, hr, -⟩ := List.map_eq_singleton_iff.1 hpayload
          exact Or.inr ⟨r, hr, hinserted r (by simp [hr])⟩
    obtain ⟨saved', places', hnumbered'⟩ := hnumbered.commit hphase hone
    rw [← hstate] at hnumbered'
    exact ⟨first, saved', places', hnumbered'⟩
  · exact h.rows.change hchange
  · exact (pending_change hchange).trans hroom
  · intro x event' hx he
    rw [← Option.some.inj hx] at he
    cases he
  · intro st hst
    obtain rfl : sim.stream = st := Option.some.inj (hstate.symm.trans hst)
    exact hcommitted
  · intro x hx
    rw [← Option.some.inj hx]
    exact ⟨by simp, fun _ => hcommitted, hrunning.latest.append _, hrunning.window.append _⟩

/-- The registers are written behind the commit. -/
theorem OutboxInv.refresh (h : OutboxInv cfg s) {sim : Simulator}
    (hsim : s.simulator = some sim) (hphase : sim.phase = .committed) :
    OutboxInv cfg { s with
      simulator := some
        { sim with
          phase := .idle
          latest := sim.stream.registers
          window := encodeInspection s.journal.head } } where
  numbered := by
    obtain ⟨first, saved, places, hnumbered⟩ := h.numbered
    rw [hsim] at hnumbered
    exact ⟨first, saved, places, hnumbered.frame _ rfl (by simp)⟩
  rows := h.rows
  pending_le := h.pending_le
  room := by
    intro x event hx he
    rw [← Option.some.inj hx] at he
    cases he
  saved := h.saved
  running := by
    intro x hx
    have hcommitted := (h.running sim hsim).snapshot (by simp [hphase])
    rw [← Option.some.inj hx]
    refine ⟨by simp, fun _ => hcommitted, hcommitted, ?_⟩
    show WindowCommitted s.created (encodeInspection s.journal.head)
    cases hhead : s.journal.head with
    | none => exact Or.inl rfl
    | some event =>
        rw [Journal.head_eq] at hhead
        obtain ⟨r, hr, rfl⟩ := Option.map_eq_some_iff.1 hhead
        have hrow := (Journal.mem_pendingRows.1 (List.mem_of_head? hr)).1
        obtain ⟨r', hr', hpayload⟩ := h.rows r hrow
        exact Or.inr ⟨r', hr', by rw [hpayload]⟩

/-! ## Steps and runs -/

theorem OutboxInv.step {e : SimulatorEvent} (h : OutboxInv cfg s)
    (hleft : s.advances < 2 ^ 64 - 1) (hs : simulatorStep cfg s e = some s') :
    OutboxInv cfg s' := by
  cases simulatorStep_move hs with
  | boot session now stream hdown hstream => exact h.boot hstream
  | stop _ sim hsim =>
      obtain ⟨first, saved, places, hnumbered⟩ := h.numbered
      exact ⟨⟨first, saved, places, hnumbered.crash⟩, h.rows, h.pending_le, by simp, h.saved,
        by simp⟩
  | receipt sim hsim hphase => exact h.receipt hsim hphase
  | save now sim hsim hphase => exact h.save hsim (by simp [hphase]) now
  | observe bottle now sim stream event hsim hphase hobserve =>
      exact h.observe hsim hphase hobserve
  | commit createdAt now sim event inserted journal hsim hphase hcommit =>
      exact h.commit hleft hsim hphase hcommit
  | refresh sim hsim hphase => exact h.refresh hsim hphase

/-- Sessions are only taken. -/
theorem advances_le {e : SimulatorEvent} (hs : simulatorStep cfg s e = some s') :
    s.advances ≤ s'.advances := by
  cases simulatorStep_move hs with
  | receipt sim hsim hphase =>
      unfold DeliveryState.processReceipt
      split <;> exact le_rfl
  | boot | observe => exact Nat.le_add_right _ _
  | stop | save | commit | refresh => exact le_rfl

/-- An inspection below the end of the clock is read. -/
theorem raisedByObserve_eq (stream : InspectionStream) {bottleId : ℕ} {now : AwareDatetime}
    (hclock : (stream.bottles + 1) % stream.everyNBottles = 0 →
      now.instantMicros ≤ AwareDatetime.maxMicros - 15) :
    ∀ x ∈ raisedByObserve stream bottleId now, x.1 = .observe := by
  intro x hx
  unfold raisedByObserve at hx
  split at hx
  · rw [List.mem_singleton.1 hx]
  · next stream' hobserve =>
      split at hx
      · exact absurd hx List.not_mem_nil
      · next hinspected =>
          unfold InspectionStream.observe at hobserve
          obtain ⟨hbottle, hobserve⟩ := ite_error_eq_ok.1 hobserve
          by_cases hdue : (stream.bottles + 1) % stream.everyNBottles = 0
          · rw [if_neg (not_not.2 hdue)] at hobserve
            obtain ⟨htime, hobserve⟩ := ite_error_eq_ok.1 hobserve
            obtain ⟨h0, -⟩ := not_not.1 htime
            obtain ⟨millis, hmillis⟩ := Int.eq_ofNat_of_zero_le h0
            have hle := timestampMs_le (hclock hdue)
            rw [hmillis] at hle
            have hle' : millis ≤ maxWireMillis := by exact_mod_cast hle
            have hlt : millis < 2 ^ 48 := lt_of_le_of_lt hle' (by decide)
            obtain ⟨d, hd⟩ := wireTime_isOk hle'
            obtain ⟨event, hdecode, -⟩ :=
              decode_inspect_of_time stream (not_not.1 hbottle) hlt hd
            rw [← Except.ok.inj hobserve, hmillis, hdecode] at hx
            exact absurd hx List.not_mem_nil
          · rw [if_pos hdue] at hobserve
            rw [← Except.ok.inj hobserve] at hinspected
            exact absurd rfl hinspected

/-- A tick raises at most when it counts a bottle. -/
theorem OutboxInv.raises (h : OutboxInv cfg s) (hleft : s.advances < 2 ^ 64 - 1)
    {raised : List (TickCall × PyError)} {e : SimulatorEvent}
    (hclock : ClockBelowMax cfg ⟨s, raised⟩ (.simulator e)) :
    ∀ x ∈ raisedBy cfg s e, x.1 = .observe := by
  intro x hx
  unfold raisedBy at hx
  split at hx
  · next bottleId now sim hsim =>
      split at hx
      · next hroom =>
          apply raisedByObserve_eq sim.stream _ x hx
          intro hdue
          simpa [ClockBelowMax, inspectionTime, hsim, hroom, hdue] using hclock
      · exact absurd hx List.not_mem_nil
  · next createdAt now sim hsim =>
      split at hx
      · next event hphase =>
          obtain ⟨inserted, journal, hcommit, -⟩ := h.commits hleft hsim hphase createdAt now
          rw [hcommit] at hx
          exact absurd hx List.not_mem_nil
      · exact absurd hx List.not_mem_nil
  · exact absurd hx List.not_mem_nil

end Invariant

/-- What is claimed of a state of the simulator and its journal. -/
structure OutboxSafe (cfg : DeliveryConfig δ τ) (s : OutboxState δ τ) : Prop where
  /-- No two committed inspections share an identity. -/
  identities : (s.delivery.created.map JournalRow.id).Nodup
  pending_le : s.delivery.journal.pending ≤ cfg.outboxCapacity
  /-- Neither a commit nor the decoder raised anything. -/
  raised : ∀ x ∈ s.raised, x.1 ≠ .commit ∧ x.1 ≠ .decode
  snapshot : ∀ sim, s.delivery.simulator = some sim →
    ∃ event, decodeInspection sim.stream.registers = .ok event
  /-- The registers show nothing, or what was committed. -/
  shown : ∀ sim, s.delivery.simulator = some sim →
    Committed s.delivery.created sim.latest ∧ WindowCommitted s.delivery.created sim.window

/-- In every run of the simulator with its journal, whatever is written into the receipt
registers and wherever it is taken down, in which fewer than `2 ^ 64 - 1` sessions were
taken and no bottle is inspected in the last fifteen microseconds of the year 9999:
identities are unique, commits and the decoder raise nothing, no more events wait than
the outbox holds, and nothing is shown before it is committed. -/
theorem outbox_safe (cfg : DeliveryConfig δ τ) (clock : ℚ) (es : List OutboxEvent)
    {s : OutboxState δ τ}
    (hclock : Run.Guarded (outboxStep cfg) (ClockBelowMax cfg) (.initial clock) es)
    (hrun : Run.exec (outboxStep cfg) (.initial clock) es = some s)
    (hleft : s.delivery.advances < 2 ^ 64 - 1) : OutboxSafe cfg s := by
  have hinv : s.delivery.advances < 2 ^ 64 - 1 →
      OutboxInv cfg s.delivery ∧ ∀ x ∈ s.raised, x.1 = .observe := by
    refine Run.exec_invariant_of_guarded (I := fun s : OutboxState δ τ =>
      s.delivery.advances < 2 ^ 64 - 1 →
        OutboxInv cfg s.delivery ∧ ∀ x ∈ s.raised, x.1 = .observe) ?_ ?_ hclock hrun
    · intro s e t hI hG hs hlt
      cases e with
      | simulator e =>
          obtain ⟨d, hd, rfl⟩ := Option.map_eq_some_iff.1 hs
          have hbefore := lt_of_le_of_lt (advances_le hd) hlt
          obtain ⟨h, hraised⟩ := hI hbefore
          refine ⟨h.step hbefore hd, fun x hx => ?_⟩
          rcases List.mem_append.1 hx with hx | hx
          · exact h.raises hbefore hG x hx
          · exact hraised x hx
      | writeReceipt values =>
          obtain ⟨sim, hsim, rfl⟩ := Option.map_eq_some_iff.1 hs
          obtain ⟨h, hraised⟩ := hI hlt
          exact ⟨h.frame hsim rfl rfl rfl rfl, hraised⟩
    · intro _
      exact ⟨.initial clock, by simp [OutboxState.initial]⟩
  obtain ⟨h, hraised⟩ := hinv hleft
  obtain ⟨first, saved, places, hnumbered⟩ := h.numbered
  refine ⟨hnumbered.nodup hleft, h.pending_le, ?_, ?_, ?_⟩
  · intro x hx
    rw [hraised x hx]
    exact ⟨by decide, by decide⟩
  · exact fun sim hsim => (h.running sim hsim).decodes
  · exact fun sim hsim => ⟨(h.running sim hsim).latest, (h.running sim hsim).window⟩

namespace OutboxRun

/-! An outbox for one event, and every bottle is inspected. -/

def config : DeliveryConfig Unit Unit where
  inbox :=
    { digest := fun _ => ()
      rounding := .double
      maxAge := 5
      maxAge_pos := by norm_num
      maxAge_le := le_rfl
      realText := fun _ => "" }
  crypto := ⟨fun _ => (), fun _ _ => ()⟩
  receiptKey := "0123456789abcdef0123456789abcdef"
  outboxCapacity := 1
  everyNBottles := 1
  failEveryNInspections := 2
  every_pos := by norm_num
  fail_pos := by norm_num
  rejectTargetUnsTopic := "reject"
  maxObservationAge := 5

def tick (bottleId : ℕ) (now : ℤ) : List OutboxEvent :=
  [.simulator .processReceipt, .simulator (.observe (some bottleId) (.ofMicros now)),
    .simulator (.commit 1000 1000), .simulator .refresh]

/-- The second bottle finds the outbox full; the receipt of the first one arrives, and
the third is inspected after a restart. -/
def run : List OutboxEvent :=
  [.simulator (.boot 1 0)] ++ tick 7 1000123000 ++ tick 8 1001123000 ++
    [.writeReceipt [0, 0, 0, 1, 1], .simulator .processReceipt, .simulator .crash,
      .simulator (.boot 5 0)] ++ tick 9 1002123000

/-- A bottle at the last microsecond of the year 9999. -/
def lastRun : List OutboxEvent := [.simulator (.boot 1 0)] ++ (tick 7 253402300799999999).take 2

end OutboxRun

/-- Two events of different sessions are committed. -/
theorem outbox_safe_example : ∃ s, Run.exec (outboxStep OutboxRun.config) (.initial 0)
    OutboxRun.run = some s ∧
      s.delivery.created.map JournalRow.id = ["0000000000000002:0001", "0000000000000001:0001"] ∧
      OutboxSafe OutboxRun.config s := by
  obtain ⟨s, hs, hend⟩ : ∃ s,
      Run.exec (outboxStep OutboxRun.config) (.initial 0) OutboxRun.run = some s ∧
        s.delivery.created.map JournalRow.id =
          ["0000000000000002:0001", "0000000000000001:0001"] ∧
        s.delivery.advances < 2 ^ 64 - 1 :=
    Run.exists_exec (by decide +kernel)
  exact ⟨s, hs, hend.1, outbox_safe OutboxRun.config 0 OutboxRun.run (by decide +kernel) hs
    hend.2⟩

/-- At the end of the year 9999 the decoder refuses what the stream has just shown. -/
theorem decode_raises : ∃ s, Run.exec (outboxStep OutboxRun.config) (.initial 0)
    OutboxRun.lastRun = some s ∧ s.delivery.advances < 2 ^ 64 - 1 ∧
      s.raised = [(.decode, valueError "year is out of range")] ∧
      ¬OutboxSafe OutboxRun.config s := by
  obtain ⟨s, hs, hend⟩ : ∃ s,
      Run.exec (outboxStep OutboxRun.config) (.initial 0) OutboxRun.lastRun = some s ∧
        s.delivery.advances < 2 ^ 64 - 1 ∧
        s.raised = [(.decode, valueError "year is out of range")] :=
    Run.exists_exec (by decide +kernel)
  refine ⟨s, hs, hend.1, hend.2, fun h => ?_⟩
  exact (h.raised (.decode, valueError "year is out of range") (by simp [hend.2])).2 rfl

end EirvahEdge.Recovery
