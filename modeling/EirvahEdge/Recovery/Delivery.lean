import EirvahEdge.Recovery.Inbox
import EirvahEdge.Recovery.Journal

/-!
# Inspection delivery

An inspection event goes from the simulator to the decision agent and its receipt
goes back.  The simulator shows the oldest unconfirmed event of its journal in the
registers 60 to 69.  The adapter polls them and publishes what it reads; the agent
stores the event and publishes a signed receipt; the adapter checks the receipt
against the event that the registers show at that moment and writes the identity
into the registers 70 to 74; the simulator marks the event as received.

The parties take steps in any order.  Observations and receipts that were once
published stay available for delivery, so that they can be lost, repeated and
reordered, and a register write of the adapter can arrive at any later time.  The
simulator is taken down by `crash` and loses its registers and its stream; the agent
loses the event it was about to confirm; the two databases survive.  The adapter
keeps nothing that matters between two messages.

A tick of the simulator is cut at its transactions, so that a crash and the steps of
the other parties can come in between.  What happens to bottles and controls between
two inspections is left open: any bottle number, or none, may come next.
-/

namespace EirvahEdge.Recovery

open EirvahEdge.Lib
open EirvahEdge.Contracts
open EirvahEdge.Devices

/-! ## The parties -/

/-- Where the simulator stands in its tick. -/
inductive TickPhase where
  | idle
  | controlled
  | observed (event : Option BottleInspection)
  | committed
deriving DecidableEq, Repr

/-- The simulator while it runs: its stream, and the registers from 32 (the latest
inspection), 60 (the head of the journal) and 70 (the receipt) on. -/
structure Simulator where
  stream : InspectionStream
  phase : TickPhase := .idle
  latest : List ℕ := List.replicate 10 0
  window : List ℕ := List.replicate 10 0
  receipt : List ℕ := List.replicate 5 0
deriving DecidableEq, Repr

/-- The settings of the three services. -/
structure DeliveryConfig (δ τ : Type) where
  inbox : InboxConfig δ
  crypto : ReceiptCrypto δ τ
  receiptKey : String
  outboxCapacity : ℕ
  everyNBottles : ℕ
  failEveryNInspections : ℕ
  every_pos : 0 < everyNBottles
  fail_pos : 0 < failEveryNInspections
  rejectTargetUnsTopic : String
  maxObservationAge : ℚ

/-- The simulator and its journal, what was published and what the adapter sent, the
store of the agent and the event it is about to confirm; then the log of the run: the
rows created and acknowledged, latest first, and how often a new session was
taken. -/
structure DeliveryState (δ τ : Type) where
  simulator : Option Simulator
  journal : Journal
  observations : List BottleInspection
  writes : List (List ℕ)
  store : InboxState δ
  receiptEvent : Option BottleInspection
  receipts : List (InspectionReceipt δ τ)
  created : List JournalRow
  acknowledged : List JournalRow
  advances : ℕ

variable {δ τ : Type}

/-- Two empty databases, and no party has started. -/
def DeliveryState.initial (clock : ℚ) : DeliveryState δ τ where
  simulator := none
  journal := .empty
  observations := []
  writes := []
  store := .initial clock
  receiptEvent := none
  receipts := []
  created := []
  acknowledged := []
  advances := 0

/-! ## Simulator -/

inductive SimulatorEvent where
  | boot (session : ℕ) (now : ℚ)
  | crash
  | processReceipt
  | deviceEffect (now : ℚ)
  | observe (bottle : Option ℕ) (now : AwareDatetime)
  | commit (createdAt now : ℚ)
  | refresh

/-- The stream after `_open_recovery`: the saved one in its next session, or a new
one. -/
def bootStream (cfg : DeliveryConfig δ τ) (saved : Option InspectionStream) (session : ℕ) :
    Option InspectionStream :=
  match saved with
  | some st => some st.resume
  | none =>
      if h : 0 < session ∧ session < 2 ^ 64 then
        some
          { session
            everyNBottles := cfg.everyNBottles
            failEveryNInspections := cfg.failEveryNInspections
            session_pos := pos_of_inRange h
            session_lt := lt_of_inRange h
            every_pos := cfg.every_pos
            fail_pos := cfg.fail_pos
            sequence_le := zero_sequence_le }
      else none

/-- `_open_recovery` and `_build_context`; the stream is committed without an
event. -/
def DeliveryState.boot (cfg : DeliveryConfig δ τ) (s : DeliveryState δ τ) (session : ℕ)
    (now : ℚ) : Option (DeliveryState δ τ) :=
  (bootStream cfg s.journal.state session).map fun stream =>
    { s with
      simulator := some { stream }
      journal := s.journal.save stream now
      advances := s.advances + if s.journal.state.isSome then 1 else 0 }

/-- The identity in the registers 70 to 74; `none` when the session or the sequence
is zero. -/
def receiptIdentity : List ℕ → Option String
  | [a, b, c, d, sequence] =>
      let session := a * 2 ^ 48 + b * 2 ^ 32 + c * 2 ^ 16 + d
      if session ≠ 0 ∧ sequence ≠ 0 then some (inspectionIdOf session sequence) else none
  | _ => none

/-- `_process_controls`, the part about receipts. -/
def DeliveryState.processReceipt (s : DeliveryState δ τ) (sim : Simulator) :
    DeliveryState δ τ :=
  let simulator := some { sim with phase := .controlled }
  match receiptIdentity sim.receipt with
  | none => { s with simulator }
  | some identity =>
      { s with
        simulator
        journal := (s.journal.ack identity).2
        acknowledged := s.journal.marked identity ++ s.acknowledged }

/-- The inspection of a tick: nothing while the outbox is full or no bottle came, and
the event of the registers when there was one. -/
def observeBottle (full : Bool) (stream : InspectionStream) (bottle : Option ℕ)
    (now : AwareDatetime) : Except PyError (InspectionStream × Option BottleInspection) :=
  let observed : Except PyError InspectionStream :=
    match bottle with
    | some bottleId => if full then .ok stream else stream.observe bottleId now
    | none => .ok stream
  match observed with
  | .error e => .error e
  | .ok stream' =>
      if stream'.inspected = stream.inspected then .ok (stream', none)
      else (decodeInspection stream'.registers).map fun event => (stream', event)

/-- A step of the simulator.  What is raised in a tick ends it. -/
def simulatorStep (cfg : DeliveryConfig δ τ) (s : DeliveryState δ τ)
    (e : SimulatorEvent) : Option (DeliveryState δ τ) :=
  match e, s.simulator with
  | .boot session now, none => s.boot cfg session now
  | .boot _ _, some _ => none
  | _, none => none
  | .crash, some _ => some { s with simulator := none }
  | .processReceipt, some sim =>
      if sim.phase = .idle then some (s.processReceipt sim) else none
  | .deviceEffect now, some sim =>
      -- the controls commit the stream with the effect on the device
      if sim.phase = .controlled then
        some { s with journal := s.journal.save sim.stream now }
      else none
  | .observe bottle now, some sim =>
      if sim.phase = .controlled then
        match observeBottle (cfg.outboxCapacity ≤ s.journal.pending) sim.stream bottle now with
        | .error _ => some { s with simulator := none }
        | .ok (stream, event) =>
            some { s with
              simulator := some { sim with stream, phase := .observed event }
              advances := s.advances + if stream.session = sim.stream.session then 0 else 1 }
      else none
  | .commit createdAt now, some sim =>
      match sim.phase with
      | .observed event =>
          match s.journal.commit cfg.outboxCapacity sim.stream event createdAt now with
          | .error _ => some { s with simulator := none }
          | .ok (inserted, journal) =>
              some { s with
                simulator := some { sim with phase := .committed }
                journal
                created := inserted ++ s.created }
      | _ => none
  | .refresh, some sim =>
      if sim.phase = .committed then
        some { s with
          simulator := some
            { sim with
              phase := .idle
              latest := sim.stream.registers
              window := encodeInspection s.journal.head } }
      else none

/-! ## Adapter -/

inductive AdapterEvent (δ τ : Type) where
  | poll
  | checkReceipt (receipt : InspectionReceipt δ τ)
  | writeReceipt (values : List ℕ)

/-- What `_receipts` writes for an event. -/
def receiptRegisters (inspectionId : String) : List ℕ :=
  sessionWords (sessionNumber inspectionId) ++ [sequenceNumber inspectionId]

/-- A step of the adapter: `poll` is the retained part of `_poll_loop`, the other
two are `_receipts` up to its register write and the arrival of that write.  What is
raised ends the handling of the message. -/
def adapterStep [DecidableEq δ] [DecidableEq τ] (cfg : DeliveryConfig δ τ)
    (s : DeliveryState δ τ) (e : AdapterEvent δ τ) : Option (DeliveryState δ τ) :=
  match e, s.simulator with
  | _, none => none
  | .poll, some sim =>
      match decodeInspection sim.window with
      | .ok (some event) => some { s with observations := event :: s.observations }
      | _ => some s
  | .checkReceipt receipt, some sim =>
      match decodeInspection sim.window with
      | .ok (some head) =>
          match verifyReceipt cfg.crypto receipt head cfg.receiptKey with
          | .ok () => some { s with writes := receiptRegisters head.inspectionId :: s.writes }
          | .error _ => some s
      | _ => some s
  | .writeReceipt values, some sim =>
      if values ∈ s.writes then
        some { s with simulator := some { sim with receipt := values } }
      else none

/-! ## Agent -/

inductive ConsumerEvent where
  | consume (event : BottleInspection) (now : AwareDatetime)
      (count : Option (ℕ × AwareDatetime)) (correlationId : String)
  | publish
  | store (call : InboxEvent)
  | crash

/-- `timedelta(seconds=seconds)` in microseconds. -/
def timedeltaMicros (seconds : ℚ) : ℤ :=
  ⌊seconds⌋ * 1000000 +
    PyFloat.roundHalfEven (PyFloat.nearest ((seconds - ⌊seconds⌋) * 1000000))

/-- The command that rejects a failed bottle, valid until the event is too old. -/
def rejectCommand (cfg : DeliveryConfig δ τ) (event : BottleInspection)
    (now : AwareDatetime) (correlationId : String) : Except PyError ActuationRequest :=
  let deadline := event.inspectedAt.localMicros + timedeltaMicros cfg.inbox.maxAge
  if AwareDatetime.maxMicros < deadline then
    .error ⟨.overflowError, "date value out of range"⟩
  else
    .ok
      { correlationId
        requester := "decision-agent-stub"
        targetUnsTopic := cfg.rejectTargetUnsTopic
        requestedValue := .int event.bottleId
        valueType := .int64
        reason := "failed bottle inspection " ++ event.inspectionId
        requestedAt := .aware now
        deadline := some (.aware ⟨deadline, event.inspectedAt.utcoffset⟩)
        extra := []
        names_nodup := declaredNames_nodup }

/-- `0 <= (now - event.inspected_at).total_seconds() < max_age`. -/
def isFresh (cfg : DeliveryConfig δ τ) (event : BottleInspection) (now : AwareDatetime) :
    Bool :=
  let age := now.totalSeconds cfg.inbox.rounding event.inspectedAt
  decide (0 ≤ age ∧ age < cfg.inbox.maxAge)

/-- A fresh failed bottle that is not stored yet waits until there is a recent count
of rejected bottles to compare with. -/
def waitsForBaseline (cfg : DeliveryConfig δ τ) (inbox : Inbox δ) (event : BottleInspection)
    (now : AwareDatetime) (count : Option (ℕ × AwareDatetime)) : Bool :=
  isFresh cfg event now && !event.passed &&
    (inbox.rows.lookup event.inspectionId).isNone &&
    match count with
    | none => true
    | some (rejected, at') =>
        rejected == 65535 ||
          decide (cfg.maxObservationAge < now.totalSeconds cfg.inbox.rounding at')

/-- The call of the store in `_receive_durable`. -/
def receiveCall (cfg : DeliveryConfig δ τ) (event : BottleInspection) (now : AwareDatetime)
    (count : Option (ℕ × AwareDatetime)) (correlationId : String) : InboxEvent :=
  .receive event (now.roundedTimestamp cfg.inbox.rounding)
    (rejectCommand cfg event now correlationId) (count.map Prod.fst)

/-- `_receive_durable`: the store after it and the event that is confirmed. -/
def receiveDurable [DecidableEq δ] (cfg : DeliveryConfig δ τ) (store : InboxState δ)
    (event : BottleInspection) (now : AwareDatetime) (count : Option (ℕ × AwareDatetime))
    (correlationId : String) : Option (InboxState δ × Option BottleInspection) :=
  if waitsForBaseline cfg store.inbox event now count then some (store, none)
  else
    (inboxStep cfg.inbox store (receiveCall cfg event now count correlationId)).map
      fun store' =>
        match (receive cfg.inbox store.inbox event (now.roundedTimestamp cfg.inbox.rounding)
            (rejectCommand cfg event now correlationId) (count.map Prod.fst)).1 with
        | .ok _ => (store', some event)
        | .error _ => (store', none)

/-- A step of the agent: an observation, the receipt for it, another call of the
store, or a restart. -/
def consumerStep [DecidableEq δ] (cfg : DeliveryConfig δ τ) (s : DeliveryState δ τ)
    (e : ConsumerEvent) : Option (DeliveryState δ τ) :=
  match e with
  | .consume event now count correlationId =>
      if event ∈ s.observations then
        (receiveDurable cfg s.store event now count correlationId).map fun after =>
          { s with store := after.1, receiptEvent := after.2 }
      else none
  | .publish =>
      match s.receiptEvent with
      | none => none
      | some event =>
          match signReceipt cfg.crypto event cfg.receiptKey with
          | .ok receipt => some { s with receipts := receipt :: s.receipts }
          | .error _ => some s
  | .store (.receive ..) => none
  | .store call => (inboxStep cfg.inbox s.store call).map fun store => { s with store }
  | .crash => some { s with receiptEvent := none }

/-! ## Runs -/

inductive DeliveryEvent (δ τ : Type) where
  | simulator (e : SimulatorEvent)
  | adapter (e : AdapterEvent δ τ)
  | consumer (e : ConsumerEvent)

def deliveryStep [DecidableEq δ] [DecidableEq τ] (cfg : DeliveryConfig δ τ)
    (s : DeliveryState δ τ) : DeliveryEvent δ τ → Option (DeliveryState δ τ)
  | .simulator e => simulatorStep cfg s e
  | .adapter e => adapterStep cfg s e
  | .consumer e => consumerStep cfg s e

/-- The sessions have not gone round. -/
def SessionsLeft (s : DeliveryState δ τ) : Prop := s.advances + 1 < 2 ^ 64 - 1

instance (s : DeliveryState δ τ) : Decidable (SessionsLeft s) :=
  inferInstanceAs (Decidable (_ < _))

/-- A receipt whose signature is valid has been published by the agent. -/
def Unforged [DecidableEq τ] (cfg : DeliveryConfig δ τ) (s : DeliveryState δ τ) :
    DeliveryEvent δ τ → Prop
  | .adapter (.checkReceipt receipt) =>
      receipt.signature = cfg.crypto.hmacSha256 cfg.receiptKey receipt.body →
        ∃ r ∈ s.receipts, r.body = receipt.body
  | _ => True

instance [DecidableEq δ] [DecidableEq τ] (cfg : DeliveryConfig δ τ) (s : DeliveryState δ τ) :
    ∀ e, Decidable (Unforged cfg s e)
  | .adapter (.checkReceipt receipt) =>
      inferInstanceAs (Decidable
        (receipt.signature = cfg.crypto.hmacSha256 cfg.receiptKey receipt.body →
          ∃ r ∈ s.receipts, r.body = receipt.body))
  | .adapter .poll | .adapter (.writeReceipt _) | .simulator _ | .consumer _ =>
      inferInstanceAs (Decidable True)

/-- Bottles are inspected at times that the wire keeps. -/
def TimesKept : DeliveryEvent δ τ → Prop
  | .simulator (.observe _ now) => WireExact now
  | _ => True

instance : ∀ e : DeliveryEvent δ τ, Decidable (TimesKept e)
  | .simulator (.observe _ now) => inferInstanceAs (Decidable (WireExact now))
  | .simulator (.boot _ _) | .simulator .crash | .simulator .processReceipt
  | .simulator (.deviceEffect _) | .simulator (.commit _ _) | .simulator .refresh
  | .adapter _ | .consumer _ => inferInstanceAs (Decidable True)

/-! ## What a step of the simulator does -/

/-- The steps of the simulator, said once with the conditions they are taken
under. -/
inductive SimulatorMove (cfg : DeliveryConfig δ τ) (s : DeliveryState δ τ) :
    SimulatorEvent → DeliveryState δ τ → Prop where
  | boot (session : ℕ) (now : ℚ) (stream : InspectionStream) (hdown : s.simulator = none)
      (hstream : bootStream cfg s.journal.state session = some stream) :
      SimulatorMove cfg s (.boot session now)
        { s with
          simulator := some { stream }
          journal := s.journal.save stream now
          advances := s.advances + if s.journal.state.isSome then 1 else 0 }
  | stop (e : SimulatorEvent) (sim : Simulator) (hsim : s.simulator = some sim) :
      SimulatorMove cfg s e { s with simulator := none }
  | receipt (sim : Simulator) (hsim : s.simulator = some sim) (hphase : sim.phase = .idle) :
      SimulatorMove cfg s .processReceipt (s.processReceipt sim)
  | save (now : ℚ) (sim : Simulator) (hsim : s.simulator = some sim)
      (hphase : sim.phase = .controlled) :
      SimulatorMove cfg s (.deviceEffect now)
        { s with journal := s.journal.save sim.stream now }
  | observe (bottle : Option ℕ) (now : AwareDatetime) (sim : Simulator)
      (stream : InspectionStream) (event : Option BottleInspection)
      (hsim : s.simulator = some sim) (hphase : sim.phase = .controlled)
      (hobserve : observeBottle (cfg.outboxCapacity ≤ s.journal.pending) sim.stream bottle now =
        .ok (stream, event)) :
      SimulatorMove cfg s (.observe bottle now)
        { s with
          simulator := some { sim with stream, phase := .observed event }
          advances := s.advances + if stream.session = sim.stream.session then 0 else 1 }
  | commit (createdAt now : ℚ) (sim : Simulator) (event : Option BottleInspection)
      (inserted : List JournalRow) (journal : Journal) (hsim : s.simulator = some sim)
      (hphase : sim.phase = .observed event)
      (hcommit : s.journal.commit cfg.outboxCapacity sim.stream event createdAt now =
        .ok (inserted, journal)) :
      SimulatorMove cfg s (.commit createdAt now)
        { s with
          simulator := some { sim with phase := .committed }
          journal
          created := inserted ++ s.created }
  | refresh (sim : Simulator) (hsim : s.simulator = some sim)
      (hphase : sim.phase = .committed) :
      SimulatorMove cfg s .refresh
        { s with
          simulator := some
            { sim with
              phase := .idle
              latest := sim.stream.registers
              window := encodeInspection s.journal.head } }

theorem simulatorStep_move {cfg : DeliveryConfig δ τ} {s s' : DeliveryState δ τ}
    {e : SimulatorEvent} (hs : simulatorStep cfg s e = some s') : SimulatorMove cfg s e s' := by
  cases hsim : s.simulator with
  | none =>
      cases e with
      | boot session now =>
          simp only [simulatorStep, hsim, DeliveryState.boot, Option.map_eq_some_iff] at hs
          obtain ⟨stream, hstream, rfl⟩ := hs
          exact .boot session now stream hsim hstream
      | crash | processReceipt | deviceEffect | observe | commit | refresh =>
          simp [simulatorStep, hsim] at hs
  | some sim =>
      cases e with
      | boot session now => simp [simulatorStep, hsim] at hs
      | crash =>
          simp only [simulatorStep, hsim, Option.some.injEq] at hs
          rw [← hs]
          exact .stop .crash sim hsim
      | processReceipt =>
          simp only [simulatorStep, hsim, Option.ite_none_right_eq_some,
            Option.some.injEq] at hs
          obtain ⟨hphase, rfl⟩ := hs
          exact .receipt sim hsim hphase
      | deviceEffect now =>
          simp only [simulatorStep, hsim, Option.ite_none_right_eq_some,
            Option.some.injEq] at hs
          obtain ⟨hphase, rfl⟩ := hs
          rw [← hsim]
          exact .save now sim hsim hphase
      | observe bottle now =>
          simp only [simulatorStep, hsim, Option.ite_none_right_eq_some] at hs
          obtain ⟨hphase, hs⟩ := hs
          split at hs
          · rw [← Option.some.inj hs]
            exact .stop _ sim hsim
          · next stream event hobserve =>
              rw [← Option.some.inj hs]
              exact .observe bottle now sim stream event hsim hphase hobserve
      | commit createdAt now =>
          simp only [simulatorStep, hsim] at hs
          split at hs
          · next event hphase =>
              split at hs
              · rw [← Option.some.inj hs]
                exact .stop _ sim hsim
              · next inserted journal hcommit =>
                  rw [← Option.some.inj hs]
                  exact .commit createdAt now sim event inserted journal hsim hphase hcommit
          · cases hs
      | refresh =>
          simp only [simulatorStep, hsim, Option.ite_none_right_eq_some,
            Option.some.injEq] at hs
          obtain ⟨hphase, rfl⟩ := hs
          exact .refresh sim hsim hphase

end EirvahEdge.Recovery
