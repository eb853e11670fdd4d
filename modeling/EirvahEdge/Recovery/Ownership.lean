import EirvahEdge.Lib.Run
import EirvahEdge.Recovery.OneCommand
import EirvahEdge.Recovery.Numbering

/-!
# No event is received before it is owned

The simulator marks an inspection event as received only after the agent has
committed a row for it, and it does so in the order of the journal.

The chain runs backwards from the mark: a register write names the event that the
window showed when its receipt was checked; the window shows the head of the journal
or, later, an event that was the head (`Journal.Served`); the receipt was signed for
an event that the store had inserted; and the signed text determines the event.  It
holds together because identities are not used twice (`Numbered`), and because an
event comes through the registers as it went in.

## Main results

* `Counted.step`: the counters account for the pending rows, in every run;
* `received_owned`: received events are the oldest ones, and owned.
-/

namespace EirvahEdge.Recovery

open EirvahEdge.Lib
open EirvahEdge.Contracts
open EirvahEdge.Devices

variable {δ τ : Type}

/-! ## Registers that name an event -/

/-- What the simulator reads from a register write of the adapter. -/
theorem receiptIdentity_registers {first position : ℕ} {identity : String}
    (h : receiptIdentity (receiptRegisters (idAt first position)) = some identity) :
    identity = idAt first position := by
  have hlt := sessionAt_lt first (position / 65536)
  have hmod : position % 65536 < 65536 := Nat.mod_lt _ (by norm_num)
  unfold receiptRegisters idAt at h
  rw [sessionNumber_inspectionIdOf hlt, sequenceNumber_inspectionIdOf _ hmod] at h
  simp only [sessionWords, List.cons_append, List.nil_append, receiptIdentity] at h
  rw [join_sessionWords hlt] at h
  split at h
  · exact (Option.some.inj h).symm
  · cases h

/-- An event with an identity of the stream comes back from the registers under that
identity. -/
theorem inspectionId_of_window {event head : BottleInspection} {first position : ℕ}
    (hid : event.inspectionId = idAt first position)
    (h : decodeInspection (encodeInspection (some event)) = .ok (some head)) :
    head.inspectionId = event.inspectionId :=
  inspectionId_of_encode hid (sessionAt_lt _ _) (Nat.mod_lt _ (by norm_num)) h

/-! ## The source -/

/-- The registers bring the event back as it is. -/
def RoundTrips (event : BottleInspection) : Prop :=
  decodeInspection (encodeInspection (some event)) = .ok (some event)

/-- What the window shows: nothing, or an event that is or was the head. -/
def Shows (j : Journal) (acknowledged : List JournalRow) (window : List ℕ) : Prop :=
  window = encodeInspection none ∨
    ∃ r, j.Served acknowledged r ∧ window = encodeInspection (some r.payload)

/-- What the simulator and its journal keep, as long as the sessions have not gone
round; `kept` says that the wire keeps the times of the run. -/
structure SourceInv (kept : Prop) (s : DeliveryState δ τ) : Prop where
  queue : s.journal.QueueLog s.created s.acknowledged
  numbered : ∃ first saved places,
    Numbered s.simulator s.journal.state s.created s.advances first saved places
  window : ∀ sim, s.simulator = some sim → Shows s.journal s.acknowledged sim.window
  awaiting : kept → ∀ sim event, s.simulator = some sim →
    sim.phase = .observed (some event) → RoundTrips event
  roundTrips : kept → ∀ r ∈ s.created, RoundTrips r.payload

section Source

variable {kept : Prop} {s s' : DeliveryState δ τ}

theorem SourceInv.initial (clock : ℚ) :
    SourceInv kept (DeliveryState.initial clock : DeliveryState δ τ) where
  queue := .empty
  numbered := ⟨0, 0, [], .initial⟩
  window := by simp [DeliveryState.initial]
  awaiting := by simp [DeliveryState.initial]
  roundTrips := by simp [DeliveryState.initial]

theorem SourceInv.nodup (h : SourceInv kept s) (hleft : SessionsLeft s) :
    (s.created.map JournalRow.id).Nodup := by
  obtain ⟨first, saved, places, hnumbered⟩ := h.numbered
  unfold SessionsLeft at hleft
  exact hnumbered.nodup (by omega)

/-- Two created rows of one identity are one row. -/
theorem SourceInv.row_eq (h : SourceInv kept s) (hleft : SessionsLeft s) {r r' : JournalRow}
    (hr : r ∈ s.created) (hr' : r' ∈ s.created) (hid : r.id = r'.id) : r = r' :=
  List.inj_on_of_nodup_map (h.nodup hleft) hr hr' hid

/-- **Only the head is marked.**  A served row that still waits is the head, and it is
the only row of its identity. -/
theorem SourceInv.marked_head (h : SourceInv kept s) (hleft : SessionsLeft s)
    {r : JournalRow} (hserved : s.journal.Served s.acknowledged r) :
    ∀ x ∈ s.journal.marked r.id, x = r ∧ s.journal.pendingRows.head? = some x := by
  intro x hx
  obtain ⟨hlookup, hpending⟩ := List.mem_filter.1 hx
  have hrow : s.journal.rows.lookup r.id = some x := by simpa using hlookup
  have hmem : x ∈ s.journal.pendingRows :=
    List.mem_filter.2 ⟨Table.lookup_mem hrow, hpending⟩
  have hcreated : x ∈ s.created := by
    rw [h.queue.split]
    exact List.mem_append_left _ (List.mem_reverse.2 hmem)
  have hsame : x = r :=
    h.row_eq hleft hcreated (h.queue.mem_of_served hserved) (Table.key_of_lookup hrow)
  rcases hserved with hacknowledged | hhead
  · -- an acknowledged row does not wait any more
    have hnodup := h.nodup hleft
    rw [h.queue.split, List.map_append, List.nodup_append] at hnodup
    have hne := hnodup.2.2 x.id (List.mem_map_of_mem (List.mem_reverse.2 hmem)) r.id
      (List.mem_map_of_mem hacknowledged)
    exact absurd (congrArg JournalRow.id hsame) hne
  · exact ⟨hsame, hsame ▸ hhead⟩

/-- A served row has an identity of the stream. -/
theorem SourceInv.id_eq (h : SourceInv kept s) {r : JournalRow}
    (hserved : s.journal.Served s.acknowledged r) : ∃ first p, r.id = idAt first p := by
  obtain ⟨first, saved, places, hnumbered⟩ := h.numbered
  obtain ⟨p, hp⟩ := hnumbered.id_eq (h.queue.mem_of_served hserved)
  exact ⟨first, p, hp⟩

/-- What the adapter reads from the window: the identity of a served row, and its
event when the wire keeps the times. -/
theorem SourceInv.window_event (h : SourceInv kept s) {sim : Simulator}
    (hsim : s.simulator = some sim) {head : BottleInspection}
    (hhead : decodeInspection sim.window = .ok (some head)) :
    ∃ r, s.journal.Served s.acknowledged r ∧ head.inspectionId = r.id ∧
      (kept → head = r.payload) := by
  rcases h.window sim hsim with hnone | ⟨r, hserved, hwindow⟩
  · rw [hnone, decode_encode_none] at hhead
    cases hhead
  · rw [hwindow] at hhead
    obtain ⟨first, p, hid⟩ := h.id_eq hserved
    refine ⟨r, hserved, inspectionId_of_window hid hhead, fun hkept => ?_⟩
    have hback := h.roundTrips hkept r (h.queue.mem_of_served hserved)
    rw [RoundTrips, hhead] at hback
    exact Option.some.inj (Except.ok.inj hback)

/-- The window of a running simulator after a change of the journal. -/
theorem Shows.change {j j' : Journal} {acknowledged inserted marked : List JournalRow}
    {window : List ℕ} (h : Shows j acknowledged window)
    (hchange : Journal.JournalChange j inserted marked j')
    (hhead : ∀ r ∈ marked, j.pendingRows.head? = some r) :
    Shows j' (marked ++ acknowledged) window := by
  rcases h with h | ⟨r, hserved, h⟩
  · exact Or.inl h
  · exact Or.inr ⟨r, hserved.change hchange hhead, h⟩

end Source

/-- The rows a commit inserts, as far as the numbering is concerned. -/
theorem inserted_cases {j j' : Journal} {inserted marked : List JournalRow}
    {event : Option BottleInspection} (hchange : Journal.JournalChange j inserted marked j')
    (hevent : ∀ r ∈ inserted, event = some r.payload) :
    inserted = [] ∨ ∃ r, inserted = [r] ∧ event = some r.payload := by
  cases hchange with
  | same => exact Or.inl rfl
  | save state now => exact Or.inl rfl
  | insert e createdAt now state rows hrows =>
      exact Or.inr ⟨_, rfl, hevent _ List.mem_cons_self⟩
  | mark r hr hpending => exact Or.inl rfl

/-- What the receipt register asks for: nothing, or a served row. -/
def Asks (s : DeliveryState δ τ) (receipt : List ℕ) : Prop :=
  ∀ identity, receiptIdentity receipt = some identity →
    ∃ r, s.journal.Served s.acknowledged r ∧ identity = r.id

/-- Saving the stream touches neither the queue nor the events. -/
theorem SourceInv.ofSave {kept : Prop} {s s' : DeliveryState δ τ} (h : SourceInv kept s)
    (state : InspectionStream) (now : ℚ) (hjournal : s'.journal = s.journal.save state now)
    (hcreated : s'.created = s.created) (hacknowledged : s'.acknowledged = s.acknowledged)
    (hnumbered : ∃ first saved places,
      Numbered s'.simulator (some state) s.created s'.advances first saved places)
    (hwindow : ∀ sim, s'.simulator = some sim → Shows s.journal s.acknowledged sim.window)
    (hawaiting : kept → ∀ sim event, s'.simulator = some sim →
      sim.phase = .observed (some event) → RoundTrips event) :
    SourceInv kept s' := by
  have hchange : Journal.JournalChange s.journal [] [] s'.journal :=
    hjournal ▸ .save state now
  constructor
  · rw [hcreated, hacknowledged]
    exact h.queue.change hchange (by simp)
  · rw [hjournal, hcreated]
    exact hnumbered
  · intro sim hsim
    rw [hacknowledged]
    exact (hwindow sim hsim).change hchange (by simp)
  · exact hawaiting
  · intro hkept r hr
    exact h.roundTrips hkept r (hcreated ▸ hr)

theorem SourceInv.simulator [DecidableEq δ] [DecidableEq τ] {cfg : DeliveryConfig δ τ}
    {kept : Prop} {s s' : DeliveryState δ τ} {e : SimulatorEvent} (h : SourceInv kept s)
    (hleft : SessionsLeft s) (hkept : kept → TimesKept (.simulator e : DeliveryEvent δ τ))
    (hasks : ∀ sim, s.simulator = some sim → Asks s sim.receipt)
    (hs : simulatorStep cfg s e = some s') : SourceInv kept s' := by
  obtain ⟨first, saved, places, hnumbered⟩ := h.numbered
  cases simulatorStep_move hs with
  | boot session now stream hdown hstream =>
      refine h.ofSave stream now rfl rfl rfl (hnumbered.boot hstream) ?_ ?_
      · intro sim hsim
        rw [← Option.some.inj hsim]
        exact Or.inl rfl
      · intro _ sim event hsim hphase
        rw [← Option.some.inj hsim] at hphase
        cases hphase
  | stop e sim hsim =>
      exact ⟨h.queue, ⟨first, saved, places, hnumbered.crash⟩, by simp, by simp, h.roundTrips⟩
  | receipt sim hsim hphase =>
      rw [hsim] at hnumbered
      have hframe := hnumbered.frame { sim with phase := .controlled } rfl (by simp)
      unfold DeliveryState.processReceipt
      cases hidentity : receiptIdentity sim.receipt with
      | none =>
          refine ⟨h.queue, ⟨first, saved, places, hframe⟩, ?_, ?_, h.roundTrips⟩
          · intro sim' hsim'
            rw [← Option.some.inj hsim']
            exact h.window sim hsim
          · intro _ sim' event' hsim' hphase'
            rw [← Option.some.inj hsim'] at hphase'
            cases hphase'
      | some identity =>
          obtain ⟨r, hserved, rfl⟩ := hasks sim hsim identity hidentity
          obtain ⟨hchange, hstate, -⟩ := Journal.ack_change s.journal r.id
          have hhead : ∀ x ∈ s.journal.marked r.id, s.journal.pendingRows.head? = some x :=
            fun x hx => (h.marked_head hleft hserved x hx).2
          refine ⟨h.queue.change hchange hhead, ⟨first, saved, places, ?_⟩, ?_, ?_,
            h.roundTrips⟩
          · show Numbered _ (s.journal.ack r.id).2.state _ _ _ _ _
            rw [hstate]
            exact hframe
          · intro sim' hsim'
            rw [← Option.some.inj hsim']
            exact (h.window sim hsim).change hchange hhead
          · intro _ sim' event' hsim' hphase'
            rw [← Option.some.inj hsim'] at hphase'
            cases hphase'
  | save now sim hsim hphase =>
      rw [hsim] at hnumbered
      refine h.ofSave sim.stream now rfl rfl rfl ?_ h.window h.awaiting
      · obtain ⟨saved', hsave⟩ := hnumbered.save (by simp [hphase])
        refine ⟨first, saved', places, ?_⟩
        rw [hsim]
        exact hsave
  | observe bottle now sim stream event hsim hphase hobserve =>
      rw [hsim] at hnumbered
      refine ⟨h.queue, ⟨first, saved, places, hnumbered.observe hobserve⟩, ?_, ?_,
        h.roundTrips⟩
      · intro sim' hsim'
        rw [← Option.some.inj hsim']
        exact h.window sim hsim
      · intro hk sim' event' hsim' hphase'
        rw [← Option.some.inj hsim'] at hphase'
        have hevent : event = some event' := TickPhase.observed.inj hphase'
        rcases observeBottle_cases hobserve with ⟨hnone, -⟩ | ⟨bottleId, rfl, h0, hlt, hdecode⟩
        · rw [hnone] at hevent
          cases hevent
        · rw [hevent] at hdecode
          exact InspectionStream.decode_encode_inspect (hkept hk) h0 hlt hdecode
  | commit createdAt now sim event inserted journal hsim hphase hcommit =>
      rw [hsim] at hnumbered
      obtain ⟨hchange, hstate, hevent⟩ := Journal.commit_change hcommit
      constructor
      · exact h.queue.change hchange (by simp)
      · obtain ⟨saved', places', hcommitted⟩ :=
          hnumbered.commit hphase (inserted_cases hchange hevent)
        refine ⟨first, saved', places', ?_⟩
        show Numbered _ journal.state _ _ _ _ _
        rw [hstate]
        exact hcommitted
      · intro sim' hsim'
        rw [← Option.some.inj hsim']
        exact (h.window sim hsim).change hchange (by simp)
      · intro _ sim' event' hsim' hphase'
        rw [← Option.some.inj hsim'] at hphase'
        cases hphase'
      · intro hk r hr
        rcases List.mem_append.1 hr with hr | hr
        · exact h.awaiting hk sim r.payload hsim (hevent r hr ▸ hphase)
        · exact h.roundTrips hk r hr
  | refresh sim hsim hphase =>
      rw [hsim] at hnumbered
      refine ⟨h.queue, ⟨first, saved, places, hnumbered.frame _ rfl (by simp)⟩, ?_, ?_,
        h.roundTrips⟩
      · intro sim' hsim'
        rw [← Option.some.inj hsim']
        show Shows s.journal s.acknowledged (encodeInspection s.journal.head)
        rw [Journal.head_eq]
        cases hhead : s.journal.pendingRows.head? with
        | none => exact Or.inl rfl
        | some r => exact Or.inr ⟨r, Or.inr hhead, rfl⟩
      · intro _ sim' event' hsim' hphase'
        rw [← Option.some.inj hsim'] at hphase'
        cases hphase'

/-! ## The receipts -/

/-- The store has inserted a row for exactly this event. -/
def Owned (store : InboxState δ) (event : BottleInspection) : Prop :=
  ∃ row ∈ store.inserted, row.payload = event

/-- A register write names a served row, and one that is owned when the run keeps its
promises. -/
def Cleared (kept : Prop) (s : DeliveryState δ τ) (values : List ℕ) : Prop :=
  ∃ r, s.journal.Served s.acknowledged r ∧ values = receiptRegisters r.id ∧
    (kept → Owned s.store r.payload)

/-- What the agent keeps: what it observes is in UTC, and what it confirms it owns. -/
structure AgentInv (cfg : DeliveryConfig δ τ) (s : DeliveryState δ τ) : Prop where
  rows : InboxRows cfg.inbox s.store
  observations : ∀ event ∈ s.observations, event.inspectedAt.utcoffset = 0
  receiptEvent : ∀ event, s.receiptEvent = some event →
    Owned s.store event ∧ event.inspectedAt.utcoffset = 0
  receipts : ∀ receipt ∈ s.receipts, ∃ event, Owned s.store event ∧
    event.inspectedAt.utcoffset = 0 ∧ signReceipt cfg.crypto event cfg.receiptKey = .ok receipt

/-- What the way back keeps. -/
structure ReceiptInv (kept : Prop) (s : DeliveryState δ τ) : Prop where
  writes : ∀ values ∈ s.writes, Cleared kept s values
  register : ∀ sim, s.simulator = some sim →
    receiptIdentity sim.receipt = none ∨ Cleared kept s sim.receipt
  acknowledged : kept → ∀ r ∈ s.acknowledged, Owned s.store r.payload

theorem AgentInv.initial (cfg : DeliveryConfig δ τ) (clock : ℚ) :
    AgentInv cfg (DeliveryState.initial clock) where
  rows := .initial cfg.inbox clock
  observations := by simp [DeliveryState.initial]
  receiptEvent := by simp [DeliveryState.initial]
  receipts := by simp [DeliveryState.initial]

theorem ReceiptInv.initial (kept : Prop) (clock : ℚ) :
    ReceiptInv kept (DeliveryState.initial clock : DeliveryState δ τ) where
  writes := by simp [DeliveryState.initial]
  register := by simp [DeliveryState.initial]
  acknowledged := by simp [DeliveryState.initial]

/-- A cleared write asks for the row it names. -/
theorem Cleared.asks {kept : Prop} {s : DeliveryState δ τ} (h : SourceInv kept s)
    {values : List ℕ} (hcleared : Cleared kept s values) {identity : String}
    (hidentity : receiptIdentity values = some identity) :
    ∃ r, s.journal.Served s.acknowledged r ∧ identity = r.id ∧
      (kept → Owned s.store r.payload) := by
  obtain ⟨r, hserved, rfl, howned⟩ := hcleared
  obtain ⟨first, p, hid⟩ := h.id_eq hserved
  rw [hid] at hidentity
  exact ⟨r, hserved, (receiptIdentity_registers hidentity).trans hid.symm, howned⟩

theorem ReceiptInv.asks {kept : Prop} {s : DeliveryState δ τ} (h : ReceiptInv kept s)
    (hsource : SourceInv kept s) {sim : Simulator} (hsim : s.simulator = some sim) :
    Asks s sim.receipt := by
  intro identity hidentity
  rcases h.register sim hsim with hnone | hcleared
  · rw [hnone] at hidentity
    cases hidentity
  · obtain ⟨r, hserved, hid, -⟩ := hcleared.asks hsource hidentity
    exact ⟨r, hserved, hid⟩

/-- Served rows stay served over a change of the journal, and the store is the same. -/
theorem Cleared.change {kept : Prop} {s s' : DeliveryState δ τ}
    {inserted marked : List JournalRow} {values : List ℕ} (h : Cleared kept s values)
    (hchange : Journal.JournalChange s.journal inserted marked s'.journal)
    (hhead : ∀ r ∈ marked, s.journal.pendingRows.head? = some r)
    (hacknowledged : s'.acknowledged = marked ++ s.acknowledged) (hstore : s'.store = s.store) :
    Cleared kept s' values := by
  obtain ⟨r, hserved, hvalues, howned⟩ := h
  refine ⟨r, ?_, hvalues, ?_⟩
  · rw [hacknowledged]
    exact hserved.change hchange hhead
  · rw [hstore]
    exact howned

/-- The way back over a step that keeps the receipt register. -/
theorem ReceiptInv.change {kept : Prop} {s s' : DeliveryState δ τ}
    {inserted marked : List JournalRow} (h : ReceiptInv kept s)
    (hchange : Journal.JournalChange s.journal inserted marked s'.journal)
    (hhead : ∀ r ∈ marked, s.journal.pendingRows.head? = some r)
    (hacknowledged : s'.acknowledged = marked ++ s.acknowledged) (hstore : s'.store = s.store)
    (hwrites : s'.writes = s.writes)
    (hregister : ∀ sim', s'.simulator = some sim' → receiptIdentity sim'.receipt = none ∨
      ∃ sim, s.simulator = some sim ∧ sim'.receipt = sim.receipt)
    (howned : kept → ∀ r ∈ marked, Owned s.store r.payload) : ReceiptInv kept s' where
  writes := by
    intro values hvalues
    rw [hwrites] at hvalues
    exact (h.writes values hvalues).change hchange hhead hacknowledged hstore
  register := by
    intro sim' hsim'
    rcases hregister sim' hsim' with hnone | ⟨sim, hsim, hsame⟩
    · exact Or.inl hnone
    · rw [hsame]
      rcases h.register sim hsim with hnone | hcleared
      · exact Or.inl hnone
      · exact Or.inr (hcleared.change hchange hhead hacknowledged hstore)
  acknowledged := by
    intro hkept r hr
    rw [hacknowledged] at hr
    rw [hstore]
    rcases List.mem_append.1 hr with hr | hr
    · exact howned hkept r hr
    · exact h.acknowledged hkept r hr

theorem ReceiptInv.simulator [DecidableEq δ] [DecidableEq τ] {cfg : DeliveryConfig δ τ}
    {kept : Prop} {s s' : DeliveryState δ τ} {e : SimulatorEvent} (h : ReceiptInv kept s)
    (hsource : SourceInv kept s) (hleft : SessionsLeft s)
    (hs : simulatorStep cfg s e = some s') : ReceiptInv kept s' := by
  cases simulatorStep_move hs with
  | boot session now stream hdown hstream =>
      refine h.change (.save stream now) (by simp) rfl rfl rfl ?_ (by simp)
      intro sim' hsim'
      rw [← Option.some.inj hsim']
      exact Or.inl rfl
  | stop e sim hsim => exact h.change .same (by simp) rfl rfl rfl (by simp) (by simp)
  | receipt sim hsim hphase =>
      have hregister : ∀ sim', some { sim with phase := .controlled } = some sim' →
          receiptIdentity sim'.receipt = none ∨
            ∃ x, s.simulator = some x ∧ sim'.receipt = x.receipt := by
        intro sim' hsim'
        rw [← Option.some.inj hsim']
        exact Or.inr ⟨sim, hsim, rfl⟩
      unfold DeliveryState.processReceipt
      cases hidentity : receiptIdentity sim.receipt with
      | none => exact h.change .same (by simp) rfl rfl rfl hregister (by simp)
      | some identity =>
          have hcleared : Cleared kept s sim.receipt := by
            rcases h.register sim hsim with hnone | hcleared
            · rw [hnone] at hidentity
              cases hidentity
            · exact hcleared
          obtain ⟨r, hserved, rfl, howned⟩ := hcleared.asks hsource hidentity
          have hmarked := hsource.marked_head hleft hserved
          refine h.change (Journal.ack_change s.journal r.id).1 (fun x hx => (hmarked x hx).2)
            rfl rfl rfl hregister ?_
          intro hkept x hx
          rw [(hmarked x hx).1]
          exact howned hkept
  | save now sim hsim hphase =>
      exact h.change (.save sim.stream now) (by simp) rfl rfl rfl
        (fun sim' hsim' => Or.inr ⟨sim', hsim', rfl⟩) (by simp)
  | observe bottle now sim stream event hsim hphase hobserve =>
      refine h.change .same (by simp) rfl rfl rfl ?_ (by simp)
      intro sim' hsim'
      rw [← Option.some.inj hsim']
      exact Or.inr ⟨sim, hsim, rfl⟩
  | commit createdAt now sim event inserted journal hsim hphase hcommit =>
      refine h.change (Journal.commit_change hcommit).1 (by simp) rfl rfl rfl ?_ (by simp)
      intro sim' hsim'
      rw [← Option.some.inj hsim']
      exact Or.inr ⟨sim, hsim, rfl⟩
  | refresh sim hsim hphase =>
      refine h.change .same (by simp) rfl rfl rfl ?_ (by simp)
      intro sim' hsim'
      rw [← Option.some.inj hsim']
      exact Or.inr ⟨sim, hsim, rfl⟩

/-! ## The agent and the adapter -/

theorem Owned.mono {store store' : InboxState δ} {event : BottleInspection}
    (h : Owned store event) (hsub : store.inserted ⊆ store'.inserted) : Owned store' event := by
  obtain ⟨row, hrow, hpayload⟩ := h
  exact ⟨row, hsub hrow, hpayload⟩

section Agent

variable [DecidableEq δ] {cfg : DeliveryConfig δ τ}

/-- What was inserted stays in the log. -/
theorem inserted_subset {cfg : InboxConfig δ} {store store' : InboxState δ} {e : InboxEvent}
    (hs : inboxStep cfg store e = some store') : store.inserted ⊆ store'.inserted := by
  cases inboxStep_change hs with
  | same clock => exact List.Subset.refl _
  | assign clock p f hf hkept hpending => exact List.Subset.refl _
  | insert event now factory baselineCount row inbox hnew hok =>
      exact List.subset_cons_self _ _

/-- **What `receive` returns a row for is owned**, whether the row is new or was
found under the digest of the event. -/
theorem owned_of_receive {cfg : InboxConfig δ} {store store' : InboxState δ}
    {event : BottleInspection} {now : ℚ} {factory : Except PyError ActuationRequest}
    {baselineCount : Option ℕ} {row : InspectionRow δ} (h : InboxRows cfg store)
    (hdigest : Function.Injective cfg.digest)
    (hs : inboxStep cfg store (.receive event now factory baselineCount) = some store')
    (hok : (receive cfg store.inbox event now factory baselineCount).1 = .ok row) :
    Owned store' event := by
  rw [← Option.some.inj hs]
  cases hlookup : store.inbox.rows.lookup event.inspectionId with
  | some old =>
      have hsame : old.digest = cfg.digest event := by
        by_contra hne
        simp [receive, hlookup, hne] at hok
      have hold := Table.lookup_mem hlookup
      obtain ⟨r, hr, hk⟩ := h.sourced old hold
      have hpayload : old.payload = event := by
        apply hdigest
        rw [← h.digest_eq old hold]
        exact hsame
      refine ⟨r, List.mem_append_right _ hr, ?_⟩
      rw [← hk.payload, hpayload]
  | none =>
      cases hnew : receiveNew cfg store.inbox event now factory baselineCount with
      | error e => simp [receive, hlookup, hnew] at hok
      | ok a =>
          have hreceive : receive cfg store.inbox event now factory baselineCount =
              (.ok a.1, a.2) := by
            simp [receive, hlookup, hnew]
          obtain ⟨disposition, command, rows, -, hrow, -, hinbox⟩ := receiveNew_ok hnew
          have hserial : store.inbox.nextSerial ≠ a.2.nextSerial := by
            rw [hinbox]
            exact (Nat.lt_succ_self _).ne
          refine ⟨a.1, ?_, ?_⟩
          · simp [hreceive, newRows, hserial]
          · rw [hrow]
            rfl

theorem AgentInv.consume {s : DeliveryState δ τ} (h : AgentInv cfg s)
    (hdigest : Function.Injective cfg.inbox.digest) {event : BottleInspection}
    {now : AwareDatetime} {count : Option (ℕ × AwareDatetime)} {correlationId : String}
    {after : InboxState δ × Option BottleInspection} (hevent : event ∈ s.observations)
    (hs : receiveDurable cfg s.store event now count correlationId = some after) :
    InboxRows cfg.inbox after.1 ∧ s.store.inserted ⊆ after.1.inserted ∧
      ∀ e, after.2 = some e → Owned after.1 e ∧ e.inspectedAt.utcoffset = 0 := by
  unfold receiveDurable at hs
  split at hs
  · rw [← Option.some.inj hs]
    exact ⟨h.rows, List.Subset.refl _, by simp⟩
  · obtain ⟨store', hstore, rfl⟩ := Option.map_eq_some_iff.1 hs
    cases hreceive : (receive cfg.inbox s.store.inbox event
        (now.roundedTimestamp cfg.inbox.rounding) (rejectCommand cfg event now correlationId)
        (count.map Prod.fst)).1 with
    | error e => exact ⟨h.rows.step hstore, inserted_subset hstore, by simp⟩
    | ok row =>
        refine ⟨h.rows.step hstore, inserted_subset hstore, ?_⟩
        intro e he
        rw [← Option.some.inj he]
        exact ⟨owned_of_receive h.rows hdigest hstore hreceive, h.observations event hevent⟩

/-- What a step of the agent leaves alone, and what it only adds to. -/
theorem consumerStep_frame {s s' : DeliveryState δ τ} {e : ConsumerEvent}
    (hs : consumerStep cfg s e = some s') :
    s'.simulator = s.simulator ∧ s'.journal = s.journal ∧ s'.writes = s.writes ∧
      s'.observations = s.observations ∧ s'.created = s.created ∧
      s'.acknowledged = s.acknowledged ∧ s'.advances = s.advances ∧
      s.store.inserted ⊆ s'.store.inserted := by
  cases e with
  | consume event now count correlationId =>
      simp only [consumerStep, Option.ite_none_right_eq_some, Option.map_eq_some_iff] at hs
      obtain ⟨-, after, hafter, rfl⟩ := hs
      refine ⟨rfl, rfl, rfl, rfl, rfl, rfl, rfl, ?_⟩
      unfold receiveDurable at hafter
      split at hafter
      · rw [← Option.some.inj hafter]
        exact List.Subset.refl _
      · obtain ⟨store', hstore, rfl⟩ := Option.map_eq_some_iff.1 hafter
        have hsub := inserted_subset hstore
        split <;> exact hsub
  | publish =>
      simp only [consumerStep] at hs
      split at hs
      · cases hs
      · split at hs
        · rw [← Option.some.inj hs]
          exact ⟨rfl, rfl, rfl, rfl, rfl, rfl, rfl, List.Subset.refl _⟩
        · rw [← Option.some.inj hs]
          exact ⟨rfl, rfl, rfl, rfl, rfl, rfl, rfl, List.Subset.refl _⟩
  | store call =>
      unfold consumerStep at hs
      split at hs
      · next h => cases h
      · next h => cases h
      · cases hs
      · next h =>
          cases h
          obtain ⟨store', hstore, rfl⟩ := Option.map_eq_some_iff.1 hs
          exact ⟨rfl, rfl, rfl, rfl, rfl, rfl, rfl, inserted_subset hstore⟩
      · next h => cases h
  | crash =>
      rw [← Option.some.inj hs]
      exact ⟨rfl, rfl, rfl, rfl, rfl, rfl, rfl, List.Subset.refl _⟩

theorem AgentInv.consumer {s s' : DeliveryState δ τ} {e : ConsumerEvent}
    (h : AgentInv cfg s) (hdigest : Function.Injective cfg.inbox.digest)
    (hs : consumerStep cfg s e = some s') : AgentInv cfg s' := by
  have hsub := (consumerStep_frame hs).2.2.2.2.2.2.2
  have hreceipts : ∀ receipt ∈ s.receipts, ∃ event, Owned s'.store event ∧
      event.inspectedAt.utcoffset = 0 ∧
      signReceipt cfg.crypto event cfg.receiptKey = .ok receipt := by
    intro receipt hreceipt
    obtain ⟨event, howned, hrest⟩ := h.receipts receipt hreceipt
    exact ⟨event, howned.mono hsub, hrest⟩
  cases e with
  | consume event now count correlationId =>
      simp only [consumerStep, Option.ite_none_right_eq_some, Option.map_eq_some_iff] at hs
      obtain ⟨hevent, after, hafter, rfl⟩ := hs
      obtain ⟨hrows, -, hreceipt⟩ := h.consume hdigest hevent hafter
      exact ⟨hrows, h.observations, hreceipt, hreceipts⟩
  | publish =>
      simp only [consumerStep] at hs
      split at hs
      · cases hs
      · next event hevent =>
          split at hs
          · next receipt hsign =>
              rw [← Option.some.inj hs] at hreceipts ⊢
              refine ⟨h.rows, h.observations, h.receiptEvent, ?_⟩
              intro r hr
              rcases List.mem_cons.1 hr with rfl | hr
              · obtain ⟨howned, hutc⟩ := h.receiptEvent event hevent
                exact ⟨event, howned, hutc, hsign⟩
              · exact hreceipts r hr
          · rw [← Option.some.inj hs]
            exact h
  | store call =>
      unfold consumerStep at hs
      split at hs
      · next hcall => cases hcall
      · next hcall => cases hcall
      · cases hs
      · next hcall =>
          cases hcall
          obtain ⟨store', hstore, rfl⟩ := Option.map_eq_some_iff.1 hs
          refine ⟨h.rows.step hstore, h.observations, ?_, hreceipts⟩
          intro event hevent
          obtain ⟨howned, hutc⟩ := h.receiptEvent event hevent
          exact ⟨howned.mono hsub, hutc⟩
      · next hcall => cases hcall
  | crash =>
      rw [← Option.some.inj hs]
      exact ⟨h.rows, h.observations, by simp, h.receipts⟩

variable [DecidableEq τ]

/-- What a step of the adapter does: nothing, an observation of the window, a register
write for a receipt that passed, or the arrival of such a write. -/
inductive AdapterMove (cfg : DeliveryConfig δ τ) (s : DeliveryState δ τ) (sim : Simulator) :
    AdapterEvent δ τ → DeliveryState δ τ → Prop where
  | same (e : AdapterEvent δ τ) : AdapterMove cfg s sim e s
  | poll (event : BottleInspection)
      (hwindow : decodeInspection sim.window = .ok (some event)) :
      AdapterMove cfg s sim .poll { s with observations := event :: s.observations }
  | check (receipt : InspectionReceipt δ τ) (head : BottleInspection)
      (hwindow : decodeInspection sim.window = .ok (some head))
      (hverify : verifyReceipt cfg.crypto receipt head cfg.receiptKey = .ok ()) :
      AdapterMove cfg s sim (.checkReceipt receipt)
        { s with writes := receiptRegisters head.inspectionId :: s.writes }
  | write (values : List ℕ) (hvalues : values ∈ s.writes) :
      AdapterMove cfg s sim (.writeReceipt values)
        { s with simulator := some { sim with receipt := values } }

theorem adapterStep_move {s s' : DeliveryState δ τ} {e : AdapterEvent δ τ}
    (hs : adapterStep cfg s e = some s') :
    ∃ sim, s.simulator = some sim ∧ AdapterMove cfg s sim e s' := by
  unfold adapterStep at hs
  split at hs
  · cases hs
  · next sim hsim =>
      refine ⟨sim, hsim, ?_⟩
      split at hs
      · next event hwindow =>
          rw [← Option.some.inj hs]
          exact .poll event hwindow
      · rw [← Option.some.inj hs]
        exact .same _
  · next receipt sim hsim =>
      refine ⟨sim, hsim, ?_⟩
      split at hs
      · next head hwindow =>
          split at hs
          · next hverify =>
              rw [← Option.some.inj hs]
              exact .check receipt head hwindow hverify
          · rw [← Option.some.inj hs]
            exact .same _
      · rw [← Option.some.inj hs]
        exact .same _
  · next values sim hsim =>
      refine ⟨sim, hsim, ?_⟩
      split at hs
      · next hvalues =>
          rw [← Option.some.inj hs]
          exact .write values hvalues
      · cases hs

theorem SourceInv.adapter {kept : Prop} {s s' : DeliveryState δ τ} {e : AdapterEvent δ τ}
    (h : SourceInv kept s) (hs : adapterStep cfg s e = some s') : SourceInv kept s' := by
  obtain ⟨sim, hsim, hmove⟩ := adapterStep_move hs
  cases hmove with
  | same => exact h
  | poll event hwindow => exact ⟨h.queue, h.numbered, h.window, h.awaiting, h.roundTrips⟩
  | check receipt head hwindow hverify =>
      exact ⟨h.queue, h.numbered, h.window, h.awaiting, h.roundTrips⟩
  | write values hvalues =>
      obtain ⟨first, saved, places, hnumbered⟩ := h.numbered
      rw [hsim] at hnumbered
      refine ⟨h.queue, ⟨first, saved, places, hnumbered.frame _ rfl fun _ he => he⟩, ?_, ?_,
        h.roundTrips⟩
      · intro sim' hsim'
        rw [← Option.some.inj hsim']
        exact h.window sim hsim
      · intro hkept sim' event hsim' hphase
        rw [← Option.some.inj hsim'] at hphase
        exact h.awaiting hkept sim event hsim hphase

theorem AgentInv.adapter {s s' : DeliveryState δ τ} {e : AdapterEvent δ τ}
    (h : AgentInv cfg s) (hs : adapterStep cfg s e = some s') : AgentInv cfg s' := by
  obtain ⟨sim, hsim, hmove⟩ := adapterStep_move hs
  cases hmove with
  | same => exact h
  | poll event hwindow =>
      refine ⟨h.rows, ?_, h.receiptEvent, h.receipts⟩
      intro x hx
      rcases List.mem_cons.1 hx with rfl | hx
      · exact utcoffset_of_decode hwindow
      · exact h.observations x hx
  | check receipt head hwindow hverify =>
      exact ⟨h.rows, h.observations, h.receiptEvent, h.receipts⟩
  | write values hvalues => exact ⟨h.rows, h.observations, h.receiptEvent, h.receipts⟩

/-- **A receipt that passes is for an owned event.**  It was published by the agent,
and its text determines the event that the window shows. -/
theorem AgentInv.owned_of_verify {s : DeliveryState δ τ} (h : AgentInv cfg s)
    (hsha : Function.Injective cfg.crypto.sha256) {receipt : InspectionReceipt δ τ}
    {head : BottleInspection} (hutc : head.inspectedAt.utcoffset = 0)
    (hverify : verifyReceipt cfg.crypto receipt head cfg.receiptKey = .ok ())
    (hunforged : Unforged cfg s (.adapter (.checkReceipt receipt))) :
    Owned s.store head := by
  have hsign := verifyReceipt_eq_ok hverify
  obtain ⟨published, hmem, hbody⟩ := hunforged (signReceipt_eq_ok hutc hsign).2
  obtain ⟨event, howned, hutc', hsign'⟩ := h.receipts published hmem
  have hsame : event = head := event_of_body hsha hutc' hutc hsign' hsign hbody
  exact hsame ▸ howned

theorem ReceiptInv.adapter {kept : Prop} {s s' : DeliveryState δ τ} {e : AdapterEvent δ τ}
    (h : ReceiptInv kept s) (hsource : SourceInv kept s) (hagent : AgentInv cfg s)
    (hsha : Function.Injective cfg.crypto.sha256)
    (hunforged : kept → Unforged cfg s (.adapter e))
    (hs : adapterStep cfg s e = some s') : ReceiptInv kept s' := by
  obtain ⟨sim, hsim, hmove⟩ := adapterStep_move hs
  cases hmove with
  | same => exact h
  | poll event hwindow => exact ⟨h.writes, h.register, h.acknowledged⟩
  | check receipt head hwindow hverify =>
      refine ⟨?_, h.register, h.acknowledged⟩
      intro values hvalues
      rcases List.mem_cons.1 hvalues with rfl | hvalues
      · obtain ⟨r, hserved, hid, hpayload⟩ := hsource.window_event hsim hwindow
        refine ⟨r, hserved, by rw [hid], fun hkept => ?_⟩
        rw [← hpayload hkept]
        exact hagent.owned_of_verify hsha (utcoffset_of_decode hwindow) hverify
          (hunforged hkept)
      · exact h.writes values hvalues
  | write values hvalues =>
      refine ⟨h.writes, ?_, h.acknowledged⟩
      intro sim' hsim'
      rw [← Option.some.inj hsim']
      exact Or.inr (h.writes values hvalues)

end Agent

/-! ## All parties together -/

/-- The invariant of the whole system. -/
structure DeliveryInv (cfg : DeliveryConfig δ τ) (kept : Prop) (s : DeliveryState δ τ) :
    Prop where
  source : SourceInv kept s
  agent : AgentInv cfg s
  receipts : ReceiptInv kept s

section Run

variable {cfg : DeliveryConfig δ τ} {kept : Prop} {s s' : DeliveryState δ τ}

/-- The agent changes nothing of the source, and only adds to its store. -/
theorem DeliveryInv.consumer [DecidableEq δ] {e : ConsumerEvent} (h : DeliveryInv cfg kept s)
    (hdigest : Function.Injective cfg.inbox.digest) (hs : consumerStep cfg s e = some s') :
    DeliveryInv cfg kept s' := by
  obtain ⟨hsimulator, hjournal, hwrites, -, hcreated, hacknowledged, hadvances, hsub⟩ :=
    consumerStep_frame hs
  have hcleared : ∀ values, Cleared kept s values → Cleared kept s' values := by
    rintro values ⟨r, hserved, hvalues, howned⟩
    refine ⟨r, ?_, hvalues, fun hkept => (howned hkept).mono hsub⟩
    rw [hjournal, hacknowledged]
    exact hserved
  refine ⟨⟨?_, ?_, ?_, ?_, ?_⟩, h.agent.consumer hdigest hs, ⟨?_, ?_, ?_⟩⟩
  · rw [hjournal, hcreated, hacknowledged]
    exact h.source.queue
  · rw [hsimulator, hjournal, hcreated, hadvances]
    exact h.source.numbered
  · rw [hsimulator, hjournal, hacknowledged]
    exact h.source.window
  · rw [hsimulator]
    exact h.source.awaiting
  · rw [hcreated]
    exact h.source.roundTrips
  · intro values hvalues
    rw [hwrites] at hvalues
    exact hcleared values (h.receipts.writes values hvalues)
  · intro sim hsim
    rw [hsimulator] at hsim
    exact (h.receipts.register sim hsim).imp_right (hcleared sim.receipt)
  · intro hkept r hr
    rw [hacknowledged] at hr
    exact (h.receipts.acknowledged hkept r hr).mono hsub

/-- A step of the simulator leaves the agent and what was published alone. -/
theorem simulatorStep_frame {e : SimulatorEvent} (hs : simulatorStep cfg s e = some s') :
    s'.store = s.store ∧ s'.observations = s.observations ∧
      s'.receiptEvent = s.receiptEvent ∧ s'.receipts = s.receipts := by
  cases simulatorStep_move hs with
  | receipt sim hsim hphase =>
      unfold DeliveryState.processReceipt
      cases receiptIdentity sim.receipt with
      | none => exact ⟨rfl, rfl, rfl, rfl⟩
      | some identity => exact ⟨rfl, rfl, rfl, rfl⟩
  | boot | stop | save | observe | commit | refresh => exact ⟨rfl, rfl, rfl, rfl⟩

variable [DecidableEq δ] [DecidableEq τ] {e : DeliveryEvent δ τ}

theorem DeliveryInv.step (h : DeliveryInv cfg kept s)
    (hdigest : Function.Injective cfg.inbox.digest)
    (hsha : Function.Injective cfg.crypto.sha256) (hleft : SessionsLeft s)
    (hkept : kept → Unforged cfg s e ∧ TimesKept e) (hs : deliveryStep cfg s e = some s') :
    DeliveryInv cfg kept s' := by
  cases e with
  | simulator e =>
      obtain ⟨hstore, hobservations, hevent, hreceipts⟩ := simulatorStep_frame hs
      refine ⟨h.source.simulator hleft (fun hk => (hkept hk).2)
        (fun sim hsim => h.receipts.asks h.source hsim) hs, ⟨?_, ?_, ?_, ?_⟩,
        h.receipts.simulator h.source hleft hs⟩
      · rw [hstore]
        exact h.agent.rows
      · rw [hobservations]
        exact h.agent.observations
      · rw [hstore, hevent]
        exact h.agent.receiptEvent
      · rw [hstore, hreceipts]
        exact h.agent.receipts
  | adapter e =>
      exact ⟨h.source.adapter hs, h.agent.adapter hs,
        h.receipts.adapter h.source h.agent hsha (fun hk => (hkept hk).1) hs⟩
  | consumer e => exact h.consumer hdigest hs

theorem DeliveryInv.of_run (hdigest : Function.Injective cfg.inbox.digest)
    (hsha : Function.Injective cfg.crypto.sha256) {clock : ℚ} {es : List (DeliveryEvent δ τ)}
    (hguard : Run.Guarded (deliveryStep cfg)
      (fun s e => SessionsLeft s ∧ (kept → Unforged cfg s e ∧ TimesKept e))
      (.initial clock) es)
    (hrun : Run.exec (deliveryStep cfg) (.initial clock) es = some s) :
    DeliveryInv cfg kept s :=
  Run.exec_invariant_of_guarded (I := DeliveryInv cfg kept)
    (fun _ _ _ h hG hs => h.step hdigest hsha hG.1 hG.2 hs)
    ⟨.initial clock, .initial cfg clock, .initial kept clock⟩ hguard hrun

/-- No step breaks the account of the counters. -/
theorem Counted.step (h : s.journal.Counted) (hs : deliveryStep cfg s e = some s') :
    s'.journal.Counted := by
  cases e with
  | simulator e =>
      cases simulatorStep_move hs with
      | boot session now stream hdown hstream => exact h.change (.save stream now)
      | stop e sim hsim => exact h
      | receipt sim hsim hphase =>
          unfold DeliveryState.processReceipt
          cases receiptIdentity sim.receipt with
          | none => exact h
          | some identity => exact h.change (Journal.ack_change s.journal identity).1
      | save now sim hsim hphase => exact h.change (.save sim.stream now)
      | observe bottle now sim stream event hsim hphase hobserve => exact h
      | commit createdAt now sim event inserted journal hsim hphase hcommit =>
          exact h.change (Journal.commit_change hcommit).1
      | refresh sim hsim hphase => exact h
  | adapter e =>
      obtain ⟨sim, hsim, hmove⟩ := adapterStep_move hs
      cases hmove with
      | same | poll | check | write => exact h
  | consumer e =>
      rw [(consumerStep_frame hs).2.1]
      exact h

/-- **No event is received before it is owned.**  In every run the counters account
for the pending rows.  As long as the sessions have not gone round, the received rows
are the oldest ones in the order of their serials.  When besides no receipt is forged
and the wire keeps the times, the store had inserted a row for exactly the event of
every received row. -/
theorem received_owned (cfg : DeliveryConfig δ τ)
    (hdigest : Function.Injective cfg.inbox.digest)
    (hsha : Function.Injective cfg.crypto.sha256) (clock : ℚ)
    (es : List (DeliveryEvent δ τ)) (s : DeliveryState δ τ)
    (hrun : Run.exec (deliveryStep cfg) (.initial clock) es = some s) :
    s.journal.created = s.journal.received + s.journal.pending ∧
      (Run.Guarded (deliveryStep cfg) (fun s _ => SessionsLeft s) (.initial clock) es →
        s.created = s.journal.pendingRows.reverse ++ s.acknowledged ∧
          s.created.Pairwise fun r earlier => earlier.serial < r.serial) ∧
      (Run.Guarded (deliveryStep cfg)
          (fun s e => SessionsLeft s ∧ Unforged cfg s e ∧ TimesKept e) (.initial clock) es →
        (∀ r ∈ s.acknowledged, Owned s.store r.payload) ∧
          ∀ r ∈ s.journal.rows.rows, r.received = true → Owned s.store r.payload) := by
  refine ⟨?_, ?_, ?_⟩
  · have hinitial : (DeliveryState.initial clock : DeliveryState δ τ).journal.Counted := rfl
    exact Run.exec_invariant (I := fun s : DeliveryState δ τ => s.journal.Counted)
      (fun _ _ _ h hs => Counted.step h hs) hinitial hrun
  · intro hguard
    have hinv : DeliveryInv cfg False s := by
      apply DeliveryInv.of_run hdigest hsha _ hrun
      exact hguard.mono fun _ _ hleft => ⟨hleft, False.elim⟩
    exact ⟨hinv.source.queue.split, hinv.source.queue.serials⟩
  · intro hguard
    have hinv : DeliveryInv cfg True s := by
      apply DeliveryInv.of_run hdigest hsha _ hrun
      exact hguard.mono fun _ _ hall => ⟨hall.1, fun _ => hall.2⟩
    have howned := hinv.receipts.acknowledged trivial
    refine ⟨howned, ?_⟩
    intro r hr hreceived
    obtain ⟨r', hr', hpayload⟩ := hinv.source.queue.marked r hr hreceived
    exact hpayload ▸ howned r' hr'

end Run

namespace Deliveries

/-! A hash and a signature that keep the text, one inspected bottle after another. -/

abbrev Signature : Type := String × ReceiptBody BottleInspection

theorem maxAge_pos : (0 : ℚ) < 5 := by norm_num

theorem maxAge_le : (5 : ℚ) ≤ 5 := le_rfl

def config : DeliveryConfig BottleInspection Signature where
  inbox :=
    { digest := id
      rounding := .double
      maxAge := 5
      maxAge_pos := maxAge_pos
      maxAge_le := maxAge_le
      realText := fun _ => "" }
  crypto := ⟨id, Prod.mk⟩
  receiptKey := "0123456789abcdef0123456789abcdef"
  outboxCapacity := 4
  everyNBottles := 1
  failEveryNInspections := 2
  every_pos := Nat.one_pos
  fail_pos := Nat.two_pos
  rejectTargetUnsTopic := "reject"
  maxObservationAge := 5

def receiptFor (event : BottleInspection) : InspectionReceipt BottleInspection Signature :=
  ⟨⟨event.inspectionId, event, "decision-agent-stub"⟩,
    (config.receiptKey, ⟨event.inspectionId, event, "decision-agent-stub"⟩)⟩

/-- The bottle 7 passes, is observed, stored and confirmed. -/
def deliver (inspectedAt : ℤ) (event : BottleInspection) :
    List (DeliveryEvent BottleInspection Signature) :=
  [.simulator .processReceipt, .simulator (.observe (some 7) (.ofMicros inspectedAt)),
    .simulator (.commit 1000 1000), .simulator .refresh, .adapter .poll,
    .consumer (.consume event (.ofMicros 2000000000) none "first"), .consumer .publish,
    .adapter (.checkReceipt (receiptFor event)), .adapter (.checkReceipt (receiptFor event)),
    .adapter (.writeReceipt [0, 0, 0, 1, 1]), .simulator .processReceipt]

def event : BottleInspection := ⟨"0000000000000001:0001", 7, true, .ofMicros 1000123000⟩

/-- One event from a new journal to its mark. -/
def run : List (DeliveryEvent BottleInspection Signature) :=
  .simulator (.boot 1 0) :: deliver 1000123000 event

end Deliveries

/-- The receipt arrives twice, and the event is owned when it is marked. -/
theorem received_owned_example :
    ∃ s, Run.exec (deliveryStep Deliveries.config) (.initial 0) Deliveries.run = some s ∧
      s.acknowledged.map JournalRow.payload = [Deliveries.event] ∧
      ∀ r ∈ s.acknowledged, Owned s.store r.payload := by
  obtain ⟨s, hs, hend⟩ : ∃ s,
      Run.exec (deliveryStep Deliveries.config) (.initial 0) Deliveries.run = some s ∧
        s.acknowledged.map JournalRow.payload = [Deliveries.event] :=
    Run.exists_exec (by decide +kernel)
  have hlaw := received_owned Deliveries.config Function.injective_id Function.injective_id 0
    Deliveries.run s hs
  exact ⟨s, hs, hend, (hlaw.2.2 (by decide +kernel)).1⟩

/-- Bare restarts. -/
def reboots (n : ℕ) : List (DeliveryEvent δ τ) :=
  (List.replicate n [.simulator (.boot 1 0), .simulator .crash]).flatten

/-- A saved stream after so many restarts. -/
def advanced (st : InspectionStream) (n : ℕ) : InspectionStream :=
  { st with
    session := sessionAt st.session n
    sequence := 0
    session_pos := sessionAt_pos _ _
    session_lt := sessionAt_lt _ _
    sequence_le := zero_sequence_le }

/-- A stopped simulator with an empty table after so many restarts. -/
def DeliveryState.rebooted (s : DeliveryState δ τ) (st : InspectionStream) (n : ℕ) :
    DeliveryState δ τ :=
  { s with
    simulator := none
    journal := { s.journal with state := some (advanced st n) }
    advances := s.advances + n }

/-- Restarts do nothing but take sessions. -/
theorem exec_reboots [DecidableEq δ] [DecidableEq τ] (cfg : DeliveryConfig δ τ)
    {s : DeliveryState δ τ} {st : InspectionStream} (hdown : s.simulator = none)
    (hstate : s.journal.state = some st) (hsequence : st.sequence = 0)
    (hrows : s.journal.rows.rows = []) (n : ℕ) :
    Run.exec (deliveryStep cfg) s (reboots n) = some (s.rebooted st n) := by
  induction n with
  | zero =>
      have hst : advanced st 0 = st := by
        cases st
        simp only [advanced, InspectionStream.mk.injEq, and_true, true_and]
        exact ⟨sessionAt_zero (by assumption) (by assumption), hsequence.symm⟩
      have hsame : s.rebooted st 0 = s := by
        unfold DeliveryState.rebooted
        rw [hst, ← hstate, ← hdown]
        rfl
      rw [hsame]
      rfl
  | succ n ih =>
      have hresume : (advanced st n).resume = advanced st (n + 1) := by
        simp only [advanced, InspectionStream.resume, advanceSession_sessionAt]
      have hsave : (s.rebooted st n).journal.save (advanced st (n + 1)) 0 =
          (s.rebooted st (n + 1)).journal := by
        have htable : s.journal.rows.deleteWhere (Journal.outdated 0) = s.journal.rows := by
          apply Table.ext
          show List.filter _ s.journal.rows.rows = _
          rw [hrows]
          rfl
        unfold Journal.save DeliveryState.rebooted
        dsimp only
        rw [htable]
      have hstep : Run.exec (deliveryStep cfg) (s.rebooted st n)
          [.simulator (.boot 1 0), .simulator .crash] = some (s.rebooted st (n + 1)) := by
        have hdown' : (s.rebooted st n).simulator = none := rfl
        have hstate' : (s.rebooted st n).journal.state = some (advanced st n) := rfl
        simp only [Run.exec, deliveryStep, simulatorStep, hdown', DeliveryState.boot, hstate',
          bootStream, hresume, Option.map_some, Option.bind_some, hsave]
        rfl
      have hsplit : (reboots (n + 1) : List (DeliveryEvent δ τ)) =
          reboots n ++ [.simulator (.boot 1 0), .simulator .crash] := by
        simp [reboots, List.replicate_succ']
      rw [hsplit, Run.exec_append, ih, Option.bind_some, hstep]

namespace Deliveries

/-- The first event is confirmed twice and its row deleted. -/
def before : List (DeliveryEvent BottleInspection Signature) :=
  run ++ [.simulator .crash, .simulator (.boot 1 90000), .simulator .crash]

/-- The same identity again: the second confirmation of the first event arrives. -/
def again : List (DeliveryEvent BottleInspection Signature) :=
  [.simulator (.boot 1 0), .simulator .processReceipt,
    .simulator (.observe (some 9) (.ofMicros 90000000000)),
    .simulator (.commit 90000 90000), .simulator .refresh,
    .adapter (.writeReceipt [0, 0, 0, 1, 1]), .simulator .processReceipt]

def stopped : DeliveryState BottleInspection Signature :=
  (Run.exec (deliveryStep config) (.initial 0) before).get (by decide +kernel)

def saved : InspectionStream := stopped.journal.state.get (by decide +kernel)

/-- The event of a bottle inspected after the second `2 ^ 33`, as the window shows it. -/
def late : BottleInspection :=
  ⟨"0000000000000001:0001", 7, true, .ofMicros 8589934592122000⟩

def lateRun : List (DeliveryEvent BottleInspection Signature) :=
  .simulator (.boot 1 0) :: deliver 8589934592123400 late

end Deliveries

/-- Both conditions are needed.  When the sessions go round, a late register write for
the first event of a session marks another one as received.  And for a time that doubles
keep to two microseconds, the window shows an event that differs from the journal's by a
millisecond. -/
theorem unowned_received :
    (∃ es s, Run.exec (deliveryStep Deliveries.config) (.initial 0) es = some s ∧
      Run.Guarded (deliveryStep Deliveries.config)
        (fun s e => Unforged Deliveries.config s e ∧ TimesKept e) (.initial 0) es ∧
      ∃ r ∈ s.acknowledged, ¬Owned s.store r.payload) ∧
    ∃ es s, Run.exec (deliveryStep Deliveries.config) (.initial 0) es = some s ∧
      Run.Guarded (deliveryStep Deliveries.config)
        (fun s e => SessionsLeft s ∧ Unforged Deliveries.config s e) (.initial 0) es ∧
      ∃ r ∈ s.acknowledged, ¬Owned s.store r.payload := by
  constructor
  · have hbefore : Run.exec (deliveryStep Deliveries.config) (.initial 0) Deliveries.before =
        some Deliveries.stopped := (Option.some_get _).symm
    have hstate : Deliveries.stopped.journal.state = some Deliveries.saved :=
      (Option.some_get _).symm
    have hreboots := exec_reboots Deliveries.config (by decide +kernel) hstate
      (by decide +kernel) (by decide +kernel) (2 ^ 64 - 3)
    obtain ⟨s, hs, hend⟩ : ∃ s, Run.exec (deliveryStep Deliveries.config)
        (Deliveries.stopped.rebooted Deliveries.saved (2 ^ 64 - 3)) Deliveries.again = some s ∧
          ∃ r ∈ s.acknowledged, ¬∃ row ∈ s.store.inserted, row.payload = r.payload :=
      Run.exists_exec (by decide +kernel)
    have hquiet : Run.Guarded (deliveryStep Deliveries.config)
        (fun s e => Unforged Deliveries.config s e ∧ TimesKept e) Deliveries.stopped
        (reboots (2 ^ 64 - 3)) := by
      apply Run.Guarded.of_forall
      intro e he s
      obtain ⟨pair, hpair, he⟩ := List.mem_flatten.1 he
      rw [List.eq_of_mem_replicate hpair] at he
      rcases List.mem_cons.1 he with rfl | he
      · exact ⟨trivial, trivial⟩
      · rw [List.mem_singleton.1 he]
        exact ⟨trivial, trivial⟩
    refine ⟨Deliveries.before ++ (reboots (2 ^ 64 - 3) ++ Deliveries.again), s, ?_, ?_, hend⟩
    · rw [Run.exec_append, hbefore, Option.bind_some, Run.exec_append, hreboots,
        Option.bind_some, hs]
    · apply Run.Guarded.append_of (by decide +kernel) hbefore
      exact hquiet.append_of hreboots (by decide +kernel)
  · obtain ⟨s, hs, hend⟩ : ∃ s,
        Run.exec (deliveryStep Deliveries.config) (.initial 0) Deliveries.lateRun = some s ∧
          ∃ r ∈ s.acknowledged, ¬∃ row ∈ s.store.inserted, row.payload = r.payload :=
      Run.exists_exec (by decide +kernel)
    exact ⟨Deliveries.lateRun, s, hs, by decide +kernel, hend⟩

end EirvahEdge.Recovery
