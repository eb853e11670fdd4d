import EirvahEdge.Recovery.Delivery

/-!
# Identities are not used twice

An identity is a position of the inspection stream.  The stream of a running
simulator stands at or behind the position that was saved last, a restart goes on
behind it, and the rows of the journal stand before it, each at a position of its own
(`Numbered`).  As long as the sessions have not gone round, different positions are
different identities (`Numbered.nodup`).
-/

namespace EirvahEdge.Recovery

open EirvahEdge.Lib
open EirvahEdge.Contracts
open EirvahEdge.Devices

variable {δ τ : Type}

/-! ## Positions of rows -/

/-- The stream of a running simulator stands at or behind the saved position, and
behind it when the event of the tick is not committed yet. -/
def Simulator.Stands (sim : Simulator) (first saved advances : ℕ) : Prop :=
  ∃ position, saved ≤ position ∧ sim.stream.At first position ∧
    position / 65536 ≤ advances ∧
    ∀ event, sim.phase = .observed (some event) →
      event.inspectionId = idAt first position ∧ saved < position

/-- The created rows, latest first, have the identities of falling positions, the
last of them at or before the saved one. -/
structure Numbered (simulator : Option Simulator) (state : Option InspectionStream)
    (created : List JournalRow) (advances first saved : ℕ) (places : List ℕ) : Prop where
  ids : created.map JournalRow.id = places.map (idAt first)
  falling : places.Pairwise (· > ·)
  le_saved : ∀ p ∈ places, p ≤ saved
  saved_le : saved / 65536 ≤ advances
  saved_at : ∀ st, state = some st → st.At first saved
  booted : state = none → simulator = none ∧ created = []
  running : ∀ sim, simulator = some sim → sim.Stands first saved advances

section Numbering

variable {simulator : Option Simulator} {state : Option InspectionStream}
  {created : List JournalRow} {advances first saved : ℕ} {places : List ℕ}

theorem Numbered.initial : Numbered none none [] 0 0 0 [] where
  ids := rfl
  falling := List.Pairwise.nil
  le_saved := by simp
  saved_le := le_rfl
  saved_at := by simp
  booted := fun _ => ⟨rfl, rfl⟩
  running := by simp

/-- The identity of a created row is one of the stream. -/
theorem Numbered.id_eq (h : Numbered simulator state created advances first saved places)
    {r : JournalRow} (hr : r ∈ created) : ∃ p, r.id = idAt first p := by
  have hmem : r.id ∈ places.map (idAt first) := by
    rw [← h.ids]
    exact List.mem_map_of_mem hr
  obtain ⟨p, -, hp⟩ := List.mem_map.1 hmem
  exact ⟨p, hp.symm⟩

/-- **No identity is used twice** before the sessions go round. -/
theorem Numbered.nodup (h : Numbered simulator state created advances first saved places)
    (hleft : advances < 2 ^ 64 - 1) : (created.map JournalRow.id).Nodup := by
  have hlt : ∀ p ∈ places, p / 65536 < 2 ^ 64 - 1 := by
    intro p hp
    have hle := h.le_saved p hp
    have hsaved := h.saved_le
    omega
  have hplaces : places.Nodup := h.falling.imp fun hgt => ne_of_gt hgt
  rw [h.ids]
  exact List.Nodup.map_on (fun p hp q hq heq => idAt_inj (hlt p hp) (hlt q hq) heq) hplaces

theorem Numbered.crash (h : Numbered simulator state created advances first saved places) :
    Numbered none state created advances first saved places where
  ids := h.ids
  falling := h.falling
  le_saved := h.le_saved
  saved_le := h.saved_le
  saved_at := h.saved_at
  booted := fun hnone => ⟨rfl, (h.booted hnone).2⟩
  running := by simp

/-- A booted stream was saved. -/
theorem Numbered.state_ne_none {sim : Simulator}
    (h : Numbered (some sim) state created advances first saved places) :
    state ≠ none := by
  intro hnone
  have hsim := (h.booted hnone).1
  cases hsim

/-- A step of the simulator that leaves its stream alone. -/
theorem Numbered.frame {sim : Simulator}
    (h : Numbered (some sim) state created advances first saved places) (sim' : Simulator)
    (hstream : sim'.stream = sim.stream)
    (hphase : ∀ event, sim'.phase = .observed (some event) →
      sim.phase = .observed (some event)) :
    Numbered (some sim') state created advances first saved places where
  ids := h.ids
  falling := h.falling
  le_saved := h.le_saved
  saved_le := h.saved_le
  saved_at := h.saved_at
  booted := fun hnone => absurd hnone h.state_ne_none
  running := by
    intro x hx
    obtain ⟨p, hle, hat, hadv, hevent⟩ := h.running sim rfl
    rw [← Option.some.inj hx]
    refine ⟨p, hle, ?_, hadv, fun event he => hevent event (hphase event he)⟩
    rw [hstream]
    exact hat

/-- The first boot starts the numbering, every other one goes on in the next
session. -/
theorem Numbered.boot {cfg : DeliveryConfig δ τ} {session : ℕ} {stream : InspectionStream}
    (h : Numbered simulator state created advances first saved places)
    (hboot : bootStream cfg state session = some stream) :
    ∃ first saved places, Numbered (some { stream }) (some stream) created
      (advances + if state.isSome then 1 else 0) first saved places := by
  have hstands : ∀ {first saved advances : ℕ}, stream.At first saved →
      saved / 65536 ≤ advances →
      ∀ sim, some ({ stream } : Simulator) = some sim → sim.Stands first saved advances := by
    intro first saved advances hat hle sim hsim
    rw [← Option.some.inj hsim]
    exact ⟨saved, le_rfl, hat, hle, by simp⟩
  cases state with
  | some st =>
      have hat := h.saved_at st rfl
      have hstream : stream = st.resume := (Option.some.inj hboot).symm
      have hresume : stream.At first ((saved / 65536 + 1) * 65536) := by
        rw [hstream]
        exact hat.resume
      have hle : (saved / 65536 + 1) * 65536 / 65536 ≤ advances + 1 := by
        have hsaved := h.saved_le
        omega
      refine ⟨first, (saved / 65536 + 1) * 65536, places, h.ids, h.falling, ?_, hle, ?_, ?_,
        hstands hresume hle⟩
      · intro p hp
        have hp' := h.le_saved p hp
        omega
      · intro st' hst'
        rw [← Option.some.inj hst']
        exact hresume
      · intro hnone
        cases hnone
  | none =>
      have hcreated := (h.booted rfl).2
      have hsequence : stream.sequence = 0 := by
        unfold bootStream at hboot
        dsimp only at hboot
        split at hboot
        · rw [← Option.some.inj hboot]
        · cases hboot
      have hat : stream.At stream.session 0 := .initial hsequence
      refine ⟨stream.session, 0, [], by rw [hcreated]; rfl, .nil, by simp, Nat.zero_le _, ?_, ?_,
        hstands hat (Nat.zero_le _)⟩
      · intro st' hst'
        rw [← Option.some.inj hst']
        exact hat
      · intro hnone
        cases hnone

/-- Saving the stream outside an inspection. -/
theorem Numbered.save {sim : Simulator}
    (h : Numbered (some sim) state created advances first saved places)
    (hphase : ∀ event, sim.phase ≠ .observed (some event)) :
    ∃ saved, Numbered (some sim) (some sim.stream) created advances first saved places := by
  obtain ⟨p, hle, hat, hadv, -⟩ := h.running sim rfl
  refine ⟨p, h.ids, h.falling, ?_, hadv, ?_, ?_, ?_⟩
  · intro q hq
    exact (h.le_saved q hq).trans hle
  · intro st hst
    rw [← Option.some.inj hst]
    exact hat
  · intro hnone
    cases hnone
  · intro x hx
    rw [← Option.some.inj hx]
    exact ⟨p, le_rfl, hat, hadv, fun event he => absurd he (hphase event)⟩

/-- A commit saves the stream, and its row takes the position of the stream. -/
theorem Numbered.commit {sim : Simulator} {event : Option BottleInspection}
    {inserted : List JournalRow}
    (h : Numbered (some sim) state created advances first saved places)
    (hphase : sim.phase = .observed event)
    (hinserted : inserted = [] ∨ ∃ r, inserted = [r] ∧ event = some r.payload) :
    ∃ saved places, Numbered (some { sim with phase := .committed }) (some sim.stream)
      (inserted ++ created) advances first saved places := by
  obtain ⟨p, hle, hat, hadv, hevent⟩ := h.running sim rfl
  have hstate : ∀ st, some sim.stream = some st → st.At first p := by
    intro st hst
    rw [← Option.some.inj hst]
    exact hat
  have hrunning : ∀ x, some { sim with phase := .committed } = some x →
      x.Stands first p advances := by
    intro x hx
    rw [← Option.some.inj hx]
    exact ⟨p, le_rfl, hat, hadv, by simp⟩
  have hold : ∀ q ∈ places, q ≤ p := fun q hq => (h.le_saved q hq).trans hle
  rcases hinserted with rfl | ⟨r, rfl, hr⟩
  · exact ⟨p, places, h.ids, h.falling, hold, hadv, hstate, by simp, hrunning⟩
  · obtain ⟨hid, hlt⟩ := hevent r.payload (hr ▸ hphase)
    refine ⟨p, p :: places, ?_, ?_, ?_, hadv, hstate, by simp, hrunning⟩
    · show r.id :: created.map JournalRow.id = _
      rw [h.ids, List.map_cons]
      exact congrArg (· :: _) hid
    · apply List.Pairwise.cons _ h.falling
      intro q hq
      exact lt_of_le_of_lt (h.le_saved q hq) hlt
    · intro q hq
      rcases List.mem_cons.1 hq with rfl | hq
      · exact le_rfl
      · exact hold q hq

/-- What a tick can make of a bottle: at most a count, or, unless the outbox is full, an
inspection whose registers are decoded. -/
theorem observeBottle_move {full : Bool} {stream stream' : InspectionStream}
    {bottle : Option ℕ} {now : AwareDatetime} {event : Option BottleInspection}
    (h : observeBottle full stream bottle now = .ok (stream', event)) :
    (event = none ∧ (stream' = stream ∨ stream' = { stream with bottles := stream.bottles + 1 })) ∨
      ∃ bottleId, full = false ∧ stream' = stream.inspect bottleId (timestampMs now) ∧
        0 ≤ timestampMs now ∧ timestampMs now < 2 ^ 48 ∧
        decodeInspection stream'.registers = .ok event := by
  have hkept : ∀ st : InspectionStream, st.inspected = stream.inspected →
      (if st.inspected = stream.inspected then
        (.ok (st, none) : Except PyError (InspectionStream × Option BottleInspection))
      else (decodeInspection st.registers).map fun event => (st, event)) =
        .ok (stream', event) → event = none ∧ stream' = st := by
    intro st hsame hif
    rw [if_pos hsame] at hif
    obtain ⟨rfl, rfl⟩ := Prod.mk.inj (Except.ok.inj hif)
    exact ⟨rfl, rfl⟩
  unfold observeBottle at h
  dsimp only at h
  cases bottle with
  | none =>
      obtain ⟨rfl, rfl⟩ := hkept stream rfl h
      exact Or.inl ⟨rfl, Or.inl rfl⟩
  | some bottleId =>
      cases full with
      | true =>
          obtain ⟨rfl, rfl⟩ := hkept stream rfl h
          exact Or.inl ⟨rfl, Or.inl rfl⟩
      | false =>
          simp only [Bool.false_eq_true, if_false] at h
          cases hobserve : stream.observe bottleId now with
          | error e =>
              rw [hobserve] at h
              cases h
          | ok st =>
              rw [hobserve] at h
              rcases InspectionStream.observe_cases hobserve with rfl | ⟨rfl, h0, hlt⟩
              · obtain ⟨rfl, rfl⟩ := hkept { stream with bottles := stream.bottles + 1 } rfl h
                exact Or.inl ⟨rfl, Or.inr rfl⟩
              · have hne : (stream.inspect bottleId (timestampMs now)).inspected ≠
                    stream.inspected := Nat.succ_ne_self _
                dsimp only at h
                rw [if_neg hne] at h
                obtain ⟨decoded, hdecoded, heq⟩ := map_eq_ok.1 h
                obtain ⟨rfl, rfl⟩ := Prod.mk.inj heq
                exact Or.inr ⟨bottleId, rfl, rfl, h0, hlt, hdecoded⟩

/-- In terms of the numbering: no inspection, or the next one. -/
theorem observeBottle_cases {full : Bool} {stream stream' : InspectionStream}
    {bottle : Option ℕ} {now : AwareDatetime} {event : Option BottleInspection}
    (h : observeBottle full stream bottle now = .ok (stream', event)) :
    (event = none ∧ stream'.session = stream.session ∧ stream'.sequence = stream.sequence) ∨
      ∃ bottleId, stream' = stream.inspect bottleId (timestampMs now) ∧
        0 ≤ timestampMs now ∧ timestampMs now < 2 ^ 48 ∧
        decodeInspection stream'.registers = .ok event := by
  rcases observeBottle_move h with ⟨hnone, rfl | rfl⟩ | ⟨bottleId, -, hinspect⟩
  · exact Or.inl ⟨hnone, rfl, rfl⟩
  · exact Or.inl ⟨hnone, rfl, rfl⟩
  · exact Or.inr ⟨bottleId, hinspect⟩

/-- An inspection takes a position behind the saved one. -/
theorem Numbered.observe {sim : Simulator} {full : Bool} {stream : InspectionStream}
    {bottle : Option ℕ} {now : AwareDatetime} {event : Option BottleInspection}
    (h : Numbered (some sim) state created advances first saved places)
    (hobserve : observeBottle full sim.stream bottle now = .ok (stream, event)) :
    Numbered (some { sim with stream, phase := .observed event }) state created
      (advances + if stream.session = sim.stream.session then 0 else 1) first saved places := by
  obtain ⟨p, hle, hat, hadv, -⟩ := h.running sim rfl
  have hstands : ({ sim with stream, phase := .observed event } : Simulator).Stands first saved
      (advances + if stream.session = sim.stream.session then 0 else 1) := by
    rcases observeBottle_cases hobserve with ⟨rfl, hsession, hsequence⟩ |
      ⟨bottleId, rfl, h0, hlt, hdecode⟩
    · refine ⟨p, hle, ⟨hsession.trans hat.session, hsequence.trans hat.sequence⟩, by omega, ?_⟩
      intro e he
      cases he
    · obtain ⟨q, hq, hsession, hsequence, hnext⟩ := hat.next
      refine ⟨q, by omega, ⟨hsession, hsequence⟩, ?_, ?_⟩
      · show q / 65536 ≤ advances + if sim.stream.nextSession = sim.stream.session then 0 else 1
        omega
      · intro e he
        have hevent : event = some e := TickPhase.observed.inj he
        rw [hevent] at hdecode
        have hid := (InspectionStream.decode_inspect h0 hlt hdecode).1
        rw [hsession, hsequence] at hid
        exact ⟨hid, by omega⟩
  refine ⟨h.ids, h.falling, h.le_saved, h.saved_le.trans (Nat.le_add_right _ _), h.saved_at, ?_,
    ?_⟩
  · exact fun hnone => absurd hnone h.state_ne_none
  · intro x hx
    rw [← Option.some.inj hx]
    exact hstands

end Numbering

end EirvahEdge.Recovery
