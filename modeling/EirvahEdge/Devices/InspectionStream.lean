import EirvahEdge.Contracts.Inspection

/-!
# The inspection stream

The simulator inspects every n-th bottle it counts.  An inspection is numbered by
a session and a sequence within it; after 65535 inspections, and after every
restart, the next session is taken, and the session numbers go round after
`2 ^ 64 - 1` of them.  The registers of the last inspection are kept.

Counting the sessions that were taken since the first one turns the pair into one
position, and the identities of a stream into a function of it, `idAt`, that is
injective as long as the sessions have not gone round.

## Main results

* `observe_cases`: an observation leaves the numbering alone or takes a later
  position and shows its identity;
* `idAt_inj`: different positions have different identities.
-/

namespace EirvahEdge.Devices

open EirvahEdge.Lib
open EirvahEdge.Contracts

/-- `InspectionStream`, with the checks of its constructor as fields. -/
structure InspectionStream where
  session : ℕ
  everyNBottles : ℕ
  failEveryNInspections : ℕ
  inspected : ℕ := 0
  failed : ℕ := 0
  bottles : ℕ := 0
  sequence : ℕ := 0
  snapshot : List ℕ := List.replicate 10 0
  session_pos : 0 < session
  session_lt : session < 2 ^ 64
  every_pos : 0 < everyNBottles
  fail_pos : 0 < failEveryNInspections
  sequence_le : sequence ≤ 65535
deriving DecidableEq, Repr

/-- A session starts before its first sequence number. -/
theorem zero_sequence_le : 0 ≤ 65535 := Nat.zero_le _

section Session

variable {session : ℕ}

theorem pos_of_inRange (h : 0 < session ∧ session < 2 ^ 64) : 0 < session := h.1

theorem lt_of_inRange (h : 0 < session ∧ session < 2 ^ 64) : session < 2 ^ 64 := h.2

end Session

/-- `session % (2**64 - 1) + 1`. -/
def advanceSession (session : ℕ) : ℕ := session % (2 ^ 64 - 1) + 1

theorem advanceSession_pos (session : ℕ) : 0 < advanceSession session :=
  Nat.succ_pos _

theorem advanceSession_lt (session : ℕ) : advanceSession session < 2 ^ 64 := by
  have hmod : session % (2 ^ 64 - 1) < 2 ^ 64 - 1 := Nat.mod_lt _ (by norm_num)
  unfold advanceSession
  omega

/-- `int(now.timestamp() * 1000)`: a division and a multiplication of doubles,
then towards zero. -/
def timestampMs (now : AwareDatetime) : ℤ :=
  let millis := PyFloat.nearest
    (PyFloat.nearest (now.instantMicros / 1000000) * 1000)
  if 0 ≤ millis then ⌊millis⌋ else ⌈millis⌉

namespace InspectionStream

/-- The session and the sequence of the next inspection. -/
def nextSession (st : InspectionStream) : ℕ :=
  if 65535 < st.sequence + 1 then advanceSession st.session else st.session

def nextSequence (st : InspectionStream) : ℕ :=
  if 65535 < st.sequence + 1 then 1 else st.sequence + 1

theorem nextSession_pos (st : InspectionStream) : 0 < st.nextSession := by
  unfold nextSession
  split
  · exact advanceSession_pos _
  · exact st.session_pos

theorem nextSession_lt (st : InspectionStream) : st.nextSession < 2 ^ 64 := by
  unfold nextSession
  split
  · exact advanceSession_lt _
  · exact st.session_lt

theorem nextSequence_le (st : InspectionStream) : st.nextSequence ≤ 65535 := by
  unfold nextSequence
  split <;> omega

/-- The stream after an inspection of a bottle. -/
def inspect (st : InspectionStream) (bottleId : ℕ) (millis : ℤ) : InspectionStream :=
  let failed := (st.inspected + 1) % st.failEveryNInspections = 0
  { st with
    session := st.nextSession
    bottles := st.bottles + 1
    inspected := st.inspected + 1
    sequence := st.nextSequence
    failed := if failed then st.failed + 1 else st.failed
    snapshot := sessionWords st.nextSession ++
      [st.nextSequence, bottleId, if failed then 2 else 1] ++ timeWords millis
    session_pos := st.nextSession_pos
    session_lt := st.nextSession_lt
    sequence_le := st.nextSequence_le }

/-- `observe`. -/
def observe (st : InspectionStream) (bottleId : ℕ) (now : AwareDatetime) :
    Except PyError InspectionStream :=
  if ¬(1 ≤ bottleId ∧ bottleId ≤ 65535) then
    .error (valueError "inspection requires a valid bottle ID and aware timestamp")
  else if (st.bottles + 1) % st.everyNBottles ≠ 0 then
    .ok { st with bottles := st.bottles + 1 }
  else if ¬(0 ≤ timestampMs now ∧ timestampMs now < 2 ^ 48) then
    .error (valueError "inspection timestamp does not fit the wire representation")
  else .ok (st.inspect bottleId (timestampMs now))

/-- `registers`. -/
def registers (st : InspectionStream) : List ℕ := st.snapshot

/-- A restart resumes with the next session. -/
def resume (st : InspectionStream) : InspectionStream :=
  { st with
    session := advanceSession st.session
    sequence := 0
    session_pos := advanceSession_pos _
    session_lt := advanceSession_lt _
    sequence_le := zero_sequence_le }

end InspectionStream

/-! ## Positions -/

/-- The session after so many advances. -/
def sessionAt (first advances : ℕ) : ℕ := (first - 1 + advances) % (2 ^ 64 - 1) + 1

/-- The identity at a position: `65536` positions to a session, of which the
sequence `0` is not used. -/
def idAt (first position : ℕ) : String :=
  inspectionIdOf (sessionAt first (position / 65536)) (position % 65536)

theorem sessionAt_zero {first : ℕ} (hpos : 0 < first) (hlt : first < 2 ^ 64) :
    sessionAt first 0 = first := by
  unfold sessionAt
  omega

theorem sessionAt_lt (first advances : ℕ) : sessionAt first advances < 2 ^ 64 := by
  unfold sessionAt
  omega

theorem sessionAt_pos (first advances : ℕ) : 0 < sessionAt first advances :=
  Nat.succ_pos _

theorem advanceSession_sessionAt (first advances : ℕ) :
    advanceSession (sessionAt first advances) = sessionAt first (advances + 1) := by
  unfold advanceSession sessionAt
  omega

/-- The sessions are different until they go round. -/
theorem sessionAt_inj {first k l : ℕ} (hk : k < 2 ^ 64 - 1) (hl : l < 2 ^ 64 - 1)
    (h : sessionAt first k = sessionAt first l) : k = l := by
  unfold sessionAt at h
  omega

theorem idAt_inj {first p q : ℕ} (hp : p / 65536 < 2 ^ 64 - 1)
    (hq : q / 65536 < 2 ^ 64 - 1) (h : idAt first p = idAt first q) : p = q := by
  have hmod : p % 65536 < 65536 ∧ q % 65536 < 65536 :=
    ⟨Nat.mod_lt _ (by norm_num), Nat.mod_lt _ (by norm_num)⟩
  obtain ⟨hsession, hsequence⟩ :=
    inspectionIdOf_inj (sessionAt_lt _ _) hmod.1 (sessionAt_lt _ _) hmod.2 h
  have hdiv := sessionAt_inj hp hq hsession
  omega

namespace InspectionStream

/-- The stream stands at this position. -/
structure At (st : InspectionStream) (first position : ℕ) : Prop where
  session : st.session = sessionAt first (position / 65536)
  sequence : st.sequence = position % 65536

theorem At.initial {st : InspectionStream} (h : st.sequence = 0) : st.At st.session 0 :=
  ⟨(sessionAt_zero st.session_pos st.session_lt).symm, h⟩

/-- A restart goes on at the first position of the next session. -/
theorem At.resume {st : InspectionStream} {first position : ℕ} (h : st.At first position) :
    st.resume.At first ((position / 65536 + 1) * 65536) := by
  constructor
  · show advanceSession st.session = _
    rw [h.session, advanceSession_sessionAt]
    congr 1
    omega
  · show 0 = _
    omega

/-- An inspection takes a later position, at most in the next session. -/
theorem At.next {st : InspectionStream} {first position : ℕ} (h : st.At first position) :
    ∃ next, position < next ∧
      st.nextSession = sessionAt first (next / 65536) ∧ st.nextSequence = next % 65536 ∧
      next / 65536 =
        position / 65536 + (if st.nextSession = st.session then 0 else 1) := by
  have hsequence := h.sequence
  have hle := st.sequence_le
  unfold nextSession nextSequence
  by_cases hfull : 65535 < st.sequence + 1
  · have hne : advanceSession st.session ≠ st.session := by
      have hlt := st.session_lt
      unfold advanceSession
      omega
    refine ⟨(position / 65536 + 1) * 65536 + 1, by omega, ?_, ?_, ?_⟩
    · rw [if_pos hfull, h.session, advanceSession_sessionAt]
      congr 1
      omega
    · rw [if_pos hfull]
      omega
    · rw [if_pos hfull, if_neg hne]
      omega
  · refine ⟨position + 1, by omega, ?_, ?_, ?_⟩
    · rw [if_neg hfull, h.session]
      congr 1
      omega
    · rw [if_neg hfull]
      omega
    · rw [if_neg hfull, if_pos rfl]
      omega

end InspectionStream

/-! ## What an observation does -/

/-- The milliseconds of a time are the ones its wire form comes back in.  This
fails for some times from the second `2 ^ 33` on, where doubles are more than a
microsecond apart. -/
def WireExact (now : AwareDatetime) : Prop :=
  0 ≤ timestampMs now → ∀ d, wireTime (timestampMs now).toNat = .ok d →
    millisOf d = timestampMs now

instance (now : AwareDatetime) : Decidable (WireExact now) :=
  match h : wireTime (timestampMs now).toNat with
  | .ok d => decidable_of_iff (0 ≤ timestampMs now → millisOf d = timestampMs now)
      (by simp [WireExact, h])
  | .error _ => isTrue (by simp [WireExact, h])

theorem wireExact_of_lt {now : AwareDatetime} (h : timestampMs now < 2 ^ 33 * 1000) :
    WireExact now := by
  intro h0 d hd
  have hlt : (timestampMs now).toNat < 2 ^ 33 * 1000 := by omega
  rw [wireTime_of_lt hlt] at hd
  cases hd
  unfold millisOf
  rw [AwareDatetime.instantMicros_ofMicros]
  omega

namespace InspectionStream

/-- An observation counts a bottle, or inspects it at a time the wire can
carry. -/
theorem observe_cases {st st' : InspectionStream} {bottleId : ℕ} {now : AwareDatetime}
    (h : st.observe bottleId now = .ok st') :
    st' = { st with bottles := st.bottles + 1 } ∨
      (st' = st.inspect bottleId (timestampMs now) ∧
        0 ≤ timestampMs now ∧ timestampMs now < 2 ^ 48) := by
  unfold observe at h
  split at h
  · cases h
  · split at h
    · cases h
      exact Or.inl rfl
    · split at h
      · cases h
      · next htime =>
          cases h
          exact Or.inr ⟨rfl, not_not.1 htime⟩

variable {st : InspectionStream} {bottleId : ℕ} {millis : ℤ} {event : BottleInspection}

/-- The event that the registers of an inspection are decoded to. -/
theorem decode_inspect (h0 : 0 ≤ millis) (hlt : millis < 2 ^ 48)
    (h : decodeInspection (st.inspect bottleId millis).registers = .ok (some event)) :
    event.inspectionId = inspectionIdOf st.nextSession st.nextSequence ∧
      wireTime millis.toNat = .ok event.inspectedAt := by
  obtain ⟨a, b, c, d, sequence, bottle, status, x, y, z, heq, hd⟩ := decode_eq_some h
  simp only [registers, inspect, sessionWords, timeWords, List.cons_append, List.nil_append,
    List.cons.injEq] at heq
  obtain ⟨rfl, rfl, rfl, rfl, rfl, rfl, rfl, rfl, rfl, rfl, -⟩ := heq
  constructor
  · rw [hd.inspectionId, join_sessionWords st.nextSession_lt]
  · rw [← hd.inspectedAt]
    congr 1
    omega

/-- An inspection whose time the wire keeps is written and read back as it
is. -/
theorem decode_encode_inspect {now : AwareDatetime} (hwire : WireExact now)
    (h0 : 0 ≤ timestampMs now) (hlt : timestampMs now < 2 ^ 48)
    (h : decodeInspection (st.inspect bottleId (timestampMs now)).registers =
      .ok (some event)) :
    decodeInspection (encodeInspection (some event)) = .ok (some event) := by
  have hmillis : millisOf event.inspectedAt = timestampMs now :=
    hwire h0 _ (decode_inspect h0 hlt h).2
  have hdrop : (st.inspect bottleId (timestampMs now)).registers.drop 7 =
      timeWords (timestampMs now) := rfl
  rw [encode_of_decode h hdrop hmillis]
  exact h

end InspectionStream

end EirvahEdge.Devices
