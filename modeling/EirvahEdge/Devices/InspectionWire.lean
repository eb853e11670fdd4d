import EirvahEdge.Contracts.Patterns
import EirvahEdge.Devices.InspectionStream

/-!
# Inspections between registers and JSON

An inspection is written into registers by the stream, read from them by the
adapter, sent on as JSON to its consumer, kept as JSON in the journal, and written
into registers again from there.  `decode_encode` and `encode_decode` are the two
round trips of the registers, `parse_of_same` is the one of the JSON, and
`decode_observe` says that the stream's own encoder writes what `encode_inspection`
would write.

The registers hold whole milliseconds, so the round trips are about such times, and
about the range in which `wireTime_of_lt` is exact.
-/

namespace EirvahEdge.Devices

open EirvahEdge.Lib
open EirvahEdge.Contracts

/-! ## Valid events -/

/-- `^[0-9a-f]{16}:[0-9a-f]{4}$`. -/
def isInspectionId (s : String) : Bool :=
  s.toList.length == 21 && s.toList[16]? == some ':' &&
    (s.toList.take 16).all Hex.isDigit && (s.toList.drop 17).all Hex.isDigit

/-- The field types of `BottleInspection` accept the event. -/
structure ValidInspection (event : BottleInspection) : Prop where
  inspectionId : isInspectionId event.inspectionId = true
  bottleId : 1 ≤ event.bottleId ∧ event.bottleId ≤ 65535

/-- `==` of two events: times are compared as instants. -/
structure SameInspection (event event' : BottleInspection) : Prop where
  inspectionId : event.inspectionId = event'.inspectionId
  bottleId : event.bottleId = event'.bottleId
  passed : event.passed = event'.passed
  inspectedAt : event.inspectedAt.instantMicros = event'.inspectedAt.instantMicros

/-- Sixteen digits, a colon and four digits. -/
theorem isInspectionId_iff {s : String} :
    isInspectionId s = true ↔ ∃ session sequence : List Char,
      s.toList = session ++ ':' :: sequence ∧
        (session.length = 16 ∧ ∀ c ∈ session, Hex.isDigit c = true) ∧
        (sequence.length = 4 ∧ ∀ c ∈ sequence, Hex.isDigit c = true) := by
  simp only [isInspectionId, Bool.and_eq_true, beq_iff_eq, List.all_eq_true]
  constructor
  · rintro ⟨⟨⟨hlength, hcolon⟩, hsession⟩, hsequence⟩
    have hlt : 16 < s.toList.length := by omega
    have hget : s.toList[16] = ':' := by
      rw [List.getElem?_eq_getElem hlt] at hcolon
      exact Option.some.inj hcolon
    have hsplit : s.toList = s.toList.take 16 ++ ':' :: s.toList.drop 17 := by
      rw [← hget, ← List.drop_eq_getElem_cons hlt, List.take_append_drop]
    refine ⟨_, _, hsplit, ⟨?_, hsession⟩, ?_, hsequence⟩
    · rw [List.length_take]
      omega
    · rw [List.length_drop]
      omega
  · rintro ⟨session, sequence, hsplit, ⟨hsixteen, hsession⟩, hfour, hsequence⟩
    have htake : (session ++ ':' :: sequence).take 16 = session := List.take_left' hsixteen
    have hdrop : (session ++ ':' :: sequence).drop 17 = sequence := by
      rw [List.drop_append, hsixteen, List.drop_eq_nil_of_le (by omega)]
      rfl
    have hget : (session ++ ':' :: sequence)[16]? = some ':' := by
      rw [List.getElem?_append_right (by omega), hsixteen]
      rfl
    simp only [hsplit, htake, hdrop, hget, List.length_append, List.length_cons, hsixteen, hfour]
    exact ⟨⟨⟨trivial, trivial⟩, hsession⟩, hsequence⟩

/-- The pattern of the field. -/
def inspectionIdRe : Pattern Char :=
  .whole [.times Hex.isDigit 16, .times (· == ':') 1, .times Hex.isDigit 4]

/-- `isInspectionId` is what the field accepts. -/
theorem isInspectionId_eq (s : String) :
    isInspectionId s = (StringConstraints.mk inspectionIdRe none none).accepts s := by
  rw [Bool.eq_iff_iff, inspectionIdRe, StringConstraints.accepts_whole, isInspectionId_iff]
  simp only [Pattern.Spells, Repeat.spells_times]
  constructor
  · rintro ⟨session, sequence, hsplit, hsession, hsequence⟩
    exact ⟨session, ':' :: sequence, hsplit, hsession, [':'], sequence, rfl, by simp,
      sequence, [], (List.append_nil _).symm, hsequence, rfl⟩
  · rintro ⟨session, _, hsplit, hsession, colon, _, rfl, ⟨hone, hcolon⟩, sequence, _, rfl,
      hsequence, rfl⟩
    obtain ⟨c, rfl⟩ := List.length_eq_one_iff.1 hone
    obtain rfl : c = ':' := by simpa using hcolon
    rw [List.append_nil] at hsplit
    exact ⟨session, sequence, hsplit, hsession, hsequence⟩

/-- An identity is the sixteen digits of a session, a colon and the four digits of a
sequence. -/
theorem inspectionIdOf_of_isInspectionId {s : String} (h : isInspectionId s = true) :
    ∃ session sequence, session < 2 ^ 64 ∧ sequence < 65536 ∧
      s = inspectionIdOf session sequence := by
  obtain ⟨session, sequence, hsplit, ⟨hsixteen, hsession⟩, hfour, hsequence⟩ :=
    isInspectionId_iff.1 h
  have hfirst := Hex.pad_parse hsession
  have hlast := Hex.pad_parse hsequence
  rw [hsixteen] at hfirst
  rw [hfour] at hlast
  refine ⟨_, _, by have := hfirst.2; omega, by have := hlast.2; omega, ?_⟩
  rw [inspectionIdOf, hfirst.1, hlast.1, ← hsplit, String.ofList_toList]

theorem isInspectionId_inspectionIdOf (session sequence : ℕ) :
    isInspectionId (inspectionIdOf session sequence) = true :=
  isInspectionId_iff.2 ⟨Hex.pad 16 session, Hex.pad 4 sequence, String.toList_ofList,
    ⟨Hex.length_pad 16 session, fun _ => Hex.isDigit_of_mem_pad⟩,
    Hex.length_pad 4 sequence, fun _ => Hex.isDigit_of_mem_pad⟩

/-! ## Registers -/

/-- Ten registers in range with a status, a session and a sequence are read as that
event. -/
theorem decode_words (passed : Bool) {session sequence bottleId millis : ℕ}
    {inspectedAt : AwareDatetime} (hs : 0 < session) (hs' : session < 2 ^ 64)
    (hq : 0 < sequence) (hq' : sequence ≤ 65535) (hb : 1 ≤ bottleId ∧ bottleId ≤ 65535)
    (hm : millis < 2 ^ 48) (htime : wireTime millis = .ok inspectedAt) :
    decodeInspection (sessionWords session ++
      [sequence, bottleId, if passed then 1 else 2] ++ timeWords millis) =
      .ok (some ⟨inspectionIdOf session sequence, bottleId, passed, inspectedAt⟩) := by
  have hword (n : ℕ) : n % 65536 ≤ 65535 := by omega
  have hstatus : (if passed then 1 else 2 : ℕ) = 1 ∨ (if passed then 1 else 2 : ℕ) = 2 := by
    cases passed <;> simp
  have htimes : timeWords millis =
      [millis / 2 ^ 32 % 65536, millis / 2 ^ 16 % 65536, millis % 65536] := by
    simp only [timeWords, List.cons.injEq, and_true]
    omega
  have hrange : ((sessionWords session ++ [sequence, bottleId, if passed then 1 else 2] ++
      timeWords millis).any (65535 < ·)) = false := by
    rw [htimes]
    simp only [sessionWords, List.cons_append, List.nil_append, List.any_cons, List.any_nil,
      Bool.or_eq_false_iff, decide_eq_false_iff_not, not_lt]
    exact ⟨hword _, hword _, hword _, hword _, hq', hb.2, by omega, hword _, hword _, hword _,
      trivial⟩
  have hmillis : millis / 2 ^ 32 % 65536 * 2 ^ 32 + millis / 2 ^ 16 % 65536 * 2 ^ 16 +
      millis % 65536 = millis := by
    omega
  unfold decodeInspection
  rw [hrange, htimes]
  simp only [sessionWords, List.cons_append, List.nil_append, Bool.false_eq_true, if_false,
    join_sessionWords hs', hmillis, htime]
  rw [if_neg (by omega), if_neg (by omega), if_neg (by omega)]
  cases passed <;> rfl

/-- **Event to registers and back.** -/
theorem decode_encode {event : BottleInspection} {millis : ℕ} (h : ValidInspection event)
    (hsession : sessionNumber event.inspectionId ≠ 0)
    (hsequence : sequenceNumber event.inspectionId ≠ 0)
    (hmillis : event.inspectedAt.instantMicros = millis * 1000) (hlt : millis < 2 ^ 33 * 1000) :
    decodeInspection (encodeInspection (some event)) = .ok (some
      { event with inspectedAt := .ofMicros event.inspectedAt.instantMicros }) := by
  obtain ⟨session, sequence, hs, hq, hid⟩ := inspectionIdOf_of_isInspectionId h.inspectionId
  have hmillisOf : millisOf event.inspectedAt = (millis : ℤ) := by
    unfold millisOf
    omega
  rw [hid, sessionNumber_inspectionIdOf hs] at hsession
  rw [hid, sequenceNumber_inspectionIdOf _ hq] at hsequence
  rw [encodeInspection, hmillisOf, hid, sessionNumber_inspectionIdOf hs,
    sequenceNumber_inspectionIdOf _ hq,
    decode_words event.passed (by omega) hs (by omega) (by omega)
      h.bottleId (by omega) (wireTime_of_lt hlt), hmillis]

/-- The milliseconds in the last three of ten registers. -/
def wireMillis (registers : List ℕ) : ℕ :=
  registers.getD 7 0 * 2 ^ 32 + registers.getD 8 0 * 2 ^ 16 + registers.getD 9 0

/-- **Registers to event and back.** -/
theorem encode_decode {registers : List ℕ} {event : BottleInspection}
    (h : decodeInspection registers = .ok (some event))
    (hlt : wireMillis registers < 2 ^ 33 * 1000) :
    encodeInspection (some event) = registers := by
  obtain ⟨a, b, c, d, sequence, bottle, status, x, y, z, hregisters, hd⟩ := decode_eq_some h
  have hwords : wireMillis registers = x * 2 ^ 32 + y * 2 ^ 16 + z := by
    rw [hregisters]
    rfl
  have htimes := hd.times
  have htime := hd.inspectedAt
  rw [hwords] at hlt
  rw [wireTime_of_lt hlt] at htime
  have hmillis : millisOf event.inspectedAt = ((x * 2 ^ 32 + y * 2 ^ 16 + z : ℕ) : ℤ) := by
    rw [← Except.ok.inj htime, millisOf, AwareDatetime.instantMicros_ofMicros]
    omega
  apply encode_of_decode h _ hmillis
  rw [hregisters, timeWords_join htimes.1 htimes.2.1 htimes.2.2]
  rfl

/-- An inspection at a time that can be read is read as an event of that bottle. -/
theorem decode_inspect_of_time (st : InspectionStream) {bottleId millis : ℕ}
    {inspectedAt : AwareDatetime} (hb : 1 ≤ bottleId ∧ bottleId ≤ 65535)
    (hm : millis < 2 ^ 48) (htime : wireTime millis = .ok inspectedAt) :
    ∃ event, decodeInspection (st.inspect bottleId millis).registers = .ok (some event) ∧
      event.bottleId = bottleId := by
  have hq : 0 < st.nextSequence := by
    unfold InspectionStream.nextSequence
    split <;> omega
  have hstatus : (if (st.inspected + 1) % st.failEveryNInspections = 0 then 2 else 1 : ℕ) =
      if !decide ((st.inspected + 1) % st.failEveryNInspections = 0) then 1 else 2 := by
    by_cases hfail : (st.inspected + 1) % st.failEveryNInspections = 0 <;> simp [hfail]
  have hregisters : (st.inspect bottleId millis).registers = sessionWords st.nextSession ++
      [st.nextSequence, bottleId,
        if !decide ((st.inspected + 1) % st.failEveryNInspections = 0) then 1 else 2] ++
      timeWords millis := by
    rw [← hstatus]
    rfl
  have hdecode := decode_words
    (!decide ((st.inspected + 1) % st.failEveryNInspections = 0)) st.nextSession_pos
    st.nextSession_lt hq st.nextSequence_le hb hm htime
  rw [← hregisters] at hdecode
  exact ⟨_, hdecode, rfl⟩

/-- The encoder of the stream writes what `encode_inspection` writes. -/
theorem decode_observe {st st' : InspectionStream} {bottleId : ℕ} {now : AwareDatetime}
    (h : st.observe bottleId now = .ok st') (hdue : (st.bottles + 1) % st.everyNBottles = 0)
    (hlt : timestampMs now < 2 ^ 33 * 1000) :
    ∃ event, decodeInspection st'.registers = .ok (some event) ∧ event.bottleId = bottleId ∧
      encodeInspection (some event) = st'.registers := by
  unfold InspectionStream.observe at h
  obtain ⟨hbottle, h⟩ := ite_error_eq_ok.1 h
  rw [if_neg (not_not.2 hdue)] at h
  obtain ⟨htime, h⟩ := ite_error_eq_ok.1 h
  obtain ⟨h0, -⟩ := not_not.1 htime
  obtain ⟨millis, hmillis⟩ := Int.eq_ofNat_of_zero_le h0
  have hsmall : millis < 2 ^ 33 * 1000 := by omega
  have hst' : st' = st.inspect bottleId millis := by
    rw [← hmillis]
    exact (Except.ok.inj h).symm
  obtain ⟨event, hdecode, hevent⟩ := decode_inspect_of_time st (not_not.1 hbottle)
    (show millis < 2 ^ 48 by omega) (wireTime_of_lt hsmall)
  rw [← hst'] at hdecode
  refine ⟨event, hdecode, hevent, encode_decode hdecode ?_⟩
  rw [hst']
  show ((millis : ℤ) / 2 ^ 32 % 65536).toNat * 2 ^ 32 +
    ((millis : ℤ) / 2 ^ 16 % 65536).toNat * 2 ^ 16 + ((millis : ℤ) % 65536).toNat < _
  omega

/-- A decoded bottle number is in range. -/
theorem bottleId_of_decode {registers : List ℕ} {event : BottleInspection}
    (h : decodeInspection registers = .ok (some event)) :
    1 ≤ event.bottleId ∧ event.bottleId ≤ 65535 := by
  unfold decodeInspection at h
  split at h
  · cases h
  · next hrange =>
      split at h
      · next a b c d sequence bottle status x y z =>
          have hwords : ∀ w ∈ [a, b, c, d, sequence, bottle, status, x, y, z], w ≤ 65535 := by
            simpa using hrange
          have hle : bottle ≤ 65535 := hwords bottle (by simp)
          dsimp only at h
          split at h
          · cases h
          · split at h
            · cases h
            · split at h
              · cases h
              · split at h
                · cases h
                · next hne =>
                    rw [← Option.some.inj (Except.ok.inj h)]
                    exact ⟨Nat.one_le_iff_ne_zero.2 hne, hle⟩
      · cases h

/-- What was decoded satisfies its model. -/
theorem valid_of_decode {registers : List ℕ} {event : BottleInspection}
    (h : decodeInspection registers = .ok (some event)) : ValidInspection event := by
  constructor
  · obtain ⟨a, b, c, d, sequence, bottle, status, x, y, z, -, hd⟩ := decode_eq_some h
    rw [hd.inspectionId]
    exact isInspectionId_inspectionIdOf _ _
  · exact bottleId_of_decode h

/-- A time off the wire lies between the epoch and the last of `datetime`. -/
theorem range_of_wireTime {millis : ℕ} {d : AwareDatetime} (h : wireTime millis = .ok d) :
    0 ≤ d.instantMicros ∧ d.instantMicros ≤ AwareDatetime.maxMicros := by
  unfold wireTime at h
  dsimp only at h
  split at h
  · next hmax =>
      have hseconds : (0 : ℚ) ≤ PyFloat.nearest ((millis : ℚ) / 1000) :=
        PyFloat.nearest_nonneg (by positivity)
      have hfraction : (0 : ℚ) ≤ PyFloat.nearest ((millis : ℚ) / 1000) -
          ⌊PyFloat.nearest ((millis : ℚ) / 1000)⌋ :=
        Int.fract_nonneg _
      have hfloor := Int.floor_nonneg.2 hseconds
      have hmicros := le_trans (Int.floor_nonneg.2 (PyFloat.nearest_nonneg
        (mul_nonneg hfraction (by norm_num : (0 : ℚ) ≤ 1000000))))
        (PyFloat.floor_le_roundHalfEven _)
      rw [← Except.ok.inj h, AwareDatetime.instantMicros_ofMicros]
      exact ⟨by omega, hmax⟩
  · cases h

/-- The time of a decoded event is in UTC already. -/
theorem astimezoneUtc_of_decode {registers : List ℕ} {event : BottleInspection}
    (h : decodeInspection registers = .ok (some event)) :
    event.inspectedAt.astimezoneUtc = .ok event.inspectedAt := by
  obtain ⟨a, b, c, d, sequence, bottle, status, x, y, z, -, hd⟩ := decode_eq_some h
  have hrange := range_of_wireTime hd.inspectedAt
  have hutc := utcoffset_of_wireTime hd.inspectedAt
  have hself : AwareDatetime.ofMicros event.inspectedAt.instantMicros = event.inspectedAt := by
    cases htime : event.inspectedAt with
    | mk localMicros utcoffset =>
        rw [htime] at hutc
        simp only at hutc
        simp [AwareDatetime.ofMicros, AwareDatetime.instantMicros, hutc]
  unfold AwareDatetime.astimezoneUtc
  rw [if_pos ⟨le_trans (by decide) hrange.1, hrange.2⟩, hself]

/-! ## JSON -/

variable (T : DatetimeText)

/-- `BottleInspection.model_dump(mode="json")`. -/
def dumpInspectionFields (event : BottleInspection) : List (String × Json) :=
  [("schema_version", .str "1.0"),
    ("inspection_id", .str event.inspectionId),
    ("bottle_id", .int event.bottleId),
    ("passed", .bool event.passed),
    ("inspected_at", .str (T.isoformat (.aware event.inspectedAt)))]

def dumpInspection (event : BottleInspection) : Json := .obj (dumpInspectionFields T event)

/-- `bottle_id: int = Field(strict=True, ge=1, le=65535)`. -/
def readBottleId (fields : List (String × Json)) : Except PyError ℕ := do
  let n ← Json.readStrictInt fields "bottle_id"
  if 1 ≤ n ∧ n ≤ 65535 then return n.toNat else throw (Json.validationError "bottle_id")

/-- `BottleInspection.model_validate`. -/
def parseInspection : Json → Except PyError BottleInspection
  | .obj fields => do
      Json.forbidExtra fields
        ["schema_version", "inspection_id", "bottle_id", "passed", "inspected_at"]
      Json.readVersion fields
      let inspectionId ← Json.readStrWith isInspectionId fields "inspection_id"
      let bottleId ← readBottleId fields
      let passed ← Json.readStrictBool fields "passed"
      let inspectedAt ← T.readAware fields "inspected_at"
      return ⟨inspectionId, bottleId, passed, inspectedAt⟩
  | _ => .error (Json.validationError "")

variable {T}

/-- **An event is read as it was written**, up to the spelling of its time. -/
theorem parseInspection_of_same (hT : T.KeepsInstants) {event : BottleInspection}
    (he : ValidInspection event) {j : Json} (hj : Json.Same j (dumpInspection T event)) :
    ∃ event', parseInspection T j = .ok event' ∧ SameInspection event event' := by
  obtain ⟨fs, rfl, hperm⟩ := Json.same_obj hj
  have hnodup : ((dumpInspectionFields T event).map Prod.fst).Nodup := by
    show ["schema_version", "inspection_id", "bottle_id", "passed", "inspected_at"].Nodup
    decide
  have readText {name s : String} (hmem : (name, Json.str s) ∈ dumpInspectionFields T event) :
      Json.member fs name = some (.str s) :=
    Json.member_str_of_same hperm hnodup hmem
  have hversion : Json.member fs "schema_version" = some (.str "1.0") :=
    readText (by simp [dumpInspectionFields])
  have hid : Json.member fs "inspection_id" = some (.str event.inspectionId) :=
    readText (by simp [dumpInspectionFields])
  have htime : Json.member fs "inspected_at" =
      some (.str (T.isoformat (.aware event.inspectedAt))) :=
    readText (by simp [dumpInspectionFields])
  have hbottle : Json.member fs "bottle_id" = some (.int event.bottleId) := by
    have hmem : ("bottle_id", .int event.bottleId) ∈ dumpInspectionFields T event := by
      simp [dumpInspectionFields]
    obtain ⟨w, hw, hsame⟩ := Json.member_of_same hperm hnodup hmem
    rw [hw, Json.same_int.1 hsame]
  have hpassed : Json.member fs "passed" = some (.bool event.passed) := by
    have hmem : ("passed", .bool event.passed) ∈ dumpInspectionFields T event := by
      simp [dumpInspectionFields]
    obtain ⟨w, hw, hsame⟩ := Json.member_of_same hperm hnodup hmem
    rw [hw, Json.same_bool.1 hsame]
  have hnames : Json.forbidExtra fs
      ["schema_version", "inspection_id", "bottle_id", "passed", "inspected_at"] = .ok () := by
    rw [Json.forbidExtra_eq_ok]
    exact fun k hk => (Json.names_perm hperm).mem_iff.1 hk
  obtain ⟨d, hd, hinstant⟩ := hT event.inspectedAt
  have hrange : (1 : ℤ) ≤ event.bottleId ∧ (event.bottleId : ℤ) ≤ 65535 := by
    have hbottleId := he.bottleId
    omega
  have hparse : parseInspection T (.obj fs) = .ok { event with inspectedAt := d } := by
    simp [parseInspection, hnames, Json.readVersion, hversion, readBottleId, Json.readStrictInt,
      hbottle, hrange, Json.readStrictBool, hpassed,
      Json.readStrWith_eq_ok.2 ⟨hid, he.inspectionId⟩, DatetimeText.readAware, htime, hd,
      bind, Except.bind, pure, Except.pure]
  exact ⟨_, hparse, ⟨rfl, rfl, rfl, hinstant.symm⟩⟩

/-! ## What depends on the instant only -/

theorem encode_of_same {event event' : BottleInspection} (h : SameInspection event event') :
    encodeInspection (some event) = encodeInspection (some event') := by
  simp only [encodeInspection, millisOf]
  rw [h.inspectionId, h.bottleId, h.passed, h.inspectedAt]

theorem inspectionDigest_of_same {δ τ : Type} (K : ReceiptCrypto δ τ)
    {event event' : BottleInspection} (h : SameInspection event event') :
    inspectionDigest K event = inspectionDigest K event' := by
  have htime : event.inspectedAt.astimezoneUtc = event'.inspectedAt.astimezoneUtc := by
    unfold AwareDatetime.astimezoneUtc
    rw [h.inspectedAt]
  unfold inspectionDigest
  rw [htime, h.inspectionId, h.bottleId, h.passed]

/-! ## The codec as a whole -/

/-- Events with a session, a sequence and a whole number of milliseconds below
`2 ^ 33` seconds come back from the registers, in UTC; registers that hold an event of
that range are the ones it is written to; what the stream shows after an inspection is
read as an event of that bottle, which after any passage through the JSON of the journal
is written to the same registers; and the adapter, who reads an event from registers,
and a consumer, who reads it from JSON in any spelling of its time, hash it to one
digest. -/
theorem inspection_codec {T : DatetimeText} (hT : T.KeepsInstants) :
    (∀ event (millis : ℕ), ValidInspection event → sessionNumber event.inspectionId ≠ 0 →
      sequenceNumber event.inspectionId ≠ 0 →
      event.inspectedAt.instantMicros = millis * 1000 → millis < 2 ^ 33 * 1000 →
      ∃ event', decodeInspection (encodeInspection (some event)) = .ok (some event') ∧
        SameInspection event event') ∧
    (∀ registers event, decodeInspection registers = .ok (some event) →
      wireMillis registers < 2 ^ 33 * 1000 → encodeInspection (some event) = registers) ∧
    (∀ st st' bottleId now, InspectionStream.observe st bottleId now = .ok st' →
      (st.bottles + 1) % st.everyNBottles = 0 → timestampMs now < 2 ^ 33 * 1000 →
      ∃ event, decodeInspection st'.registers = .ok (some event) ∧ event.bottleId = bottleId ∧
        ∀ j, Json.Same j (dumpInspection T event) → ∃ kept, parseInspection T j = .ok kept ∧
          encodeInspection (some kept) = st'.registers) ∧
    (∀ (δ τ : Type) (K : ReceiptCrypto δ τ) registers event spelled j,
      decodeInspection registers = .ok (some event) →
      spelled.instantMicros = event.inspectedAt.instantMicros →
      Json.Same j (dumpInspection T { event with inspectedAt := spelled }) →
      ∃ received digest, parseInspection T j = .ok received ∧
        inspectionDigest K event = .ok digest ∧ inspectionDigest K received = .ok digest) := by
  refine ⟨?_, ?_, ?_, ?_⟩
  · intro event millis hevent hsession hsequence hmillis hlt
    exact ⟨_, decode_encode hevent hsession hsequence hmillis hlt,
      ⟨rfl, rfl, rfl, (AwareDatetime.instantMicros_ofMicros _).symm⟩⟩
  · intro registers event h hlt
    exact encode_decode h hlt
  · intro st st' bottleId now h hdue hlt
    obtain ⟨event, hdecode, hbottle, hencode⟩ := decode_observe h hdue hlt
    refine ⟨event, hdecode, hbottle, fun j hj => ?_⟩
    obtain ⟨kept, hkept, hsame⟩ := parseInspection_of_same hT (valid_of_decode hdecode) hj
    exact ⟨kept, hkept, (encode_of_same hsame).symm.trans hencode⟩
  · intro δ τ K registers event spelled j h hspelled hj
    have hevent := valid_of_decode h
    have hvalid : ValidInspection { event with inspectedAt := spelled } :=
      ⟨hevent.inspectionId, hevent.bottleId⟩
    obtain ⟨received, hreceived, hsame⟩ := parseInspection_of_same hT hvalid hj
    have hsame' : SameInspection event received :=
      ⟨hsame.inspectionId, hsame.bottleId, hsame.passed, hspelled.symm.trans hsame.inspectedAt⟩
    have hdigest : inspectionDigest K event = .ok (K.sha256 event) := by
      rw [inspectionDigest, astimezoneUtc_of_decode h]
      rfl
    exact ⟨received, _, hreceived, hdigest,
      (inspectionDigest_of_same K hsame').symm.trans hdigest⟩

namespace Bottle7

/-! The fourth bottle of a stream, inspected at a quarter past a second. -/

def now : AwareDatetime := ⟨1782900000250000, 0⟩

def text : DatetimeText :=
  .ofTable [(now, "2026-07-01T10:00:00.250000Z"),
    (⟨1782907200250000, 7200⟩, "2026-07-01T12:00:00.250000+02:00")]

def stream : InspectionStream where
  session := 81985529216486895
  everyNBottles := 4
  failEveryNInspections := 5
  bottles := 3
  session_pos := by decide
  session_lt := by decide
  every_pos := by decide
  fail_pos := by decide
  sequence_le := zero_sequence_le

end Bottle7

/-- It is read as an event of bottle 7, and the text of that leads to the same
registers. -/
theorem inspection_codec_example : ∃ st', Bottle7.stream.observe 7 Bottle7.now = .ok st' ∧
    ∃ event kept, decodeInspection st'.registers = .ok (some event) ∧ event.bottleId = 7 ∧
      parseInspection Bottle7.text (dumpInspection Bottle7.text event) = .ok kept ∧
      encodeInspection (some kept) = st'.registers := by
  have hT : Bottle7.text.KeepsInstants :=
    DatetimeText.ofTable_keepsInstants (by decide +kernel) (by decide +kernel)
  have hms : timestampMs Bottle7.now < 2 ^ 33 * 1000 := by decide +kernel
  have hobserve : Bottle7.stream.observe 7 Bottle7.now =
      .ok (Bottle7.stream.inspect 7 (timestampMs Bottle7.now)) := by decide +kernel
  obtain ⟨event, hdecode, hbottle, hkept⟩ :=
    (inspection_codec hT).2.2.1 _ _ _ _ hobserve (by decide) hms
  obtain ⟨kept, hparse, hencode⟩ := hkept _ (Json.Same.refl _)
  exact ⟨_, hobserve, event, kept, hdecode, hbottle, hparse, hencode⟩

end EirvahEdge.Devices
