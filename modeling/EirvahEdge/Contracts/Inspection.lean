import EirvahEdge.Contracts.Authorization
import EirvahEdge.Lib.Hex

/-!
# Inspection events and receipts

One immutable result for one inspected bottle: as a value, as ten holding
registers, and the receipt by which its consumer confirms that it owns the
event.  The canonical JSON text of an event is determined by its members, so the
event itself stands for the text that is hashed and stored.

The registers keep the time in milliseconds, and `decode` goes through the
floating-point seconds of `datetime.fromtimestamp`.  `wireTime_of_lt` says how
long that is exact: up to the second `2 ^ 33`.
-/

namespace EirvahEdge.Contracts

open EirvahEdge.Lib

/-! ## Events -/

/-- `BottleInspection`. -/
structure BottleInspection where
  inspectionId : String
  bottleId : ℕ
  passed : Bool
  inspectedAt : AwareDatetime
deriving DecidableEq, Repr

/-- `f"{session:016x}:{sequence:04x}"`. -/
def inspectionIdOf (session sequence : ℕ) : String :=
  String.ofList (Hex.pad 16 session ++ ':' :: Hex.pad 4 sequence)

/-- `inspection_id.split(":")[0]`. -/
def sessionOf (inspectionId : String) : String :=
  String.ofList (inspectionId.toList.takeWhile (· ≠ ':'))

/-- The session an event belongs to. -/
def BottleInspection.session (event : BottleInspection) : String :=
  sessionOf event.inspectionId

/-- `int(epoch, 16)` and `int(seq, 16)` of the two halves of an id. -/
def sessionNumber (inspectionId : String) : ℕ :=
  Hex.parse (inspectionId.toList.takeWhile (· ≠ ':'))

def sequenceNumber (inspectionId : String) : ℕ :=
  Hex.parse ((inspectionId.toList.dropWhile (· ≠ ':')).drop 1)

/-! ## Registers -/

/-- `[(session >> shift) & 65535 for shift in (48, 32, 16, 0)]`. -/
def sessionWords (session : ℕ) : List ℕ :=
  [session / 2 ^ 48 % 65536, session / 2 ^ 32 % 65536, session / 2 ^ 16 % 65536,
    session % 65536]

/-- `[(millis >> shift) & 65535 for shift in (32, 16, 0)]`. -/
def timeWords (millis : ℤ) : List ℕ :=
  [(millis / 2 ^ 32 % 65536).toNat, (millis / 2 ^ 16 % 65536).toNat,
    (millis % 65536).toNat]

/-- `datetime.fromtimestamp(millis / 1000, UTC)`: a division and a
multiplication of doubles, then the nearest microsecond. -/
def wireTime (millis : ℕ) : Except PyError AwareDatetime :=
  let seconds := PyFloat.nearest (millis / 1000)
  let micros := PyFloat.roundHalfEven
    (PyFloat.nearest ((seconds - ⌊seconds⌋) * 1000000))
  let total := ⌊seconds⌋ * 1000000 + micros
  if total ≤ AwareDatetime.maxMicros then .ok (.ofMicros total)
  else .error (valueError "year is out of range")

/-- The time of an event in whole milliseconds, as `encode_inspection` takes it
apart. -/
def millisOf (d : AwareDatetime) : ℤ := d.instantMicros / 1000

/-- `encode_inspection`. -/
def encodeInspection : Option BottleInspection → List ℕ
  | none => List.replicate 10 0
  | some event =>
      sessionWords (sessionNumber event.inspectionId) ++
        [sequenceNumber event.inspectionId, event.bottleId, if event.passed then 1 else 2] ++
        timeWords (millisOf event.inspectedAt)

/-- `decode_inspection`. -/
def decodeInspection (registers : List ℕ) : Except PyError (Option BottleInspection) :=
  if registers.any (65535 < ·) then .error (valueError "invalid inspection snapshot")
  else
    match registers with
    | [a, b, c, d, sequence, bottle, status, x, y, z] =>
        let session := a * 2 ^ 48 + b * 2 ^ 32 + c * 2 ^ 16 + d
        if status = 0 then .ok none
        else if (status ≠ 1 ∧ status ≠ 2) ∨ session = 0 ∨ sequence = 0 then
          .error (valueError "invalid inspection identity/status")
        else
          match wireTime (x * 2 ^ 32 + y * 2 ^ 16 + z) with
          | .error e => .error e
          | .ok inspectedAt =>
              if bottle = 0 then .error (valueError "bottle_id")
              else
                .ok (some
                  { inspectionId := inspectionIdOf session sequence
                    bottleId := bottle
                    passed := status == 1
                    inspectedAt })
    | _ => .error (valueError "invalid inspection snapshot")

/-! ## Receipts -/

/-- What the signature of a receipt is over. -/
structure ReceiptBody (δ : Type) where
  inspectionId : String
  eventDigest : δ
  consumer : String
deriving DecidableEq, Repr

/-- `InspectionReceipt`. -/
structure InspectionReceipt (δ τ : Type) where
  body : ReceiptBody δ
  signature : τ
deriving DecidableEq, Repr

/-- SHA-256 of the canonical text of an event, and HMAC-SHA256 under a key of
the text of a receipt. -/
structure ReceiptCrypto (δ τ : Type) where
  sha256 : BottleInspection → δ
  hmacSha256 : String → ReceiptBody δ → τ

variable {δ τ : Type}

/-- `inspection_digest`: the hash with the time in UTC. -/
def inspectionDigest (K : ReceiptCrypto δ τ) (event : BottleInspection) :
    Except PyError δ :=
  event.inspectedAt.astimezoneUtc.map fun inspectedAt =>
    K.sha256 { event with inspectedAt }

/-- `sign_receipt` with its default consumer. -/
def signReceipt (K : ReceiptCrypto δ τ) (event : BottleInspection) (key : String) :
    Except PyError (InspectionReceipt δ τ) := do
  let key ← requireKey key
  let digest ← inspectionDigest K event
  let body : ReceiptBody δ := ⟨event.inspectionId, digest, "decision-agent-stub"⟩
  return ⟨body, K.hmacSha256 key body⟩

/-- `verify_receipt`. -/
def verifyReceipt [DecidableEq δ] [DecidableEq τ] (K : ReceiptCrypto δ τ)
    (receipt : InspectionReceipt δ τ) (event : BottleInspection) (key : String) :
    Except PyError Unit := do
  let expected ← signReceipt K event key
  if receipt ≠ expected then throw (valueError "invalid inspection receipt")

/-! ## Reading an identity back -/

/-- The digits before the colon. -/
theorem takeWhile_id (session sequence : ℕ) :
    (inspectionIdOf session sequence).toList.takeWhile (· ≠ ':') = Hex.pad 16 session := by
  have hall : ∀ c ∈ Hex.pad 16 session, decide (c ≠ ':') = true := by
    intro c hc
    exact decide_eq_true fun h => Hex.colon_notMem_pad 16 session (h ▸ hc)
  rw [inspectionIdOf, String.toList_ofList, List.takeWhile_append_of_pos hall]
  simp

/-- The digits behind it. -/
theorem dropWhile_id (session sequence : ℕ) :
    ((inspectionIdOf session sequence).toList.dropWhile (· ≠ ':')).drop 1 =
      Hex.pad 4 sequence := by
  have hall : ∀ c ∈ Hex.pad 16 session, decide (c ≠ ':') = true := by
    intro c hc
    exact decide_eq_true fun h => Hex.colon_notMem_pad 16 session (h ▸ hc)
  rw [inspectionIdOf, String.toList_ofList, List.dropWhile_append_of_pos hall]
  simp

theorem sessionNumber_inspectionIdOf {session : ℕ} (h : session < 2 ^ 64) (sequence : ℕ) :
    sessionNumber (inspectionIdOf session sequence) = session := by
  rw [sessionNumber, takeWhile_id]
  exact Hex.parse_pad (by omega)

theorem sequenceNumber_inspectionIdOf (session : ℕ) {sequence : ℕ} (h : sequence < 65536) :
    sequenceNumber (inspectionIdOf session sequence) = sequence := by
  rw [sequenceNumber, dropWhile_id]
  exact Hex.parse_pad (by omega)

/-- Different numbers, different identities. -/
theorem inspectionIdOf_inj {session sequence session' sequence' : ℕ}
    (hs : session < 2 ^ 64) (hq : sequence < 65536) (hs' : session' < 2 ^ 64)
    (hq' : sequence' < 65536)
    (h : inspectionIdOf session sequence = inspectionIdOf session' sequence') :
    session = session' ∧ sequence = sequence' := by
  constructor
  · rw [← sessionNumber_inspectionIdOf hs sequence, h, sessionNumber_inspectionIdOf hs']
  · rw [← sequenceNumber_inspectionIdOf session hq, h, sequenceNumber_inspectionIdOf _ hq']

/-! ## Registers there and back -/

/-- The four words of a session are its digits to the base `65536`. -/
theorem join_sessionWords {session : ℕ} (h : session < 2 ^ 64) :
    session / 2 ^ 48 % 65536 * 2 ^ 48 + session / 2 ^ 32 % 65536 * 2 ^ 32 +
      session / 2 ^ 16 % 65536 * 2 ^ 16 + session % 65536 = session := by
  omega

theorem sessionWords_join {a b c d : ℕ} (ha : a ≤ 65535) (hb : b ≤ 65535) (hc : c ≤ 65535)
    (hd : d ≤ 65535) :
    sessionWords (a * 2 ^ 48 + b * 2 ^ 32 + c * 2 ^ 16 + d) = [a, b, c, d] := by
  simp only [sessionWords, List.cons.injEq, and_true]
  omega

theorem timeWords_join {x y z : ℕ} (hx : x ≤ 65535) (hy : y ≤ 65535) (hz : z ≤ 65535) :
    timeWords ((x * 2 ^ 32 + y * 2 ^ 16 + z : ℕ) : ℤ) = [x, y, z] := by
  simp only [timeWords, List.cons.injEq, and_true]
  omega

/-- A time off the wire is in UTC. -/
theorem utcoffset_of_wireTime {millis : ℕ} {d : AwareDatetime}
    (h : wireTime millis = .ok d) : d.utcoffset = 0 := by
  unfold wireTime at h
  dsimp only at h
  split at h
  · cases h
    rfl
  · cases h

/-- The event that ten registers stand for, when they stand for one. -/
structure Decodes (a b c d sequence bottle status x y z : ℕ) (event : BottleInspection) :
    Prop where
  words : a ≤ 65535 ∧ b ≤ 65535 ∧ c ≤ 65535 ∧ d ≤ 65535
  sequence_le : sequence ≤ 65535
  times : x ≤ 65535 ∧ y ≤ 65535 ∧ z ≤ 65535
  session_pos : 0 < a * 2 ^ 48 + b * 2 ^ 32 + c * 2 ^ 16 + d
  sequence_pos : 0 < sequence
  inspectionId : event.inspectionId =
    inspectionIdOf (a * 2 ^ 48 + b * 2 ^ 32 + c * 2 ^ 16 + d) sequence
  bottleId : event.bottleId = bottle
  status : (if event.passed then 1 else 2) = status
  inspectedAt : wireTime (x * 2 ^ 32 + y * 2 ^ 16 + z) = .ok event.inspectedAt

theorem decode_eq_some {registers : List ℕ} {event : BottleInspection}
    (h : decodeInspection registers = .ok (some event)) :
    ∃ a b c d sequence bottle status x y z,
      registers = [a, b, c, d, sequence, bottle, status, x, y, z] ∧
        Decodes a b c d sequence bottle status x y z event := by
  unfold decodeInspection at h
  split at h
  · cases h
  · next hrange =>
      split at h
      · next a b c d sequence bottle status x y z =>
          refine ⟨a, b, c, d, sequence, bottle, status, x, y, z, rfl, ?_⟩
          have hwords : ∀ w ∈ [a, b, c, d, sequence, bottle, status, x, y, z], w ≤ 65535 := by
            simpa using hrange
          simp only [List.forall_mem_cons] at hwords
          obtain ⟨ha, hb, hc, hd, hq, -, -, hx, hy, hz, -⟩ := hwords
          dsimp only at h
          split at h
          · cases h
          · split at h
            · cases h
            · next hstatus hvalid =>
                split at h
                · cases h
                · next inspectedAt htime =>
                    split at h
                    · cases h
                    · have hevent := Option.some.inj (Except.ok.inj h)
                      have hone : status = 1 ∨ status = 2 := by omega
                      subst hevent
                      constructor
                      · exact ⟨ha, hb, hc, hd⟩
                      · exact hq
                      · exact ⟨hx, hy, hz⟩
                      · omega
                      · omega
                      · rfl
                      · rfl
                      · rcases hone with h1 | h2
                        · simp [h1]
                        · simp [h2]
                      · exact htime
      · cases h

/-- Ten zeros stand for no event. -/
theorem decode_encode_none : decodeInspection (encodeInspection none) = .ok none := rfl

/-- **Round trip.**  The registers an event was read from are the registers it
is written to, as long as its time stayed within its millisecond. -/
theorem encode_of_decode {registers : List ℕ} {event : BottleInspection} {millis : ℤ}
    (h : decodeInspection registers = .ok (some event))
    (hwire : registers.drop 7 = timeWords millis)
    (hmillis : millisOf event.inspectedAt = millis) :
    encodeInspection (some event) = registers := by
  obtain ⟨a, b, c, d, sequence, bottle, status, x, y, z, rfl, hd⟩ := decode_eq_some h
  have hsession : a * 2 ^ 48 + b * 2 ^ 32 + c * 2 ^ 16 + d < 2 ^ 64 := by
    have hwords := hd.words
    omega
  have hsequence : sequence < 65536 := Nat.lt_succ_of_le hd.sequence_le
  simp only [List.drop_succ_cons, List.drop_zero] at hwire
  rw [encodeInspection, hd.inspectionId, sessionNumber_inspectionIdOf hsession,
    sequenceNumber_inspectionIdOf _ hsequence,
    sessionWords_join hd.words.1 hd.words.2.1 hd.words.2.2.1 hd.words.2.2.2, hd.bottleId,
    hd.status, hmillis, ← hwire]
  rfl

/-- Whatever happens to the time, the identity comes back. -/
theorem inspectionId_of_encode {event copied : BottleInspection} {session sequence : ℕ}
    (hid : event.inspectionId = inspectionIdOf session sequence) (hs : session < 2 ^ 64)
    (hq : sequence < 65536)
    (h : decodeInspection (encodeInspection (some event)) = .ok (some copied)) :
    copied.inspectionId = event.inspectionId := by
  obtain ⟨a, b, c, d, sequence', bottle, status, x, y, z, heq, hd⟩ := decode_eq_some h
  rw [encodeInspection, hid, sessionNumber_inspectionIdOf hs,
    sequenceNumber_inspectionIdOf _ hq] at heq
  simp only [sessionWords, timeWords, List.cons_append, List.nil_append,
    List.cons.injEq] at heq
  obtain ⟨rfl, rfl, rfl, rfl, rfl, -⟩ := heq
  rw [hd.inspectionId, join_sessionWords hs, hid]

/-! ## How long the time is exact -/

/-- Below the second `2 ^ 33` the double next to `millis / 1000` is less than half
a microsecond away, and its whole part is the second. -/
theorem seconds_of_lt {second milli : ℕ} (hs : second < 2 ^ 33) (hm : milli < 1000) :
    |PyFloat.nearest (second + milli / 1000) - (second + milli / 1000)| ≤ 2 ^ (-21 : ℤ) ∧
      ⌊PyFloat.nearest (second + milli / 1000)⌋ = second := by
  have hs' : (second : ℚ) + 1 ≤ 2 ^ 33 := by exact_mod_cast hs
  have hm' : (milli : ℚ) + 1 ≤ 1000 := by exact_mod_cast hm
  have hs0 : (0 : ℚ) ≤ second := Nat.cast_nonneg _
  have hm0 : (0 : ℚ) ≤ milli := Nat.cast_nonneg _
  have hulp : PyFloat.ulp (second + milli / 1000) ≤ 2 ^ ((33 : ℤ) - 53) := by
    apply PyFloat.ulp_le_of_abs_lt (by norm_num)
    rw [abs_of_nonneg (by positivity)]
    norm_num at hs' ⊢
    linarith
  have hnear : |PyFloat.nearest (second + milli / 1000) - (second + milli / 1000)| ≤
      2 ^ (-21 : ℤ) := by
    have hhalf := PyFloat.abs_nearest_sub_le ((second : ℚ) + milli / 1000)
    norm_num at hulp ⊢
    linarith
  have hlow : (second : ℚ) ≤ PyFloat.nearest (second + milli / 1000) := by
    have hint : PyFloat.nearest ((second : ℤ) : ℚ) = ((second : ℤ) : ℚ) := by
      apply PyFloat.nearest_intCast
      rw [abs_of_nonneg (by omega)]
      omega
    have hmono := PyFloat.nearest_mono
      (show ((second : ℤ) : ℚ) ≤ second + milli / 1000 by push_cast; linarith)
    rw [hint] at hmono
    exact_mod_cast hmono
  have hup : PyFloat.nearest (second + milli / 1000) < second + 1 := by
    have hle := (abs_le.1 hnear).2
    norm_num at hle
    linarith
  refine ⟨hnear, Int.floor_eq_iff.2 ⟨?_, ?_⟩⟩
  · exact_mod_cast hlow
  · exact_mod_cast hup

/-- So do the microseconds of the fraction. -/
theorem micros_of_near {f : ℚ} {milli : ℕ} (hm : milli < 1000) (h0 : 0 ≤ f) (h1 : f < 1)
    (hnear : |f - milli / 1000| ≤ 2 ^ (-21 : ℤ)) :
    PyFloat.roundHalfEven (PyFloat.nearest (f * 1000000)) = 1000 * milli := by
  have hm' : (milli : ℚ) + 1 ≤ 1000 := by exact_mod_cast hm
  have hulp : PyFloat.ulp (f * 1000000) ≤ 2 ^ ((20 : ℤ) - 53) := by
    apply PyFloat.ulp_le_of_abs_lt (by norm_num)
    rw [abs_of_nonneg (by linarith)]
    norm_num
    linarith
  have hscaled := PyFloat.abs_nearest_sub_le (f * 1000000)
  apply PyFloat.roundHalfEven_eq_of_abs_lt
  rw [abs_le] at hnear hscaled
  norm_num at hnear hulp
  rw [abs_lt]
  push_cast
  constructor <;> linarith

/-- **The wire keeps the time up to the second `2 ^ 33`.**  A whole number of
milliseconds comes back as that instant. -/
theorem wireTime_of_lt {millis : ℕ} (h : millis < 2 ^ 33 * 1000) :
    wireTime millis = .ok (.ofMicros (millis * 1000)) := by
  obtain ⟨second, milli, hm, rfl⟩ : ∃ second milli, milli < 1000 ∧
      millis = 1000 * second + milli :=
    ⟨millis / 1000, millis % 1000, Nat.mod_lt _ (by norm_num), (Nat.div_add_mod _ _).symm⟩
  have hsplit : ((1000 * second + milli : ℕ) : ℚ) / 1000 = second + milli / 1000 := by
    push_cast
    ring
  have hs : second < 2 ^ 33 := by omega
  obtain ⟨hnear, hfloor⟩ := seconds_of_lt hs hm
  have hlow := Int.floor_le (PyFloat.nearest ((second : ℚ) + milli / 1000))
  have hlt := Int.lt_floor_add_one (PyFloat.nearest ((second : ℚ) + milli / 1000))
  have hmicros : PyFloat.roundHalfEven (PyFloat.nearest
      ((PyFloat.nearest (second + milli / 1000) - ((second : ℤ) : ℚ)) * 1000000)) =
      1000 * milli := by
    rw [hfloor] at hlow hlt
    apply micros_of_near hm (by linarith) (by linarith)
    rw [Int.cast_natCast, sub_sub]
    exact hnear
  have htotal : (second : ℤ) * 1000000 + 1000 * milli =
      ((1000 * second + milli : ℕ) : ℤ) * 1000 := by
    omega
  have hmax : ((1000 * second + milli : ℕ) : ℤ) * 1000 ≤ AwareDatetime.maxMicros := by
    unfold AwareDatetime.maxMicros
    omega
  unfold wireTime
  dsimp only
  rw [hsplit, hfloor, hmicros, htotal, if_pos hmax]

/-! ## What a valid receipt says -/

/-- An event off the wire is in UTC. -/
theorem utcoffset_of_decode {registers : List ℕ} {event : BottleInspection}
    (h : decodeInspection registers = .ok (some event)) : event.inspectedAt.utcoffset = 0 := by
  obtain ⟨a, b, c, d, sequence, bottle, status, x, y, z, -, hd⟩ := decode_eq_some h
  exact utcoffset_of_wireTime hd.inspectedAt

section Receipts

variable {K : ReceiptCrypto δ τ} {event event' : BottleInspection}
  {receipt receipt' : InspectionReceipt δ τ} {key : String}

/-- Moving a UTC time to UTC leaves it as it is, so the digest is the one of the
event. -/
theorem inspectionDigest_eq_ok (hutc : event.inspectedAt.utcoffset = 0) {digest : δ}
    (h : inspectionDigest K event = .ok digest) : digest = K.sha256 event := by
  obtain ⟨inspectedAt, htime, rfl⟩ := map_eq_ok.1 h
  have hsame : inspectedAt = event.inspectedAt := by
    rw [AwareDatetime.astimezoneUtc_eq_ok htime, AwareDatetime.ofMicros,
      AwareDatetime.instantMicros, hutc]
    cases event with
    | mk inspectionId bottleId passed time =>
        cases time with
        | mk localMicros utcoffset =>
            simp only at hutc
            simp [hutc]
  rw [hsame]

/-- A receipt names the event by its identity and digest and carries the signature
of that. -/
theorem signReceipt_eq_ok (hutc : event.inspectedAt.utcoffset = 0)
    (h : signReceipt K event key = .ok receipt) :
    receipt.body = ⟨event.inspectionId, K.sha256 event, "decision-agent-stub"⟩ ∧
      receipt.signature = K.hmacSha256 key receipt.body := by
  obtain ⟨key', hkey, h⟩ := bind_eq_ok.1 h
  obtain ⟨digest, hdigest, h⟩ := bind_eq_ok.1 h
  have hreceipt := (Except.ok.inj h).symm
  rw [hreceipt, requireKey_eq_ok hkey, inspectionDigest_eq_ok hutc hdigest]
  exact ⟨rfl, rfl⟩

/-- Only the receipt the agent would sign passes. -/
theorem verifyReceipt_eq_ok [DecidableEq δ] [DecidableEq τ]
    (h : verifyReceipt K receipt event key = .ok ()) :
    signReceipt K event key = .ok receipt := by
  obtain ⟨expected, hexpected, h⟩ := bind_eq_ok.1 h
  have hsame : receipt = expected := by
    by_contra hne
    rw [if_pos hne] at h
    cases h
  rw [hsame, hexpected]

/-- Under one signed text there is one event. -/
theorem event_of_body (hinj : Function.Injective K.sha256)
    (hutc : event.inspectedAt.utcoffset = 0) (hutc' : event'.inspectedAt.utcoffset = 0)
    (h : signReceipt K event key = .ok receipt) (h' : signReceipt K event' key = .ok receipt')
    (hbody : receipt.body = receipt'.body) : event = event' := by
  rw [(signReceipt_eq_ok hutc h).1, (signReceipt_eq_ok hutc' h').1] at hbody
  exact hinj (ReceiptBody.mk.inj hbody).2.1

end Receipts

end EirvahEdge.Contracts
