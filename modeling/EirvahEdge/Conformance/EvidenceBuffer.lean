import EirvahEdge.Conformance.Clocks
import EirvahEdge.Contracts.Python
import Mathlib.Data.List.DropRight
import Mathlib.Data.List.Perm.Subperm

/-!
# The buffer of execution records

`EvidenceBuffer` numbers the records of a process, writes those within its capacity to a
journal, notes the last number in a checkpoint file and keeps the latest in memory.  A
snapshot says whether the records it carries are all there are after a cursor.

A call first takes its number and only then does what can fail: printing the record,
writing it, writing the checkpoint.  A call that raises has spent a number, and neither the
buffer nor a later snapshot knows.  The copy that `append` hands out is made after the record
is kept, so what became of it does not matter here.  `records_of_run` says which records are kept;
`complete_iff_all_succeeded` that a snapshot which is reported complete is so exactly when
no call after the cursor raised.
-/

namespace EirvahEdge.Conformance

open EirvahEdge.Lib
open EirvahEdge.Contracts

/-! ## The last elements of a list -/

section RTake

variable {α : Type} {n : ℕ} {xs ys : List α}

theorem length_rtake_le : (xs.rtake n).length ≤ n := by
  rw [List.rtake, List.length_drop]
  omega

theorem rtake_of_length_le (h : xs.length ≤ n) : xs.rtake n = xs := by
  rw [List.rtake, Nat.sub_eq_zero_of_le h, List.drop_zero]

/-- What was dropped once is never asked for again. -/
theorem rtake_rtake_append : (xs.rtake n ++ ys).rtake n = (xs ++ ys).rtake n := by
  have hle : xs.length - n ≤ xs.length := Nat.sub_le _ _
  have happ : xs.rtake n ++ ys = (xs ++ ys).drop (xs.length - n) := by
    rw [List.rtake, List.drop_append_of_le_length hle]
  rw [happ, List.rtake, List.rtake, List.drop_drop, List.length_drop, List.length_append]
  congr 1
  omega

theorem rtake_eq_nil (hn : 0 < n) (h : xs.rtake n = []) : xs = [] := by
  rw [List.rtake, List.drop_eq_nil_iff] at h
  exact List.eq_nil_of_length_eq_zero (by omega)

end RTake

/-! ## Records -/

/-- A member of a record: its name, and what `json.dumps(default=str)` has for its value, or what
it raises on the name or the value.  A number that is not finite is a value here. -/
abbrev Member := String × Except PyError Json

/-- `json.loads(json.dumps(members, default=str, allow_nan=False))`: the first member that has
no text raises. -/
def printed : List Member → Except PyError (List (String × Json))
  | [] => .ok []
  | (_, .error e) :: _ => .error e
  | (name, .ok value) :: rest =>
      if !value.allFinite then
        .error (valueError "Out of range float values are not JSON compliant")
      else
        match printed rest with
        | .error e => .error e
        | .ok fields => .ok ((name, value) :: fields)

/-- `{**record, "record_seq": seq}`. -/
def withSeq (record : List Member) (seq : ℕ) : List Member :=
  record.filter (fun f => f.1 != "record_seq") ++ [("record_seq", .ok (.int seq))]

/-- The last member is there once all are printed, when no other has its name. -/
theorem member_printed {members : List Member} {name : String} {value : Json}
    {fields : List (String × Json)} (hnames : ∀ f ∈ members, f.1 ≠ name)
    (h : printed (members ++ [(name, .ok value)]) = .ok fields) :
    Json.member fields name = some value := by
  induction members generalizing fields with
  | nil =>
      rw [List.nil_append, printed] at h
      split at h
      · cases h
      · obtain rfl := Except.ok.inj h
        simp [Json.member]
  | cons f members ih =>
      obtain ⟨name', outcome⟩ := f
      have hne : name' ≠ name := hnames _ List.mem_cons_self
      cases outcome with
      | error e => cases h
      | ok value' =>
          rw [List.cons_append, printed] at h
          split at h
          · cases h
          · split at h
            · cases h
            · next rest hrest =>
                obtain rfl := Except.ok.inj h
                have hmember := ih (fun f hf => hnames f (List.mem_cons_of_mem _ hf)) hrest
                rw [Json.member] at hmember ⊢
                rw [List.find?_cons_of_neg (by simpa using hne)]
                exact hmember

/-- A record as it is stored, with its number. -/
structure StoredRecord where
  fields : List (String × Json)
  recordSeq : ℕ
  seq_eq : Json.member fields "record_seq" = some (.int recordSeq)
deriving DecidableEq, Repr

/-- The record that is stored, unless one of its members raises. -/
def storedOf (record : List Member) (seq : ℕ) : Except PyError StoredRecord :=
  match h : printed (withSeq record seq) with
  | .error e => .error e
  | .ok fields => .ok ⟨fields, seq, member_printed (by simp) h⟩

/-- A number of the record's own is overridden, whatever it is. -/
example : (storedOf [("record_seq", .ok (.float .nan))] 1).isOk = true := by decide

theorem recordSeq_of_storedOf {record : List Member} {seq : ℕ} {stored : StoredRecord}
    (h : storedOf record seq = .ok stored) : stored.recordSeq = seq := by
  unfold storedOf at h
  split at h
  · cases h
  · obtain rfl := Except.ok.inj h
    rfl

/-- How the disk takes what one call writes. -/
structure Disk where
  journal : Except PyError Unit := .ok ()
  /-- A line whose write raised may be in the file nevertheless. -/
  written : Bool := false
  checkpoint : Except PyError Unit := .ok ()

/-- The disk raises on what the call with this number writes. -/
def Disk.raises (disk : Disk) (capacity : ℕ) (journalled : Bool) (number : ℕ) : Bool :=
  journalled && (decide (number ≤ capacity) && !disk.journal.isOk || !disk.checkpoint.isOk)

/-- A call of `append`. -/
structure AppendCall where
  record : List Member
  disk : Disk := {}

/-- A call raises on a member that JSON has no text for, or where the disk does. -/
def AppendCall.raises (call : AppendCall) (capacity : ℕ) (journalled : Bool) (number : ℕ) : Bool :=
  !(storedOf call.record number).isOk || call.disk.raises capacity journalled number

/-- The record that a call leaves, unless it raises. -/
def AppendCall.left (call : AppendCall) (capacity : ℕ) (journalled : Bool) (number : ℕ) :
    Option StoredRecord :=
  if call.raises capacity journalled number then none else (storedOf call.record number).toOption

theorem AppendCall.left_eq_some_iff {call : AppendCall} {capacity : ℕ} {journalled : Bool}
    {number : ℕ} : (∃ stored, call.left capacity journalled number = some stored ∧
      stored.recordSeq = number) ↔ call.raises capacity journalled number = false := by
  constructor
  · rintro ⟨stored, h, -⟩
    rw [left] at h
    split at h
    · cases h
    · next hraises => simpa using hraises
  · intro hraises
    rw [left, hraises, if_neg Bool.false_ne_true]
    rw [raises, Bool.or_eq_false_iff, Bool.not_eq_false'] at hraises
    cases hstored : storedOf call.record number with
    | error e => simp [hstored, Except.isOk, Except.toBool] at hraises
    | ok stored => exact ⟨stored, rfl, recordSeq_of_storedOf hstored⟩

/-- What is in `current.json`. -/
structure Checkpoint where
  recordSeq : ℕ
  capacity : ℕ
  overflow : Bool
deriving DecidableEq, Repr

/-- `EvidenceBuffer`. -/
structure EvidenceBuffer where
  capacity : ℕ
  capacity_pos : 0 < capacity
  /-- There is a directory. -/
  journalled : Bool
  seq : ℕ := 0
  /-- The records in memory, oldest first. -/
  records : List StoredRecord := []
  retained : records.length ≤ capacity := by simp
  /-- The lines of the journal. -/
  journal : List StoredRecord := []
  checkpoint : Option Checkpoint := none

namespace EvidenceBuffer

/-- `_checkpoint`. -/
def writeCheckpoint (b : EvidenceBuffer) (disk : Disk) : EvidenceBuffer × Except PyError Unit :=
  match disk.checkpoint with
  | .error e => (b, .error e)
  | .ok () =>
      ({ b with checkpoint := some ⟨b.seq, b.capacity, decide (b.capacity < b.seq)⟩ }, .ok ())

/-- The line in the journal, as long as the capacity is not used up. -/
def writeJournal (b : EvidenceBuffer) (stored : StoredRecord) (disk : Disk) :
    EvidenceBuffer × Except PyError Unit :=
  if b.capacity < b.seq then (b, .ok ())
  else
    match disk.journal with
    | .error e =>
        ({ b with journal := if disk.written then b.journal ++ [stored] else b.journal }, .error e)
    | .ok () => ({ b with journal := b.journal ++ [stored] }, .ok ())

/-- What is written to disk, if there is a directory. -/
def write (b : EvidenceBuffer) (stored : StoredRecord) (disk : Disk) :
    EvidenceBuffer × Except PyError Unit :=
  if b.journalled then
    match b.writeJournal stored disk with
    | (b, .error e) => (b, .error e)
    | (b, .ok ()) => b.writeCheckpoint disk
  else (b, .ok ())

/-- `self._records.append(stored)`. -/
def push (b : EvidenceBuffer) (stored : StoredRecord) : EvidenceBuffer :=
  { b with
    records := (b.records ++ [stored]).rtake b.capacity
    retained := length_rtake_le }

/-- `self._seq += 1`. -/
def next (b : EvidenceBuffer) : EvidenceBuffer := { b with seq := b.seq + 1 }

@[simp] theorem next_seq (b : EvidenceBuffer) : b.next.seq = b.seq + 1 := rfl
@[simp] theorem next_capacity (b : EvidenceBuffer) : b.next.capacity = b.capacity := rfl
@[simp] theorem next_journalled (b : EvidenceBuffer) : b.next.journalled = b.journalled := rfl
@[simp] theorem next_records (b : EvidenceBuffer) : b.next.records = b.records := rfl

/-- `append`: the number is taken before anything can raise. -/
def append (b : EvidenceBuffer) (call : AppendCall) :
    EvidenceBuffer × Except PyError StoredRecord :=
  let b := b.next
  match storedOf call.record b.seq with
  | .error e => (b, .error e)
  | .ok stored =>
      match b.write stored call.disk with
      | (b, .error e) => (b, .error e)
      | (b, .ok ()) => (b.push stored, .ok stored)

/-- A sequence of calls, whatever each of them raises. -/
def run (b : EvidenceBuffer) (calls : List AppendCall) : EvidenceBuffer :=
  calls.foldl (fun b call => (b.append call).1) b

/-- `EvidenceBuffer(capacity, directory)`; with a directory the first checkpoint is written
at once. -/
def create (capacity : ℤ) (journalled : Bool) (disk : Disk) : Except PyError EvidenceBuffer :=
  if h : 1 ≤ capacity then
    let b : EvidenceBuffer := { capacity := capacity.toNat, capacity_pos := by omega, journalled }
    if journalled then
      match b.writeCheckpoint disk with
      | (_, .error e) => .error e
      | (b, .ok ()) => .ok b
    else .ok b
  else .error (valueError "capacity must be positive")

/-- What `snapshot` returns. -/
structure Snapshot where
  recordSeq : ℕ
  firstAvailableSeq : ℕ
  complete : Bool
  clock : ClockReading
  records : List StoredRecord

/-- The least number that is in memory. -/
def firstAvailable (b : EvidenceBuffer) : ℕ :=
  match b.records with
  | [] => b.seq + 1
  | r :: _ => r.recordSeq

/-- `snapshot`, at a reading of the clocks. -/
def snapshot (b : EvidenceBuffer) (after : ℤ) (clock : ClockReading) : Except PyError Snapshot :=
  if after < 0 then .error (valueError "negative cursor")
  else
    .ok
      { recordSeq := b.seq
        firstAvailableSeq := b.firstAvailable
        complete := decide ((b.firstAvailable : ℤ) - 1 ≤ after ∧ after ≤ b.seq) &&
          !(b.journalled && decide (b.capacity < b.seq))
        clock
        records := b.records.filter fun r => after < r.recordSeq }

/-! ## One call -/

/-- What writing to disk leaves alone, and when it raises. -/
theorem write_spec (b : EvidenceBuffer) (stored : StoredRecord) (disk : Disk) :
    let out := b.write stored disk
    out.1.capacity = b.capacity ∧ out.1.journalled = b.journalled ∧ out.1.seq = b.seq ∧
      out.1.records = b.records ∧ out.2.isOk = !disk.raises b.capacity b.journalled b.seq := by
  unfold write writeJournal writeCheckpoint Disk.raises
  cases hj : b.journalled with
  | false => exact ⟨rfl, hj, rfl, rfl, rfl⟩
  | true =>
      by_cases hseq : b.capacity < b.seq
      · have hnot : ¬b.seq ≤ b.capacity := Nat.not_le.2 hseq
        cases hc : disk.checkpoint <;> simp [hseq, hnot, hj, Except.isOk, Except.toBool]
      · have hle : b.seq ≤ b.capacity := Nat.not_lt.1 hseq
        cases hw : disk.journal <;> cases hc : disk.checkpoint <;>
          simp [hseq, hle, Except.isOk, Except.toBool]

/-- A call takes a number in any case; its record is kept exactly when it does not raise. -/
theorem append_spec (b : EvidenceBuffer) (call : AppendCall) :
    let out := b.append call
    out.1.capacity = b.capacity ∧ out.1.journalled = b.journalled ∧ out.1.seq = b.seq + 1 ∧
      out.1.records =
        (b.records ++ (call.left b.capacity b.journalled (b.seq + 1)).toList).rtake b.capacity ∧
      out.2.isOk = !call.raises b.capacity b.journalled (b.seq + 1) := by
  have hsame : (b.records ++ []).rtake b.capacity = b.records := by
    rw [List.append_nil, rtake_of_length_le b.retained]
  unfold append AppendCall.left AppendCall.raises
  cases hstored : storedOf call.record (b.seq + 1) with
  | error e =>
      simp only [next_seq, hstored]
      exact ⟨rfl, rfl, trivial, hsame.symm, rfl⟩
  | ok stored =>
      have hspec := write_spec b.next stored call.disk
      rcases hw : b.next.write stored call.disk with ⟨b', _ | _⟩
      · rw [hw] at hspec
        obtain ⟨hcap, hjour, hseq, hrec, hok⟩ : b'.capacity = b.capacity ∧
            b'.journalled = b.journalled ∧ b'.seq = b.seq + 1 ∧ b'.records = b.records ∧
            false = !call.disk.raises b.capacity b.journalled (b.seq + 1) := hspec
        have hraises : call.disk.raises b.capacity b.journalled (b.seq + 1) = true := by
          simpa using hok.symm
        simp only [next_seq, hstored, hw, hraises, Bool.or_true, if_true]
        exact ⟨hcap, hjour, hseq, hrec.trans hsame.symm, rfl⟩
      · rw [hw] at hspec
        obtain ⟨hcap, hjour, hseq, hrec, hok⟩ : b'.capacity = b.capacity ∧
            b'.journalled = b.journalled ∧ b'.seq = b.seq + 1 ∧ b'.records = b.records ∧
            true = !call.disk.raises b.capacity b.journalled (b.seq + 1) := hspec
        have hraises : call.disk.raises b.capacity b.journalled (b.seq + 1) = false := by
          simpa using hok.symm
        have hpush : (b'.push stored).records =
            (b.records ++ [stored]).rtake b.capacity := by
          rw [← hcap, ← hrec]
          rfl
        simp only [next_seq, hstored, hw, hraises]
        exact ⟨hcap, hjour, hseq, hpush, rfl⟩

/-! ## A run of calls -/

/-- The records of the calls that do not raise, when the first one takes the number after
`seq`. -/
def kept (capacity : ℕ) (journalled : Bool) : ℕ → List AppendCall → List StoredRecord
  | _, [] => []
  | seq, call :: calls =>
      (call.left capacity journalled (seq + 1)).toList ++ kept capacity journalled (seq + 1) calls

/-- Every call has taken its number, and the latest of the records that were kept are in
memory. -/
theorem records_of_run (b : EvidenceBuffer) (calls : List AppendCall) :
    let out := b.run calls
    out.capacity = b.capacity ∧ out.journalled = b.journalled ∧
      out.seq = b.seq + calls.length ∧
      out.records = (b.records ++ kept b.capacity b.journalled b.seq calls).rtake b.capacity := by
  induction calls generalizing b with
  | nil =>
      refine ⟨rfl, rfl, rfl, ?_⟩
      rw [kept, List.append_nil, rtake_of_length_le b.retained]
      rfl
  | cons call calls ih =>
      obtain ⟨hcap, hjour, hseq, hrec, -⟩ := b.append_spec call
      obtain ⟨ihcap, ihjour, ihseq, ihrec⟩ := ih (b.append call).1
      refine ⟨ihcap.trans hcap, ihjour.trans hjour, ?_, ?_⟩
      · rw [List.length_cons, ← Nat.add_assoc, Nat.add_right_comm, ← hseq]
        exact ihseq
      · change ((b.append call).1.run calls).records = _
        rw [ihrec, hcap, hjour, hseq, hrec, kept, rtake_rtake_append, List.append_assoc]

section Kept

variable {capacity : ℕ} {journalled : Bool} {seq : ℕ} {calls : List AppendCall}

/-- A call leaves a record of its own number, or none. -/
theorem left_numbers (call : AppendCall) (number : ℕ) :
    (call.left capacity journalled number).toList.map StoredRecord.recordSeq =
      if call.raises capacity journalled number then [] else [number] := by
  cases hraises : call.raises capacity journalled number with
  | true => simp [AppendCall.left, hraises]
  | false =>
      obtain ⟨stored, hleft, hseq⟩ := AppendCall.left_eq_some_iff.2 hraises
      simp [hleft, hseq]

/-- The numbers of the kept records are among those that were taken, in their order. -/
theorem kept_sublist (seq : ℕ) (calls : List AppendCall) :
    ((kept capacity journalled seq calls).map StoredRecord.recordSeq).Sublist
      (List.range' (seq + 1) calls.length) := by
  induction calls generalizing seq with
  | nil => exact List.Sublist.refl _
  | cons call calls ih =>
      rw [kept, List.length_cons, List.range'_succ, List.map_append, left_numbers]
      split
      · exact (ih (seq + 1)).cons _
      · exact (ih (seq + 1)).cons_cons _

theorem mem_kept {i : ℕ} (h : i < calls.length) :
    seq + 1 + i ∈ (kept capacity journalled seq calls).map StoredRecord.recordSeq ↔
      calls[i].raises capacity journalled (seq + 1 + i) = false := by
  induction calls generalizing seq i with
  | nil => exact absurd h (Nat.not_lt_zero i)
  | cons call calls ih =>
      rw [kept, List.map_append, left_numbers, List.mem_append]
      cases i with
      | zero =>
          have hlater : seq + 1 + 0 ∉
              (kept capacity journalled (seq + 1) calls).map StoredRecord.recordSeq := by
            intro hmem
            have := List.mem_range'_1.1 ((kept_sublist (seq + 1) calls).subset hmem)
            omega
          rw [or_iff_left hlater]
          cases hraises : call.raises capacity journalled (seq + 1) <;> simp [hraises]
      | succ i =>
          have hi : i < calls.length := by simpa using h
          have hnumber : seq + 1 + (i + 1) = seq + 1 + 1 + i := by omega
          have hne : seq + 1 + 1 + i ≠ seq + 1 := by omega
          rw [List.getElem_cons_succ, hnumber, ← ih hi]
          refine or_iff_right fun hmem => ?_
          split at hmem
          · cases hmem
          · exact hne (List.mem_singleton.1 hmem)

end Kept

/-! ## Complete snapshots -/

/-- What a complete snapshot says of the buffer. -/
theorem snapshot_spec {b : EvidenceBuffer} {after : ℤ} {clock : ClockReading} {snap : Snapshot}
    (h : b.snapshot after clock = .ok snap) (hcomplete : snap.complete = true) :
    0 ≤ after ∧ snap.recordSeq = b.seq ∧ (b.firstAvailable : ℤ) - 1 ≤ after ∧ after ≤ b.seq ∧
      snap.records = b.records.filter fun r => after < r.recordSeq := by
  unfold snapshot at h
  split at h
  · exact absurd h (by simp)
  · next hafter =>
    injection h with h
    subst h
    have hbounds := of_decide_eq_true (Bool.and_eq_true_iff.1 hcomplete).1
    exact ⟨Int.not_lt.1 hafter, rfl, hbounds.1, hbounds.2, rfl⟩

/-- When the oldest record in memory is at most the next one after the cursor, what was
dropped from memory is not after the cursor. -/
theorem filter_records {b : EvidenceBuffer} {after : ℤ} {all : List StoredRecord}
    (hall : b.records = all.rtake b.capacity)
    (hsorted : (all.map StoredRecord.recordSeq).Pairwise (· < ·))
    (hfirst : (b.firstAvailable : ℤ) - 1 ≤ after) :
    (b.records.filter fun r => after < r.recordSeq) =
      all.filter fun r => after < r.recordSeq := by
  cases hrecords : b.records with
  | nil =>
      rw [hrecords] at hall
      rw [rtake_eq_nil b.capacity_pos hall.symm]
  | cons r rest =>
      obtain ⟨dropped, hdropped⟩ : b.records <:+ all := hall ▸ List.drop_suffix _ _
      have hfirst : (r.recordSeq : ℤ) - 1 ≤ after := by
        rwa [firstAvailable, hrecords] at hfirst
      rw [← hdropped, hrecords, List.filter_append]
      suffices hnone : dropped.filter (fun r => decide (after < r.recordSeq)) = [] by
        rw [hnone, List.nil_append]
      rw [← hdropped, hrecords, List.map_append, List.pairwise_append] at hsorted
      refine List.filter_eq_nil_iff.2 fun x hx => ?_
      have hlt : x.recordSeq < r.recordSeq :=
        hsorted.2.2 _ (List.mem_map_of_mem hx) _ (List.mem_map_of_mem List.mem_cons_self)
      simp only [decide_eq_true_eq]
      omega

/-- A list of numbers that were taken, in order, has all of them when none is missing. -/
theorem eq_range'_iff {numbers : List ℕ} {start count : ℕ}
    (h : numbers.Sublist (List.range' start count)) :
    numbers = List.range' start count ↔ ∀ i < count, start + i ∈ numbers := by
  constructor
  · rintro rfl i hi
    exact List.mem_range'_1.2 ⟨by omega, by omega⟩
  · intro hall
    have hsub : List.range' start count ⊆ numbers := by
      intro k hk
      obtain ⟨hle, hlt⟩ := List.mem_range'_1.1 hk
      have := hall (k - start) (by omega)
      rwa [Nat.add_sub_cancel' hle] at this
    exact h.eq_of_length_le (List.subperm_of_subset List.nodup_range' hsub).length_le

/-- The numbers after a cursor. -/
theorem filter_range' {after total : ℕ} (h : after ≤ total) :
    (List.range' 1 total).filter (fun k => decide (after < k)) =
      List.range' (after + 1) (total - after) := by
  obtain ⟨rest, rfl⟩ := Nat.exists_eq_add_of_le h
  rw [← List.range'_append_1, List.filter_append, Nat.add_sub_cancel_left, Nat.add_comm 1]
  have hfront : (List.range' 1 after).filter (fun k => decide (after < k)) = [] := by
    refine List.filter_eq_nil_iff.2 fun k hk => ?_
    have := List.mem_range'_1.1 hk
    simp only [decide_eq_true_eq]
    omega
  have hback : (List.range' (after + 1) rest).filter (fun k => decide (after < k)) =
      List.range' (after + 1) rest := by
    refine List.filter_eq_self.2 fun k hk => ?_
    have := List.mem_range'_1.1 hk
    simp only [decide_eq_true_eq]
    omega
  rw [hfront, hback, List.nil_append]

theorem create_spec {capacity : ℤ} {journalled : Bool} {disk : Disk} {b : EvidenceBuffer}
    (h : create capacity journalled disk = .ok b) :
    b.capacity = capacity.toNat ∧ b.journalled = journalled ∧ b.seq = 0 ∧ b.records = [] := by
  unfold create writeCheckpoint at h
  split at h
  · cases journalled <;> cases hc : disk.checkpoint <;> simp [hc] at h <;> subst h <;>
      exact ⟨rfl, rfl, rfl, rfl⟩
  · exact absurd h (by simp)

/-- A snapshot that is reported complete has every record after the cursor, once and in
order, exactly when none of the calls after the cursor raised. -/
theorem complete_iff_all_succeeded {capacity : ℤ} {journalled : Bool} {disk : Disk}
    {b : EvidenceBuffer} (hcreate : create capacity journalled disk = .ok b)
    (calls : List AppendCall) {after : ℤ} {clock : ClockReading} {snap : Snapshot}
    (hsnap : (b.run calls).snapshot after clock = .ok snap) (hcomplete : snap.complete = true) :
    snap.records.map StoredRecord.recordSeq =
        List.range' (after.toNat + 1) (snap.recordSeq - after.toNat) ↔
      ∀ i, ∀ h : i < calls.length, after ≤ i →
        calls[i].raises capacity.toNat journalled (i + 1) = false := by
  obtain ⟨hcap, hjour, hseq, hrec⟩ := create_spec hcreate
  obtain ⟨hcap', hjour', hseq', hrec'⟩ := b.records_of_run calls
  rw [hcap, hjour, hseq, hrec, List.nil_append] at hrec'
  obtain ⟨hafter, hlast, hfirst, hle, hrecords⟩ := snapshot_spec hsnap hcomplete
  obtain ⟨cursor, rfl⟩ := Int.eq_ofNat_of_zero_le hafter
  set all := kept capacity.toNat journalled 0 calls with hkept
  have hsub : (all.map StoredRecord.recordSeq).Sublist (List.range' 1 calls.length) :=
    kept_sublist 0 calls
  have hsorted : (all.map StoredRecord.recordSeq).Pairwise (· < ·) :=
    List.Pairwise.sublist hsub List.pairwise_lt_range'
  have hfilter := filter_records (by rw [hrec', hcap', hcap]) hsorted hfirst
  have hcount : snap.recordSeq = calls.length := by
    rw [hlast, hseq', hseq, Nat.zero_add]
  have hcursor : cursor ≤ calls.length := by
    rw [hseq', hseq, Nat.zero_add] at hle
    exact Int.ofNat_le.1 hle
  -- the numbers in the snapshot are those of all that were kept, after the cursor
  have hnumbers : snap.records.map StoredRecord.recordSeq =
      (all.map StoredRecord.recordSeq).filter fun k => decide (cursor < k) := by
    rw [hrecords, hfilter, List.filter_map]
    congr 1
    refine List.filter_congr fun r _ => ?_
    simp
  have hsub' : (snap.records.map StoredRecord.recordSeq).Sublist
      (List.range' (cursor + 1) (calls.length - cursor)) := by
    rw [hnumbers, ← filter_range' hcursor]
    exact hsub.filter _
  have hmem : ∀ i (h : i < calls.length), cursor ≤ i →
      (cursor + 1 + (i - cursor) ∈ snap.records.map StoredRecord.recordSeq ↔
        calls[i].raises capacity.toNat journalled (i + 1) = false) := by
    intro i hi hle
    have hnumber : cursor + 1 + (i - cursor) = 0 + 1 + i := by omega
    have hlt : cursor < 0 + 1 + i := by omega
    rw [hnumbers, hnumber, List.mem_filter, and_iff_left (by simpa using hlt), hkept, mem_kept hi,
      Nat.zero_add, Nat.add_comm 1]
  rw [hcount, Int.toNat_natCast, eq_range'_iff hsub']
  constructor
  · intro h i hi hle
    have hle : cursor ≤ i := Int.ofNat_le.1 hle
    exact (hmem i hi hle).1 (h (i - cursor) (by omega))
  · intro h k hk
    have hi : cursor + k < calls.length := by omega
    have hle : cursor ≤ cursor + k := Nat.le_add_right _ _
    have := (hmem (cursor + k) hi hle).2 (h (cursor + k) hi (Int.ofNat_le.2 hle))
    rwa [Nat.add_sub_cancel_left] at this

/-- Three calls, the second with a value that is not a number. -/
def unprintable : List AppendCall :=
  [⟨[("record_id", .ok (.str "a"))], {}⟩,
    ⟨[("record_id", .ok (.str "b")), ("value", .ok (.float .nan))], {}⟩,
    ⟨[("record_id", .ok (.str "c"))], {}⟩]

/-- The buffer in memory alone, of the default capacity. -/
def inMemory : EvidenceBuffer where
  capacity := 4096
  capacity_pos := by decide
  journalled := false

/-- The snapshot of the three calls after the second number. -/
def thirdOnly : Snapshot where
  recordSeq := 3
  firstAvailableSeq := 1
  complete := true
  clock := clockSnapshot 0 0 0 none 0
  records := [⟨[("record_id", .str "c"), ("record_seq", .int 3)], 3, rfl⟩]

/-- No call after the second raised, so nothing is missing after the second number. -/
theorem complete_thirdOnly : thirdOnly.records.map StoredRecord.recordSeq = List.range' 3 1 :=
  (@complete_iff_all_succeeded 4096 false {} inMemory rfl unprintable 2
    (clockSnapshot 0 0 0 none 0) thirdOnly rfl rfl).2 (by decide)

/-- The second number was taken by the call that raised; the snapshot is reported complete
without it. -/
theorem gap_reported_complete : ∃ b snap, create 4096 false {} = .ok b ∧
    (b.run unprintable).snapshot 0 (clockSnapshot 0 0 0 none 0) = .ok snap ∧
    snap.complete = true ∧ snap.recordSeq = 3 ∧
    snap.records.map StoredRecord.recordSeq = [1, 3] ∧
    snap.records.map StoredRecord.recordSeq ≠ List.range' 1 snap.recordSeq := by
  refine ⟨_, _, rfl, rfl, ?_, ?_, ?_, ?_⟩ <;> decide

end EvidenceBuffer

end EirvahEdge.Conformance
