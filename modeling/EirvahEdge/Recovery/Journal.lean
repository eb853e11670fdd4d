import EirvahEdge.Lib.Table
import EirvahEdge.Devices.InspectionStream

/-!
# The source journal

`SourceJournal` keeps the inspection events of the simulator until their consumer
confirms them.  `commit` saves the stream together with at most one new event,
`head` is the oldest event that nobody confirmed, and `ack` marks an event as
received.  Received rows go after a day.

What `commit` inserts is returned beside the journal, so that it can be logged over
a run together with what `ack` marks.  `JournalChange` says once what the calls can
do.  The counters agree with the table after every one of them (`Counted.change`);
the logs are a queue and its served front as long as only the head is acknowledged
(`QueueLog.change`).
-/

namespace EirvahEdge.Recovery

open EirvahEdge.Lib
open EirvahEdge.Contracts
open EirvahEdge.Devices

/-! ## Rows -/

/-- A row of `source_events`; the key is the id of the event. -/
structure JournalRow where
  serial : ℕ
  payload : BottleInspection
  created : ℚ
  received : Bool := false
deriving DecidableEq, Repr

/-- The unique column `source_events.id`. -/
def JournalRow.id (r : JournalRow) : String := r.payload.inspectionId

/-- `received=0`. -/
def JournalRow.isPending (r : JournalRow) : Bool := !r.received

/-- `SET received=1`. -/
def JournalRow.markReceived (r : JournalRow) : JournalRow := { r with received := true }

/-- The events with their `AUTOINCREMENT` counter, in the order of their serials,
the two counters of `source_meta` and the saved stream of `source_state`. -/
structure Journal where
  rows : Table JournalRow.id
  nextSerial : ℕ
  created : ℕ
  received : ℕ
  state : Option InspectionStream

namespace Journal

/-- The journal on a new volume. -/
def empty : Journal := ⟨.empty, 1, 0, 0, none⟩

/-- The rows that wait for a receipt, oldest first. -/
def pendingRows (j : Journal) : List JournalRow := j.rows.rows.filter JournalRow.isPending

/-- `pending`. -/
def pending (j : Journal) : ℕ := j.rows.count JournalRow.isPending

/-- `head`: `WHERE received=0 ORDER BY serial LIMIT 1`. -/
def head (j : Journal) : Option BottleInspection :=
  (j.rows.rows.find? JournalRow.isPending).map JournalRow.payload

/-! ## Calls -/

/-- The part of `commit` that is about the event. -/
def insertEvent (j : Journal) (capacity : ℕ) (event : BottleInspection) (now : ℚ) :
    Except PyError (List JournalRow × Journal) :=
  match j.rows.lookup event.inspectionId with
  | some previous =>
      if previous.payload ≠ event then
        .error (valueError "immutable source event identity conflict")
      else .ok ([], j)
  | none =>
      if capacity ≤ j.pending then
        .error (runtimeError "source outbox capacity reached")
      else
        match j.rows.insert ⟨j.nextSerial, event, now, false⟩ with
        | some rows =>
            .ok ([⟨j.nextSerial, event, now, false⟩],
              { j with rows, nextSerial := j.nextSerial + 1, created := j.created + 1 })
        | none => .error ⟨.other "IntegrityError", "UNIQUE constraint failed: source_events.id"⟩

/-- `received=1 AND created<?`. -/
def outdated (now : ℚ) (r : JournalRow) : Bool := r.received && decide (r.created < now - 86400)

/-- The rest of it: the stream is saved, and rows a day old are deleted. -/
def save (j : Journal) (state : InspectionStream) (now : ℚ) : Journal :=
  { j with rows := j.rows.deleteWhere (outdated now), state := some state }

/-- `commit`, with its two readings of the clock: the rows it inserts and the
journal after it.  What is raised rolls the transaction back. -/
def commit (j : Journal) (capacity : ℕ) (state : InspectionStream)
    (event : Option BottleInspection) (createdAt now : ℚ) :
    Except PyError (List JournalRow × Journal) :=
  match event with
  | none => .ok ([], j.save state now)
  | some event =>
      (j.insertEvent capacity event createdAt).map fun inserted =>
        (inserted.1, inserted.2.save state now)

/-- `ack`: whether the event is known, and the journal after it. -/
def ack (j : Journal) (identity : String) : Bool × Journal :=
  match j.rows.lookup identity with
  | none => (false, j)
  | some r =>
      if r.received then (true, j)
      else
        (true, { j with
          rows := j.rows.updateWhere (fun x => x.id == identity) JournalRow.markReceived
            fun _ => rfl
          received := j.received + 1 })

/-- The rows that `ack` marks. -/
def marked (j : Journal) (identity : String) : List JournalRow :=
  (j.rows.lookup identity).toList.filter JournalRow.isPending

/-! ## What a call does -/

/-- What a call does: nothing, saving the stream, inserting a row for an event
that had none, or marking a row that waited. -/
inductive JournalChange (j : Journal) : List JournalRow → List JournalRow → Journal → Prop where
  | same : JournalChange j [] [] j
  | save (state : InspectionStream) (now : ℚ) : JournalChange j [] [] (j.save state now)
  | insert (event : BottleInspection) (createdAt now : ℚ) (state : InspectionStream)
      (rows : Table JournalRow.id)
      (hrows : j.rows.insert ⟨j.nextSerial, event, createdAt, false⟩ = some rows) :
      JournalChange j [⟨j.nextSerial, event, createdAt, false⟩] []
        (save { j with rows, nextSerial := j.nextSerial + 1, created := j.created + 1 }
          state now)
  | mark (r : JournalRow) (hr : j.rows.lookup r.id = some r) (hpending : r.received = false) :
      JournalChange j [] [r]
        { j with
          rows := j.rows.updateWhere (fun x => x.id == r.id) JournalRow.markReceived fun _ => rfl
          received := j.received + 1 }

/-- A commit saves the stream and inserts no other row than one for its event. -/
theorem commit_change {j j' : Journal} {capacity : ℕ} {state : InspectionStream}
    {event : Option BottleInspection} {createdAt now : ℚ} {inserted : List JournalRow}
    (h : j.commit capacity state event createdAt now = .ok (inserted, j')) :
    JournalChange j inserted [] j' ∧ j'.state = some state ∧
      ∀ r ∈ inserted, event = some r.payload := by
  cases event with
  | none =>
      obtain ⟨rfl, rfl⟩ := Prod.mk.inj (Except.ok.inj h)
      exact ⟨.save state now, rfl, by simp⟩
  | some event =>
      obtain ⟨⟨added, j₁⟩, hinsert, heq⟩ := map_eq_ok.1 h
      obtain ⟨rfl, rfl⟩ := Prod.mk.inj heq
      unfold insertEvent at hinsert
      split at hinsert
      · have hold := (ite_error_eq_ok.1 hinsert).2
        obtain ⟨rfl, rfl⟩ := Prod.mk.inj (Except.ok.inj hold)
        exact ⟨.save state now, rfl, by simp⟩
      · have hnew := (ite_error_eq_ok.1 hinsert).2
        split at hnew
        · next rows hrows =>
            obtain ⟨rfl, rfl⟩ := Prod.mk.inj (Except.ok.inj hnew)
            exact ⟨.insert event createdAt now state rows hrows, rfl, by simp⟩
        · cases hnew

/-- Nothing is raised without an event. -/
theorem commit_none (j : Journal) (capacity : ℕ) (state : InspectionStream)
    (createdAt now : ℚ) :
    j.commit capacity state none createdAt now = .ok ([], j.save state now) := rfl

theorem ack_change (j : Journal) (identity : String) :
    JournalChange j [] (j.marked identity) (j.ack identity).2 ∧
      (j.ack identity).2.state = j.state ∧ ∀ r ∈ j.marked identity, r.id = identity := by
  unfold ack marked
  cases hr : j.rows.lookup identity with
  | none => exact ⟨.same, rfl, by simp⟩
  | some r =>
      have hid : r.id = identity := Table.key_of_lookup hr
      cases hreceived : r.received with
      | true =>
          have hnot : [r].filter JournalRow.isPending = [] := by
            simp [JournalRow.isPending, hreceived]
          simp only [Option.toList_some, hnot, hreceived, if_true]
          exact ⟨.same, trivial, by simp⟩
      | false =>
          have hone : [r].filter JournalRow.isPending = [r] := by
            simp [JournalRow.isPending, hreceived]
          simp only [Option.toList_some, hone, hreceived]
          rw [← hid] at hr ⊢
          exact ⟨.mark r hr hreceived, rfl, by simp⟩

/-! ## The table and the counters -/

theorem pending_eq_length (j : Journal) : j.pending = j.pendingRows.length :=
  List.countP_eq_length_filter

theorem head_eq (j : Journal) : j.head = j.pendingRows.head?.map JournalRow.payload := by
  rw [head, pendingRows, List.head?_filter]

theorem mem_pendingRows {j : Journal} {r : JournalRow} :
    r ∈ j.pendingRows ↔ r ∈ j.rows.rows ∧ r.received = false := by
  simp [pendingRows, JournalRow.isPending]

/-- No waiting row is deleted. -/
theorem pendingRows_save (j : Journal) (state : InspectionStream) (now : ℚ) :
    (j.save state now).pendingRows = j.pendingRows := by
  show List.filter _ (List.filter _ j.rows.rows) = _
  rw [List.filter_filter]
  apply List.filter_congr
  intro r _
  cases hr : r.received <;> simp [JournalRow.isPending, outdated, hr]

/-- A new row waits behind the others. -/
theorem pendingRows_insert {j : Journal} {rows : Table JournalRow.id} {r : JournalRow}
    (hr : r.received = false) (hrows : j.rows.insert r = some rows) :
    rows.rows.filter JournalRow.isPending = j.pendingRows ++ [r] := by
  rw [(Table.insert_eq_some hrows).2, List.filter_append]
  congr 1
  simp [JournalRow.isPending, hr]

/-- A marked row waits no more; the others stay as they are. -/
theorem pendingRows_mark (j : Journal) (identity : String) :
    (j.rows.rows.map (Table.updateRow (fun x => x.id == identity)
        JournalRow.markReceived)).filter JournalRow.isPending =
      j.pendingRows.filter fun x => !(x.id == identity) := by
  unfold pendingRows
  induction j.rows.rows with
  | nil => rfl
  | cons x xs ih =>
      rw [List.map_cons, List.filter_cons, List.filter_cons, ih]
      by_cases hx : (x.id == identity) = true
      · have hmark : Table.updateRow (fun x => x.id == identity) JournalRow.markReceived x =
            x.markReceived := if_pos hx
        rw [hmark]
        cases hreceived : x.received <;>
          simp [JournalRow.isPending, JournalRow.markReceived, hreceived, hx]
      · have hkeep : Table.updateRow (fun x => x.id == identity) JournalRow.markReceived x =
            x := if_neg hx
        rw [hkeep]
        cases hreceived : x.received <;>
          simp [JournalRow.isPending, hreceived, hx]

/-- The ids of the waiting rows are different. -/
theorem pendingRows_nodup (j : Journal) : (j.pendingRows.map JournalRow.id).Nodup :=
  j.rows.keys_nodup.sublist (List.filter_sublist.map _)

/-- Marking one waiting row takes exactly that row out. -/
theorem pendingRows_mark_split (j : Journal) {r : JournalRow} {before after : List JournalRow}
    (h : j.pendingRows = before ++ r :: after) :
    (j.pendingRows.filter fun x => !(x.id == r.id)) = before ++ after := by
  have hnodup := j.pendingRows_nodup
  rw [h, List.map_append, List.map_cons, List.nodup_append] at hnodup
  have hrest := List.nodup_cons.1 hnodup.2.1
  have hbefore : ∀ x ∈ before, (!(x.id == r.id)) = true := by
    intro x hx
    have hne := hnodup.2.2 x.id (List.mem_map_of_mem hx) r.id List.mem_cons_self
    simpa using hne
  have hafter : ∀ x ∈ after, (!(x.id == r.id)) = true := by
    intro x hx
    have hne : x.id ≠ r.id := fun heq => hrest.1 (heq ▸ List.mem_map_of_mem hx)
    simpa using hne
  rw [h, List.filter_append, List.filter_cons, List.filter_eq_self.2 hbefore,
    List.filter_eq_self.2 hafter]
  simp

/-- The two counters account for the rows that wait. -/
def Counted (j : Journal) : Prop := j.created = j.received + j.pending

theorem Counted.change {j j' : Journal} {inserted marked : List JournalRow} (h : j.Counted)
    (hchange : JournalChange j inserted marked j') : j'.Counted := by
  unfold Counted at *
  rw [pending_eq_length] at *
  cases hchange with
  | same => exact h
  | save state now =>
      rw [pendingRows_save]
      exact h
  | insert event createdAt now state rows hrows =>
      have hlength : ∀ j' : Journal, j'.rows = rows →
          j'.pendingRows.length = j.pendingRows.length + 1 := by
        intro j' hj'
        rw [pendingRows, hj', pendingRows_insert rfl hrows, List.length_append,
          List.length_singleton]
      rw [pendingRows_save, hlength _ rfl]
      show j.created + 1 = j.received + (j.pendingRows.length + 1)
      omega
  | mark r hr hpending =>
      have hmem : r ∈ j.pendingRows := mem_pendingRows.2 ⟨Table.lookup_mem hr, hpending⟩
      obtain ⟨before, after, hsplit⟩ := List.append_of_mem hmem
      show j.created = j.received + 1 + List.length (List.filter _ (List.map _ _))
      rw [pendingRows_mark, j.pendingRows_mark_split hsplit, h, hsplit]
      simp only [List.length_append, List.length_cons]
      omega

/-! ## The queue -/

/-- The events created over a run and the events acknowledged over it, both latest
first: the acknowledged ones are the oldest, the others wait in their order. -/
structure QueueLog (j : Journal) (created acked : List JournalRow) : Prop where
  split : created = j.pendingRows.reverse ++ acked
  serial_lt : ∀ r ∈ created, r.serial < j.nextSerial
  serials : created.Pairwise fun r earlier => earlier.serial < r.serial
  marked : ∀ r ∈ j.rows.rows, r.received = true → ∃ r' ∈ acked, r'.payload = r.payload

/-- Served once: acknowledged, or the next to be. -/
def Served (j : Journal) (acked : List JournalRow) (r : JournalRow) : Prop :=
  r ∈ acked ∨ j.pendingRows.head? = some r

theorem QueueLog.empty : QueueLog Journal.empty [] [] where
  split := rfl
  serial_lt := by simp
  serials := List.Pairwise.nil
  marked := by simp [Journal.empty, Table.empty]

/-- A served row is one that was created. -/
theorem QueueLog.mem_of_served {j : Journal} {created acked : List JournalRow}
    (h : QueueLog j created acked) {r : JournalRow} (hr : j.Served acked r) :
    r ∈ created := by
  rw [h.split, List.mem_append, List.mem_reverse]
  rcases hr with hr | hr
  · exact Or.inr hr
  · exact Or.inl (List.mem_of_head? hr)

theorem QueueLog.save {j : Journal} {created acked : List JournalRow}
    (h : QueueLog j created acked) (state : InspectionStream) (now : ℚ) :
    QueueLog (j.save state now) created acked where
  split := by
    rw [pendingRows_save]
    exact h.split
  serial_lt := h.serial_lt
  serials := h.serials
  marked := fun r hr => h.marked r (List.mem_filter.1 hr).1

theorem QueueLog.insert {j j' : Journal} {created acked : List JournalRow}
    (h : QueueLog j created acked) {r : JournalRow} (hserial : r.serial = j.nextSerial)
    (hr : r.received = false) (hrows : j.rows.insert r = some j'.rows)
    (hnext : j'.nextSerial = j.nextSerial + 1) : QueueLog j' (r :: created) acked where
  split := by
    have hpending : j'.pendingRows = j.pendingRows ++ [r] := pendingRows_insert hr hrows
    rw [hpending, h.split]
    simp
  serial_lt := by
    intro x hx
    rw [hnext]
    rcases List.mem_cons.1 hx with rfl | hx
    · omega
    · have hlt := h.serial_lt x hx
      omega
  serials := by
    apply List.Pairwise.cons _ h.serials
    intro x hx
    rw [hserial]
    exact h.serial_lt x hx
  marked := by
    intro x hx hreceived
    rw [(Table.insert_eq_some hrows).2, List.mem_append, List.mem_singleton] at hx
    rcases hx with hx | rfl
    · exact h.marked x hx hreceived
    · rw [hr] at hreceived
      cases hreceived

/-- The head goes over to the acknowledged rows. -/
theorem QueueLog.mark {j j' : Journal} {created acked : List JournalRow}
    (h : QueueLog j created acked) {r : JournalRow} (hhead : j.pendingRows.head? = some r)
    (hrows : j'.rows.rows = j.rows.rows.map
      (Table.updateRow (fun x => x.id == r.id) JournalRow.markReceived))
    (hnext : j'.nextSerial = j.nextSerial) : QueueLog j' created (r :: acked) where
  split := by
    obtain ⟨rest, hrest⟩ := List.head?_eq_some_iff.1 hhead
    have hsplit : j.pendingRows = [] ++ r :: rest := hrest
    have hpending : j'.pendingRows = rest := by
      rw [pendingRows, hrows, pendingRows_mark, j.pendingRows_mark_split hsplit]
      rfl
    rw [hpending, h.split, hrest]
    simp
  serial_lt := hnext ▸ h.serial_lt
  serials := h.serials
  marked := by
    intro x hx hreceived
    rw [hrows] at hx
    obtain ⟨y, hy, rfl⟩ := List.mem_map.1 hx
    have hrow : r ∈ j.rows.rows := (mem_pendingRows.1 (List.mem_of_head? hhead)).1
    by_cases hid : y.id = r.id
    · have heq : y = r := List.inj_on_of_nodup_map j.rows.keys_nodup hy hrow hid
      rw [heq]
      exact ⟨r, List.mem_cons_self, by simp [Table.updateRow, JournalRow.markReceived]⟩
    · have hkeep : Table.updateRow (fun x => x.id == r.id) JournalRow.markReceived y = y := by
        simp [Table.updateRow, hid]
      rw [hkeep] at hreceived ⊢
      obtain ⟨r', hr', hpayload⟩ := h.marked y hy hreceived
      exact ⟨r', List.mem_cons_of_mem _ hr', hpayload⟩

/-- **The journal is a queue.**  As long as a call marks nothing but the head, the
logs stay the queue and its served front. -/
theorem QueueLog.change {j j' : Journal} {created acked inserted marked : List JournalRow}
    (h : QueueLog j created acked) (hchange : JournalChange j inserted marked j')
    (hhead : ∀ r ∈ marked, j.pendingRows.head? = some r) :
    QueueLog j' (inserted ++ created) (marked ++ acked) := by
  cases hchange with
  | same => exact h
  | save state now => exact h.save state now
  | insert event createdAt now state rows hrows =>
      have hqueue : QueueLog ⟨rows, j.nextSerial + 1, j.created + 1, j.received, j.state⟩
          (⟨j.nextSerial, event, createdAt, false⟩ :: created) acked :=
        h.insert rfl rfl hrows rfl
      exact hqueue.save state now
  | mark r hr hpending => exact h.mark (hhead r List.mem_cons_self) rfl rfl

/-- What was served stays served. -/
theorem Served.change {j j' : Journal} {acked inserted marked : List JournalRow}
    {r : JournalRow} (h : j.Served acked r) (hchange : JournalChange j inserted marked j')
    (hhead : ∀ x ∈ marked, j.pendingRows.head? = some x) :
    j'.Served (marked ++ acked) r := by
  rcases h with h | h
  · exact Or.inl (List.mem_append_right _ h)
  · cases hchange with
    | same => exact Or.inr h
    | save state now =>
        right
        rw [pendingRows_save]
        exact h
    | insert event createdAt now state rows hrows =>
        right
        rw [pendingRows_save]
        show (rows.rows.filter JournalRow.isPending).head? = some r
        rw [pendingRows_insert rfl hrows, List.head?_append, h]
        rfl
    | mark x hx hpending =>
        have hsame : x = r := Option.some.inj ((hhead x List.mem_cons_self).symm.trans h)
        exact Or.inl (hsame ▸ List.mem_cons_self)

end Journal

end EirvahEdge.Recovery
