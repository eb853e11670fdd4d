import EirvahEdge.Lib.Run
import EirvahEdge.Lib.Table
import EirvahEdge.Contracts.Value
import EirvahEdge.Contracts.Position

/-!
# Source positions

`ProducerPositions` numbers the samples an adapter publishes.  The epoch of a
producer and the sequence of each of its nodes live in one database that any
number of processes may share; each process keeps its own copy of the epoch in
memory, and `next` refuses to issue a position when the copy is not the epoch
in the database.

The copy and the database can drift apart: `begin_epoch` assigns the copy
inside its transaction, so a transaction that rolls back after the assignment
leaves the copy one ahead.  `Fate` says where a call's transaction ends, and
the system below lets every call of every process end at any of these points.

The order of positions does not rest on the copies.  Whatever a process
believes, an issued position carries the epoch and the next sequence of the
database as one transaction read them, and a committed `begin_epoch` raises
the epoch when it clears the sequences: `PositionsInv` says that every issued
position lies at or below the database's own mark for its node.
-/

namespace EirvahEdge.Recovery

open EirvahEdge.Lib
open EirvahEdge.Contracts

/-! ## The tables and the processes -/

/-- A row of `producer_epoch(id PRIMARY KEY, epoch)`. -/
structure EpochRow where
  id : String
  epoch : ℤ
deriving DecidableEq, Repr

/-- A row of `producer_sequence(id, node, sequence, PRIMARY KEY(id, node))`. -/
structure SequenceRow where
  id : String
  node : String
  sequence : ℤ
deriving DecidableEq, Repr

def SequenceRow.key (r : SequenceRow) : String × String := (r.id, r.node)

/-- The position database. -/
structure PositionsDb where
  producerEpoch : Table EpochRow.id
  producerSequence : Table SequenceRow.key

/-- One `ProducerPositions` object: the producer it numbers for and the epoch
it holds in memory. -/
structure ProducerPositions where
  producer : String
  epoch : ℤ
deriving DecidableEq, Repr

/-- Where the transaction of a call ends. -/
inductive Fate where
  /-- The transaction commits and the call returns. -/
  | commits
  /-- The transaction raises before the epoch is assigned and rolls back. -/
  | abortsEarly
  /-- The transaction raises after the epoch was assigned and rolls back. -/
  | abortsLate
  /-- The transaction commits and the process dies before the call returns. -/
  | commitsThenDies
deriving DecidableEq, Repr

def Fate.committed : Fate → Bool
  | .commits | .commitsThenDies => true
  | .abortsEarly | .abortsLate => false

/-! ## The operations -/

/-- `ProducerPositions(path, producer)`. -/
def ProducerPositions.init (producer : String) : Except PyError ProducerPositions :=
  if producer = "" then .error (valueError "producer identity required")
  else .ok ⟨producer, 0⟩

/-- The epoch `begin_epoch` assigns. -/
def nextEpoch (db : PositionsDb) (producer : String) : ℤ :=
  match db.producerEpoch.lookup producer with
  | some row => row.epoch + 1
  | none => 1

/-- The database after a committed `begin_epoch`. -/
def beginEpochDb (db : PositionsDb) (producer : String) : PositionsDb where
  producerEpoch :=
    db.producerEpoch.replace ⟨producer, nextEpoch db producer⟩
  producerSequence :=
    db.producerSequence.deleteWhere fun r => decide (r.id = producer)

/-- `begin_epoch`: the process after the call and the database. -/
def beginEpoch (db : PositionsDb) (self : ProducerPositions) (fate : Fate) :
    PositionsDb × ProducerPositions :=
  (if fate.committed then beginEpochDb db self.producer else db,
    if fate = .abortsEarly then self
    else { self with epoch := nextEpoch db self.producer })

/-- The sequence `next` issues for a node. -/
def nextSequence (db : PositionsDb) (producer node : String) : ℤ :=
  match db.producerSequence.lookup (producer, node) with
  | some row => row.sequence + 1
  | none => 1

/-- The fence of `next`: the database holds the epoch this process holds, and
so does the caller when it names one. -/
def fenced (db : PositionsDb) (self : ProducerPositions)
    (expectedEpoch : Option ℤ) : Bool :=
  match db.producerEpoch.lookup self.producer with
  | none => true
  | some row =>
      decide (row.epoch ≠ self.epoch) ||
        match expectedEpoch with
        | some e => decide (e ≠ self.epoch)
        | none => false

/-- The transaction of `next`: the database it commits and the position the
call returns. -/
def next (db : PositionsDb) (self : ProducerPositions) (node : String)
    (expectedEpoch : Option ℤ) : Except PyError (PositionsDb × SourcePosition) :=
  if fenced db self expectedEpoch then
    .error (runtimeError "producer generation fenced")
  else
    .ok
      ({ db with
          producerSequence := db.producerSequence.replace
            ⟨self.producer, node, nextSequence db self.producer node⟩ },
        ⟨self.producer ++ "/" ++ node, self.epoch,
          nextSequence db self.producer node, "adapter"⟩)

/-! ## The system of processes sharing the database -/

/-- A position a successful `next` returned, with the producer and the node it
was issued for. -/
structure Issued where
  producer : String
  node : String
  position : SourcePosition
deriving DecidableEq, Repr

/-- The database, the live processes and the positions issued so far in commit
order, newest first. -/
structure PositionsState where
  db : PositionsDb
  instances : ℕ → Option ProducerPositions
  issued : List Issued

/-- What can happen. -/
inductive PositionsEvent where
  /-- Process `i` opens the database for `producer`. -/
  | opens (i : ℕ) (producer : String)
  /-- Process `i` closes or dies. -/
  | closes (i : ℕ)
  | beginEpoch (i : ℕ) (fate : Fate)
  | next (i : ℕ) (node : String) (expectedEpoch : Option ℤ) (fate : Fate)
deriving DecidableEq, Repr

def PositionsState.setInstance (s : PositionsState) (i : ℕ)
    (self : Option ProducerPositions) : PositionsState :=
  { s with instances := Function.update s.instances i self }

/-- One call of one process.  A call that raises is a step too. -/
def positionsStep (s : PositionsState) : PositionsEvent → Option PositionsState
  | .opens i producer =>
      match ProducerPositions.init producer with
      | .ok self => some (s.setInstance i (some self))
      | .error _ => some s
  | .closes i => some (s.setInstance i none)
  | .beginEpoch i fate =>
      match s.instances i with
      | none => none
      | some self =>
          let (db, self') := beginEpoch s.db self fate
          some ({ s with db := db }.setInstance i
            (if fate = Fate.commitsThenDies then none else some self'))
  | .next i node expectedEpoch fate =>
      match s.instances i with
      | none => none
      | some self =>
          match next s.db self node expectedEpoch with
          | .error _ => some s
          | .ok (db, position) =>
              if fate = .commits then
                some
                  { s with
                    db := db
                    issued := ⟨self.producer, node, position⟩ :: s.issued }
              else if fate = .commitsThenDies then
                some ({ s with db := db }.setInstance i none)
              else some s

/-- A state in which nothing has been issued yet, over any database. -/
def PositionsState.fresh (db : PositionsDb) : PositionsState :=
  { db := db, instances := fun _ => none, issued := [] }

/-! ## The order of positions -/

/-- A position lies at or below what the database records for its node: in an
older epoch, or in the current one with a sequence the table has reached. -/
def Marked (db : PositionsDb) (x : Issued) : Prop :=
  ∃ e, db.producerEpoch.lookup x.producer = some e ∧
    (x.position.epoch < e.epoch ∨ x.position.epoch = e.epoch ∧
      ∃ r, db.producerSequence.lookup (x.producer, x.node) = some r ∧
        x.position.sequence ≤ r.sequence)

/-- A later position of one node is above every earlier one. -/
def OrderedIssue (newer older : Issued) : Prop :=
  newer.producer = older.producer → newer.node = older.node →
    older.position.Before newer.position

/-- The invariant of the shared database: the issued positions are ordered and
the database is at or above all of them. -/
structure PositionsInv (s : PositionsState) : Prop where
  marked : ∀ x ∈ s.issued, Marked s.db x
  ordered : s.issued.Pairwise OrderedIssue

/-! ## What the two transactions do to the marks -/

/-- A committed `begin_epoch` moves its producer to a strictly higher epoch,
so every old mark stays a mark although the sequences are gone. -/
theorem marked_beginEpochDb {db : PositionsDb} {x : Issued} (producer : String)
    (h : Marked db x) : Marked (beginEpochDb db producer) x := by
  obtain ⟨e, he, hpos⟩ := h
  unfold Marked beginEpochDb
  by_cases hp : producer = x.producer
  · subst hp
    have hnext : nextEpoch db x.producer = e.epoch + 1 := by
      simp [nextEpoch, he]
    refine ⟨⟨x.producer, nextEpoch db x.producer⟩, ?_, Or.inl ?_⟩
    · simp [Table.lookup_replace]
    · show x.position.epoch < nextEpoch db x.producer
      omega
  · refine ⟨e, by simpa [Table.lookup_replace, hp] using he, ?_⟩
    rcases hpos with hlt | ⟨heq, r, hr, hle⟩
    · exact Or.inl hlt
    · refine Or.inr ⟨heq, r, ?_, hle⟩
      have hid : r.id = x.producer := congrArg Prod.fst (Table.key_of_lookup hr)
      rw [Table.lookup_deleteWhere, hr]
      simp [hid, Ne.symm hp]

/-- What a `next` that passes the fence commits and returns. -/
theorem next_eq_ok {db db' : PositionsDb} {self : ProducerPositions}
    {node : String} {expected : Option ℤ} {p : SourcePosition}
    (h : next db self node expected = .ok (db', p)) :
    (∃ e, db.producerEpoch.lookup self.producer = some e ∧
      p.epoch = e.epoch) ∧
    p.sequence = nextSequence db self.producer node ∧
    db'.producerEpoch = db.producerEpoch ∧
    db'.producerSequence =
      db.producerSequence.replace ⟨self.producer, node, p.sequence⟩ := by
  unfold next at h
  split at h
  · cases h
  · next hfence =>
      cases h
      refine ⟨?_, rfl, rfl, rfl⟩
      unfold fenced at hfence
      split at hfence
      · simp at hfence
      · next row hrow =>
          have hepoch : row.epoch = self.epoch := by
            by_contra hne
            simp [hne] at hfence
          exact ⟨row, hrow, hepoch.symm⟩

/-- The new sequence of a node is above the recorded one, and the table then
records it: no mark is lost. -/
theorem marked_next {db db' : PositionsDb} {self : ProducerPositions}
    {node : String} {expected : Option ℤ} {p : SourcePosition} {x : Issued}
    (h : next db self node expected = .ok (db', p)) (hx : Marked db x) :
    Marked db' x := by
  obtain ⟨-, hseq, hepochs, hseqs⟩ := next_eq_ok h
  obtain ⟨e, he, hpos⟩ := hx
  refine ⟨e, by rw [hepochs]; exact he, ?_⟩
  rcases hpos with hlt | ⟨heq, r, hr, hle⟩
  · exact Or.inl hlt
  · refine Or.inr ⟨heq, ?_⟩
    rw [hseqs, Table.lookup_replace]
    by_cases hkey : SequenceRow.key ⟨self.producer, node, p.sequence⟩ =
        (x.producer, x.node)
    · rw [if_pos hkey]
      refine ⟨_, rfl, ?_⟩
      simp only [SequenceRow.key, Prod.mk.injEq] at hkey
      have hnext : nextSequence db self.producer node = r.sequence + 1 := by
        simp [nextSequence, hkey.1, hkey.2, hr]
      show x.position.sequence ≤ p.sequence
      omega
    · rw [if_neg hkey]
      exact ⟨r, hr, hle⟩

/-- The position a `next` returns is itself marked afterwards. -/
theorem marked_of_next {db db' : PositionsDb} {self : ProducerPositions}
    {node : String} {expected : Option ℤ} {p : SourcePosition}
    (h : next db self node expected = .ok (db', p)) :
    Marked db' ⟨self.producer, node, p⟩ := by
  obtain ⟨⟨e, he, hpe⟩, -, hepochs, hseqs⟩ := next_eq_ok h
  refine ⟨e, by rw [hepochs]; exact he, Or.inr ⟨hpe, ?_⟩⟩
  refine ⟨⟨self.producer, node, p.sequence⟩, ?_, le_refl _⟩
  rw [hseqs, Table.lookup_replace]
  exact if_pos rfl

/-- The position a `next` returns is above every marked position of the same
node. -/
theorem before_of_marked {db db' : PositionsDb} {self : ProducerPositions}
    {node : String} {expected : Option ℤ} {p : SourcePosition} {x : Issued}
    (h : next db self node expected = .ok (db', p)) (hx : Marked db x) :
    OrderedIssue ⟨self.producer, node, p⟩ x := by
  obtain ⟨⟨e, he, hpe⟩, hseq, -, -⟩ := next_eq_ok h
  obtain ⟨e', he', hpos⟩ := hx
  intro hproducer hnode
  simp only at hproducer hnode
  rw [← hproducer] at he' hpos
  rw [← hnode] at hpos
  obtain rfl : e = e' := Option.some.inj (he.symm.trans he')
  rcases hpos with hlt | ⟨heq, r, hr, hle⟩
  · exact Or.inl (hpe ▸ hlt)
  · refine Or.inr ⟨heq.trans hpe.symm, ?_⟩
    have hnext : nextSequence db self.producer node = r.sequence + 1 := by
      simp [nextSequence, hr]
    show x.position.sequence < p.sequence
    omega

/-! ## The invariant over whole runs -/

theorem PositionsInv.step {s t : PositionsState} (e : PositionsEvent)
    (hI : PositionsInv s) (h : positionsStep s e = some t) : PositionsInv t := by
  cases e with
  | opens i producer =>
      simp only [positionsStep] at h
      split at h <;> cases h <;> exact ⟨hI.marked, hI.ordered⟩
  | closes i =>
      cases h
      exact ⟨hI.marked, hI.ordered⟩
  | beginEpoch i fate =>
      simp only [positionsStep] at h
      split at h
      · cases h
      · next self _ =>
          cases h
          refine ⟨fun x hx => ?_, hI.ordered⟩
          simp only [PositionsState.setInstance, beginEpoch]
          split
          · exact marked_beginEpochDb self.producer (hI.marked x hx)
          · exact hI.marked x hx
  | next i node expected fate =>
      simp only [positionsStep] at h
      split at h
      · cases h
      · next self _ =>
          split at h
          · cases h
            exact hI
          · next db position hnext =>
              have hmarked := fun x hx => marked_next hnext (hI.marked x hx)
              split at h
              · cases h
                refine ⟨?_, List.pairwise_cons.2 ⟨?_, hI.ordered⟩⟩
                · intro x hx
                  rcases List.mem_cons.1 hx with rfl | hx
                  · exact marked_of_next hnext
                  · exact hmarked x hx
                · exact fun x hx => before_of_marked hnext (hI.marked x hx)
              · split at h
                · cases h
                  exact ⟨hmarked, hI.ordered⟩
                · cases h
                  exact hI

theorem PositionsInv.fresh (db : PositionsDb) :
    PositionsInv (PositionsState.fresh db) :=
  ⟨by simp [PositionsState.fresh], List.Pairwise.nil⟩

/-- The positions issued for one node of one producer, in commit order. -/
def issuedFor (s : PositionsState) (producer node : String) :
    List SourcePosition :=
  ((s.issued.filter fun x => decide (x.producer = producer ∧ x.node = node)).map
    Issued.position).reverse

/-- The positions of one node come out in order whenever the log is. -/
theorem issuedFor_pairwise {s : PositionsState} (hI : PositionsInv s)
    (producer node : String) :
    (issuedFor s producer node).Pairwise SourcePosition.Before := by
  rw [issuedFor, List.pairwise_reverse, List.pairwise_map]
  refine List.Pairwise.imp_of_mem ?_ (hI.ordered.filter _)
  intro x y hx hy hxy
  have hx' := (List.mem_filter.1 hx).2
  have hy' := (List.mem_filter.1 hy).2
  simp only [decide_eq_true_eq] at hx' hy'
  exact hxy (hx'.1.trans hy'.1.symm) (hx'.2.trans hy'.2.symm)

/-- **Source positions are unique and ordered.**  Over any database, in every
run of any processes, whatever transactions abort and whichever processes die
or reopen: the positions issued for one node of one producer are strictly
increasing in commit order, and no `(epoch, sequence)` is issued twice. -/
theorem positions_strictly_increasing (db : PositionsDb)
    (es : List PositionsEvent) (s : PositionsState)
    (h : Run.exec positionsStep (PositionsState.fresh db) es = some s)
    (producer node : String) :
    (issuedFor s producer node).Pairwise SourcePosition.Before ∧
      ((issuedFor s producer node).map fun p => (p.epoch, p.sequence)).Nodup := by
  have hI : PositionsInv s :=
    Run.exec_invariant (fun _ e _ hI hs => hI.step e hs) (PositionsInv.fresh db) h
  have hordered := issuedFor_pairwise hI producer node
  refine ⟨hordered, ?_⟩
  rw [List.Nodup, List.pairwise_map]
  exact hordered.imp SourcePosition.Before.ne

/-- Two processes, one of which lost its `begin_epoch`, a restart and a fenced
call: the run issues three positions of one node. -/
theorem positions_strictly_increasing_example :
    let es : List PositionsEvent :=
      [.opens 0 "modbus", .opens 1 "modbus", .beginEpoch 0 .commits,
        .next 0 "Speed" none .commits, .beginEpoch 1 .abortsLate,
        .next 0 "Speed" none .commits, .beginEpoch 0 .commitsThenDies,
        .next 1 "Speed" none .commits, .closes 1]
    ∃ s, Run.exec positionsStep (PositionsState.fresh ⟨Table.empty, Table.empty⟩)
        es = some s ∧
      (issuedFor s "modbus" "Speed").length = 3 ∧
      (issuedFor s "modbus" "Speed").Pairwise SourcePosition.Before ∧
      ((issuedFor s "modbus" "Speed").map
        fun p => (p.epoch, p.sequence)).Nodup := by
  intro es
  obtain ⟨s, hs⟩ : ∃ s, Run.exec positionsStep
      (PositionsState.fresh ⟨Table.empty, Table.empty⟩) es = some s :=
    Option.isSome_iff_exists.1 (by decide +kernel)
  refine ⟨s, hs, ?_,
    positions_strictly_increasing _ es s hs "modbus" "Speed"⟩
  have hlen : (Run.exec positionsStep
      (PositionsState.fresh ⟨Table.empty, Table.empty⟩) es).map
        (fun s => (issuedFor s "modbus" "Speed").length) = some 3 := by
    decide +kernel
  simpa [hs] using hlen

end EirvahEdge.Recovery
