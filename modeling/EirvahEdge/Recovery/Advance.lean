import EirvahEdge.Lib.HighWater
import EirvahEdge.Lib.Table
import EirvahEdge.Contracts.Position

/-!
# Consumer high-water marks

`ConsumerStore.advance` guards a consumer against old, repeated and foreign
observations: per topic it keeps the producer, the highest position accepted so
far and the binding (the content) accepted there.

The comparison itself is decided for a single call on any table
(`advance_verdict_iff` and `advance_unchanged`).  Over runs two things hold.
What was accepted for a topic is one producer's strictly increasing sequence
(`AdvanceInv`).  And as long as a topic carries one producer's observations and
a position has one content, a call is one step of a high-water mark
(`advance_lookup_eq_raise`), so the row a topic ends with is the greatest
observation it was ever shown.

The columns of SQLite hold integers below `2 ^ 63`.  An epoch or sequence beyond
them is refused with an `OverflowError` when the row is written; such a call gives
no verdict and changes nothing, and is left out here.
-/

namespace EirvahEdge.Recovery

open EirvahEdge.Lib
open EirvahEdge.Contracts

/-! ## The operation -/

/-- A row of `positions(topic PRIMARY KEY, producer, epoch, sequence,
binding)`. -/
structure PositionRow where
  topic : String
  producer : String
  epoch : ℤ
  sequence : ℤ
  binding : String
deriving DecidableEq, Repr

abbrev PositionTable := Table PositionRow.topic

/-- What `advance` answers. -/
inductive Verdict where
  | accepted
  | producerConflict
  | oldEpoch
  | outOfOrder
  | duplicate
  | positionConflict
deriving DecidableEq, Repr

/-- The text of the answer. -/
def Verdict.text : Verdict → String
  | .accepted => "accepted"
  | .producerConflict => "producer_conflict"
  | .oldEpoch => "old_epoch"
  | .outOfOrder => "out_of_order"
  | .duplicate => "duplicate"
  | .positionConflict => "position_conflict"

/-- The row an accepted observation leaves. -/
def positionRow (topic : String) (position : SourcePosition) (binding : String) :
    PositionRow :=
  ⟨topic, position.producer, position.epoch, position.sequence, binding⟩

/-- The comparisons of `advance` with the retained row, in their order. -/
def compare (old : PositionRow) (position : SourcePosition) (binding : String) :
    Verdict :=
  if old.producer ≠ position.producer then .producerConflict
  else if position.epoch < old.epoch then .oldEpoch
  else if position.epoch = old.epoch then
    if position.sequence < old.sequence then .outOfOrder
    else if position.sequence = old.sequence then
      if old.binding = binding then .duplicate else .positionConflict
    else .accepted
  else .accepted

/-- `ConsumerStore.advance`. -/
def advance (positions : PositionTable) (topic : String)
    (position : SourcePosition) (binding : String) : PositionTable × Verdict :=
  match positions.lookup topic with
  | some old =>
      match compare old position binding with
      | .accepted =>
          (positions.replace (positionRow topic position binding), .accepted)
      | verdict => (positions, verdict)
  | none => (positions.replace (positionRow topic position binding), .accepted)

/-! ## One call -/

/-- The position a row retains. -/
def PositionRow.position (r : PositionRow) : SourcePosition :=
  { producer := r.producer, epoch := r.epoch, sequence := r.sequence }

@[simp] theorem positionRow_topic (topic : String) (p : SourcePosition)
    (binding : String) : (positionRow topic p binding).topic = topic := rfl

/-- A row retains the position it was made from, as far as the order goes. -/
theorem before_positionRow_iff {topic binding : String} {p q : SourcePosition} :
    (positionRow topic p binding).position.Before q ↔ p.Before q := Iff.rfl

/-- What each answer means, as a relation between the retained row and the
observation. -/
def Verdict.Means (verdict : Verdict) (old : Option PositionRow)
    (p : SourcePosition) (binding : String) : Prop :=
  match verdict with
  | .accepted => ∀ r, old = some r →
      r.producer = p.producer ∧ r.position.Before p
  | .producerConflict => ∃ r, old = some r ∧ r.producer ≠ p.producer
  | .oldEpoch => ∃ r, old = some r ∧ r.producer = p.producer ∧
      p.epoch < r.epoch
  | .outOfOrder => ∃ r, old = some r ∧ r.producer = p.producer ∧
      p.epoch = r.epoch ∧ p.sequence < r.sequence
  | .duplicate => ∃ r, old = some r ∧ r.producer = p.producer ∧
      p.epoch = r.epoch ∧ p.sequence = r.sequence ∧ r.binding = binding
  | .positionConflict => ∃ r, old = some r ∧ r.producer = p.producer ∧
      p.epoch = r.epoch ∧ p.sequence = r.sequence ∧ r.binding ≠ binding

/-- At most one answer fits an observation. -/
theorem Verdict.Means.unique {v w : Verdict} {old : Option PositionRow}
    {p : SourcePosition} {binding : String} (hv : v.Means old p binding)
    (hw : w.Means old p binding) : v = w := by
  cases old with
  | none => cases v <;> cases w <;> simp_all [Verdict.Means]
  | some r =>
      simp only [Verdict.Means, Option.some.injEq, exists_eq_left', forall_eq',
        SourcePosition.Before, PositionRow.position] at hv hw
      cases v <;> cases w <;> grind

/-- The comparison with a retained row gives the answer that fits. -/
theorem compare_means (old : PositionRow) (p : SourcePosition)
    (binding : String) :
    (compare old p binding).Means (some old) p binding := by
  unfold compare
  by_cases hproducer : old.producer = p.producer
  · rw [if_neg (not_not.2 hproducer)]
    by_cases hepoch : p.epoch < old.epoch
    · rw [if_pos hepoch]
      exact ⟨old, rfl, hproducer, hepoch⟩
    · rw [if_neg hepoch]
      by_cases heq : p.epoch = old.epoch
      · rw [if_pos heq]
        by_cases hseq : p.sequence < old.sequence
        · rw [if_pos hseq]
          exact ⟨old, rfl, hproducer, heq, hseq⟩
        · rw [if_neg hseq]
          by_cases hsame : p.sequence = old.sequence
          · rw [if_pos hsame]
            by_cases hbinding : old.binding = binding
            · rw [if_pos hbinding]
              exact ⟨old, rfl, hproducer, heq, hsame, hbinding⟩
            · rw [if_neg hbinding]
              exact ⟨old, rfl, hproducer, heq, hsame, hbinding⟩
          · rw [if_neg hsame]
            rintro r ⟨rfl⟩
            exact ⟨hproducer, Or.inr ⟨heq.symm, by
              show old.sequence < p.sequence
              omega⟩⟩
      · rw [if_neg heq]
        rintro r ⟨rfl⟩
        exact ⟨hproducer, Or.inl (by
          show old.epoch < p.epoch
          omega)⟩
  · rw [if_pos hproducer]
    exact ⟨old, rfl, hproducer⟩

/-- The answer of a call is the one that fits. -/
theorem advance_means (t : PositionTable) (topic : String) (p : SourcePosition)
    (binding : String) :
    (advance t topic p binding).2.Means (t.lookup topic) p binding := by
  unfold advance
  cases hold : t.lookup topic with
  | none => simp [Verdict.Means]
  | some old =>
      have hmeans := compare_means old p binding
      cases hc : compare old p binding <;> simpa [hc] using hmeans

/-- The answer is exactly the outcome of the comparison. -/
theorem advance_verdict_iff (t : PositionTable) (topic : String)
    (p : SourcePosition) (binding : String) (v : Verdict) :
    (advance t topic p binding).2 = v ↔ v.Means (t.lookup topic) p binding :=
  ⟨fun h => h ▸ advance_means t topic p binding,
    fun h => (advance_means t topic p binding).unique h⟩

/-- A call that is not accepted leaves the whole table as it was. -/
theorem advance_unchanged {t : PositionTable} {topic : String}
    {p : SourcePosition} {binding : String}
    (h : (advance t topic p binding).2 ≠ .accepted) :
    (advance t topic p binding).1 = t := by
  unfold advance at h ⊢
  cases hold : t.lookup topic with
  | none => simp [hold] at h
  | some old =>
      simp only [hold] at h ⊢
      cases hc : compare old p binding <;> simp_all

/-- An accepted call retains the observation for its topic and touches no
other topic. -/
theorem advance_accepted {t : PositionTable} {topic : String}
    {p : SourcePosition} {binding : String}
    (h : (advance t topic p binding).2 = .accepted) :
    (advance t topic p binding).1 = t.replace (positionRow topic p binding) := by
  unfold advance at h ⊢
  cases hold : t.lookup topic with
  | none => rfl
  | some old =>
      simp only [hold] at h ⊢
      cases hc : compare old p binding <;> simp_all

theorem advance_lookup_other {t : PositionTable} {topic other : String}
    {p : SourcePosition} {binding : String} (h : topic ≠ other) :
    (advance t topic p binding).1.lookup other = t.lookup other := by
  by_cases hv : (advance t topic p binding).2 = .accepted
  · rw [advance_accepted hv, Table.lookup_replace]
    exact if_neg h
  · rw [advance_unchanged hv]

/-! ## Runs of calls -/

/-- One call, or a restart of the process on the surviving database. -/
inductive AdvanceEvent where
  | advance (topic : String) (position : SourcePosition) (binding : String)
  | reopen
deriving DecidableEq, Repr

/-- The database and the calls accepted so far, newest first. -/
structure AdvanceState where
  positions : PositionTable
  accepted : List (String × SourcePosition)

/-- One event.  `reopen` finds the database as it was committed. -/
def advanceStep (s : AdvanceState) : AdvanceEvent → AdvanceState
  | .reopen => s
  | .advance topic position binding =>
      let (positions, verdict) := advance s.positions topic position binding
      { positions := positions
        accepted :=
          if verdict = .accepted then (topic, position) :: s.accepted
          else s.accepted }

/-- The store of a new consumer. -/
def AdvanceState.fresh : AdvanceState := ⟨Table.empty, []⟩

def advanceRun (s : AdvanceState) (es : List AdvanceEvent) : AdvanceState :=
  es.foldl advanceStep s

/-- The positions accepted for a topic, oldest first. -/
def acceptedFor (s : AdvanceState) (topic : String) : List SourcePosition :=
  ((s.accepted.filter fun x => decide (x.1 = topic)).map Prod.snd).reverse

/-- The observations a run delivers to a topic. -/
def deliveredTo (topic : String) : List AdvanceEvent → List (SourcePosition × String)
  | [] => []
  | .advance topic' p binding :: es =>
      if topic' = topic then (p, binding) :: deliveredTo topic es
      else deliveredTo topic es
  | .reopen :: es => deliveredTo topic es

/-- A later acceptance of a topic is the same producer's and strictly above. -/
def Supersedes (newer older : String × SourcePosition) : Prop :=
  newer.1 = older.1 →
    newer.2.producer = older.2.producer ∧ older.2.Before newer.2

/-- The accepted calls are ordered, and the retained row of a topic is at or
above everything accepted for it, under the same producer. -/
structure AdvanceInv (s : AdvanceState) : Prop where
  retained : ∀ x ∈ s.accepted, ∃ r, s.positions.lookup x.1 = some r ∧
    r.producer = x.2.producer ∧ ¬ r.position.Before x.2
  ordered : s.accepted.Pairwise Supersedes

theorem AdvanceInv.step {s : AdvanceState} (e : AdvanceEvent)
    (hI : AdvanceInv s) : AdvanceInv (advanceStep s e) := by
  cases e with
  | reopen => exact hI
  | advance topic p binding =>
      simp only [advanceStep]
      by_cases hv : (advance s.positions topic p binding).2 = .accepted
      · have hmeans := (advance_verdict_iff _ _ _ _ _).1 hv
        rw [if_pos hv, advance_accepted hv]
        -- an older acceptance of the topic is at or below the retained row,
        -- and the accepted position is strictly above that row
        have hnew : ∀ x ∈ s.accepted, Supersedes (topic, p) x := by
          intro x hx htopic
          obtain ⟨r, hr, hproducer, hnot⟩ := hI.retained x hx
          obtain ⟨hp, hbefore⟩ := hmeans r (by
            simpa [← show topic = x.1 from htopic] using hr)
          exact ⟨hp.symm.trans hproducer, hbefore.of_not_before hnot⟩
        refine ⟨?_, List.pairwise_cons.2 ⟨hnew, hI.ordered⟩⟩
        intro x hx
        rcases List.mem_cons.1 hx with rfl | hx
        · refine ⟨positionRow topic p binding, ?_, rfl, ?_⟩
          · simp [Table.lookup_replace]
          · rw [before_positionRow_iff]
            exact SourcePosition.Before.irrefl p
        · by_cases htopic : topic = x.1
          · obtain ⟨hproducer, hbefore⟩ := hnew x hx htopic
            refine ⟨positionRow topic p binding, ?_, hproducer, ?_⟩
            · simp [Table.lookup_replace, htopic]
            · rw [before_positionRow_iff]
              exact fun h => SourcePosition.Before.irrefl p (h.trans hbefore)
          · obtain ⟨r, hr, hrest⟩ := hI.retained x hx
            exact ⟨r, by simpa [Table.lookup_replace, htopic] using hr, hrest⟩
      · rw [if_neg hv, advance_unchanged hv]
        exact hI

theorem AdvanceInv.fresh : AdvanceInv AdvanceState.fresh :=
  ⟨by simp [AdvanceState.fresh], List.Pairwise.nil⟩

theorem AdvanceInv.run {s : AdvanceState} (hI : AdvanceInv s)
    (es : List AdvanceEvent) : AdvanceInv (advanceRun s es) := by
  induction es generalizing s with
  | nil => exact hI
  | cons e es ih => exact ih (hI.step e)

/-- What one topic accepted is ordered and has one producer. -/
theorem acceptedFor_pairwise {s : AdvanceState} (hI : AdvanceInv s)
    (topic : String) :
    (acceptedFor s topic).Pairwise fun p q =>
      p.producer = q.producer ∧ p.Before q := by
  rw [acceptedFor, List.pairwise_reverse, List.pairwise_map]
  refine List.Pairwise.imp_of_mem ?_ (hI.ordered.filter _)
  intro x y hx hy hxy
  have hx' : x.1 = topic := by simpa using (List.mem_filter.1 hx).2
  have hy' : y.1 = topic := by simpa using (List.mem_filter.1 hy).2
  obtain ⟨hproducer, hbefore⟩ := hxy (hx'.trans hy'.symm)
  exact ⟨hproducer.symm, hbefore⟩

/-! ## A topic with one producer is a high-water mark -/

/-- The greatest observation of a list, the first one where marks repeat. -/
def greatest (topic : String) (xs : List (SourcePosition × String))
    (o : Option PositionRow) : Option PositionRow :=
  (xs.map fun x => positionRow topic x.1 x.2).foldl
    (HighWater.raise fun r => r.position.rank) o

/-- Under one producer a call raises the mark of its topic. -/
theorem advance_lookup_eq_raise {t : PositionTable} {topic : String}
    {p : SourcePosition} {binding : String}
    (hproducer : ∀ r, t.lookup topic = some r → r.producer = p.producer) :
    (advance t topic p binding).1.lookup topic =
      HighWater.raise (fun r => r.position.rank) (t.lookup topic)
        (positionRow topic p binding) := by
  by_cases hv : (advance t topic p binding).2 = .accepted
  · have hmeans := (advance_verdict_iff _ _ _ _ _).1 hv
    rw [advance_accepted hv, Table.lookup_replace, if_pos (positionRow_topic ..)]
    cases hold : t.lookup topic with
    | none => rfl
    | some r =>
        have hbefore : r.position.rank < (positionRow topic p binding).position.rank :=
          SourcePosition.rank_lt_iff.2 (hmeans r hold).2
        rw [HighWater.raise, if_pos hbefore]
  · rw [advance_unchanged hv]
    cases hold : t.lookup topic with
    | none =>
        exact absurd ((advance_verdict_iff _ _ _ _ _).2
          (by simp [Verdict.Means, hold])) hv
    | some r =>
        have hnot : ¬ r.position.rank < (positionRow topic p binding).position.rank := by
          intro hlt
          refine hv ((advance_verdict_iff _ _ _ _ _).2 ?_)
          intro r' hr'
          obtain rfl : r = r' := Option.some.inj (hold.symm.trans hr')
          exact ⟨hproducer r hold, SourcePosition.rank_lt_iff.1 hlt⟩
        rw [HighWater.raise, if_neg hnot]

/-- A run whose observations of a topic come from one producer leaves the
topic with the greatest of them. -/
theorem advanceRun_lookup {topic producer : String} (es : List AdvanceEvent)
    (s : AdvanceState)
    (hone : ∀ x ∈ deliveredTo topic es, x.1.producer = producer)
    (hrow : ∀ r, s.positions.lookup topic = some r → r.producer = producer) :
    (advanceRun s es).positions.lookup topic =
      greatest topic (deliveredTo topic es) (s.positions.lookup topic) := by
  induction es generalizing s with
  | nil => rfl
  | cons e es ih =>
      cases e with
      | reopen => exact ih s hone hrow
      | advance topic' p binding =>
          by_cases htopic : topic' = topic
          · subst htopic
            simp only [deliveredTo, if_true, List.forall_mem_cons] at hone
            have hraise : (advance s.positions topic' p binding).1.lookup topic' =
                HighWater.raise (fun r => r.position.rank)
                  (s.positions.lookup topic') (positionRow topic' p binding) :=
              advance_lookup_eq_raise fun r hr => (hrow r hr).trans hone.1.symm
            rw [show advanceRun s (.advance topic' p binding :: es) =
              advanceRun (advanceStep s (.advance topic' p binding)) es from rfl]
            rw [ih _ hone.2]
            · simp only [advanceStep, hraise, deliveredTo, if_true, greatest,
                List.map_cons, List.foldl_cons]
            · intro r hr
              simp only [advanceStep, hraise] at hr
              rcases (HighWater.raise_eq_some hr).2.2 with rfl | hold
              · exact hone.1
              · exact hrow r hold
          · simp only [deliveredTo, if_neg htopic] at hone ⊢
            have hsame : (advance s.positions topic' p binding).1.lookup topic =
                s.positions.lookup topic := advance_lookup_other htopic
            rw [show advanceRun s (.advance topic' p binding :: es) =
              advanceRun (advanceStep s (.advance topic' p binding)) es from rfl]
            rw [ih _ hone]
            · simp only [advanceStep, hsame]
            · intro r hr
              exact hrow r (by simpa only [advanceStep, hsame] using hr)

/-- Observations of one producer with one content per position: equal marks
mean equal rows. -/
theorem positionRow_inj {topic producer : String}
    {xs : List (SourcePosition × String)}
    (hone : ∀ x ∈ xs, x.1.producer = producer)
    (hbinding : ∀ x ∈ xs, ∀ y ∈ xs, x.1.epoch = y.1.epoch →
      x.1.sequence = y.1.sequence → x.2 = y.2) :
    ∀ r ∈ xs.map fun x => positionRow topic x.1 x.2,
      ∀ r' ∈ xs.map fun x => positionRow topic x.1 x.2,
        r.position.rank = r'.position.rank → r = r' := by
  intro r hr r' hr' hrank
  obtain ⟨x, hx, rfl⟩ := List.mem_map.1 hr
  obtain ⟨y, hy, rfl⟩ := List.mem_map.1 hr'
  obtain ⟨hepoch, hseq⟩ := SourcePosition.rank_eq_iff.1 hrank
  have hproducer : x.1.producer = y.1.producer := (hone x hx).trans (hone y hy).symm
  have hb := hbinding x hx y hy hepoch hseq
  simp only [positionRow, PositionRow.mk.injEq, true_and]
  exact ⟨hproducer, hepoch, hseq, hb⟩

/-- A new store shown one producer's observations retains the greatest of
them: one that was delivered and that no delivered one is above. -/
theorem advanceRun_greatest {topic producer : String} (es : List AdvanceEvent)
    (hone : ∀ x ∈ deliveredTo topic es, x.1.producer = producer) :
    (deliveredTo topic es = [] →
      (advanceRun .fresh es).positions.lookup topic = none) ∧
    (deliveredTo topic es ≠ [] →
      ∃ x ∈ deliveredTo topic es,
        (advanceRun .fresh es).positions.lookup topic =
          some (positionRow topic x.1 x.2) ∧
        ∀ y ∈ deliveredTo topic es, ¬ x.1.Before y.1) := by
  have hrun := advanceRun_lookup es AdvanceState.fresh hone
    (by simp [AdvanceState.fresh])
  rw [hrun]
  constructor
  · intro hnil
    rw [hnil]
    rfl
  · intro hne
    have hsome : (greatest topic (deliveredTo topic es) none).isSome :=
      HighWater.foldl_raise_isSome none (Or.inl (by simpa using hne))
    obtain ⟨r, hr⟩ := Option.isSome_iff_exists.1 hsome
    have hmem := HighWater.foldl_raise_mem hr
    simp only [reduceCtorEq, or_false, List.mem_map] at hmem
    obtain ⟨x, hx, rfl⟩ := hmem
    refine ⟨x, hx, hr, fun y hy hlt => ?_⟩
    have hle := (HighWater.foldl_raise_ge hr).1 (positionRow topic y.1 y.2)
      (List.mem_map_of_mem hy)
    exact absurd (SourcePosition.rank_lt_iff.2 hlt) (not_lt.2 hle)

/-- **Consumer high-water marks.**  For every topic and every run of calls and
restarts on a new store: the accepted positions carry the producer of the first
one and are strictly increasing; every call, on any table, answers exactly the
outcome of its comparison and leaves the table unchanged unless it accepts; and
any two runs that deliver the same observations of one producer to the topic,
with one content per position, in whatever orders and with whatever
repetitions, restarts and other topics in between, end with the same row, the
one of the greatest position. -/
theorem advance_highWater (topic : String) (es : List AdvanceEvent) :
    (∀ first ∈ (acceptedFor (advanceRun .fresh es) topic).head?,
      ∀ p ∈ acceptedFor (advanceRun .fresh es) topic,
        p.producer = first.producer) ∧
    (acceptedFor (advanceRun .fresh es) topic).Pairwise SourcePosition.Before ∧
    (∀ (t : PositionTable) (p : SourcePosition) (binding : String),
      (∀ v, (advance t topic p binding).2 = v ↔
        v.Means (t.lookup topic) p binding) ∧
      ((advance t topic p binding).2 ≠ .accepted →
        (advance t topic p binding).1 = t)) ∧
    (∀ (producer : String) (fs : List AdvanceEvent),
      (∀ x ∈ deliveredTo topic es, x.1.producer = producer) →
      (∀ x ∈ deliveredTo topic es, ∀ y ∈ deliveredTo topic es,
        x.1.epoch = y.1.epoch → x.1.sequence = y.1.sequence → x.2 = y.2) →
      (∀ x, x ∈ deliveredTo topic es ↔ x ∈ deliveredTo topic fs) →
      (advanceRun .fresh es).positions.lookup topic =
        (advanceRun .fresh fs).positions.lookup topic ∧
      (deliveredTo topic es ≠ [] →
        ∃ x ∈ deliveredTo topic es,
          (advanceRun .fresh es).positions.lookup topic =
            some (positionRow topic x.1 x.2) ∧
          ∀ y ∈ deliveredTo topic es, ¬ x.1.Before y.1)) := by
  have hordered := acceptedFor_pairwise (AdvanceInv.fresh.run es) topic
  refine ⟨?_, hordered.imp And.right, ?_, ?_⟩
  · intro first hfirst p hp
    cases hacc : acceptedFor (advanceRun .fresh es) topic with
    | nil => simp [hacc] at hp
    | cons q qs =>
        rw [hacc] at hfirst hp hordered
        obtain rfl : q = first := by simpa using hfirst
        rcases List.mem_cons.1 hp with rfl | hp
        · rfl
        · exact ((List.pairwise_cons.1 hordered).1 p hp).1.symm
  · exact fun t p binding =>
      ⟨advance_verdict_iff t topic p binding, advance_unchanged⟩
  · intro producer fs hone hbinding hsame
    refine ⟨?_, (advanceRun_greatest es hone).2⟩
    rw [advanceRun_lookup es .fresh hone (by simp [AdvanceState.fresh]),
      advanceRun_lookup fs .fresh (fun x hx => hone x ((hsame x).2 hx))
        (by simp [AdvanceState.fresh])]
    refine HighWater.foldl_raise_congr ?_ (positionRow_inj hone hbinding)
    intro r
    simp only [List.mem_map]
    exact exists_congr fun x => and_congr_left fun _ => hsame x

/-- Two epochs delivered in order, and again late, twice and after a restart. -/
theorem advance_highWater_example :
    let at' (epoch sequence : ℤ) : SourcePosition :=
      { producer := "modbus/Speed", epoch := epoch, sequence := sequence }
    let es : List AdvanceEvent :=
      [.advance "speed" (at' 1 1) "a", .advance "speed" (at' 1 2) "b",
        .advance "speed" (at' 2 1) "c"]
    let fs : List AdvanceEvent :=
      [.advance "speed" (at' 2 1) "c", .reopen, .advance "speed" (at' 1 2) "b",
        .advance "other" (at' 9 9) "z", .advance "speed" (at' 1 1) "a",
        .advance "speed" (at' 2 1) "c"]
    (advanceRun .fresh es).positions.lookup "speed" =
      (advanceRun .fresh fs).positions.lookup "speed" := by
  intro at' es fs
  refine ((advance_highWater "speed" es).2.2.2 "modbus/Speed" fs
    (by decide +kernel) (by decide +kernel) ?_).1
  intro x
  constructor
  · exact fun h => (show ∀ x ∈ deliveredTo "speed" es, x ∈ deliveredTo "speed" fs
      by decide +kernel) x h
  · exact fun h => (show ∀ x ∈ deliveredTo "speed" fs, x ∈ deliveredTo "speed" es
      by decide +kernel) x h

end EirvahEdge.Recovery
