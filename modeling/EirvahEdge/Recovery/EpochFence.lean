import EirvahEdge.Recovery.Positions

/-!
# The epoch as a fence

The epoch is there to keep an old adapter process from numbering samples after a
new one took over: `next` should succeed on an object only while the latest
committed `begin_epoch` of its producer is that object's own.

To say so, the system of `Positions` is watched: every `ProducerPositions` object
gets a number, and for every producer it is noted which object made the latest
committed `begin_epoch`.  `FenceHolds` is the fence, and `NoStaleCopy` is the
condition on one step under which it lasts: a committed `begin_epoch` must not
arrive at the number some other object of the producer already holds in memory.

An object can hold a number that is not yet in the database because `begin_epoch`
assigns the number before its transaction commits.  Without a transaction that
aborts after the assignment there is no such number (`guarded_of_noLateAbort`).
-/

namespace EirvahEdge.Recovery

open EirvahEdge.Lib
open EirvahEdge.Contracts

/-! ## Watching the objects -/

/-- The system with the number of the object behind each index and, for every
producer, the object that made the latest committed `begin_epoch`. -/
structure WatchedPositions where
  base : PositionsState
  object : ℕ → ℕ
  created : ℕ
  begunBy : String → Option ℕ

/-- What a call that took place adds to the record. -/
def WatchedPositions.after (s : WatchedPositions) (e : PositionsEvent) (base : PositionsState) :
    WatchedPositions :=
  match e with
  | .opens i producer =>
      if producer = "" then { s with base := base }
      else
        { s with
          base := base
          object := Function.update s.object i s.created
          created := s.created + 1 }
  | .beginEpoch i fate =>
      match s.base.instances i with
      | some self =>
          if fate.committed then
            { s with
              base := base
              begunBy := Function.update s.begunBy self.producer (some (s.object i)) }
          else { s with base := base }
      | none => { s with base := base }
  | .closes _ | .next .. => { s with base := base }

def watchedStep (s : WatchedPositions) (e : PositionsEvent) : Option WatchedPositions :=
  (positionsStep s.base e).map (s.after e)

/-- Before the first process, over an empty database. -/
def WatchedPositions.initial : WatchedPositions where
  base := .fresh ⟨Table.empty, Table.empty⟩
  object _ := 0
  created := 0
  begunBy _ := none

/-- **The fence**: where `next` succeeds, the latest committed `begin_epoch` of the
producer was made by this object. -/
def FenceHolds (s : WatchedPositions) : Prop :=
  ∀ i self, s.base.instances i = some self →
    (∃ node expected r, next s.base.db self node expected = .ok r) →
      s.begunBy self.producer = some (s.object i)

/-- A `begin_epoch` that commits does not arrive at the number that another object of
the producer holds. -/
def NoStaleCopy (s : WatchedPositions) : PositionsEvent → Prop
  | .beginEpoch i fate =>
      ∀ self, s.base.instances i = some self → fate.committed = true →
        ∀ j other, j ≠ i → s.base.instances j = some other →
          other.producer = self.producer → other.epoch ≠ nextEpoch s.base.db self.producer
  | _ => True

/-! ## When `next` succeeds -/

/-- The object holds the epoch of the database. -/
def Current (db : PositionsDb) (self : ProducerPositions) : Prop :=
  ∃ row, db.producerEpoch.lookup self.producer = some row ∧ row.epoch = self.epoch

theorem exists_next_ok_iff {db : PositionsDb} {self : ProducerPositions} :
    (∃ node expected r, next db self node expected = .ok r) ↔ Current db self := by
  constructor
  · rintro ⟨node, expected, ⟨db', p⟩, h⟩
    obtain ⟨⟨row, hrow, hp⟩, -⟩ := next_eq_ok h
    refine ⟨row, hrow, ?_⟩
    have hself : p.epoch = self.epoch := by
      unfold next at h
      split at h
      · cases h
      · cases h
        rfl
    exact hp.symm.trans hself
  · rintro ⟨row, hrow, hepoch⟩
    have hfence : fenced db self none = false := by simp [fenced, hrow, hepoch]
    refine ⟨"", none, ?_⟩
    rw [next, hfence]
    exact ⟨_, rfl⟩

theorem fenceHolds_iff {s : WatchedPositions} : FenceHolds s ↔
    ∀ i self, s.base.instances i = some self → Current s.base.db self →
      s.begunBy self.producer = some (s.object i) := by
  simp only [FenceHolds, exists_next_ok_iff]

/-! ## One step -/

/-- Epochs start at one, and objects have different numbers. -/
structure WatchedInv (s : WatchedPositions) : Prop where
  positive : ∀ producer row, s.base.db.producerEpoch.lookup producer = some row → 1 ≤ row.epoch
  numbered : ∀ i self, s.base.instances i = some self → s.object i < s.created
  distinct : ∀ i j self other, s.base.instances i = some self →
    s.base.instances j = some other → s.object i = s.object j → i = j

theorem lookup_beginEpochDb (db : PositionsDb) (producer p : String) :
    (beginEpochDb db producer).producerEpoch.lookup p =
      if producer = p then some ⟨producer, nextEpoch db producer⟩
      else db.producerEpoch.lookup p :=
  Table.lookup_replace _ _ _

theorem nextEpoch_pos {s : WatchedPositions} (h : WatchedInv s) (producer : String) :
    1 ≤ nextEpoch s.base.db producer := by
  unfold nextEpoch
  split
  · next row hrow =>
      have hpos := h.positive producer row hrow
      omega
  · exact le_refl 1

/-- The number of a `begin_epoch` is not the one in the database. -/
theorem not_current_nextEpoch (db : PositionsDb) (producer : String) :
    ¬ Current db ⟨producer, nextEpoch db producer⟩ := by
  rintro ⟨row, hrow, hepoch⟩
  have hnext : nextEpoch db producer = row.epoch + 1 := by simp [nextEpoch, hrow]
  simp only at hepoch
  omega

theorem exists_of_setInstance {base : PositionsState} {i : ℕ} {self : ProducerPositions}
    (hself : base.instances i = some self) {mine : Option ProducerPositions} {j : ℕ}
    {x : ProducerPositions} (hx : (base.setInstance i mine).instances j = some x) :
    ∃ y, base.instances j = some y := by
  by_cases hj : j = i
  · exact ⟨self, hj ▸ hself⟩
  · exact ⟨x, (Function.update_of_ne hj _ _).symm.trans hx⟩

section Steps

variable {s : WatchedPositions} (hI : WatchedInv s)
include hI

/-- A step that opens no object leaves their numbers as they are. -/
theorem WatchedInv.of_objects {t : WatchedPositions}
    (hpositive : ∀ producer row, t.base.db.producerEpoch.lookup producer = some row →
      1 ≤ row.epoch)
    (hobject : t.object = s.object) (hcreated : t.created = s.created)
    (hback : ∀ j x, t.base.instances j = some x → ∃ y, s.base.instances j = some y) :
    WatchedInv t := by
  refine ⟨hpositive, fun j x hx => ?_, fun j k x y hx hy heq => ?_⟩
  · obtain ⟨y, hy⟩ := hback j x hx
    rw [hobject, hcreated]
    exact hI.numbered j y hy
  · obtain ⟨x', hx'⟩ := hback j x hx
    obtain ⟨y', hy'⟩ := hback k y hy
    rw [hobject] at heq
    exact hI.distinct j k x' y' hx' hy' heq

/-- Opening: the new object holds no epoch yet. -/
theorem watched_opens {i : ℕ} {self : ProducerPositions} (hself : self.epoch = 0) :
    let t : WatchedPositions :=
      { s with
        base := s.base.setInstance i (some self)
        object := Function.update s.object i s.created
        created := s.created + 1 }
    WatchedInv t ∧ (FenceHolds s → FenceHolds t) := by
  intro t
  have hother {j : ℕ} (hj : j ≠ i) : t.base.instances j = s.base.instances j ∧
      t.object j = s.object j :=
    ⟨Function.update_of_ne hj _ _, Function.update_of_ne hj _ _⟩
  have hi : t.base.instances i = some self ∧ t.object i = s.created :=
    ⟨Function.update_self _ _ _, Function.update_self _ _ _⟩
  refine ⟨⟨hI.positive, ?_, ?_⟩, ?_⟩
  · intro j x hx
    show t.object j < s.created + 1
    by_cases hj : j = i
    · rw [hj, hi.2]
      exact Nat.lt_succ_self _
    · rw [(hother hj).1] at hx
      rw [(hother hj).2]
      exact Nat.lt_succ_of_lt (hI.numbered j x hx)
  · intro j k x y hx hy heq
    by_cases hj : j = i
    · by_cases hk : k = i
      · rw [hj, hk]
      · rw [(hother hk).1] at hy
        have hlt := hI.numbered k y hy
        rw [hj, hi.2, (hother hk).2] at heq
        omega
    · rw [(hother hj).1] at hx
      have hlt := hI.numbered j x hx
      by_cases hk : k = i
      · rw [hk, hi.2, (hother hj).2] at heq
        omega
      · rw [(hother hk).1] at hy
        rw [(hother hj).2, (hother hk).2] at heq
        exact hI.distinct j k x y hx hy heq
  · intro hP
    rw [fenceHolds_iff] at hP ⊢
    intro j x hx hcurrent
    by_cases hj : j = i
    · rw [hj, hi.1] at hx
      cases hx
      obtain ⟨row, hrow, hepoch⟩ := hcurrent
      have hpos := hI.positive _ row hrow
      omega
    · rw [(hother hj).1] at hx
      rw [(hother hj).2]
      exact hP j x hx hcurrent

/-- Nothing but sequences changes, and objects may go. -/
theorem watched_frame {base : PositionsState}
    (hdb : base.db.producerEpoch = s.base.db.producerEpoch)
    (hinstances : ∀ j x, base.instances j = some x → s.base.instances j = some x) :
    WatchedInv { s with base := base } ∧ (FenceHolds s → FenceHolds { s with base := base }) := by
  refine ⟨hI.of_objects ?_ rfl rfl fun j x hx => ⟨x, hinstances j x hx⟩, ?_⟩
  · intro producer row hrow
    exact hI.positive producer row (hdb ▸ hrow)
  · intro hP
    rw [fenceHolds_iff] at hP ⊢
    rintro j x hx ⟨row, hrow, hepoch⟩
    exact hP j x (hinstances j x hx) ⟨row, hdb ▸ hrow, hepoch⟩

/-- A `begin_epoch` that rolls back leaves an object that is not current. -/
theorem watched_aborted {i : ℕ} {self : ProducerPositions}
    (hself : s.base.instances i = some self) (fate : Fate) :
    let t : WatchedPositions :=
      { s with base := s.base.setInstance i (some (beginEpoch s.base.db self fate).2) }
    WatchedInv t ∧ (FenceHolds s → FenceHolds t) := by
  intro t
  have hother {j : ℕ} (hj : j ≠ i) : t.base.instances j = s.base.instances j :=
    Function.update_of_ne hj _ _
  have hi : t.base.instances i = some (beginEpoch s.base.db self fate).2 :=
    Function.update_self _ _ _
  refine ⟨hI.of_objects hI.positive rfl rfl fun j x => exists_of_setInstance hself, ?_⟩
  · intro hP
    rw [fenceHolds_iff] at hP ⊢
    intro j x hx hcurrent
    by_cases hj : j = i
    · subst hj
      rw [hi] at hx
      cases hx
      by_cases hearly : fate = .abortsEarly
      · have hsame : (beginEpoch s.base.db self fate).2 = self := if_pos hearly
        rw [hsame] at hcurrent ⊢
        exact hP j self hself hcurrent
      · have hnext : (beginEpoch s.base.db self fate).2 =
            ⟨self.producer, nextEpoch s.base.db self.producer⟩ := if_neg hearly
        rw [hnext] at hcurrent
        exact absurd hcurrent (not_current_nextEpoch _ _)
    · rw [hother hj] at hx
      exact hP j x hx hcurrent

/-- A committed `begin_epoch` fences all objects but its own, exactly when none of them
holds the new number. -/
theorem watched_committed {i : ℕ} {self : ProducerPositions}
    (hself : s.base.instances i = some self) {mine : Option ProducerPositions}
    (hmine : ∀ x, mine = some x → x = ⟨self.producer, nextEpoch s.base.db self.producer⟩) :
    let t : WatchedPositions :=
      { s with
        base := ({ s.base with db := beginEpochDb s.base.db self.producer }).setInstance i mine
        begunBy := Function.update s.begunBy self.producer (some (s.object i)) }
    WatchedInv t ∧ (FenceHolds s → (FenceHolds t ↔
      ∀ j other, j ≠ i → s.base.instances j = some other → other.producer = self.producer →
        other.epoch ≠ nextEpoch s.base.db self.producer)) := by
  intro t
  have hlookup (p : String) : t.base.db.producerEpoch.lookup p =
      if self.producer = p then some ⟨self.producer, nextEpoch s.base.db self.producer⟩
      else s.base.db.producerEpoch.lookup p := lookup_beginEpochDb _ _ _
  have hother {j : ℕ} (hj : j ≠ i) : t.base.instances j = s.base.instances j :=
    Function.update_of_ne hj _ _
  have hi : t.base.instances i = mine := Function.update_self _ _ _
  have hbegun : t.begunBy self.producer = some (s.object i) := Function.update_self _ _ _
  refine ⟨hI.of_objects ?_ rfl rfl fun j x => exists_of_setInstance hself, ?_⟩
  · intro p row hrow
    rw [hlookup] at hrow
    split at hrow
    · cases hrow
      exact nextEpoch_pos hI _
    · exact hI.positive p row hrow
  · intro hP
    rw [fenceHolds_iff] at hP ⊢
    constructor
    · intro hfence j other hj hinstance hproducer hepoch
      have hcurrent : Current t.base.db other :=
        ⟨_, by rw [hlookup, if_pos hproducer.symm], hepoch.symm⟩
      have hsame := hfence j other ((hother hj).trans hinstance) hcurrent
      rw [hproducer, hbegun, Option.some.injEq] at hsame
      exact hj (hI.distinct i j self other hself hinstance hsame).symm
    · rintro hnone j x hx ⟨row, hrow, hepoch⟩
      rw [hlookup] at hrow
      by_cases hp : self.producer = x.producer
      · rw [if_pos hp] at hrow
        cases hrow
        by_cases hj : j = i
        · rw [hj, ← hp, hbegun]
        · rw [hother hj] at hx
          exact absurd hepoch.symm (hnone j x hj hx hp.symm)
      · rw [if_neg hp] at hrow
        have hj : j ≠ i := by
          rintro rfl
          rw [hi] at hx
          exact hp (congrArg ProducerPositions.producer (hmine x hx)).symm
        rw [hother hj] at hx
        have hold := hP j x hx ⟨row, hrow, hepoch⟩
        have hunchanged : t.begunBy x.producer = s.begunBy x.producer :=
          Function.update_of_ne (Ne.symm hp) _ _
        rw [hunchanged]
        exact hold

end Steps

/-- `next` touches no epoch and opens no object. -/
theorem epochs_of_next {s base : PositionsState} {i : ℕ} {node : String} {expected : Option ℤ}
    {fate : Fate} (h : positionsStep s (.next i node expected fate) = some base) :
    base.db.producerEpoch = s.db.producerEpoch ∧
      ∀ j x, base.instances j = some x → s.instances j = some x := by
  simp only [positionsStep] at h
  split at h
  · cases h
  · next self _ =>
      split at h
      · cases h
        exact ⟨rfl, fun _ _ hx => hx⟩
      · next db position hnext =>
          obtain ⟨-, -, hepochs, -⟩ := next_eq_ok hnext
          split at h
          · cases h
            exact ⟨hepochs, fun _ _ hx => hx⟩
          · split at h
            · cases h
              refine ⟨hepochs, fun j x hx => ?_⟩
              by_cases hj : j = i
              · simp [PositionsState.setInstance, hj] at hx
              · simpa [PositionsState.setInstance, Function.update_of_ne hj] using hx
            · cases h
              exact ⟨rfl, fun _ _ hx => hx⟩

/-- **One step** keeps the fence exactly when it makes no stale copy current. -/
theorem watchedStep_fence {s t : WatchedPositions} {e : PositionsEvent} (hI : WatchedInv s)
    (hP : FenceHolds s) (h : watchedStep s e = some t) :
    WatchedInv t ∧ (FenceHolds t ↔ NoStaleCopy s e) := by
  obtain ⟨base, hbase, rfl⟩ := Option.map_eq_some_iff.1 h
  cases e with
  | opens i producer =>
      simp only [NoStaleCopy, iff_true]
      by_cases hempty : producer = ""
      · have hsame : base = s.base := by
          simpa [positionsStep, ProducerPositions.init, hempty] using hbase.symm
        have hafter : s.after (.opens i producer) base = { s with base := base } := if_pos hempty
        rw [hafter, hsame]
        exact ⟨hI, hP⟩
      · have hopened : base = s.base.setInstance i (some ⟨producer, 0⟩) := by
          simpa [positionsStep, ProducerPositions.init, hempty] using hbase.symm
        obtain ⟨hinv, hfence⟩ := watched_opens hI (i := i)
          (show (⟨producer, 0⟩ : ProducerPositions).epoch = 0 from rfl)
        rw [WatchedPositions.after, if_neg hempty, hopened]
        exact ⟨hinv, hfence hP⟩
  | closes i =>
      simp only [NoStaleCopy, iff_true]
      obtain rfl : s.base.setInstance i none = base := Option.some.inj hbase
      have hdb : (s.base.setInstance i none).db.producerEpoch = s.base.db.producerEpoch := rfl
      obtain ⟨hinv, hfence⟩ := watched_frame hI hdb
        fun j x hx => by
          by_cases hj : j = i
          · rw [PositionsState.setInstance, hj] at hx
            simp at hx
          · simpa [PositionsState.setInstance, Function.update_of_ne hj] using hx
      exact ⟨hinv, hfence hP⟩
  | next i node expected fate =>
      simp only [NoStaleCopy, iff_true]
      have hframe := epochs_of_next hbase
      obtain ⟨hinv, hfence⟩ := watched_frame hI hframe.1 hframe.2
      exact ⟨hinv, hfence hP⟩
  | beginEpoch i fate =>
      cases hself : s.base.instances i with
      | none => simp [positionsStep, hself] at hbase
      | some self =>
          have hmoved : base = ({ s.base with
              db := if fate.committed then beginEpochDb s.base.db self.producer else s.base.db
                }).setInstance i (if fate = Fate.commitsThenDies then none
                  else some (beginEpoch s.base.db self fate).2) := by
            simpa [positionsStep, hself, beginEpoch] using hbase.symm
          by_cases hcommitted : fate.committed = true
          · have hguard : NoStaleCopy s (.beginEpoch i fate) ↔
                ∀ j other, j ≠ i → s.base.instances j = some other →
                  other.producer = self.producer →
                    other.epoch ≠ nextEpoch s.base.db self.producer := by
              constructor
              · exact fun hguard => hguard self hself hcommitted
              · intro hall x hx _
                rw [hself] at hx
                cases hx
                exact hall
            have hmine : ∀ x, (if fate = Fate.commitsThenDies then none
                else some (beginEpoch s.base.db self fate).2) = some x →
                  x = ⟨self.producer, nextEpoch s.base.db self.producer⟩ := by
              intro x hx
              cases fate with
              | commits => exact (Option.some.inj hx).symm
              | commitsThenDies => cases hx
              | abortsEarly => cases hcommitted
              | abortsLate => cases hcommitted
            obtain ⟨hinv, hfence⟩ := watched_committed hI hself hmine
            rw [hguard]
            rw [if_pos hcommitted] at hmoved
            simp only [WatchedPositions.after, hself, hcommitted, if_true, hmoved]
            exact ⟨hinv, hfence hP⟩
          · have hguard : NoStaleCopy s (.beginEpoch i fate) :=
              fun _ _ h => absurd h hcommitted
            have hlives : fate ≠ .commitsThenDies := by
              rintro rfl
              exact hcommitted rfl
            obtain ⟨hinv, hfence⟩ := watched_aborted hI hself fate
            rw [if_neg hcommitted, if_neg hlives] at hmoved
            simp only [WatchedPositions.after, hself, hcommitted, hmoved]
            exact ⟨hinv, iff_of_true (hfence hP) hguard⟩

/-! ## Whole runs -/

theorem watchedInv_initial : WatchedInv .initial := by
  constructor
  · intro producer row hrow
    cases hrow
  · intro i self hself
    cases hself
  · intro i j self other hself
    cases hself

theorem fenceHolds_initial : FenceHolds .initial := by
  intro i self hself
  cases hself

/-- **The epoch fences.**  In every run of any processes on one database, whichever
transactions abort, `next` succeeds in every state only on the object that made the
latest committed `begin_epoch` of its producer, exactly when every committed
`begin_epoch` arrives at a number that no other object of the producer holds. -/
theorem epochFence_iff_guarded (es : List PositionsEvent) :
    Run.Always watchedStep FenceHolds .initial es ↔
      Run.Guarded watchedStep NoStaleCopy .initial es := by
  refine Run.always_iff_guarded (I := WatchedInv)
    (fun s e t hI hP h => watchedStep_fence hI hP h) (fun s e _ h => ?_)
    watchedInv_initial fenceHolds_initial
  have hbase : positionsStep s.base e = none := Option.map_eq_none_iff.1 h
  cases e with
  | beginEpoch i fate =>
      intro self hself
      simp [positionsStep, hself] at hbase
  | opens | closes | next => exact trivial

/-- One process loses its `begin_epoch` after the number was assigned, another one
commits the same number: the first one numbers samples in an epoch it did not begin. -/
theorem issues_in_foreign_epoch :
    let es : List PositionsEvent :=
      [.opens 0 "opcua", .opens 1 "opcua", .beginEpoch 0 .abortsLate, .beginEpoch 1 .commits]
    ∃ s t, Run.exec watchedStep .initial es = some s ∧
      s.begunBy "opcua" = some (s.object 1) ∧ s.object 0 ≠ s.object 1 ∧
      watchedStep s (.next 0 "Speed" none .commits) = some t ∧
      t.base.issued = [⟨"opcua", "Speed", ⟨"opcua/Speed", 1, 1, "adapter"⟩⟩] ∧
      ¬ Run.Always watchedStep FenceHolds .initial es := by
  intro es
  have hrun : (Run.exec watchedStep .initial es).map (fun s =>
      (s.begunBy "opcua", s.object 0, s.object 1)) = some (some 1, 0, 1) := by decide +kernel
  have hcopy : (Run.exec watchedStep .initial es).map (fun s =>
      (s.base.instances 0, s.base.db.producerEpoch.lookup "opcua")) =
      some (some ⟨"opcua", 1⟩, some ⟨"opcua", 1⟩) := by decide +kernel
  have hissued : (Run.exec watchedStep .initial (es ++ [.next 0 "Speed" none .commits])).map
      (fun t => t.base.issued) =
      some [⟨"opcua", "Speed", ⟨"opcua/Speed", 1, 1, "adapter"⟩⟩] := by decide +kernel
  obtain ⟨s, hs, hnumbers⟩ := Option.map_eq_some_iff.1 hrun
  obtain ⟨s', hs', hcopy⟩ := Option.map_eq_some_iff.1 hcopy
  obtain rfl : s = s' := Option.some.inj (hs.symm.trans hs')
  obtain ⟨t, ht, hissued⟩ := Option.map_eq_some_iff.1 hissued
  obtain ⟨s', hs', ht⟩ := Run.exec_append_eq_some.1 ht
  obtain rfl : s = s' := Option.some.inj (hs.symm.trans hs')
  obtain ⟨u, hu, hend⟩ := Run.exec_cons_eq_some.1 ht
  obtain rfl : u = t := by simpa using hend
  simp only [Prod.mk.injEq] at hnumbers hcopy
  have hdiff : s.object 0 ≠ s.object 1 := by omega
  refine ⟨s, u, hs, hnumbers.1.trans (congrArg some hnumbers.2.2.symm), hdiff, hu, hissued,
    fun halways => ?_⟩
  have halways' : Run.Always watchedStep FenceHolds .initial (es ++ []) := by
    rw [List.append_nil]
    exact halways
  have hfence := fenceHolds_iff.1 (halways'.of_exec hs) 0 ⟨"opcua", 1⟩ hcopy.1
    ⟨⟨"opcua", 1⟩, hcopy.2, rfl⟩
  have hobject := Option.some.inj (hnumbers.1.symm.trans hfence)
  omega

/-! ## Without late aborts -/

/-- No `begin_epoch` rolls back after it assigned its number. -/
def NoLateAbort (_ : WatchedPositions) : PositionsEvent → Prop
  | .beginEpoch _ fate => fate ≠ .abortsLate
  | _ => True

/-- No object holds a number that is not in the database yet. -/
def CopiesBehind (s : PositionsState) : Prop :=
  ∀ i self, s.instances i = some self → self.epoch < nextEpoch s.db self.producer

theorem nextEpoch_beginEpochDb (db : PositionsDb) (producer p : String) :
    nextEpoch (beginEpochDb db producer) p =
      if producer = p then nextEpoch db producer + 1 else nextEpoch db p := by
  unfold nextEpoch
  rw [lookup_beginEpochDb]
  by_cases h : producer = p
  · rw [if_pos h, if_pos h]
    rfl
  · rw [if_neg h, if_neg h]

theorem copiesBehind_step {s t : WatchedPositions} {e : PositionsEvent} (hI : WatchedInv s)
    (hC : CopiesBehind s.base) (hG : NoLateAbort s e) (h : watchedStep s e = some t) :
    CopiesBehind t.base := by
  obtain ⟨base, hbase, rfl⟩ := Option.map_eq_some_iff.1 h
  have hbase' : (s.after e base).base = base := by
    unfold WatchedPositions.after
    cases e with
    | opens i producer => dsimp only; split_ifs <;> rfl
    | closes | next => rfl
    | beginEpoch i fate =>
        dsimp only
        split
        · split_ifs <;> rfl
        · rfl
  rw [hbase']
  cases e with
  | opens i producer =>
      simp only [positionsStep] at hbase
      split at hbase
      · next self hself =>
          cases hbase
          intro j x hx
          by_cases hj : j = i
          · have hzero : self.epoch = 0 := by
              unfold ProducerPositions.init at hself
              split at hself
              · cases hself
              · cases hself
                rfl
            subst hj
            simp only [PositionsState.setInstance, Function.update_self, Option.some.injEq] at hx
            subst hx
            have hpos := nextEpoch_pos hI self.producer
            show self.epoch < nextEpoch s.base.db self.producer
            omega
          · simp only [PositionsState.setInstance, Function.update_of_ne hj] at hx
            exact hC j x hx
      · cases hbase
        exact hC
  | closes i =>
      cases hbase
      intro j x hx
      by_cases hj : j = i
      · simp [PositionsState.setInstance, hj] at hx
      · simp only [PositionsState.setInstance, Function.update_of_ne hj] at hx
        exact hC j x hx
  | next i node expected fate =>
      have hframe := epochs_of_next hbase
      intro j x hx
      have hlt := hC j x (hframe.2 j x hx)
      unfold nextEpoch at hlt ⊢
      rw [hframe.1]
      exact hlt
  | beginEpoch i fate =>
      simp only [positionsStep] at hbase
      split at hbase
      · cases hbase
      · next self hself =>
          cases hbase
          intro j x hx
          have hself' := hC i self hself
          by_cases hcommitted : fate.committed = true
          · have hnext (p : String) := nextEpoch_beginEpochDb s.base.db self.producer p
            simp only [PositionsState.setInstance, beginEpoch, hcommitted, if_true] at hx ⊢
            rw [hnext]
            by_cases hj : j = i
            · subst hj
              rw [Function.update_self] at hx
              have hx' : x = ⟨self.producer, nextEpoch s.base.db self.producer⟩ := by
                cases fate with
                | commits => exact (Option.some.inj hx).symm
                | commitsThenDies => cases hx
                | abortsEarly => cases hcommitted
                | abortsLate => cases hcommitted
              rw [hx', if_pos rfl]
              exact lt_add_one _
            · rw [Function.update_of_ne hj] at hx
              have hlt := hC j x hx
              split_ifs with hp
              · rw [← hp] at hlt
                omega
              · exact hlt
          · have hearly : fate = .abortsEarly := by
              cases fate with
              | commits => exact absurd rfl hcommitted
              | commitsThenDies => exact absurd rfl hcommitted
              | abortsEarly => rfl
              | abortsLate => exact absurd rfl hG
            subst hearly
            by_cases hj : j = i
            · subst hj
              have hx' : self = x := by
                simpa [PositionsState.setInstance, beginEpoch] using hx
              subst hx'
              exact hself'
            · simp only [PositionsState.setInstance, beginEpoch, Function.update_of_ne hj] at hx
              exact hC j x hx

/-- Without late aborts no copy is ever stale. -/
theorem guarded_of_noLateAbort {es : List PositionsEvent} :
    ∀ {s : WatchedPositions}, WatchedInv s → FenceHolds s → CopiesBehind s.base →
      Run.Guarded watchedStep NoLateAbort s es → Run.Guarded watchedStep NoStaleCopy s es := by
  induction es with
  | nil => exact fun _ _ _ _ => trivial
  | cons e es ih =>
      intro s hI hP hC hG
      have hstale : NoStaleCopy s e := by
        cases e with
        | beginEpoch i fate =>
            intro self _ _ j other _ hother hproducer
            have hlt := hC j other hother
            rw [hproducer] at hlt
            exact ne_of_lt hlt
        | opens | closes | next => exact trivial
      refine ⟨hstale, ?_⟩
      cases h : watchedStep s e with
      | none => trivial
      | some t =>
          obtain ⟨hGe, htail⟩ := Run.Guarded.head hG h
          obtain ⟨hIt, hiff⟩ := watchedStep_fence hI hP h
          exact ih hIt (hiff.2 hstale) (copiesBehind_step hI hC hGe h) htail

end EirvahEdge.Recovery
