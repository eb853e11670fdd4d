import EirvahEdge.Agent.Tracking
import EirvahEdge.Lib.HighWater
import Mathlib.Algebra.Order.Ring.Star
import Mathlib.Data.Rat.Star

/-!
# State ordered by timestamps

`StateTracker` without positions.  Of the samples of a topic it retains the one with
the greatest timestamp, because an update that is neither refused for its quality or
age nor behind the retained sample replaces it, and any other leaves it.

For one topic that is a high-water mark (`lookup_deliver`): the samples that were fresh
when they were delivered raise it, and nothing else does.  So what is retained at the
end depends on the samples and not on the order or the number of their deliveries.

## Main results

* `lookup_deliverAll`: what is retained is the mark raised by the fresh samples;
* `state_converges`: acceptance, order and convergence over every run.
-/

namespace EirvahEdge.Agent

open EirvahEdge.Lib
open EirvahEdge.Contracts
open EirvahEdge.Recovery

/-! ## Deliveries -/

/-- The arguments of one `update` without a position. -/
structure StateCall where
  topic : String
  value : SignalValue
  observedAt : Datetime
  now : Datetime
  quality : Json

/-- `StateTracker(max_age_s)`, with ages in the arithmetic `R`. -/
def StateTracker.timed (R : Rounding) (maxAgeS : ℚ) (maxAgeS_pos : 0 < maxAgeS) :
    StateTracker where
  rounding := R
  maxAgeS := maxAgeS
  maxAgeS_pos := maxAgeS_pos
  requirePosition := false
  positions := .empty
  latest := .empty
  lastDecision := ⟨false, .notObserved⟩

/-- Good quality, two aware times, not in the future and not too old. -/
structure StateCall.Fresh (R : Rounding) (maxAgeS : ℚ) (c : StateCall) (at' : AwareDatetime) :
    Prop where
  observedAt : c.observedAt = .aware at'
  now : ∃ now, c.now = .aware now ∧ at'.timestamp ≤ now.timestamp ∧
    now.totalSeconds R at' ≤ maxAgeS
  quality : c.quality = .str "good"

section Tracker

variable (bindingText : SignalValue → AwareDatetime → String)

/-- The tracker after an update. -/
def deliver (tracker : StateTracker) (c : StateCall) : StateTracker :=
  (tracker.update bindingText none c.topic c.value c.observedAt c.now c.quality none).1.1

/-- The answer of an update. -/
def accepts (tracker : StateTracker) (c : StateCall) : Prop :=
  (tracker.update bindingText none c.topic c.value c.observedAt c.now c.quality none).2 = .ok true

/-- The tracker after a sequence of updates. -/
def deliverAll (tracker : StateTracker) (calls : List StateCall) : StateTracker :=
  calls.foldl (deliver bindingText) tracker

end Tracker

/-! ## One update -/

section Update

variable {bindingText : SignalValue → AwareDatetime → String} {tracker : StateTracker}
  {c : StateCall} {observedAt : AwareDatetime}

theorem freshness_eq_ok :
    tracker.freshness c.observedAt c.now c.quality = .ok observedAt ↔
      c.Fresh tracker.rounding tracker.maxAgeS observedAt := by
  constructor
  · intro h
    unfold StateTracker.freshness at h
    split at h
    · next at' now hat hnow =>
        split at h
        · cases h
        · next hquality =>
            split at h
            · cases h
            · next hfuture =>
                split at h
                · cases h
                · next hstale =>
                    obtain rfl := Except.ok.inj h
                    have hpast := AwareDatetime.totalSeconds_nonneg_iff.1 (not_lt.1 hfuture)
                    exact ⟨hat, ⟨now, hnow, hpast, not_lt.1 hstale⟩, not_not.1 hquality⟩
    · cases h
  · rintro ⟨hat, ⟨now, hnow, hpast, hstale⟩, hquality⟩
    have hfuture := AwareDatetime.totalSeconds_nonneg_iff (R := tracker.rounding).2 hpast
    simp [StateTracker.freshness, hat, hnow, hquality, not_lt.2 hfuture, not_lt.2 hstale]

/-- A call that is not fresh is refused. -/
theorem freshness_eq_error
    (h : ∀ observedAt, ¬c.Fresh tracker.rounding tracker.maxAgeS observedAt) :
    ∃ reason, tracker.freshness c.observedAt c.now c.quality = .error reason := by
  cases hfresh : tracker.freshness c.observedAt c.now c.quality with
  | error reason => exact ⟨reason, rfl⟩
  | ok observedAt => exact absurd (freshness_eq_ok.1 hfresh) (h observedAt)

/-- Two trackers of the same age limit and demand for positions. -/
structure SameSettings (tracker tracker' : StateTracker) : Prop where
  rounding : tracker.rounding = tracker'.rounding
  maxAgeS : tracker.maxAgeS = tracker'.maxAgeS
  requirePosition : tracker.requirePosition = tracker'.requirePosition

theorem SameSettings.trans {tracker tracker' tracker'' : StateTracker}
    (h : SameSettings tracker tracker') (h' : SameSettings tracker' tracker'') :
    SameSettings tracker tracker'' :=
  ⟨h.rounding.trans h'.rounding, h.maxAgeS.trans h'.maxAgeS,
    h.requirePosition.trans h'.requirePosition⟩

/-- The settings of a tracker stay. -/
theorem settings_deliver : SameSettings (deliver bindingText tracker c) tracker := by
  have hconclude (sample : StateSample) (reason : StateReason) :
      SameSettings (tracker.conclude sample reason) tracker := by
    unfold StateTracker.conclude
    split
    · exact ⟨rfl, rfl, rfl⟩
    · exact ⟨rfl, rfl, rfl⟩
  unfold deliver StateTracker.update
  split
  · exact ⟨rfl, rfl, rfl⟩
  · exact hconclude _ _

/-- The sample of a fresh call. -/
def StateCall.sample (c : StateCall) (observedAt : AwareDatetime) : StateSample :=
  ⟨c.topic, observedAt, c.value⟩

/-- The mark of a sample. -/
def StateSample.mark (s : StateSample) : ℚ := s.observedAt.timestamp

/-- A call that is not fresh is not accepted and retains nothing, -/
theorem deliver_of_stale
    (h : ∀ observedAt, ¬c.Fresh tracker.rounding tracker.maxAgeS observedAt) :
    (deliver bindingText tracker c).latest = tracker.latest ∧
      ¬accepts bindingText tracker c := by
  obtain ⟨reason, hreason⟩ := freshness_eq_error h
  simp [deliver, accepts, StateTracker.update, hreason]

variable (hposition : tracker.requirePosition = false)
  (hfresh : c.Fresh tracker.rounding tracker.maxAgeS observedAt)
include hposition hfresh

/-- and a fresh call is judged by its timestamp. -/
theorem update_of_fresh :
    tracker.update bindingText none c.topic c.value c.observedAt c.now c.quality none =
      ((tracker.conclude (c.sample observedAt)
          (tracker.compareTimes c.topic c.value observedAt), none),
        .ok (tracker.compareTimes c.topic c.value observedAt == .accepted)) := by
  simp only [StateTracker.update, freshness_eq_ok.2 hfresh, hposition, Bool.false_eq_true,
    if_false, StateCall.sample]

/-- A sample is accepted when none is retained or the retained one is older. -/
theorem accepts_of_fresh :
    accepts bindingText tracker c ↔
      ∀ s, tracker.latest.lookup c.topic = some s → s.mark < (c.sample observedAt).mark := by
  rw [accepts, update_of_fresh hposition hfresh]
  simp only [Except.ok.injEq, beq_iff_eq, StateTracker.compareTimes, StateCall.sample,
    StateSample.mark]
  cases hlookup : tracker.latest.lookup c.topic with
  | none => simp
  | some previous =>
      simp only [Option.some.injEq, forall_eq']
      rcases lt_trichotomy observedAt.timestamp previous.observedAt.timestamp with h | h | h
      · simp [h, not_lt.2 h.le]
      · by_cases hsame : sameValue c.value previous.value = true <;> simp [h, hsame]
      · simp [h, not_lt.2 h.le, ne_of_gt h]

/-- An accepted sample replaces the retained one; any other leaves it. -/
theorem latest_of_fresh :
    (accepts bindingText tracker c →
      (deliver bindingText tracker c).latest =
        tracker.latest.replace (c.sample observedAt)) ∧
    (¬accepts bindingText tracker c →
      (deliver bindingText tracker c).latest = tracker.latest) := by
  rw [accepts, deliver, update_of_fresh hposition hfresh]
  simp only [Except.ok.injEq, beq_iff_eq, StateTracker.conclude]
  constructor
  · intro h
    rw [if_pos h]
  · intro h
    rw [if_neg h]

/-- One update raises the mark of its topic and of no other. -/
theorem lookup_deliver_of_fresh (topic : String) :
    (deliver bindingText tracker c).latest.lookup topic =
      if c.topic = topic then
        HighWater.raise StateSample.mark (tracker.latest.lookup topic) (c.sample observedAt)
      else tracker.latest.lookup topic := by
  have haccepts : accepts bindingText tracker c ↔
      ∀ s, tracker.latest.lookup c.topic = some s → s.mark < (c.sample observedAt).mark :=
    accepts_of_fresh hposition hfresh
  have hlatest : (accepts bindingText tracker c → _) ∧ (¬accepts bindingText tracker c → _) :=
    latest_of_fresh hposition hfresh
  by_cases ha : accepts bindingText tracker c
  · rw [hlatest.1 ha, Table.lookup_replace]
    by_cases ht : c.topic = topic
    · subst ht
      have hnewer := haccepts.1 ha
      cases hlookup : tracker.latest.lookup c.topic with
      | none => simp [HighWater.raise, StateCall.sample]
      | some s =>
          have hlt := hnewer s hlookup
          simp only [if_true, HighWater.raise, if_pos hlt]
          exact if_pos rfl
    · have hkey : ¬(c.sample observedAt).topic = topic := ht
      simp [ht, hkey]
  · rw [hlatest.2 ha]
    by_cases ht : c.topic = topic
    · subst ht
      have hnot : ∃ s, tracker.latest.lookup c.topic = some s ∧
          (c.sample observedAt).mark ≤ s.mark := by
        rw [haccepts] at ha
        push Not at ha
        exact ha
      obtain ⟨s, hs, hle⟩ := hnot
      simp [hs, HighWater.raise, not_lt.2 hle]
    · simp [ht]

end Update

/-! ## Runs -/

/-- The sample a call delivers for a topic, when it is fresh. -/
def freshSample (R : Rounding) (maxAgeS : ℚ) (topic : String) (c : StateCall) :
    Option StateSample :=
  match c.observedAt, c.now with
  | .aware observedAt, .aware now =>
      if c.topic = topic ∧ c.quality = .str "good" ∧ observedAt.timestamp ≤ now.timestamp ∧
          now.totalSeconds R observedAt ≤ maxAgeS then some (c.sample observedAt)
      else none
  | _, _ => none

/-- The fresh samples of a topic, in the order of their deliveries. -/
def freshSamples (R : Rounding) (maxAgeS : ℚ) (topic : String) (calls : List StateCall) :
    List StateSample :=
  calls.filterMap (freshSample R maxAgeS topic)

theorem freshSample_eq_some {R : Rounding} {maxAgeS : ℚ} {topic : String} {c : StateCall}
    {s : StateSample} :
    freshSample R maxAgeS topic c = some s ↔
      ∃ observedAt, c.Fresh R maxAgeS observedAt ∧ c.topic = topic ∧ s = c.sample observedAt := by
  constructor
  · intro h
    unfold freshSample at h
    split at h
    · next observedAt now hat hnow =>
        split at h
        · next hfresh =>
            obtain ⟨htopic, hquality, hfuture, hstale⟩ := hfresh
            exact ⟨observedAt, ⟨hat, ⟨now, hnow, hfuture, hstale⟩, hquality⟩, htopic,
              (Option.some.inj h).symm⟩
        · cases h
    · cases h
  · rintro ⟨observedAt, ⟨hat, ⟨now, hnow, hfuture, hstale⟩, hquality⟩, htopic, rfl⟩
    simp only [freshSample, hat, hnow]
    exact if_pos ⟨htopic, hquality, hfuture, hstale⟩

section Runs

variable {bindingText : SignalValue → AwareDatetime → String} {tracker : StateTracker}

theorem settings_deliverAll (calls : List StateCall) :
    SameSettings (deliverAll bindingText tracker calls) tracker := by
  induction calls generalizing tracker with
  | nil => exact ⟨rfl, rfl, rfl⟩
  | cons c calls ih =>
      have hrest : SameSettings (deliverAll bindingText tracker (c :: calls))
          (deliver bindingText tracker c) := ih
      exact hrest.trans settings_deliver

/-- One update raises the mark of a topic by the fresh sample it delivers. -/
theorem lookup_deliver (hposition : tracker.requirePosition = false) (topic : String)
    (c : StateCall) :
    (deliver bindingText tracker c).latest.lookup topic =
      (freshSample tracker.rounding tracker.maxAgeS topic c).elim (tracker.latest.lookup topic)
        (HighWater.raise StateSample.mark (tracker.latest.lookup topic)) := by
  by_cases hfresh : ∃ observedAt, c.Fresh tracker.rounding tracker.maxAgeS observedAt
  · obtain ⟨observedAt, hfresh⟩ := hfresh
    rw [lookup_deliver_of_fresh hposition hfresh]
    by_cases htopic : c.topic = topic
    · have hsample : freshSample tracker.rounding tracker.maxAgeS topic c =
          some (c.sample observedAt) :=
        freshSample_eq_some.2 ⟨observedAt, hfresh, htopic, rfl⟩
      rw [if_pos htopic, hsample, Option.elim_some]
    · have hsample : freshSample tracker.rounding tracker.maxAgeS topic c = none := by
        rw [Option.eq_none_iff_forall_ne_some]
        intro s hs
        obtain ⟨-, -, ht, -⟩ := freshSample_eq_some.1 hs
        exact htopic ht
      rw [if_neg htopic, hsample, Option.elim_none]
  · push Not at hfresh
    have hsample : freshSample tracker.rounding tracker.maxAgeS topic c = none := by
      rw [Option.eq_none_iff_forall_ne_some]
      intro s hs
      obtain ⟨observedAt, h, -, -⟩ := freshSample_eq_some.1 hs
      exact hfresh observedAt h
    rw [(deliver_of_stale hfresh).1, hsample, Option.elim_none]

/-- **What is retained at the end** is the mark raised by every fresh sample. -/
theorem lookup_deliverAll (hposition : tracker.requirePosition = false) (topic : String)
    (calls : List StateCall) :
    (deliverAll bindingText tracker calls).latest.lookup topic =
      (freshSamples tracker.rounding tracker.maxAgeS topic calls).foldl
        (HighWater.raise StateSample.mark) (tracker.latest.lookup topic) := by
  induction calls generalizing tracker with
  | nil => rfl
  | cons c calls ih =>
      have hsettings : SameSettings (deliver bindingText tracker c) tracker := settings_deliver
      have hrest := ih (hsettings.requirePosition.trans hposition)
      rw [hsettings.rounding, hsettings.maxAgeS, lookup_deliver hposition] at hrest
      refine hrest.trans ?_
      cases hsample : freshSample tracker.rounding tracker.maxAgeS topic c with
      | none => simp [freshSamples, hsample]
      | some s => simp [freshSamples, hsample]

/-- An accepted call is fresh, and newer than what is retained. -/
theorem fresh_of_accepts (hposition : tracker.requirePosition = false) {c : StateCall}
    (h : accepts bindingText tracker c) :
    ∃ observedAt, c.Fresh tracker.rounding tracker.maxAgeS observedAt ∧
      ∀ s, tracker.latest.lookup c.topic = some s → s.mark < (c.sample observedAt).mark := by
  by_cases hfresh : ∃ observedAt, c.Fresh tracker.rounding tracker.maxAgeS observedAt
  · obtain ⟨observedAt, hfresh⟩ := hfresh
    exact ⟨observedAt, hfresh, (accepts_of_fresh hposition hfresh).1 h⟩
  · push Not at hfresh
    exact absurd h (deliver_of_stale hfresh).2

theorem deliverAll_append (calls calls' : List StateCall) :
    deliverAll bindingText tracker (calls ++ calls') =
      deliverAll bindingText (deliverAll bindingText tracker calls) calls' :=
  List.foldl_append

theorem deliverAll_concat (calls : List StateCall) (c : StateCall) :
    deliverAll bindingText tracker (calls ++ [c]) =
      deliver bindingText (deliverAll bindingText tracker calls) c :=
  deliverAll_append calls [c]

/-- A retained sample was accepted. -/
theorem accepted_of_lookup (hposition : tracker.requirePosition = false)
    (hempty : tracker.latest = .empty) {calls : List StateCall} {topic : String}
    {s : StateSample} (h : (deliverAll bindingText tracker calls).latest.lookup topic = some s) :
    ∃ before c after, calls = before ++ c :: after ∧
      accepts bindingText (deliverAll bindingText tracker before) c ∧
      ∃ observedAt, c.Fresh tracker.rounding tracker.maxAgeS observedAt ∧ c.topic = topic ∧
        s = c.sample observedAt := by
  induction calls using List.reverseRecOn with
  | nil =>
      have hnone : tracker.latest.lookup topic = some s := h
      rw [hempty] at hnone
      cases hnone
  | append_singleton calls c ih =>
      rw [deliverAll_concat] at h
      have hsettings : SameSettings (deliverAll bindingText tracker calls) tracker :=
        settings_deliverAll calls
      have hposition' := hsettings.requirePosition.trans hposition
      have hearlier (hsame : (deliverAll bindingText tracker calls).latest.lookup topic =
          some s) : ∃ before c' after, calls ++ [c] = before ++ c' :: after ∧
            accepts bindingText (deliverAll bindingText tracker before) c' ∧
            ∃ observedAt, c'.Fresh tracker.rounding tracker.maxAgeS observedAt ∧ c'.topic = topic ∧
              s = c'.sample observedAt := by
        obtain ⟨before, c', after, rfl, hc'⟩ := ih hsame
        exact ⟨before, c', after ++ [c], by simp, hc'⟩
      by_cases haccepts : accepts bindingText (deliverAll bindingText tracker calls) c
      · obtain ⟨observedAt, hfresh, -⟩ := fresh_of_accepts hposition' haccepts
        rw [(latest_of_fresh hposition' hfresh).1 haccepts, Table.lookup_replace] at h
        by_cases htopic : c.topic = topic
        · have hkey : (c.sample observedAt).topic = topic := htopic
          rw [if_pos hkey] at h
          rw [hsettings.rounding, hsettings.maxAgeS] at hfresh
          exact ⟨calls, c, [], rfl, haccepts, observedAt, hfresh, htopic,
            (Option.some.inj h).symm⟩
        · have hkey : ¬(c.sample observedAt).topic = topic := htopic
          rw [if_neg hkey] at h
          exact hearlier h
      · by_cases hfresh : ∃ observedAt,
            c.Fresh (deliverAll bindingText tracker calls).rounding
              (deliverAll bindingText tracker calls).maxAgeS observedAt
        · obtain ⟨observedAt, hfresh⟩ := hfresh
          rw [(latest_of_fresh hposition' hfresh).2 haccepts] at h
          exact hearlier h
        · push Not at hfresh
          rw [(deliver_of_stale hfresh).1] at h
          exact hearlier h

/-- After an accepted call at least its timestamp is retained. -/
theorem mark_le_of_accepted (hposition : tracker.requirePosition = false) {c : StateCall}
    {observedAt : AwareDatetime} (hfresh : c.Fresh tracker.rounding tracker.maxAgeS observedAt)
    (after : List StateCall) :
    ∃ r, (deliverAll bindingText tracker (c :: after)).latest.lookup c.topic = some r ∧
      (c.sample observedAt).mark ≤ r.mark := by
  have hlookup : (deliverAll bindingText tracker (c :: after)).latest.lookup c.topic = _ :=
    lookup_deliverAll hposition c.topic (c :: after)
  have hmem : c.sample observedAt ∈
      freshSamples tracker.rounding tracker.maxAgeS c.topic (c :: after) :=
    List.mem_filterMap.2 ⟨c, List.mem_cons_self,
      freshSample_eq_some.2 ⟨observedAt, hfresh, rfl, rfl⟩⟩
  have hsome : ((freshSamples tracker.rounding tracker.maxAgeS c.topic (c :: after)).foldl
      (HighWater.raise StateSample.mark) (tracker.latest.lookup c.topic)).isSome :=
    HighWater.foldl_raise_isSome _ (Or.inl (List.ne_nil_of_mem hmem))
  obtain ⟨r, hr⟩ := Option.isSome_iff_exists.1 hsome
  exact ⟨r, hlookup.trans hr, (HighWater.foldl_raise_ge hr).1 _ hmem⟩

end Runs

/-! ## Convergence -/

section Converges

variable (bindingText : SignalValue → AwareDatetime → String) (R : Rounding) (maxAgeS : ℚ)
  (maxAgeS_pos : 0 < maxAgeS)

/-- A new tracker after some updates. -/
def tracked (calls : List StateCall) : StateTracker :=
  deliverAll bindingText (.timed R maxAgeS maxAgeS_pos) calls

/-- The sample it retains for a topic. -/
def retained (topic : String) (calls : List StateCall) : Option StateSample :=
  (tracked bindingText R maxAgeS maxAgeS_pos calls).latest.lookup topic

/-- For every sequence of updates without positions and every topic: what is retained
was accepted, of good quality, with an aware time, not in the future and not too old;
accepted timestamps increase; what is not accepted leaves the retained samples; and two
sequences that deliver the same fresh samples of a topic, of which those with one
timestamp carry one value, retain the same one, with the greatest timestamp. -/
theorem state_converges :
    (∀ calls topic s, retained bindingText R maxAgeS maxAgeS_pos topic calls = some s →
      ∃ before c after, calls = before ++ c :: after ∧
        accepts bindingText (tracked bindingText R maxAgeS maxAgeS_pos before) c ∧
        ∃ observedAt, c.Fresh R maxAgeS observedAt ∧ c.topic = topic ∧ s = c.sample observedAt) ∧
    (∀ before c between c' observedAt observedAt', c.topic = c'.topic →
      c.observedAt = .aware observedAt → c'.observedAt = .aware observedAt' →
      accepts bindingText (tracked bindingText R maxAgeS maxAgeS_pos before) c →
      accepts bindingText (tracked bindingText R maxAgeS maxAgeS_pos (before ++ c :: between)) c' →
      observedAt.timestamp < observedAt'.timestamp) ∧
    (∀ calls c, ¬accepts bindingText (tracked bindingText R maxAgeS maxAgeS_pos calls) c →
      (tracked bindingText R maxAgeS maxAgeS_pos (calls ++ [c])).latest =
        (tracked bindingText R maxAgeS maxAgeS_pos calls).latest) ∧
    (∀ calls calls' topic,
      (∀ s, s ∈ freshSamples R maxAgeS topic calls ↔ s ∈ freshSamples R maxAgeS topic calls') →
      (∀ s ∈ freshSamples R maxAgeS topic calls, ∀ s' ∈ freshSamples R maxAgeS topic calls,
        s.mark = s'.mark → s.value = s'.value) →
      (retained bindingText R maxAgeS maxAgeS_pos topic calls).map
          (fun s => (s.mark, s.value)) =
        (retained bindingText R maxAgeS maxAgeS_pos topic calls').map
          (fun s => (s.mark, s.value)) ∧
      ∀ s ∈ freshSamples R maxAgeS topic calls,
        ∃ r ∈ freshSamples R maxAgeS topic calls,
          retained bindingText R maxAgeS maxAgeS_pos topic calls = some r ∧ s.mark ≤ r.mark) := by
  have hsettings (calls : List StateCall) :
      SameSettings (tracked bindingText R maxAgeS maxAgeS_pos calls)
        (.timed R maxAgeS maxAgeS_pos) :=
    settings_deliverAll calls
  have hretained (topic : String) (calls : List StateCall) :
      retained bindingText R maxAgeS maxAgeS_pos topic calls =
        (freshSamples R maxAgeS topic calls).foldl (HighWater.raise StateSample.mark) none :=
    lookup_deliverAll rfl topic calls
  refine ⟨?_, ?_, ?_, ?_⟩
  · intro calls topic s h
    have hstart : (StateTracker.timed R maxAgeS maxAgeS_pos).requirePosition = false := rfl
    have hlookup : (deliverAll bindingText (.timed R maxAgeS maxAgeS_pos) calls).latest.lookup
        topic = some s := h
    exact accepted_of_lookup hstart rfl hlookup
  · intro before c between c' observedAt observedAt' htopic hat hat' hc hc'
    obtain ⟨d, hfresh, -⟩ := fresh_of_accepts (hsettings before).requirePosition hc
    obtain rfl : d = observedAt := Datetime.aware.inj (hfresh.observedAt.symm.trans hat)
    obtain ⟨d', hfresh', hnewer⟩ := fresh_of_accepts (hsettings _).requirePosition hc'
    obtain rfl : d' = observedAt' := Datetime.aware.inj (hfresh'.observedAt.symm.trans hat')
    have hkept : ∃ r, (tracked bindingText R maxAgeS maxAgeS_pos
        (before ++ c :: between)).latest.lookup c'.topic = some r ∧
          (c.sample d).mark ≤ r.mark := by
      rw [tracked, deliverAll_append, ← htopic]
      exact mark_le_of_accepted (hsettings before).requirePosition hfresh between
    obtain ⟨r, hlookup, hle⟩ := hkept
    exact lt_of_le_of_lt hle (hnewer r hlookup)
  · intro calls c h
    rw [tracked, deliverAll_concat]
    by_cases hfresh : ∃ observedAt,
        c.Fresh (tracked bindingText R maxAgeS maxAgeS_pos calls).rounding
          (tracked bindingText R maxAgeS maxAgeS_pos calls).maxAgeS observedAt
    · obtain ⟨observedAt, hfresh⟩ := hfresh
      exact (latest_of_fresh (hsettings calls).requirePosition hfresh).2 h
    · push Not at hfresh
      exact (deliver_of_stale hfresh).1
  · intro calls calls' topic hmem hvalue
    have hgreatest (s : StateSample) (hs : s ∈ freshSamples R maxAgeS topic calls) :
        ∃ r ∈ freshSamples R maxAgeS topic calls,
          retained bindingText R maxAgeS maxAgeS_pos topic calls = some r ∧ s.mark ≤ r.mark := by
      have hsome : ((freshSamples R maxAgeS topic calls).foldl
          (HighWater.raise StateSample.mark) none).isSome :=
        HighWater.foldl_raise_isSome none (Or.inl (List.ne_nil_of_mem hs))
      obtain ⟨r, hr⟩ := Option.isSome_iff_exists.1 hsome
      have hrmem : r ∈ freshSamples R maxAgeS topic calls := by
        simpa using HighWater.foldl_raise_mem hr
      exact ⟨r, hrmem, (hretained topic calls).trans hr, (HighWater.foldl_raise_ge hr).1 s hs⟩
    refine ⟨?_, hgreatest⟩
    rw [hretained, hretained]
    have hview : ∀ s ∈ freshSamples R maxAgeS topic calls,
        ∀ s' ∈ freshSamples R maxAgeS topic calls,
        s.mark = s'.mark → (s.mark, s.value) = (s'.mark, s'.value) := by
      intro s hs s' hs' heq
      rw [heq, hvalue s hs s' hs' heq]
    exact HighWater.foldl_raise_map_congr _ hmem hview

end Converges

namespace SpeedSamples

/-! Three samples of the conveyor's speed, in and out of order. -/

def topic : String := "uniza/zilina/factory1/line_a/conveyor/belt_01/speed_setpoint"

def sampledAt (second : ℤ) : AwareDatetime := ⟨1782900000000000 + 1000000 * second, 0⟩

def call (second speed : ℤ) : StateCall :=
  ⟨topic, .int speed, .aware (sampledAt second), .aware (sampledAt 3), .str "good"⟩

def sample (second speed : ℤ) : StateSample := ⟨topic, sampledAt second, .int speed⟩

def inOrder : List StateCall := [call 0 5, call 1 7, call 2 6]

def outOfOrder : List StateCall := [call 1 7, call 2 6, call 1 7, call 0 5, call 2 6]

theorem freshSamples_inOrder :
    freshSamples .double 5 topic inOrder = [sample 0 5, sample 1 7, sample 2 6] := by decide +kernel

theorem freshSamples_outOfOrder :
    freshSamples .double 5 topic outOfOrder =
      [sample 1 7, sample 2 6, sample 1 7, sample 0 5, sample 2 6] := by decide +kernel

end SpeedSamples

/-- The samples of the conveyor in another order and with repetitions. -/
theorem state_converges_example :
    (retained (fun _ _ => "") .double 5 (by norm_num) SpeedSamples.topic SpeedSamples.inOrder).map
        (fun s => (s.mark, s.value)) =
      (retained (fun _ _ => "") .double 5 (by norm_num) SpeedSamples.topic
        SpeedSamples.outOfOrder).map (fun s => (s.mark, s.value)) := by
  refine ((state_converges (fun _ _ => "") .double 5 (by norm_num)).2.2.2 _ _ _ ?_ ?_).1
  · intro s
    rw [SpeedSamples.freshSamples_inOrder, SpeedSamples.freshSamples_outOfOrder]
    simp only [List.mem_cons, List.not_mem_nil, or_false]
    tauto
  · rw [SpeedSamples.freshSamples_inOrder]
    decide +kernel

end EirvahEdge.Agent
