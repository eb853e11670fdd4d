import EirvahEdge.Conformance.Verdict
import EirvahEdge.Contracts.Authorization
import Mathlib.Tactic.Linarith
import Mathlib.Algebra.Order.Floor.Ring
import Mathlib.Data.Rat.Floor

/-!
# Clocks of execution records

A record is stamped by the clocks of the process that writes it.  To compare it
with records of other hosts, `calibrate_record` moves it to the clock of the
capturing host: two probes bracket the record, each probe bounds how far the two
monotonic clocks are apart, and the host's own samples bound how far its wall
clock is from its monotonic clock.

All clock readings are integers in nanoseconds, uncertainties are rationals in
seconds, and the arithmetic on both is exact.  What was really the case (`Truth`)
is kept apart from what was read: a calibrated record has to contain it.
-/

namespace EirvahEdge.Conformance

open EirvahEdge.Lib
open EirvahEdge.Contracts

/-! ## Readings -/

/-- What is read of the clocks at one point: the wall clock between two readings
of the monotonic clock. -/
structure ClockReading where
  wallTimeNs : ℤ
  monotonicBeforeNs : ℤ
  monotonicAfterNs : ℤ
  clockDomain : Option String
  timestampResolutionNs : ℤ
deriving DecidableEq, Repr

/-- `clock_snapshot`; `resolution` is that of the wall clock in seconds. -/
def clockSnapshot (before wall after : ℤ) (domain : Option String) (resolution : ℚ) :
    ClockReading where
  wallTimeNs := wall
  monotonicBeforeNs := before
  monotonicAfterNs := after
  clockDomain := domain
  timestampResolutionNs := max 1000 ⌈resolution * 1000000000⌉

/-- `monotonic_ns` of a snapshot. -/
def ClockReading.monotonicNs (r : ClockReading) : ℤ :=
  (r.monotonicBeforeNs + r.monotonicAfterNs) / 2

/-- `datetime.fromtimestamp(ns // 1_000_000_000, UTC).replace(microsecond=...)`, in
microseconds. -/
def utcMicros (ns : ℤ) : ℤ := ns / 1000000000 * 1000000 + ns % 1000000000 / 1000

/-- `recorded_at` of a snapshot. -/
def ClockReading.recordedAt (r : ClockReading) : AwareDatetime := .ofMicros (utcMicros r.wallTimeNs)

/-- The members of an execution record that place it in time. -/
structure ExecutionRecord where
  component : String
  processInstance : String
  clockDomain : Option String
  monotonicNs : ℤ
  monotonicBeforeNs : Option ℤ
  monotonicAfterNs : Option ℤ
  recordedAt : Datetime
  clockUncertaintyS : Option Json
  deadline : Option Datetime
  rawRecordedAt : Option Datetime := none
  rawClockUncertaintyS : Option Json := none
  calibrationBasis : Option String := none
deriving DecidableEq, Repr

/-- A probe of a capture: the snapshot of the remote process with a snapshot of
the host before and after it. -/
structure Probe where
  clientBefore : ClockReading
  remote : ClockReading
  clientAfter : ClockReading
deriving DecidableEq, Repr

/-! ## Calibration -/

/-- `min` and `max` of some first value and others. -/
def leastOf (x : ℤ) (xs : List ℤ) : ℤ := xs.foldr min x

def greatestOf (x : ℤ) (xs : List ℤ) : ℤ := xs.foldr max x

/-- How little and how much the host's monotonic clock can be ahead of the remote
one at a probe. -/
def Probe.offsetLow (p : Probe) : ℤ :=
  p.clientBefore.monotonicBeforeNs - p.remote.monotonicAfterNs

def Probe.offsetHigh (p : Probe) : ℤ :=
  p.clientAfter.monotonicAfterNs - p.remote.monotonicBeforeNs

/-- How little and how much the wall clock can be ahead of the monotonic one at a
reading. -/
def ClockReading.wallLow (r : ClockReading) : ℤ :=
  r.wallTimeNs - r.monotonicAfterNs - r.timestampResolutionNs

def ClockReading.wallHigh (r : ClockReading) : ℤ :=
  r.wallTimeNs - r.monotonicBeforeNs + r.timestampResolutionNs

/-- The host readings behind the first one. -/
def laterHosts (start finish : Probe) (samples : List ClockReading) : List ClockReading :=
  [start.clientAfter, finish.clientBefore, finish.clientAfter] ++ samples

/-- The bounds of a calibrated record, in nanoseconds of the host's wall clock. -/
def calibratedLow (before : ℤ) (start finish : Probe) (samples : List ClockReading) : ℤ :=
  before + leastOf start.offsetLow [finish.offsetLow] +
    leastOf start.clientBefore.wallLow ((laterHosts start finish samples).map ClockReading.wallLow)

def calibratedHigh (after : ℤ) (start finish : Probe) (samples : List ClockReading) : ℤ :=
  after + greatestOf start.offsetHigh [finish.offsetHigh] +
    greatestOf start.clientBefore.wallHigh
      ((laterHosts start finish samples).map ClockReading.wallHigh)

/-- `(high - low) / 2e9 + 1e-6`. -/
def calibratedUncertainty (low high : ℤ) : ℚ := (high - low) / 2000000000 + 1 / 1000000

/-- `record["clock_domain"]` is there and the same in both probes. -/
def sameDomain (record : ExecutionRecord) (start finish : Probe) : Bool :=
  record.clockDomain.any (fun d => d != "") &&
    record.clockDomain == start.remote.clockDomain &&
    record.clockDomain == finish.remote.clockDomain

/-- `calibrate_record`. -/
def calibrateRecord (record : ExecutionRecord) (start finish : Probe)
    (samples : List ClockReading) : Except PyError ExecutionRecord :=
  if !sameDomain record start finish then .error (valueError "clock domain changed")
  else
    match record.monotonicBeforeNs, record.monotonicAfterNs with
    | some before, some after =>
        if ¬ (start.remote.monotonicBeforeNs ≤ before ∧ before ≤ after ∧
            after ≤ finish.remote.monotonicAfterNs) then
          .error (valueError "record outside bracketing calibration")
        else if start.clientAfter.wallTimeNs < start.clientBefore.wallTimeNs ∨
            finish.clientAfter.wallTimeNs < finish.clientBefore.wallTimeNs then
          .error (valueError "reference clock moved backwards")
        else
          let low := calibratedLow before start finish samples
          let high := calibratedHigh after start finish samples
          let micros := utcMicros ((low + high) / 2)
          if AwareDatetime.minMicros ≤ micros ∧ micros ≤ AwareDatetime.maxMicros then
            .ok
              { record with
                rawRecordedAt := some record.recordedAt
                rawClockUncertaintyS := record.clockUncertaintyS
                recordedAt := .aware (.ofMicros micros)
                clockUncertaintyS := some (.float (.finite (calibratedUncertainty low high)))
                calibrationBasis := some "bracketing_causal_envelope" }
          else .error (valueError "year is out of range")
    | none, _ => .error (missing "monotonic_before_ns")
    | _, none => .error (missing "monotonic_after_ns")

/-! ## Verdicts -/

/-- `aware`, on a time that has been read. -/
def aware : Datetime → Except PyError AwareDatetime
  | .aware d => .ok d
  | .naive _ => .error (valueError "naive time")

/-- `uncertainty`. -/
def uncertainty (record : ExecutionRecord) : Option ℚ :=
  match record.clockUncertaintyS with
  | some (.int n) => if (PyFloat.ofInt n).isSome ∧ 0 ≤ n then some n else none
  | some (.float x) => x.toRat?.filter fun q => decide (0 ≤ q)
  | _ => none

/-- Both records name one monotonic clock. -/
def shareDomain (first second : ExecutionRecord) : Bool :=
  first.clockDomain.any (fun d => d != "") && first.clockDomain == second.clockDomain

/-- Both records were written by one process. -/
def shareProcess (first second : ExecutionRecord) : Bool :=
  first.component == second.component && first.processInstance == second.processInstance

/-- The comparison of two records on the monotonic clock they share. -/
def beforeByMonotonic (first second : ExecutionRecord) : Option Bool :=
  if first.monotonicAfterNs.getD first.monotonicNs <
      second.monotonicBeforeNs.getD second.monotonicNs then some true
  else if second.monotonicAfterNs.getD second.monotonicNs <
      first.monotonicBeforeNs.getD first.monotonicNs then some false
  else none

/-- The comparison of two UTC intervals. -/
def beforeByUtc (first second : ExecutionRecord) : Except PyError (Option Bool) :=
  match uncertainty first, uncertainty second with
  | some a, some b => do
      let later ← aware second.recordedAt
      let earlier ← aware first.recordedAt
      let delta := later.timestamp - earlier.timestamp
      return if a + b < delta then some true else if delta < -(a + b) then some false else none
  | _, _ => .ok none

/-- `before`. -/
def before (first second : ExecutionRecord) : Except PyError (Option Bool) :=
  if shareDomain first second then .ok (beforeByMonotonic first second)
  else if shareProcess first second then
    .ok (some (decide (first.monotonicNs < second.monotonicNs)))
  else beforeByUtc first second

/-- `within_window`. -/
def withinWindow (a b : ExecutionRecord) (seconds : ℚ) : Except PyError (Option Bool) :=
  if shareProcess a b then
    .ok (some (decide (((|a.monotonicNs - b.monotonicNs| : ℤ) : ℚ) ≤ seconds * 1000000000)))
  else
    match uncertainty a, uncertainty b with
    | some u, some v => do
        let atA ← aware a.recordedAt
        let atB ← aware b.recordedAt
        let gap := |atA.timestamp - atB.timestamp|
        return if gap + u + v ≤ seconds then some true
          else if seconds < gap - u - v then some false else none
    | _, _ => .ok none

/-- The status of `C08.deadline` for a write initiation. -/
def deadlineStatus (write : ExecutionRecord) : Except PyError Status :=
  match write.deadline with
  | none => .error ⟨.typeError, "fromisoformat: argument must be str"⟩
  | some deadline => do
      let deadline ← aware deadline
      let at' ← aware write.recordedAt
      return match uncertainty write with
        | none => .unknown
        | some u =>
            let remaining := deadline.timestamp - at'.timestamp
            if u ≤ remaining then .pass else if remaining < -u then .fail else .unknown

/-! ## What was the case -/

/-- The remote snapshot was taken at a moment between the host's two: on the host's
monotonic clock, which is `offset` ahead of the remote one. -/
def Probe.TakenBetween (p : Probe) (offset : ℚ) : Prop :=
  ∃ taken : ℚ, p.remote.monotonicBeforeNs ≤ taken ∧ taken ≤ p.remote.monotonicAfterNs ∧
    p.clientBefore.monotonicBeforeNs ≤ taken + offset ∧
    taken + offset ≤ p.clientAfter.monotonicAfterNs

/-- All host readings of a calibration. -/
def hosts (start finish : Probe) (samples : List ClockReading) : List ClockReading :=
  start.clientBefore :: laterHosts start finish samples

/-- The clocks at the moment of a record, in nanoseconds: the host's monotonic
clock is a constant `offset` ahead of the remote one, and at that moment the
host's wall clock was `drift` ahead of its monotonic clock, within the envelope
of the samples. -/
structure Truth (record : ExecutionRecord) (start finish : Probe)
    (samples : List ClockReading) where
  offset : ℚ
  moment : ℚ
  drift : ℚ
  moment_ge : ∀ b, record.monotonicBeforeNs = some b → b ≤ moment
  moment_le : ∀ a, record.monotonicAfterNs = some a → moment ≤ a
  start_between : start.TakenBetween offset
  finish_between : finish.TakenBetween offset
  drift_ge : ∃ h ∈ hosts start finish samples, h.wallLow ≤ drift
  drift_le : ∃ h ∈ hosts start finish samples, drift ≤ h.wallHigh

namespace Truth

variable {record : ExecutionRecord} {start finish : Probe} {samples : List ClockReading}

/-- The moment of the record on the host's monotonic clock. -/
def hostMonotonic (w : Truth record start finish samples) : ℚ := w.moment + w.offset

/-- The host wall time of the record. -/
def wall (w : Truth record start finish samples) : ℚ := w.hostMonotonic + w.drift

end Truth

/-! ## Bounds -/

theorem leastOf_le {x y : ℤ} {xs : List ℤ} (h : y ∈ x :: xs) : leastOf x xs ≤ y := by
  unfold leastOf
  induction xs with
  | nil => simp_all
  | cons z zs ih =>
      rw [List.foldr_cons]
      by_cases hz : y = z
      · exact (min_le_left _ _).trans hz.ge
      · refine (min_le_right _ _).trans (ih ?_)
        simp only [List.mem_cons] at h ⊢
        tauto

theorem le_greatestOf {x y : ℤ} {xs : List ℤ} (h : y ∈ x :: xs) : y ≤ greatestOf x xs := by
  unfold greatestOf
  induction xs with
  | nil => simp_all
  | cons z zs ih =>
      rw [List.foldr_cons]
      by_cases hz : y = z
      · exact hz.le.trans (le_max_left _ _)
      · refine (ih ?_).trans (le_max_right _ _)
        simp only [List.mem_cons] at h ⊢
        tauto

theorem utcMicros_eq (ns : ℤ) : utcMicros ns = ns / 1000 := by
  unfold utcMicros
  omega

/-- A probe bounds the offset from both sides. -/
theorem Probe.TakenBetween.offset_mem {p : Probe} {offset : ℚ} (h : p.TakenBetween offset) :
    p.offsetLow ≤ offset ∧ offset ≤ p.offsetHigh := by
  obtain ⟨taken, hge, hle, hbefore, hafter⟩ := h
  simp only [offsetLow, offsetHigh, Int.cast_sub]
  constructor <;> linarith

/-- A wall clock that is read within its resolution, between the two readings of
the monotonic clock, is ahead of it by something in between. -/
theorem drift_of_snapshot {r : ClockReading} {read drift : ℚ}
    (hge : r.monotonicBeforeNs ≤ read) (hle : read ≤ r.monotonicAfterNs)
    (hwall : |(r.wallTimeNs : ℚ) - (read + drift)| ≤ r.timestampResolutionNs) :
    r.wallLow ≤ drift ∧ drift ≤ r.wallHigh := by
  obtain ⟨hlow, hhigh⟩ := abs_le.1 hwall
  simp only [ClockReading.wallLow, ClockReading.wallHigh, Int.cast_sub, Int.cast_add]
  constructor <;> linarith

namespace Truth

variable {record : ExecutionRecord} {start finish : Probe} {samples : List ClockReading}
  (w : Truth record start finish samples)

theorem offset_ge : (leastOf start.offsetLow [finish.offsetLow] : ℤ) ≤ w.offset :=
  le_trans (by exact_mod_cast leastOf_le (List.mem_cons_self)) w.start_between.offset_mem.1

theorem offset_le : w.offset ≤ (greatestOf start.offsetHigh [finish.offsetHigh] : ℤ) :=
  le_trans w.start_between.offset_mem.2 (by exact_mod_cast le_greatestOf (List.mem_cons_self))

/-- A host reading counts towards the envelope. -/
theorem leastWall_le {h : ClockReading} (hmem : h ∈ hosts start finish samples) :
    leastOf start.clientBefore.wallLow
      ((laterHosts start finish samples).map ClockReading.wallLow) ≤ h.wallLow :=
  leastOf_le (List.mem_map_of_mem hmem)

theorem le_greatestWall {h : ClockReading} (hmem : h ∈ hosts start finish samples) :
    h.wallHigh ≤ greatestOf start.clientBefore.wallHigh
      ((laterHosts start finish samples).map ClockReading.wallHigh) :=
  le_greatestOf (List.mem_map_of_mem hmem)

/-- The bounds contain the true wall time. -/
theorem low_le_wall {before : ℤ} (hbefore : record.monotonicBeforeNs = some before) :
    (calibratedLow before start finish samples : ℤ) ≤ w.wall := by
  obtain ⟨h, hmem, hdrift⟩ := w.drift_ge
  have henvelope : ((leastOf start.clientBefore.wallLow
      ((laterHosts start finish samples).map ClockReading.wallLow) : ℤ) : ℚ) ≤ w.drift :=
    le_trans (by exact_mod_cast leastWall_le hmem) hdrift
  have hmoment := w.moment_ge before hbefore
  have hoffset := w.offset_ge
  simp only [calibratedLow, wall, hostMonotonic, Int.cast_add]
  linarith

theorem wall_le_high {after : ℤ} (hafter : record.monotonicAfterNs = some after) :
    w.wall ≤ (calibratedHigh after start finish samples : ℤ) := by
  obtain ⟨h, hmem, hdrift⟩ := w.drift_le
  have henvelope : w.drift ≤ ((greatestOf start.clientBefore.wallHigh
      ((laterHosts start finish samples).map ClockReading.wallHigh) : ℤ) : ℚ) :=
    le_trans hdrift (by exact_mod_cast le_greatestWall hmem)
  have hmoment := w.moment_le after hafter
  have hoffset := w.offset_le
  simp only [calibratedHigh, wall, hostMonotonic, Int.cast_add]
  linarith

end Truth

/-! ## The calibrated interval -/

/-- A calibrated record keeps everything but its stamp, which is the middle of
its bounds. -/
structure Calibrated (record : ExecutionRecord) (start finish : Probe)
    (samples : List ClockReading) (out : ExecutionRecord) (low high : ℤ) : Prop where
  low_eq : ∃ before, record.monotonicBeforeNs = some before ∧
    low = calibratedLow before start finish samples
  high_eq : ∃ after, record.monotonicAfterNs = some after ∧
    high = calibratedHigh after start finish samples
  recordedAt : out.recordedAt = .aware (.ofMicros ((low + high) / 2 / 1000))
  uncertainty : out.clockUncertaintyS =
    some (.float (.finite (calibratedUncertainty low high)))
  deadline : out.deadline = record.deadline

theorem calibrated_of_ok {record out : ExecutionRecord} {start finish : Probe}
    {samples : List ClockReading} (h : calibrateRecord record start finish samples = .ok out) :
    ∃ low high, Calibrated record start finish samples out low high := by
  unfold calibrateRecord at h
  obtain ⟨-, h⟩ := ite_error_eq_ok.1 h
  split at h
  · next before after hbefore hafter =>
      obtain ⟨-, h⟩ := ite_error_eq_ok.1 h
      obtain ⟨-, h⟩ := ite_error_eq_ok.1 h
      dsimp only at h
      split at h
      · cases h
        refine ⟨_, _, ⟨before, hbefore, rfl⟩, ⟨after, hafter, rfl⟩, ?_, rfl, rfl⟩
        rw [utcMicros_eq]
      · cases h
  · cases h
  · cases h

/-- The middle of two bounds, cut to the microsecond, with half their distance and a
microsecond on either side. -/
theorem interval_contains {low high : ℤ} {t : ℚ} (hlow : low ≤ t) (hhigh : t ≤ high) :
    |t / 1000000000 - (AwareDatetime.ofMicros ((low + high) / 2 / 1000)).timestamp| ≤
      calibratedUncertainty low high := by
  have hmiddle : 2 * ((low + high) / 2) ≤ low + high ∧ low + high ≤ 2 * ((low + high) / 2) + 1 := by
    omega
  have hmicros : 1000 * ((low + high) / 2 / 1000) ≤ (low + high) / 2 ∧
      (low + high) / 2 ≤ 1000 * ((low + high) / 2 / 1000) + 999 := by
    omega
  rw [AwareDatetime.timestamp, AwareDatetime.instantMicros_ofMicros, calibratedUncertainty]
  generalize (low + high) / 2 = middle at hmiddle hmicros ⊢
  generalize middle / 1000 = micros at hmicros ⊢
  have h1 : (2 : ℚ) * middle ≤ low + high := by exact_mod_cast hmiddle.1
  have h2 : (low + high : ℚ) ≤ 2 * middle + 1 := by exact_mod_cast hmiddle.2
  have h3 : (1000 : ℚ) * micros ≤ middle := by exact_mod_cast hmicros.1
  have h4 : (middle : ℚ) ≤ 1000 * micros + 999 := by exact_mod_cast hmicros.2
  rw [abs_le]
  constructor <;> linarith

/-- The stamp of a record and its uncertainty enclose a time in seconds. -/
def ExecutionRecord.Contains (r : ExecutionRecord) (t : ℚ) : Prop :=
  ∃ at' u, r.recordedAt = .aware at' ∧ uncertainty r = some u ∧ |t - at'.timestamp| ≤ u

theorem Calibrated.uncertainty_eq {record out : ExecutionRecord} {start finish : Probe}
    {samples : List ClockReading} {low high : ℤ}
    (h : Calibrated record start finish samples out low high) (hle : low ≤ high) :
    Conformance.uncertainty out = some (calibratedUncertainty low high) := by
  have hnonneg : 0 ≤ calibratedUncertainty low high := by
    have hcast : (low : ℚ) ≤ high := by exact_mod_cast hle
    unfold calibratedUncertainty
    linarith
  simp [Conformance.uncertainty, h.uncertainty, PyFloat.toRat?, hnonneg]

/-- A calibrated record with the truth about it lies between its bounds. -/
theorem Truth.mem_bounds {record out : ExecutionRecord} {start finish : Probe}
    {samples : List ClockReading} {low high : ℤ} (w : Truth record start finish samples)
    (h : Calibrated record start finish samples out low high) : low ≤ w.wall ∧ w.wall ≤ high := by
  obtain ⟨before, hbefore, rfl⟩ := h.low_eq
  obtain ⟨after, hafter, rfl⟩ := h.high_eq
  exact ⟨w.low_le_wall hbefore, w.wall_le_high hafter⟩

/-- **The interval.**  The stamp of a calibrated record, give or take its
uncertainty, contains the true wall time. -/
theorem Truth.contains {record out : ExecutionRecord} {start finish : Probe}
    {samples : List ClockReading} (w : Truth record start finish samples)
    (h : calibrateRecord record start finish samples = .ok out) :
    out.Contains (w.wall / 1000000000) := by
  obtain ⟨low, high, hout⟩ := calibrated_of_ok h
  obtain ⟨hlow, hhigh⟩ := w.mem_bounds hout
  have hle : low ≤ high := by exact_mod_cast hlow.trans hhigh
  exact ⟨_, _, hout.recordedAt, hout.uncertainty_eq hle, interval_contains hlow hhigh⟩

/-! ## Verdicts over intervals -/

section Verdicts

variable {r a b : ExecutionRecord} {t x y : ℚ}

/-- What a deadline verdict says of a record that contains the time of the
initiation. -/
theorem deadlineStatus_sound {deadline : AwareDatetime} (h : r.Contains t)
    (hdeadline : r.deadline = some (.aware deadline)) :
    (deadlineStatus r = .ok .pass → t ≤ deadline.timestamp) ∧
      (deadlineStatus r = .ok .fail → deadline.timestamp < t) := by
  obtain ⟨at', u, hat, hu, hmem⟩ := h
  obtain ⟨hlow, hhigh⟩ := abs_le.1 hmem
  have hstatus : deadlineStatus r =
      .ok (if u ≤ deadline.timestamp - at'.timestamp then .pass
        else if deadline.timestamp - at'.timestamp < -u then .fail else .unknown) := by
    simp [deadlineStatus, hdeadline, hat, hu, aware, bind, Except.bind, pure, Except.pure]
  rw [hstatus]
  constructor
  · intro h
    by_cases hpass : u ≤ deadline.timestamp - at'.timestamp
    · linarith
    · rw [if_neg hpass] at h
      split at h <;> cases h
  · intro h
    by_cases hpass : u ≤ deadline.timestamp - at'.timestamp
    · rw [if_pos hpass] at h
      cases h
    · by_cases hfail : deadline.timestamp - at'.timestamp < -u
      · linarith
      · rw [if_neg hpass, if_neg hfail] at h
        cases h

/-- The two distances that `before` compares, when it decides. -/
theorem beforeByUtc_cases {atA atB : AwareDatetime} {u v : ℚ}
    (hatA : a.recordedAt = .aware atA) (hatB : b.recordedAt = .aware atB)
    (hu : uncertainty a = some u) (hv : uncertainty b = some v) :
    (beforeByUtc a b = .ok (some true) → u + v < atB.timestamp - atA.timestamp) ∧
      (beforeByUtc a b = .ok (some false) → v + u < atA.timestamp - atB.timestamp) := by
  have hbefore : beforeByUtc a b =
      .ok (if u + v < atB.timestamp - atA.timestamp then some true
        else if atB.timestamp - atA.timestamp < -(u + v) then some false else none) := by
    simp [beforeByUtc, hatA, hatB, hu, hv, aware, bind, Except.bind, pure, Except.pure]
  rw [hbefore]
  constructor
  · intro h
    by_cases htrue : u + v < atB.timestamp - atA.timestamp
    · exact htrue
    · rw [if_neg htrue] at h
      split at h <;> cases h
  · intro h
    by_cases htrue : u + v < atB.timestamp - atA.timestamp
    · rw [if_pos htrue] at h
      cases h
    · by_cases hfalse : atB.timestamp - atA.timestamp < -(u + v)
      · linarith
      · rw [if_neg htrue, if_neg hfalse] at h
        cases h

/-- What `withinWindow` says of two records that contain their times. -/
theorem withinWindow_sound {seconds : ℚ} (hx : a.Contains x) (hy : b.Contains y)
    (hprocess : shareProcess a b = false) :
    (withinWindow a b seconds = .ok (some true) → |x - y| ≤ seconds) ∧
      (withinWindow a b seconds = .ok (some false) → seconds < |x - y|) := by
  obtain ⟨atA, u, hatA, hu, hmemA⟩ := hx
  obtain ⟨atB, v, hatB, hv, hmemB⟩ := hy
  have hwithin : withinWindow a b seconds =
      .ok (if |atA.timestamp - atB.timestamp| + u + v ≤ seconds then some true
        else if seconds < |atA.timestamp - atB.timestamp| - u - v then some false else none) := by
    simp [withinWindow, hprocess, hatA, hatB, hu, hv, aware, bind, Except.bind, pure,
      Except.pure]
  have hsum : |x - y| ≤ |atA.timestamp - atB.timestamp| + u + v := by
    calc |x - y| = |x - atA.timestamp + (atA.timestamp - atB.timestamp) -
          (y - atB.timestamp)| := by ring_nf
      _ ≤ |x - atA.timestamp + (atA.timestamp - atB.timestamp)| + |y - atB.timestamp| :=
          abs_sub _ _
      _ ≤ |x - atA.timestamp| + |atA.timestamp - atB.timestamp| + |y - atB.timestamp| := by
          gcongr
          exact abs_add_le _ _
      _ ≤ |atA.timestamp - atB.timestamp| + u + v := by linarith
  have hgap : |atA.timestamp - atB.timestamp| ≤ |x - y| + u + v := by
    calc |atA.timestamp - atB.timestamp| = |x - y - (x - atA.timestamp) +
          (y - atB.timestamp)| := by ring_nf
      _ ≤ |x - y - (x - atA.timestamp)| + |y - atB.timestamp| := abs_add_le _ _
      _ ≤ |x - y| + |x - atA.timestamp| + |y - atB.timestamp| := by
          gcongr
          exact abs_sub _ _
      _ ≤ |x - y| + u + v := by linarith
  rw [hwithin]
  constructor
  · intro h
    by_cases htrue : |atA.timestamp - atB.timestamp| + u + v ≤ seconds
    · linarith
    · rw [if_neg htrue] at h
      split at h <;> cases h
  · intro h
    by_cases htrue : |atA.timestamp - atB.timestamp| + u + v ≤ seconds
    · rw [if_pos htrue] at h
      cases h
    · by_cases hfalse : seconds < |atA.timestamp - atB.timestamp| - u - v
      · linarith
      · rw [if_neg htrue, if_neg hfalse] at h
        cases h

end Verdicts

/-! ## Order of calibrated records -/

section Order

variable {a b a' b' : ExecutionRecord} {startA finishA startB finishB : Probe}
  {samplesA samplesB : List ClockReading}

/-- Stamps further apart than the uncertainties together: one interval ends before
the other begins. -/
theorem high_lt_low {lowA highA lowB highB : ℤ} (hA : lowA ≤ highA) (hB : lowB ≤ highB)
    (h : calibratedUncertainty lowA highA + calibratedUncertainty lowB highB <
      (AwareDatetime.ofMicros ((lowB + highB) / 2 / 1000)).timestamp -
        (AwareDatetime.ofMicros ((lowA + highA) / 2 / 1000)).timestamp) :
    highA < lowB := by
  have hcastA : (lowA : ℚ) ≤ highA := by exact_mod_cast hA
  have hcastB : (lowB : ℚ) ≤ highB := by exact_mod_cast hB
  have hhigh := (abs_le.1 (interval_contains hcastA le_rfl)).2
  have hlow := (abs_le.1 (interval_contains le_rfl hcastB)).1
  have hlt : (highA : ℚ) < lowB := by linarith
  exact_mod_cast hlt

/-- A host reading that both calibrations use, with its monotonic readings in
order. -/
def ShareReading (startA finishA startB finishB : Probe) (samplesA samplesB : List ClockReading) :
    Prop :=
  ∃ h ∈ hosts startA finishA samplesA, h ∈ hosts startB finishB samplesB ∧
    h.monotonicBeforeNs ≤ h.monotonicAfterNs ∧ 0 ≤ h.timestampResolutionNs

/-- Intervals that follow each other belong to moments that do: on the host's wall
clock, and on its monotonic clock when the calibrations share a reading. -/
theorem precedes_of_bounds {lowA highA lowB highB : ℤ}
    (A : Truth a startA finishA samplesA) (B : Truth b startB finishB samplesB)
    (hA : Calibrated a startA finishA samplesA a' lowA highA)
    (hB : Calibrated b startB finishB samplesB b' lowB highB) (h : highA < lowB) :
    A.wall < B.wall ∧
      (ShareReading startA finishA startB finishB samplesA samplesB →
        A.hostMonotonic < B.hostMonotonic) := by
  have hcast : (highA : ℚ) < lowB := by exact_mod_cast h
  refine ⟨?_, ?_⟩
  · exact ((A.mem_bounds hA).2.trans_lt hcast).trans_le (B.mem_bounds hB).1
  · rintro ⟨r, hrA, hrB, horder, hresolution⟩
    obtain ⟨after, hafter, rfl⟩ := hA.high_eq
    obtain ⟨before, hbefore, rfl⟩ := hB.low_eq
    have hbracket : r.wallLow ≤ r.wallHigh := by
      unfold ClockReading.wallLow ClockReading.wallHigh
      omega
    have henvelope : ((leastOf startB.clientBefore.wallLow
        ((laterHosts startB finishB samplesB).map ClockReading.wallLow) : ℤ) : ℚ) ≤
        (greatestOf startA.clientBefore.wallHigh
          ((laterHosts startA finishA samplesA).map ClockReading.wallHigh) : ℤ) := by
      exact_mod_cast ((Truth.leastWall_le hrB).trans hbracket).trans (Truth.le_greatestWall hrA)
    have hmomentA := A.moment_le after hafter
    have hmomentB := B.moment_ge before hbefore
    have hoffsetA := A.offset_le
    have hoffsetB := B.offset_ge
    simp only [calibratedHigh, calibratedLow, Int.cast_add] at hcast
    simp only [Truth.hostMonotonic]
    linarith

/-- The UTC comparison of two calibrated records answers by the bounds of their intervals. -/
theorem beforeByUtc_bounds (A : Truth a startA finishA samplesA)
    (B : Truth b startB finishB samplesB)
    (ha : calibrateRecord a startA finishA samplesA = .ok a')
    (hb : calibrateRecord b startB finishB samplesB = .ok b') :
    ∃ lowA highA lowB highB, Calibrated a startA finishA samplesA a' lowA highA ∧
      Calibrated b startB finishB samplesB b' lowB highB ∧
      (beforeByUtc a' b' = .ok (some true) → highA < lowB) ∧
      (beforeByUtc a' b' = .ok (some false) → highB < lowA) := by
  obtain ⟨lowA, highA, hA⟩ := calibrated_of_ok ha
  obtain ⟨lowB, highB, hB⟩ := calibrated_of_ok hb
  have hleA : lowA ≤ highA := by exact_mod_cast (A.mem_bounds hA).1.trans (A.mem_bounds hA).2
  have hleB : lowB ≤ highB := by exact_mod_cast (B.mem_bounds hB).1.trans (B.mem_bounds hB).2
  have hcases := beforeByUtc_cases hA.recordedAt hB.recordedAt (hA.uncertainty_eq hleA)
    (hB.uncertainty_eq hleB)
  exact ⟨lowA, highA, lowB, highB, hA, hB, fun h => high_lt_low hleA hleB (hcases.1 h),
    fun h => high_lt_low hleB hleA (hcases.2 h)⟩

/-- **Calibration is sound.**  Of two calibrated records each contains its true wall
time; a deadline verdict on the first is right about it; and `before`, where it
compares UTC intervals, is right about the two, also on the host's monotonic
clock when the calibrations share a reading. -/
theorem calibration_sound (A : Truth a startA finishA samplesA)
    (B : Truth b startB finishB samplesB)
    (ha : calibrateRecord a startA finishA samplesA = .ok a')
    (hb : calibrateRecord b startB finishB samplesB = .ok b') :
    a'.Contains (A.wall / 1000000000) ∧
    (∀ deadline, a'.deadline = some (.aware deadline) →
      (deadlineStatus a' = .ok .pass → A.wall / 1000000000 ≤ deadline.timestamp) ∧
      (deadlineStatus a' = .ok .fail → deadline.timestamp < A.wall / 1000000000)) ∧
    (shareDomain a' b' = false → shareProcess a' b' = false →
      (before a' b' = .ok (some true) → A.wall < B.wall ∧
        (ShareReading startA finishA startB finishB samplesA samplesB →
          A.hostMonotonic < B.hostMonotonic)) ∧
      (before a' b' = .ok (some false) → ¬ A.wall < B.wall ∧
        (ShareReading startB finishB startA finishA samplesB samplesA →
          ¬ A.hostMonotonic < B.hostMonotonic))) := by
  refine ⟨A.contains ha, fun deadline => deadlineStatus_sound (A.contains ha), ?_⟩
  intro hdomain hprocess
  have hbefore : before a' b' = beforeByUtc a' b' := by
    simp [before, hdomain, hprocess]
  rw [hbefore]
  obtain ⟨lowA, highA, lowB, highB, hA, hB, htrue, hfalse⟩ := beforeByUtc_bounds A B ha hb
  constructor
  · intro h
    exact precedes_of_bounds A B hA hB (htrue h)
  · intro h
    obtain ⟨hwall, hmonotonic⟩ := precedes_of_bounds B A hB hA (hfalse h)
    exact ⟨hwall.not_gt, fun hshare => (hmonotonic hshare).not_gt⟩

end Order

namespace TwoHosts

/-! A validator and a writer on two hosts, two seconds apart, captured by a third. -/

def hostAt (m : ℤ) : ClockReading := clockSnapshot m (1782900000000000000 + m) (m + 10) none 0

/-- A probe of a process whose clock shows `r`, one microsecond long. -/
def probeAt (domain : String) (m r : ℤ) : Probe :=
  ⟨hostAt m, clockSnapshot r 0 (r + 10) (some domain) 0, hostAt (m + 1000)⟩

def record (component domain : String) (m : ℤ) : ExecutionRecord where
  component := component
  processInstance := "1"
  clockDomain := some domain
  monotonicNs := m
  monotonicBeforeNs := some m
  monotonicAfterNs := some (m + 10)
  recordedAt := .aware (.ofMicros 0)
  clockUncertaintyS := none
  deadline := some (.aware (.ofMicros 1782900010000000))

def decided : ExecutionRecord := record "actuation-event-validator" "edge" 50000

def written : ExecutionRecord := record "actuation-signal-publisher" "cloud" 2000000000

def decidedTruth :
    Truth decided (probeAt "edge" 1000 100) (probeAt "edge" 101000 100100) [] where
  offset := 1500
  moment := 50005
  drift := 1782900000000000000
  moment_ge := by
    rintro b ⟨⟩
    norm_num
  moment_le := by
    rintro a ⟨⟩
    norm_num
  start_between := ⟨105, by norm_num [probeAt, hostAt, clockSnapshot]⟩
  finish_between := ⟨100105, by norm_num [probeAt, hostAt, clockSnapshot]⟩
  drift_ge := ⟨hostAt 1000, List.mem_cons_self,
    by norm_num [hostAt, clockSnapshot, ClockReading.wallLow]⟩
  drift_le := ⟨hostAt 1000, List.mem_cons_self,
    by norm_num [hostAt, clockSnapshot, ClockReading.wallHigh]⟩

def writtenTruth :
    Truth written (probeAt "cloud" 1999000000 1998998000)
      (probeAt "cloud" 2001000000 2000998000) [hostAt 1000] where
  offset := 2500
  moment := 2000000005
  drift := 1782900000000000000
  moment_ge := by
    rintro b ⟨⟩
    norm_num
  moment_le := by
    rintro a ⟨⟩
    norm_num
  start_between := ⟨1998998005, by norm_num [probeAt, hostAt, clockSnapshot]⟩
  finish_between := ⟨2000998005, by norm_num [probeAt, hostAt, clockSnapshot]⟩
  drift_ge := ⟨hostAt 1999000000, List.mem_cons_self,
    by norm_num [hostAt, clockSnapshot, ClockReading.wallLow]⟩
  drift_le := ⟨hostAt 1999000000, List.mem_cons_self,
    by norm_num [hostAt, clockSnapshot, ClockReading.wallHigh]⟩

/-- A calibrated record with the given stamp. -/
def calibrated (r : ExecutionRecord) (micros : ℤ) : ExecutionRecord :=
  { r with
    recordedAt := .aware (.ofMicros micros)
    clockUncertaintyS := some (.float (.finite (63 / 25000000)))
    rawRecordedAt := some r.recordedAt
    rawClockUncertaintyS := none
    calibrationBasis := some "bracketing_causal_envelope" }

end TwoHosts

/-- The decision is found to precede the write and to meet its deadline, and so it
does. -/
theorem calibration_sound_example :
    deadlineStatus (TwoHosts.calibrated TwoHosts.decided 1782900000000051) = .ok .pass ∧
      TwoHosts.decidedTruth.wall / 1000000000 ≤
        (AwareDatetime.ofMicros 1782900010000000).timestamp ∧
      before (TwoHosts.calibrated TwoHosts.decided 1782900000000051)
        (TwoHosts.calibrated TwoHosts.written 1782900002000002) = .ok (some true) ∧
      TwoHosts.decidedTruth.wall < TwoHosts.writtenTruth.wall ∧
      TwoHosts.decidedTruth.hostMonotonic < TwoHosts.writtenTruth.hostMonotonic := by
  have ha : calibrateRecord TwoHosts.decided (TwoHosts.probeAt "edge" 1000 100)
      (TwoHosts.probeAt "edge" 101000 100100) [] =
        .ok (TwoHosts.calibrated TwoHosts.decided 1782900000000051) := by decide +kernel
  have hb : calibrateRecord TwoHosts.written (TwoHosts.probeAt "cloud" 1999000000 1998998000)
      (TwoHosts.probeAt "cloud" 2001000000 2000998000) [TwoHosts.hostAt 1000] =
        .ok (TwoHosts.calibrated TwoHosts.written 1782900002000002) := by decide +kernel
  have hpass : deadlineStatus (TwoHosts.calibrated TwoHosts.decided 1782900000000051) =
      .ok .pass := by decide +kernel
  have hbefore : before (TwoHosts.calibrated TwoHosts.decided 1782900000000051)
      (TwoHosts.calibrated TwoHosts.written 1782900002000002) = .ok (some true) := by
    decide +kernel
  obtain ⟨-, hdeadline, horder⟩ :=
    calibration_sound TwoHosts.decidedTruth TwoHosts.writtenTruth ha hb
  obtain ⟨hwall, hmonotonic⟩ := (horder (by decide) (by decide)).1 hbefore
  have hshare : ShareReading (TwoHosts.probeAt "edge" 1000 100)
      (TwoHosts.probeAt "edge" 101000 100100) (TwoHosts.probeAt "cloud" 1999000000 1998998000)
      (TwoHosts.probeAt "cloud" 2001000000 2000998000) [] [TwoHosts.hostAt 1000] :=
    ⟨TwoHosts.hostAt 1000, by decide +kernel, by decide +kernel, by decide +kernel,
      by decide +kernel⟩
  exact ⟨hpass, (hdeadline _ rfl).1 hpass, hbefore, hwall, hmonotonic hshare⟩

end EirvahEdge.Conformance
