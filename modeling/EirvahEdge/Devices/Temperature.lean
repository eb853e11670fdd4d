import EirvahEdge.Contracts.Authorization
import Mathlib.Algebra.Order.Field.Basic
import Mathlib.Analysis.Complex.Exponential

/-!
# Temperature of the conditioning zone

`TemperatureDynamics` follows its setpoint with a first-order lag.  A cooling disturbance
shifts the equilibrium for as long as it lasts, so a tick is one relaxation towards the
shifted equilibrium and one towards the setpoint.  Noise and a spike are added at the end.

The numbers are those of an ordered field; `exp(-t / time_constant_s)` is a function
`decay`, of which the tick itself asks nothing.  When it takes sums to products, relaxing
twice is relaxing once for longer (`relax_add`), and without noise and spike the result of
ticks does not depend on where an interval is cut (`tick_partition`).
-/

namespace EirvahEdge.Devices

open EirvahEdge.Contracts

/-! ## Relaxation -/

section Relaxation

variable {K : Type*} [Field K] (decay : K → K)

/-- The value after some time on the way to an equilibrium. -/
def relax (equilibrium elapsed value : K) : K :=
  equilibrium + (value - equilibrium) * decay elapsed

variable {decay}

theorem relax_zero (hzero : decay 0 = 1) (equilibrium value : K) :
    relax decay equilibrium 0 value = value := by
  rw [relax, hzero, mul_one, add_sub_cancel]

/-- Relaxing twice is relaxing once for longer. -/
theorem relax_add (hadd : ∀ s t, decay (s + t) = decay s * decay t) (equilibrium s t value : K) :
    relax decay equilibrium (s + t) value =
      relax decay equilibrium t (relax decay equilibrium s value) := by
  simp only [relax, hadd]
  ring

end Relaxation

/-! ## The simulated zone -/

variable {K : Type*} [Field K] [LinearOrder K] [IsStrictOrderedRing K]

/-- `TemperatureDynamics`. -/
@[ext] structure TemperatureDynamics (K : Type*) [Field K] [LinearOrder K] where
  timeConstantS : K
  sigma : K
  value : K
  coolingRate : K
  coolingRemainingS : K
  timeConstant_pos : 0 < timeConstantS
  sigma_nonneg : 0 ≤ sigma
  coolingRemaining_nonneg : 0 ≤ coolingRemainingS

namespace TemperatureDynamics

/-- `__post_init__`, on finite parameters. -/
def create (initial timeConstantS sigma : K) : Except PyError (TemperatureDynamics K) :=
  if h : 0 < timeConstantS ∧ 0 ≤ sigma then
    .ok ⟨timeConstantS, sigma, initial, 0, 0, h.1, h.2, le_rfl⟩
  else .error (valueError "time constant must be positive and noise non-negative")

/-- `inject_cooling`. -/
def injectCooling (d : TemperatureDynamics K) (rateCelsiusPerS durationS : K) :
    Except PyError (TemperatureDynamics K) :=
  if h : 0 < rateCelsiusPerS ∧ 0 < durationS then
    .ok
      { d with
        coolingRate := rateCelsiusPerS
        coolingRemainingS := durationS
        coolingRemaining_nonneg := h.2.le }
  else .error (valueError "cooling rate and duration must be positive and finite")

section Tick

-- `exp(-t / time_constant_s)`, the square root, and `rng.gauss(0.0, scale)`
variable (decay sqrt gauss : K → K)

/-- The equilibrium while the zone is cooled. -/
def cooledEquilibrium (d : TemperatureDynamics K) (setpoint : K) : K :=
  setpoint - d.coolingRate * d.timeConstantS

/-- The standard deviation of the noise of a tick. -/
def noiseScale (d : TemperatureDynamics K) (elapsedS : K) : K :=
  d.sigma * sqrt (d.timeConstantS / 2 * -(decay (2 * elapsedS) - 1))

/-- `tick`, which returns the new value and keeps it. -/
def tick (d : TemperatureDynamics K) (setpoint elapsedS spikeContribution : K) :
    Except PyError (TemperatureDynamics K) :=
  if elapsedS ≤ 0 then .error (valueError "elapsed time must be positive and finite")
  else
    let cooledS := min elapsedS d.coolingRemainingS
    let cooled :=
      if cooledS = 0 then d.value else relax decay (d.cooledEquilibrium setpoint) cooledS d.value
    let remaining :=
      if cooledS = 0 then d.coolingRemainingS else max 0 (d.coolingRemainingS - cooledS)
    let tracked := relax decay setpoint (elapsedS - cooledS) cooled
    let scale := d.noiseScale decay sqrt elapsedS
    let noisy := if scale = 0 then tracked else tracked + gauss scale
    .ok
      { d with
        value := noisy + spikeContribution
        coolingRemainingS := remaining
        coolingRemaining_nonneg := by
          dsimp only [remaining]
          split_ifs
          · exact d.coolingRemaining_nonneg
          · exact le_max_left _ _ }

end Tick

section Partition

variable {decay sqrt gauss : K → K} {d : TemperatureDynamics K} {setpoint : K}

/-- How long a tick is cooled. -/
def cooledS (d : TemperatureDynamics K) (elapsedS : K) : K := min elapsedS d.coolingRemainingS

/-- A tick without noise and spike, as two relaxations. -/
def settle (decay : K → K) (d : TemperatureDynamics K) (setpoint elapsedS : K) :
    TemperatureDynamics K :=
  { d with
    value := relax decay setpoint (elapsedS - d.cooledS elapsedS)
      (relax decay (d.cooledEquilibrium setpoint) (d.cooledS elapsedS) d.value)
    coolingRemainingS := d.coolingRemainingS - d.cooledS elapsedS
    coolingRemaining_nonneg := sub_nonneg.2 (min_le_right _ _) }

/-- **What a tick does** without noise and spike. -/
theorem tick_eq (hzero : decay 0 = 1) (hsigma : d.sigma = 0) {elapsedS : K} (h : 0 < elapsedS) :
    d.tick decay sqrt gauss setpoint elapsedS 0 = .ok (d.settle decay setpoint elapsedS) := by
  have hscale : d.noiseScale decay sqrt elapsedS = 0 := by rw [noiseScale, hsigma, zero_mul]
  have hcooled : (if min elapsedS d.coolingRemainingS = 0 then d.value
      else relax decay (d.cooledEquilibrium setpoint) (min elapsedS d.coolingRemainingS) d.value) =
      relax decay (d.cooledEquilibrium setpoint) (d.cooledS elapsedS) d.value := by
    split_ifs with hnone
    · rw [cooledS, hnone, relax_zero hzero]
    · rfl
  have hremaining : (if min elapsedS d.coolingRemainingS = 0 then d.coolingRemainingS
      else max 0 (d.coolingRemainingS - min elapsedS d.coolingRemainingS)) =
      d.coolingRemainingS - d.cooledS elapsedS := by
    split_ifs with hnone
    · rw [cooledS, hnone, sub_zero]
    · exact max_eq_right (sub_nonneg.2 (min_le_right _ _))
  unfold tick settle
  rw [if_neg (not_le.2 h)]
  simp only [hcooled, hremaining, hscale, if_true, add_zero]
  rfl

/-- A longer tick is cooled for as long as its parts together. -/
theorem cooledS_add (d : TemperatureDynamics K) (a : K) {b : K} (hb : 0 < b) :
    d.cooledS (a + b) = d.cooledS a + (d.settle decay setpoint a).cooledS b := by
  have hremaining := d.coolingRemaining_nonneg
  simp only [cooledS, settle]
  rcases le_total a d.coolingRemainingS with hle | hle
  · rw [min_eq_left hle, ← min_add_add_left, add_sub_cancel]
  · have hlong : d.coolingRemainingS ≤ a + b := hle.trans (le_add_of_nonneg_right hb.le)
    rw [min_eq_right hle, min_eq_right hlong, sub_self, min_eq_right hb.le, add_zero]

/-- **Cutting a tick in two.**  Either the first part is cooled throughout, and does not
relax towards the setpoint, or the second part is not cooled at all. -/
theorem settle_add (hzero : decay 0 = 1) (hadd : ∀ s t, decay (s + t) = decay s * decay t)
    (a : K) {b : K} (hb : 0 < b) :
    (d.settle decay setpoint a).settle decay setpoint b = d.settle decay setpoint (a + b) := by
  have hcooled : d.cooledS (a + b) = d.cooledS a + (d.settle decay setpoint a).cooledS b :=
    d.cooledS_add a hb
  have hequilibrium : (d.settle decay setpoint a).cooledEquilibrium setpoint =
      d.cooledEquilibrium setpoint := rfl
  have hvalue : ((d.settle decay setpoint a).settle decay setpoint b).value =
      (d.settle decay setpoint (a + b)).value := by
    rcases le_total a d.coolingRemainingS with hle | hle
    · have hfirst : d.cooledS a = a := min_eq_left hle
      have hrest : a + b - d.cooledS (a + b) = b - (d.settle decay setpoint a).cooledS b := by
        rw [hcooled, hfirst]
        ring
      show relax decay setpoint _ (relax decay _ _ (relax decay setpoint (a - d.cooledS a) _)) = _
      rw [hequilibrium, hfirst, sub_self, relax_zero hzero]
      show _ = relax decay setpoint (a + b - d.cooledS (a + b)) (relax decay _ _ _)
      rw [hrest, hcooled, hfirst, relax_add hadd]
    · have hfirst : d.cooledS a = d.coolingRemainingS := min_eq_right hle
      have hsecond : (d.settle decay setpoint a).cooledS b = 0 := by
        show min b (d.coolingRemainingS - d.cooledS a) = 0
        rw [hfirst, sub_self, min_eq_right hb.le]
      have hrest : a + b - d.cooledS (a + b) = a - d.cooledS a + b := by
        rw [hcooled, hsecond]
        ring
      show relax decay setpoint (b - _) (relax decay _ _ (relax decay setpoint _ _)) = _
      rw [hsecond, relax_zero hzero, sub_zero, ← relax_add hadd]
      show _ = relax decay setpoint (a + b - d.cooledS (a + b)) (relax decay _ _ _)
      rw [hrest, hcooled, hsecond, add_zero]
  have hremaining : ((d.settle decay setpoint a).settle decay setpoint b).coolingRemainingS =
      (d.settle decay setpoint (a + b)).coolingRemainingS := by
    show d.coolingRemainingS - d.cooledS a - _ = d.coolingRemainingS - d.cooledS (a + b)
    rw [hcooled, sub_sub]
  exact TemperatureDynamics.ext rfl rfl hvalue rfl hremaining

/-- A run of ticks is one tick. -/
theorem foldlM_tick (hzero : decay 0 = 1) (hadd : ∀ s t, decay (s + t) = decay s * decay t)
    (hsigma : d.sigma = 0) {ts : List K} (hne : ts ≠ []) (hpos : ∀ t ∈ ts, 0 < t) :
    ts.foldlM (fun d t => d.tick decay sqrt gauss setpoint t 0) d =
      .ok (d.settle decay setpoint ts.sum) := by
  induction ts generalizing d with
  | nil => exact absurd rfl hne
  | cons t ts ih =>
      rw [List.forall_mem_cons] at hpos
      rw [List.foldlM_cons, tick_eq hzero hsigma hpos.1, List.sum_cons]
      cases ts with
      | nil =>
          rw [List.sum_nil, add_zero]
          rfl
      | cons u us =>
          have hrest : 0 < (u :: us).sum := List.sum_pos _ hpos.2 (List.cons_ne_nil u us)
          have hsettled := ih (d := d.settle decay setpoint t) hsigma (List.cons_ne_nil u us) hpos.2
          rw [settle_add hzero hadd t hrest] at hsettled
          exact hsettled

/-- **Ticks compose.**  Without noise and spike, a tick of `a + b` leaves what a tick of `a`
followed by one of `b` leaves, and any ticks what one tick over their sum leaves: the
result depends on the interval only. -/
theorem tick_partition (hzero : decay 0 = 1) (hadd : ∀ s t, decay (s + t) = decay s * decay t)
    (hsigma : d.sigma = 0) :
    (∀ a b, 0 < a → 0 < b →
      (d.tick decay sqrt gauss setpoint a 0 >>= fun d' => d'.tick decay sqrt gauss setpoint b 0) =
        d.tick decay sqrt gauss setpoint (a + b) 0) ∧
    ∀ ts us : List K, ts ≠ [] → us ≠ [] → (∀ t ∈ ts, 0 < t) → (∀ u ∈ us, 0 < u) →
      ts.sum = us.sum →
      ts.foldlM (fun d' t => d'.tick decay sqrt gauss setpoint t 0) d =
        us.foldlM (fun d' u => d'.tick decay sqrt gauss setpoint u 0) d := by
  constructor
  · intro a b ha hb
    rw [tick_eq hzero hsigma ha, tick_eq hzero hsigma (add_pos ha hb), ← settle_add hzero hadd a hb]
    exact tick_eq (d := d.settle decay setpoint a) hzero hsigma hb
  · intro ts us hts hus hpos hpos' hsum
    rw [foldlM_tick hzero hadd hsigma hts hpos, foldlM_tick hzero hadd hsigma hus hpos', hsum]

end Partition

/-- A zone that is cooled by half a degree per second for three more seconds. -/
noncomputable def cooledZone : TemperatureDynamics ℝ where
  timeConstantS := 20
  sigma := 0
  value := 25
  coolingRate := 1 / 2
  coolingRemainingS := 3
  timeConstant_pos := by norm_num
  sigma_nonneg := le_rfl
  coolingRemaining_nonneg := by norm_num

/-- Two seconds and four more leave what six seconds do, although the cooling ends between. -/
theorem tick_partition_cooledZone :
    (cooledZone.tick (fun t => Real.exp (-t / 20)) Real.sqrt id 25 2 0 >>= fun d =>
        d.tick (fun t => Real.exp (-t / 20)) Real.sqrt id 25 4 0) =
      cooledZone.tick (fun t => Real.exp (-t / 20)) Real.sqrt id 25 (2 + 4) 0 := by
  have hadd (s t : ℝ) : Real.exp (-(s + t) / 20) = Real.exp (-s / 20) * Real.exp (-t / 20) := by
    rw [← Real.exp_add]
    congr 1
    ring
  exact (tick_partition (by simp) hadd rfl).1 2 4 (by norm_num) (by norm_num)

end TemperatureDynamics

end EirvahEdge.Devices
