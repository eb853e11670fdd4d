import EirvahEdge.Lib.PyFloat

/-!
# Rounding to a grid

The nearest multiple of a step, ties to the even multiple.  Rounding is monotone and leaves
the multiples where they are, so it stays in every interval whose ends are multiples.
-/

namespace EirvahEdge.Lib.Grid

open EirvahEdge.Lib.PyFloat (roundHalfEven roundHalfEven_intCast roundHalfEven_mono
  abs_roundHalfEven_sub_le)

/-- The multiples of a step. -/
def OnGrid (step q : ℚ) : Prop := ∃ k : ℤ, q = k * step

/-- The nearest multiple of a step. -/
def snap (step q : ℚ) : ℚ := roundHalfEven (q / step) * step

variable {step p q : ℚ}

theorem snap_onGrid (step q : ℚ) : OnGrid step (snap step q) := ⟨roundHalfEven (q / step), rfl⟩

/-- A number is a multiple when its quotient is rounded to itself. -/
theorem onGrid_iff (h : step ≠ 0) : OnGrid step q ↔ q / step = roundHalfEven (q / step) := by
  constructor
  · rintro ⟨k, rfl⟩
    rw [mul_div_cancel_right₀ _ h, roundHalfEven_intCast]
  · intro hround
    refine ⟨roundHalfEven (q / step), ?_⟩
    rw [← hround, div_mul_cancel₀ _ h]

theorem snap_of_onGrid (h : step ≠ 0) (hq : OnGrid step q) : snap step q = q := by
  rw [snap, ← (onGrid_iff h).1 hq, div_mul_cancel₀ _ h]

theorem snap_mono (h : 0 < step) : Monotone (snap step) := by
  intro p q hpq
  have hround := roundHalfEven_mono (div_le_div_of_nonneg_right hpq h.le)
  exact mul_le_mul_of_nonneg_right (by exact_mod_cast hround) h.le

theorem abs_snap_sub_le (h : 0 < step) (q : ℚ) : |snap step q - q| ≤ step / 2 := by
  have hround := abs_roundHalfEven_sub_le (q / step)
  have hfactor : snap step q - q = (roundHalfEven (q / step) - q / step) * step := by
    rw [snap, sub_mul, div_mul_cancel₀ _ h.ne']
  rw [hfactor, abs_mul, abs_of_pos h]
  have hmul := mul_le_mul_of_nonneg_right hround h.le
  linarith

/-- An interval between multiples is not left. -/
theorem snap_mem_Icc (h : 0 < step) {low high : ℚ} (hlow : OnGrid step low)
    (hhigh : OnGrid step high) (hq : low ≤ q ∧ q ≤ high) :
    low ≤ snap step q ∧ snap step q ≤ high := by
  constructor
  · have hmono := snap_mono h hq.1
    rwa [snap_of_onGrid h.ne' hlow] at hmono
  · have hmono := snap_mono h hq.2
    rwa [snap_of_onGrid h.ne' hhigh] at hmono

end EirvahEdge.Lib.Grid
