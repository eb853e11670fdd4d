import EirvahEdge.Contracts.Authorization
import EirvahEdge.Contracts.Measurement
import EirvahEdge.Lib.Grid

/-!
# Rounding to the engineering resolution

`check_range` and `normalize_measurement` compute with doubles and with decimals of 28
digits.  What they are meant to compute is seen when both are taken as the decimals they
are printed as: the same code over an `Arithmetic`, once with the roundings of the machine
(`floats`, which is the code of `Measurement`) and once without (`exact`).

Without them a value that is clearly out of range is refused, and any other one is moved to
the range and from there to the nearest multiple of the resolution, which the range
contains because its ends are multiples (`normalize_sound`).
-/

namespace EirvahEdge.Contracts

open EirvahEdge.Lib

/-- The numbers of a precision: how they are compared and computed with, the decimal that
one is printed as, how decimals are divided and multiplied, and the number that is read
from a decimal, with the sign of another where the decimal is zero. -/
structure Arithmetic (α : Type) where
  isFinite : α → Bool
  zero : α
  le : α → α → Bool
  add : α → α → α
  sub : α → α → α
  half : α → α
  decimal : α → ℚ
  div : ℚ → ℚ → ℚ
  mul : ℚ → ℚ → ℚ
  ofDecimal : α → ℚ → α

namespace Arithmetic

/-- Doubles, and decimals of 28 digits. -/
def floats : Arithmetic PyFloat where
  isFinite := PyFloat.isFinite
  zero := .finite 0
  le := PyFloat.le
  add := PyFloat.add
  sub := PyFloat.sub
  half x := .ofRat (x.toRat?.getD 0 / 2)
  decimal := decimalOfFloat
  div := Decimal.div
  mul := Decimal.mul
  ofDecimal x q := .ofRatSigned x.isNegative q

/-- Decimals without roundings. -/
def exact : Arithmetic ℚ where
  isFinite _ := true
  zero := 0
  le x y := decide (x ≤ y)
  add := (· + ·)
  sub := (· - ·)
  half x := x / 2
  decimal := id
  div := (· / ·)
  mul := (· * ·)
  ofDecimal _ q := q

section Code

variable {α : Type} (A : Arithmetic α)

def lt (x y : α) : Bool := A.le x y && !A.le y x

def pyMax (x y : α) : α := if A.lt x y then y else x

def pyMin (x y : α) : α := if A.lt y x then y else x

/-- The constraints of the fields of `EngineeringPrecision`. -/
def isPrecision (resolution minimum maximum encodingError : α) : Bool :=
  [resolution, minimum, maximum, encodingError].all A.isFinite && A.lt A.zero resolution &&
    A.le A.zero encodingError

/-- `check_range`. -/
def checkRange (resolution minimum maximum encodingError : α) : Except PyError Unit :=
  let step := A.decimal resolution
  let onGrid (limit : α) : Bool :=
    let ratio := A.div (A.decimal limit) step
    decide (ratio = PyFloat.roundHalfEven ratio)
  if A.le maximum minimum then .error (valueError "minimum must be below maximum")
  else if A.le (A.half resolution) encodingError then
    .error (valueError "encoding error must be below half a resolution step")
  else if onGrid minimum && onGrid maximum then .ok ()
  else .error (valueError "range boundaries must lie on the resolution grid")

/-- `normalize_measurement`, from the finite number on. -/
def normalize (resolution minimum maximum encodingError number : α) : Except PyError α :=
  if A.lt number (A.sub minimum encodingError) || A.lt (A.add maximum encodingError) number then
    .error (valueError "engineering value outside declared range")
  else
    let bounded := A.pyMin maximum (A.pyMax minimum number)
    let step := A.decimal resolution
    let steps := PyFloat.roundHalfEven (A.div (A.decimal bounded) step)
    .ok (A.ofDecimal bounded (A.mul steps step))

end Code

/-! ## The code over doubles -/

theorem isPrecision_floats (resolution minimum maximum encodingError : PyFloat) :
    floats.isPrecision resolution minimum maximum encodingError =
      Contracts.isPrecision resolution minimum maximum encodingError := rfl

theorem checkRange_floats (resolution minimum maximum encodingError : PyFloat) :
    floats.checkRange resolution minimum maximum encodingError =
      Contracts.checkRange resolution minimum maximum encodingError := by
  simp only [checkRange, Contracts.checkRange, floats]
  congr

theorem normalize_floats (value : SignalValue) (policy : EngineeringPrecision) :
    normalizeMeasurement value policy =
      (finiteNumber value).bind (floats.normalize policy.resolution policy.minimum policy.maximum
        policy.encodingError) := by
  unfold normalizeMeasurement
  cases finiteNumber value with
  | error e => rfl
  | ok number =>
      have hlt (x y : PyFloat) : floats.lt x y = x.lt y := rfl
      have hmax (x y : PyFloat) : floats.pyMax x y = PyFloat.pyMax x y := rfl
      have hmin (x y : PyFloat) : floats.pyMin x y = PyFloat.pyMin x y := rfl
      simp only [bind, Except.bind, pure, Except.pure, normalize, hlt, hmax, hmin]
      simp only [floats]
      congr

end Arithmetic

/-! ## The code over exact decimals -/

/-- `EngineeringPrecision`, with exact decimals. -/
structure ExactPrecision where
  resolution : ℚ
  minimum : ℚ
  maximum : ℚ
  encodingError : ℚ := 0
  fields_valid :
    Arithmetic.exact.isPrecision resolution minimum maximum encodingError = true
  range_valid :
    Arithmetic.exact.checkRange resolution minimum maximum encodingError = .ok ()

namespace ExactPrecision

variable (P : ExactPrecision)

/-- `normalize_measurement` of a finite number, with exact decimals. -/
def normalize (number : ℚ) : Except PyError ℚ :=
  Arithmetic.exact.normalize P.resolution P.minimum P.maximum P.encodingError number

/-- The number clamped to the range. -/
def clamp (number : ℚ) : ℚ := min P.maximum (max P.minimum number)

theorem lt_exact {x y : ℚ} : Arithmetic.exact.lt x y = true ↔ x < y := by
  simp only [Arithmetic.lt, Arithmetic.exact, Bool.and_eq_true, decide_eq_true_eq,
    Bool.not_eq_true', decide_eq_false_iff_not, not_le]
  exact and_iff_right_of_imp le_of_lt

theorem resolution_pos : 0 < P.resolution := by
  have h := P.fields_valid
  simp only [Arithmetic.isPrecision, Bool.and_eq_true] at h
  exact lt_exact.1 h.1.2

theorem encodingError_nonneg : 0 ≤ P.encodingError := by
  have h := P.fields_valid
  simp only [Arithmetic.isPrecision, Bool.and_eq_true] at h
  simpa [Arithmetic.exact] using h.2

/-- What `check_range` establishes. -/
theorem range : P.minimum < P.maximum ∧ Grid.OnGrid P.resolution P.minimum ∧
    Grid.OnGrid P.resolution P.maximum := by
  have h := P.range_valid
  have hstep := P.resolution_pos.ne'
  simp only [Arithmetic.checkRange, Arithmetic.exact, id, decide_eq_true_eq, Bool.and_eq_true] at h
  obtain ⟨hlt, h⟩ := ite_error_eq_ok.1 h
  obtain ⟨-, h⟩ := ite_error_eq_ok.1 h
  split at h
  · next hgrid =>
      exact ⟨not_le.1 hlt, (Grid.onGrid_iff hstep).2 (of_decide_eq_true hgrid.1),
        (Grid.onGrid_iff hstep).2 (of_decide_eq_true hgrid.2)⟩
  · cases h

theorem pyMax_exact (x y : ℚ) : Arithmetic.exact.pyMax x y = max x y := by
  simp only [Arithmetic.pyMax, lt_exact]
  split_ifs with h
  · exact (max_eq_right h.le).symm
  · exact (max_eq_left (not_lt.1 h)).symm

theorem pyMin_exact (x y : ℚ) : Arithmetic.exact.pyMin x y = min x y := by
  simp only [Arithmetic.pyMin, lt_exact]
  split_ifs with h
  · exact (min_eq_right h.le).symm
  · exact (min_eq_left (not_lt.1 h)).symm

/-- Refusal out of the range, otherwise clamping and rounding. -/
theorem normalize_eq (number : ℚ) : P.normalize number =
    if number < P.minimum - P.encodingError ∨ P.maximum + P.encodingError < number then
      .error (valueError "engineering value outside declared range")
    else .ok (Grid.snap P.resolution (P.clamp number)) := by
  simp only [normalize, Arithmetic.normalize, pyMax_exact, pyMin_exact, Bool.or_eq_true, lt_exact]
  rfl

theorem normalize_eq_ok {number result : ℚ} : P.normalize number = .ok result ↔
    ¬(number < P.minimum - P.encodingError ∨ P.maximum + P.encodingError < number) ∧
      Grid.snap P.resolution (P.clamp number) = result := by
  rw [normalize_eq, ite_error_eq_ok, Except.ok.injEq]

theorem clamp_mem (number : ℚ) : P.minimum ≤ P.clamp number ∧ P.clamp number ≤ P.maximum :=
  ⟨le_min P.range.1.le (le_max_left _ _), min_le_left _ _⟩

theorem clamp_of_mem {number : ℚ} (h : P.minimum ≤ number ∧ number ≤ P.maximum) :
    P.clamp number = number := by
  rw [clamp, max_eq_right h.1, min_eq_right h.2]

theorem clamp_mono : Monotone P.clamp := fun _ _ h => min_le_min le_rfl (max_le_max le_rfl h)

/-- A normalised number is a multiple of the resolution in the range. -/
theorem mem_of_normalize {number result : ℚ} (h : P.normalize number = .ok result) :
    Grid.OnGrid P.resolution result ∧ P.minimum ≤ result ∧ result ≤ P.maximum := by
  obtain ⟨-, rfl⟩ := P.normalize_eq_ok.1 h
  exact ⟨Grid.snap_onGrid _ _, Grid.snap_mem_Icc P.resolution_pos P.range.2.1 P.range.2.2
    (P.clamp_mem number)⟩

/-- Normalising again changes nothing. -/
theorem normalize_of_mem {number : ℚ} (hgrid : Grid.OnGrid P.resolution number)
    (hmem : P.minimum ≤ number ∧ number ≤ P.maximum) : P.normalize number = .ok number := by
  have he := P.encodingError_nonneg
  refine P.normalize_eq_ok.2 ⟨?_, ?_⟩
  · rintro (hlow | hhigh) <;> linarith [hmem.1, hmem.2]
  · rw [P.clamp_of_mem hmem, Grid.snap_of_onGrid P.resolution_pos.ne' hgrid]

/-- **Normalisation is a sound rounding.**  It refuses exactly the numbers outside the
widened range; otherwise the result is the multiple of the resolution in the range nearest
to the clamped number, a second application changes nothing, and a greater number has no
smaller result. -/
theorem normalize_sound (number : ℚ) :
    ((∃ e, P.normalize number = .error e) ↔
      number < P.minimum - P.encodingError ∨ P.maximum + P.encodingError < number) ∧
    ∀ result, P.normalize number = .ok result →
      (∃ k : ℤ, result = k * P.resolution) ∧ P.minimum ≤ result ∧ result ≤ P.maximum ∧
      |result - min P.maximum (max P.minimum number)| ≤ P.resolution / 2 ∧
      P.normalize result = .ok result ∧
      ∀ number' result', number ≤ number' → P.normalize number' = .ok result' →
        result ≤ result' := by
  constructor
  · rw [normalize_eq]
    split_ifs with h
    · simp [h]
    · simp [h]
  · intro result hresult
    obtain ⟨hgrid, hmem⟩ := P.mem_of_normalize hresult
    refine ⟨hgrid, hmem.1, hmem.2, ?_, P.normalize_of_mem hgrid hmem, ?_⟩
    · obtain ⟨-, rfl⟩ := P.normalize_eq_ok.1 hresult
      exact Grid.abs_snap_sub_le P.resolution_pos (P.clamp number)
    · intro number' result' hle hresult'
      obtain ⟨-, rfl⟩ := P.normalize_eq_ok.1 hresult
      obtain ⟨-, rfl⟩ := P.normalize_eq_ok.1 hresult'
      exact Grid.snap_mono P.resolution_pos (P.clamp_mono hle)

/-- The declared precision of the conveyor speed, in metres per second. -/
def beltSpeed : ExactPrecision where
  resolution := 1 / 100
  minimum := 0
  maximum := 8 / 10
  encodingError := 3 / 100000000
  fields_valid := by decide +kernel
  range_valid := by decide +kernel

/-- Ties go to the even hundredth, and 0.804 is not rounded into the range. -/
theorem normalize_sound_beltSpeed :
    (∃ e, beltSpeed.normalize (804 / 1000) = .error e) ∧
      beltSpeed.normalize (565 / 1000) = .ok (56 / 100) ∧
      |(56 / 100 : ℚ) - min (8 / 10) (max 0 (565 / 1000))| ≤ 1 / 100 / 2 ∧
      beltSpeed.normalize (56 / 100) = .ok (56 / 100) := by
  have hrefused := (beltSpeed.normalize_sound (804 / 1000)).1.2
    (Or.inr (by norm_num [beltSpeed]))
  have htie : beltSpeed.normalize (565 / 1000) = .ok (56 / 100) := by decide +kernel
  obtain ⟨-, -, -, hnear, hagain, -⟩ := (beltSpeed.normalize_sound (565 / 1000)).2 _ htie
  exact ⟨hrefused, htie, hnear, hagain⟩

end ExactPrecision

end EirvahEdge.Contracts
