import Mathlib.Data.Int.ConditionallyCompleteOrder
import Mathlib.Data.Int.Log
import Mathlib.Data.Rat.Floor
import Mathlib.Tactic.Linarith
import Mathlib.Tactic.Positivity

/-!
# IEEE doubles as exact rationals

A finite double is the rational number it denotes.  The operations are the
real operations followed by one rounding to the nearest double, ties to even,
which is what the hardware does; `ulp` is the spacing of the doubles around a
number and stops at the subnormal spacing `2 ^ (-1074)`.

The sign of a zero is kept because it is visible in printed text; it takes no
part in comparisons.

Rounding is monotone (`nearest_mono`), moves a number by at most half an `ulp`
(`abs_nearest_sub_le`) and fixes the doubles (`nearest_mul_two_zpow`), among
them the integers below `2 ^ 53`.  `Rounding` packages the first and the last, so
that code which only adds, subtracts and compares times can be verified once for
exact numbers and for doubles.
-/

namespace EirvahEdge.Lib

/-- A double: finite with its exact value, the negative zero, an infinity or
a NaN. -/
inductive PyFloat where
  | finite (value : ℚ)
  | negZero
  | inf (negative : Bool)
  | nan
deriving DecidableEq, Repr

namespace PyFloat

/-- Distance of neighbouring doubles at the magnitude of `q`. -/
def ulp (q : ℚ) : ℚ := (2 : ℚ) ^ (max (Int.log 2 |q| - 52) (-1074))

/-- Nearest integer, ties to even: the built-in `round` of one argument. -/
def roundHalfEven (q : ℚ) : ℤ :=
  if q - ⌊q⌋ < 1 / 2 then ⌊q⌋
  else if 1 / 2 < q - ⌊q⌋ then ⌊q⌋ + 1
  else if ⌊q⌋ % 2 = 0 then ⌊q⌋ else ⌊q⌋ + 1

/-- The real number the nearest double denotes, before the range check. -/
def nearest (q : ℚ) : ℚ :=
  if q = 0 then 0 else roundHalfEven (q / ulp q) * ulp q

/-- The least magnitude that rounds out of the double range. -/
def overflow : ℚ := 2 ^ 1024

/-- Rounding of a real result; a magnitude out of range becomes infinite. -/
def ofRat (q : ℚ) : PyFloat :=
  if |nearest q| < overflow then .finite (nearest q) else .inf (decide (q < 0))

/-- `float(n)`: an integer out of range is refused (`OverflowError`). -/
def ofInt (n : ℤ) : Option PyFloat :=
  if |nearest n| < overflow then some (.finite (nearest n)) else none

/-- The value of a finite double. -/
def toRat? : PyFloat → Option ℚ
  | .finite q => some q
  | .negZero => some 0
  | .inf _ => none
  | .nan => none

/-- `math.isfinite`. -/
def isFinite (x : PyFloat) : Bool := x.toRat?.isSome

/-- `x <= y` on doubles: false as soon as a NaN takes part. -/
def le : PyFloat → PyFloat → Bool
  | .nan, _ => false
  | _, .nan => false
  | .inf true, _ => true
  | _, .inf false => true
  | .inf false, _ => false
  | _, .inf true => false
  | x, y => decide ((x.toRat?.getD 0) ≤ (y.toRat?.getD 0))

/-- `math.isclose(a, b, abs_tol=abs_tol)` on finite doubles, with the default
relative tolerance. -/
def isClose (a b absTol : ℚ) : Bool :=
  let relTol := nearest (1 / 10 ^ 9)
  let diff := |nearest (b - a)|
  decide (a = b ∨ diff ≤ |nearest (relTol * b)| ∨ diff ≤ |nearest (relTol * a)| ∨
    diff ≤ absTol)

/-! ## Rounding to an integer -/

theorem floor_le_roundHalfEven (q : ℚ) : ⌊q⌋ ≤ roundHalfEven q := by
  unfold roundHalfEven
  split_ifs <;> omega

theorem roundHalfEven_le_floor_add_one (q : ℚ) :
    roundHalfEven q ≤ ⌊q⌋ + 1 := by
  unfold roundHalfEven
  split_ifs <;> omega

theorem roundHalfEven_intCast (n : ℤ) : roundHalfEven (n : ℚ) = n := by
  simp [roundHalfEven]

theorem roundHalfEven_mono : Monotone roundHalfEven := by
  intro p q hpq
  have hfloor : ⌊p⌋ ≤ ⌊q⌋ := Int.floor_mono hpq
  rcases hfloor.lt_or_eq with hlt | heq
  · have hp := roundHalfEven_le_floor_add_one p
    have hq := floor_le_roundHalfEven q
    omega
  · unfold roundHalfEven
    rw [heq]
    split_ifs <;> first | omega | linarith

/-- Rounding to the nearest integer moves a number by at most one half. -/
theorem abs_roundHalfEven_sub_le (q : ℚ) : |(roundHalfEven q : ℚ) - q| ≤ 1 / 2 := by
  have hle : (⌊q⌋ : ℚ) ≤ q := Int.floor_le q
  have hlt : q < ⌊q⌋ + 1 := Int.lt_floor_add_one q
  rw [abs_le]
  unfold roundHalfEven
  split_ifs <;> push_cast <;> constructor <;> linarith

/-- What is nearer than one half to an integer rounds to it. -/
theorem roundHalfEven_eq_of_abs_lt {q : ℚ} {n : ℤ} (h : |q - n| < 1 / 2) :
    roundHalfEven q = n := by
  have hround := abs_le.1 (abs_roundHalfEven_sub_le q)
  have hnear := abs_lt.1 h
  have hlt : (roundHalfEven q : ℚ) < n + 1 := by linarith
  have hgt : (n : ℚ) < roundHalfEven q + 1 := by linarith
  have hlt' : roundHalfEven q < n + 1 := by exact_mod_cast hlt
  have hgt' : n < roundHalfEven q + 1 := by exact_mod_cast hgt
  omega

/-! ## Rounding to a double -/

theorem ulp_pos (q : ℚ) : 0 < ulp q := by
  exact zpow_pos (by norm_num) _

/-- A double is its significand times the spacing around it; zero included. -/
theorem nearest_eq (q : ℚ) : nearest q = roundHalfEven (q / ulp q) * ulp q := by
  unfold nearest
  split_ifs with hq
  · subst hq
    have hzero : roundHalfEven (0 / ulp 0) = 0 := by
      rw [zero_div]
      exact roundHalfEven_intCast 0
    rw [hzero]
    simp
  · rfl

theorem abs_nearest_sub_le (q : ℚ) : |nearest q - q| ≤ ulp q / 2 := by
  have hu := ulp_pos q
  have hround := abs_roundHalfEven_sub_le (q / ulp q)
  have hfactor : nearest q - q =
      ((roundHalfEven (q / ulp q) : ℚ) - q / ulp q) * ulp q := by
    rw [nearest_eq, sub_mul, div_mul_cancel₀ _ hu.ne']
  rw [hfactor, abs_mul, abs_of_pos hu]
  have hmul := mul_le_mul_of_nonneg_right hround hu.le
  linarith

/-- Below a power of two the spacing is at most `2 ^ (-53)` of it. -/
theorem ulp_le_of_abs_lt {q : ℚ} {k : ℤ} (hk : 0 < k) (h : |q| < 2 ^ k) :
    ulp q ≤ 2 ^ (k - 53) := by
  have hlog : Int.log 2 |q| < k := by
    by_cases hq : q = 0
    · simpa [hq] using hk
    · exact (Int.lt_zpow_iff_log_lt (by norm_num) (abs_pos.2 hq)).1 h
  exact zpow_le_zpow_right₀ (by norm_num) (by omega)

/-- What lies below an integral multiple of the spacing rounds to at most
that multiple. -/
theorem nearest_le_of_le {q : ℚ} {n : ℤ} (h : q ≤ n * ulp q) :
    nearest q ≤ n * ulp q := by
  have hu := ulp_pos q
  have hdiv : q / ulp q ≤ (n : ℚ) := (div_le_iff₀ hu).2 h
  have hround : roundHalfEven (q / ulp q) ≤ n := by
    have hmono := roundHalfEven_mono hdiv
    rwa [roundHalfEven_intCast] at hmono
  rw [nearest_eq]
  exact mul_le_mul_of_nonneg_right (by exact_mod_cast hround) hu.le

theorem le_nearest_of_le {q : ℚ} {n : ℤ} (h : n * ulp q ≤ q) :
    n * ulp q ≤ nearest q := by
  have hu := ulp_pos q
  have hdiv : (n : ℚ) ≤ q / ulp q := (le_div_iff₀ hu).2 h
  have hround : n ≤ roundHalfEven (q / ulp q) := by
    have hmono := roundHalfEven_mono hdiv
    rwa [roundHalfEven_intCast] at hmono
  rw [nearest_eq]
  exact mul_le_mul_of_nonneg_right (by exact_mod_cast hround) hu.le

/-- The exponent of the spacing around a number. -/
def ulpExponent (q : ℚ) : ℤ := max (Int.log 2 |q| - 52) (-1074)

theorem ulp_eq (q : ℚ) : ulp q = 2 ^ ulpExponent q := rfl

/-- A power of two at or above the spacing is one of its multiples. -/
theorem two_zpow_eq_mul_ulp {q : ℚ} {k : ℤ} (h : ulpExponent q ≤ k) :
    (2 : ℚ) ^ k = ((2 ^ (k - ulpExponent q).toNat : ℤ) : ℚ) * ulp q := by
  have hcast : ((k - ulpExponent q).toNat : ℤ) = k - ulpExponent q := by omega
  rw [ulp_eq]
  push_cast
  rw [← zpow_natCast (2 : ℚ) (k - ulpExponent q).toNat, hcast,
    ← zpow_add₀ (by norm_num : (2 : ℚ) ≠ 0), sub_add_cancel]

/-- Between two numbers of different spacing lies a power of two that both
roundings respect. -/
theorem log_of_ulpExponent_lt {p q : ℚ} (h : ulpExponent p < ulpExponent q) :
    ulpExponent q ≤ Int.log 2 |q| ∧ ulpExponent p ≤ Int.log 2 |q| ∧
      |p| < 2 ^ Int.log 2 |q| := by
  have hlog : Int.log 2 |p| < Int.log 2 |q| ∧ ulpExponent q = Int.log 2 |q| - 52 := by
    unfold ulpExponent at *
    omega
  have hp : |p| < (2 : ℚ) ^ (Int.log 2 |p| + 1) :=
    Int.lt_zpow_succ_log_self (by norm_num) |p|
  have hle : (2 : ℚ) ^ (Int.log 2 |p| + 1) ≤ 2 ^ Int.log 2 |q| :=
    zpow_le_zpow_right₀ (by norm_num) (by omega)
  exact ⟨by omega, by omega, lt_of_lt_of_le hp hle⟩

theorem zpow_log_le_abs {q : ℚ} (hq : q ≠ 0) : (2 : ℚ) ^ Int.log 2 |q| ≤ |q| :=
  Int.zpow_log_le_self (by norm_num) (abs_pos.2 hq)

theorem nearest_zero : nearest 0 = 0 := if_pos rfl

theorem nearest_nonneg {q : ℚ} (h : 0 ≤ q) : 0 ≤ nearest q := by
  have hle : ((0 : ℤ) : ℚ) * ulp q ≤ nearest q := le_nearest_of_le (by simpa using h)
  simpa using hle

theorem nearest_nonpos {q : ℚ} (h : q ≤ 0) : nearest q ≤ 0 := by
  have hle : nearest q ≤ ((0 : ℤ) : ℚ) * ulp q := nearest_le_of_le (by simpa using h)
  simpa using hle

/-- Rounding to the nearest double is monotone. -/
theorem nearest_mono : Monotone nearest := by
  intro p q hpq
  by_cases hp0 : p = 0
  · subst hp0
    rw [nearest_zero]
    exact nearest_nonneg hpq
  by_cases hq0 : q = 0
  · subst hq0
    rw [nearest_zero]
    exact nearest_nonpos hpq
  rcases lt_trichotomy (ulpExponent p) (ulpExponent q) with hlt | heq | hgt
  · -- `|p|` is below the power of two under `|q|`
    obtain ⟨hq, hp, habs⟩ := log_of_ulpExponent_lt hlt
    have hpos : 0 < q := by
      by_contra hneg
      have hq' : |q| = -q := abs_of_nonpos (not_lt.1 hneg)
      have hpow := zpow_log_le_abs hq0
      have hlow := neg_abs_le p
      linarith
    have hpow := zpow_log_le_abs hq0
    rw [abs_of_pos hpos] at hpow
    have hupper : nearest p ≤ 2 ^ Int.log 2 |q| := by
      rw [two_zpow_eq_mul_ulp hp] at habs ⊢
      exact nearest_le_of_le ((le_abs_self p).trans habs.le)
    have hlower : (2 : ℚ) ^ Int.log 2 |q| ≤ nearest q := by
      rw [abs_of_pos hpos] at hq ⊢
      rw [two_zpow_eq_mul_ulp hq] at hpow ⊢
      exact le_nearest_of_le hpow
    exact hupper.trans hlower
  · have hulp : ulp p = ulp q := by rw [ulp_eq, ulp_eq, heq]
    have hu := ulp_pos q
    have hdiv : p / ulp q ≤ q / ulp q := (div_le_div_iff_of_pos_right hu).2 hpq
    have hround := roundHalfEven_mono hdiv
    rw [nearest_eq, nearest_eq, hulp]
    exact mul_le_mul_of_nonneg_right (by exact_mod_cast hround) hu.le
  · -- the mirror image: `|q|` is below the power of two under `|p|`
    obtain ⟨hp, hq, habs⟩ := log_of_ulpExponent_lt hgt
    have hneg : p < 0 := by
      by_contra hpos
      have hp' : |p| = p := abs_of_nonneg (not_lt.1 hpos)
      have hpow := zpow_log_le_abs hp0
      have hup := le_abs_self q
      linarith
    have hpow := zpow_log_le_abs hp0
    have hlower : -(2 : ℚ) ^ Int.log 2 |p| ≤ nearest q := by
      have hmul := two_zpow_eq_mul_ulp hq
      have hle : (-(2 ^ (Int.log 2 |p| - ulpExponent q).toNat : ℤ) : ℚ) * ulp q ≤ q := by
        have hlow := neg_abs_le q
        linarith
      have hcast := le_nearest_of_le (q := q)
        (n := -(2 ^ (Int.log 2 |p| - ulpExponent q).toNat)) (by push_cast at hle ⊢; exact hle)
      push_cast at hcast hmul
      linarith
    have hupper : nearest p ≤ -(2 : ℚ) ^ Int.log 2 |p| := by
      have hmul := two_zpow_eq_mul_ulp hp
      have hle : p ≤ (-(2 ^ (Int.log 2 |p| - ulpExponent p).toNat : ℤ) : ℚ) * ulp p := by
        rw [abs_of_neg hneg] at hpow hmul ⊢
        linarith
      have hcast := nearest_le_of_le (q := p)
        (n := -(2 ^ (Int.log 2 |p| - ulpExponent p).toNat)) (by push_cast at hle ⊢; exact hle)
      push_cast at hcast hmul
      linarith
    exact hupper.trans hlower

/-- The doubles are fixed: a significand below `2 ^ 53` at a power of two that
is not below the subnormal spacing. -/
theorem nearest_mul_two_zpow {n : ℤ} {k : ℤ} (hn : |n| < 2 ^ 53) (hk : -1074 ≤ k) :
    nearest (n * 2 ^ k) = n * 2 ^ k := by
  by_cases hzero : n = 0
  · simp [hzero, nearest_zero]
  · set q : ℚ := n * 2 ^ k with hq
    have hpow : (0 : ℚ) < 2 ^ k := zpow_pos (by norm_num) k
    have hn' : (n : ℚ) ≠ 0 := by exact_mod_cast hzero
    have habs : |q| < (2 : ℚ) ^ (53 + k) := by
      rw [hq, abs_mul, abs_of_pos hpow, zpow_add₀ (by norm_num : (2 : ℚ) ≠ 0)]
      have hcast : ((|n| : ℤ) : ℚ) < ((2 ^ 53 : ℤ) : ℚ) := by exact_mod_cast hn
      push_cast at hcast
      exact mul_lt_mul_of_pos_right hcast hpow
    have hlog : Int.log 2 |q| < 53 + k :=
      (Int.lt_zpow_iff_log_lt (by norm_num) (abs_pos.2 (mul_ne_zero hn' hpow.ne'))).1 habs
    have hexp : ulpExponent q ≤ k := by
      unfold ulpExponent
      omega
    have hmul : q = ((n * 2 ^ (k - ulpExponent q).toNat : ℤ) : ℚ) * ulp q := by
      have hone := two_zpow_eq_mul_ulp hexp
      push_cast at hone ⊢
      rw [mul_assoc, ← hone]
    have hle := nearest_le_of_le (le_of_eq hmul)
    have hge := le_nearest_of_le (le_of_eq hmul.symm)
    rw [← hmul] at hle hge
    exact le_antisymm hle hge

/-- The integers below `2 ^ 53` are doubles. -/
theorem nearest_intCast {n : ℤ} (hn : |n| < 2 ^ 53) : nearest (n : ℚ) = n := by
  simpa using nearest_mul_two_zpow (k := 0) hn (by norm_num)

end PyFloat

/-! ## Arithmetic on times -/

/-- How results of additions are represented: a monotone rounding under which
the doubles are exact. -/
structure Rounding where
  round : ℚ → ℚ
  mono : Monotone round
  round_mul_two_zpow : ∀ n k : ℤ, |n| < 2 ^ 53 → -1074 ≤ k →
    round (n * 2 ^ k) = n * 2 ^ k

namespace Rounding

/-- No rounding. -/
def exact : Rounding := ⟨id, monotone_id, fun _ _ _ _ => rfl⟩

/-- Rounding to doubles. -/
def double : Rounding :=
  ⟨PyFloat.nearest, PyFloat.nearest_mono, fun _ _ => PyFloat.nearest_mul_two_zpow⟩

/-- Addition. -/
def add (R : Rounding) (a b : ℚ) : ℚ := R.round (a + b)

@[simp] theorem exact_round (q : ℚ) : exact.round q = q := rfl

variable {R : Rounding}

theorem round_intCast (n : ℤ) (hn : |n| < 2 ^ 53) : R.round n = n := by
  simpa using R.round_mul_two_zpow n 0 hn (by norm_num)

@[simp] theorem round_zero : R.round 0 = 0 := by
  simpa using R.round_intCast 0 (by norm_num)

theorem round_nonneg {q : ℚ} (h : 0 ≤ q) : 0 ≤ R.round q := by
  simpa using R.mono h

/-- Rounding passes no integer that a double holds. -/
theorem round_le_of_le {q : ℚ} {n : ℤ} (hn : |n| < 2 ^ 53) (h : q ≤ n) : R.round q ≤ n := by
  rw [← R.round_intCast n hn]
  exact R.mono h

theorem le_round_of_le {q : ℚ} {n : ℤ} (hn : |n| < 2 ^ 53) (h : n ≤ q) : n ≤ R.round q := by
  rw [← R.round_intCast n hn]
  exact R.mono h

/-- A number of microseconds keeps its sign. -/
theorem round_micros_nonneg_iff (n : ℤ) :
    0 ≤ R.round (n / 1000000) ↔ (0 : ℚ) ≤ n / 1000000 := by
  constructor
  · intro h
    by_contra hneg
    have hlt : n < 0 := by
      by_contra hn
      exact hneg (div_nonneg (by exact_mod_cast not_lt.1 hn) (by norm_num))
    -- a microsecond is more than the double `2 ^ (-20)`
    have hle : (n : ℚ) / 1000000 ≤ ((-1 : ℤ) : ℚ) * 2 ^ (-20 : ℤ) := by
      have hn : (n : ℚ) ≤ -1 := by exact_mod_cast Int.le_sub_one_of_lt hlt
      rw [div_le_iff₀ (by norm_num)]
      norm_num
      linarith
    have hround := R.mono hle
    rw [R.round_mul_two_zpow _ _ (by norm_num) (by norm_num)] at hround
    norm_num at hround
    linarith
  · exact R.round_nonneg

theorem add_mono {a a' b b' : ℚ} (ha : a ≤ a') (hb : b ≤ b') :
    R.add a b ≤ R.add a' b' :=
  R.mono (add_le_add ha hb)

/-- Adding at least one second to a rounded time gives a later time, whatever
the roundings lost. -/
theorem lt_add_of_one_le {t b : ℚ} (ht : |t| < 2 ^ 52) (hb : 1 ≤ b) :
    t < R.add (R.round t) b := by
  have habs := abs_lt.1 ht
  have hlt : t < ⌊t⌋ + 1 := Int.lt_floor_add_one t
  have hfloor : |⌊t⌋| < 2 ^ 53 ∧ |⌊t⌋ + 1| < 2 ^ 53 := by
    have hlow : -2 ^ 52 ≤ ⌊t⌋ := Int.le_floor.2 (by push_cast; exact habs.1.le)
    have hup : ⌊t⌋ < 2 ^ 52 := Int.floor_lt.2 (by push_cast; exact habs.2)
    constructor <;> rw [abs_lt] <;> constructor <;> omega
  have hround : (⌊t⌋ : ℚ) ≤ R.round t := by
    rw [← R.round_intCast ⌊t⌋ hfloor.1]
    exact R.mono (Int.floor_le t)
  have hsum : ((⌊t⌋ + 1 : ℤ) : ℚ) ≤ R.round t + b := by
    push_cast
    linarith
  have hadd : ((⌊t⌋ + 1 : ℤ) : ℚ) ≤ R.add (R.round t) b := by
    rw [← R.round_intCast (⌊t⌋ + 1) hfloor.2]
    exact R.mono hsum
  push_cast at hadd
  linarith

end Rounding

end EirvahEdge.Lib
