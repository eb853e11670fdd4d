import EirvahEdge.Contracts.Value
import Mathlib.Algebra.Order.Field.Rat
import Mathlib.Order.WithBot
import Mathlib.Tactic.FieldSimp
import Mathlib.Tactic.Linarith
import Mathlib.Tactic.Positivity

/-!
# Percentiles of a histogram

A histogram is a list of upper bounds with cumulative counts.  `quantile` looks for the first
bucket whose count reaches the rank and interpolates in it; a bucket without an upper bound
establishes nothing.  The arithmetic is exact.

`quantileFrom_spec` says which bucket was found.  Over buckets with increasing bounds and
counts the answer lies in that bucket (`quantile_bracketed`), a higher rank has no smaller
answer (`quantile_mono`), and a rank above one without an answer has none either
(`quantile_unknown`).
-/

namespace EirvahEdge.Experiment

open EirvahEdge.Contracts

/-! ## Bounds -/

/-- A bound of a bucket, as `float` reads its label. -/
inductive Bound where
  | negInf
  | fin (q : ℚ)
  | posInf
deriving DecidableEq, Repr

namespace Bound

/-- The place of a bound in the order of the numbers. -/
def place : Bound → WithBot (WithTop ℚ)
  | negInf => ⊥
  | fin q => ((q : WithTop ℚ) : WithBot (WithTop ℚ))
  | posInf => ((⊤ : WithTop ℚ) : WithBot (WithTop ℚ))

theorem place_injective : Function.Injective place := by
  intro b c h
  cases b <;> cases c <;> simp_all [place]

instance : LinearOrder Bound := LinearOrder.lift' place place_injective

theorem fin_lt_fin {q r : ℚ} : fin q < fin r ↔ q < r := by
  change place (fin q) < place (fin r) ↔ q < r
  simp [place]

theorem negInf_lt_fin (q : ℚ) : negInf < fin q := by
  change place negInf < place (fin q)
  exact WithBot.bot_lt_coe _

theorem not_posInf_lt (b : Bound) : ¬posInf < b := by
  change ¬place posInf < place b
  cases b <;> simp [place]

end Bound

/-! ## The search -/

/-- What a percentile is reported as. -/
inductive Percentile where
  /-- `None`. -/
  | unknown
  | seconds (q : ℚ)
  /-- What interpolation from an infinite lower bound gives. -/
  | nan
deriving DecidableEq, Repr

/-- `lower + (upper - lower) * (rank - previous) / (count - previous)`. -/
def interpolate (lower : Bound) (upper rank previous count : ℚ) : Percentile :=
  match lower with
  | .fin l => .seconds (l + (upper - l) * (rank - previous) / (count - previous))
  | _ => .nan

/-- The loop of `_quantile`, from a bucket on. -/
def quantileFrom (rank : ℚ) : Bound → ℚ → List (Bound × ℚ) → Percentile
  | _, _, [] => .unknown
  | lower, previous, (upper, count) :: rest =>
      if rank ≤ count then
        match upper with
        | .fin u =>
            if count = previous then .seconds u else interpolate lower u rank previous count
        | _ => .unknown
      else quantileFrom rank upper count rest

/-- `_quantile`. -/
def quantile (buckets : List (Bound × ℚ)) (quantile : ℚ) : Except PyError Percentile :=
  match buckets.getLast? with
  | none => .error ⟨.other "IndexError", "list index out of range"⟩
  | some (_, total) =>
      if total ≤ 0 then .ok .unknown
      else .ok (quantileFrom (total * quantile) (.fin 0) 0 buckets)

/-! ## The bucket that is found -/

/-- The first bucket whose count reaches the rank, with what comes before it. -/
def bracket (rank : ℚ) : Bound × ℚ → List (Bound × ℚ) → Option ((Bound × ℚ) × (Bound × ℚ))
  | _, [] => none
  | before, bucket :: rest =>
      if rank ≤ bucket.2 then some (before, bucket) else bracket rank bucket rest

/-- What the bucket that is found answers. -/
def answer (rank : ℚ) (before bucket : Bound × ℚ) : Percentile :=
  match bucket.1 with
  | .fin u =>
      if bucket.2 = before.2 then .seconds u else interpolate before.1 u rank before.2 bucket.2
  | _ => .unknown

theorem quantileFrom_spec (rank : ℚ) (before : Bound × ℚ) (buckets : List (Bound × ℚ)) :
    quantileFrom rank before.1 before.2 buckets =
      match bracket rank before buckets with
      | none => .unknown
      | some (lower, upper) => answer rank lower upper := by
  induction buckets generalizing before with
  | nil => rfl
  | cons bucket rest ih =>
      obtain ⟨bound, count⟩ := bucket
      by_cases hle : rank ≤ count
      · cases bound <;> simp [quantileFrom, bracket, answer, hle]
      · cases bound <;> simpa [quantileFrom, bracket, hle] using ih (_, count)

section Bracket

variable {rank high : ℚ} {before lower upper lower' upper' : Bound × ℚ}
  {buckets : List (Bound × ℚ)}

/-- The found bucket follows the one before it, and the rank is between their counts. -/
theorem bracket_spec (hbefore : before.2 < rank)
    (h : bracket rank before buckets = some (lower, upper)) :
    (∃ pre post, before :: buckets = pre ++ lower :: upper :: post) ∧
      lower.2 < rank ∧ rank ≤ upper.2 := by
  induction buckets generalizing before with
  | nil => exact absurd h (by simp [bracket])
  | cons bucket rest ih =>
      rw [bracket] at h
      split_ifs at h with hle
      · obtain ⟨rfl, rfl⟩ := Prod.mk.inj (Option.some.inj h)
        exact ⟨⟨[], rest, rfl⟩, hbefore, hle⟩
      · obtain ⟨⟨pre, post, hsplit⟩, hrank⟩ := ih (not_le.1 hle) h
        exact ⟨⟨before :: pre, post, by rw [hsplit, List.cons_append]⟩, hrank⟩

/-- A rank up to the last count is found. -/
theorem bracket_isSome (before : Bound × ℚ) {last : Bound × ℚ}
    (hlast : buckets.getLast? = some last) (hrank : rank ≤ last.2) : ∃ found, bracket rank before buckets = some found := by
  induction buckets generalizing before with
  | nil => exact absurd hlast (by simp)
  | cons bucket rest ih =>
      rw [bracket]
      split_ifs with hle
      · exact ⟨_, rfl⟩
      · cases rest with
        | nil =>
            obtain rfl : bucket = last := by simpa using hlast
            exact absurd hrank hle
        | cons next rest => exact ih _ (by rwa [List.getLast?_cons_cons] at hlast)

/-- A higher rank is found in the same bucket or after it. -/
theorem bracket_mono (hle : rank ≤ high)
    (hsorted : ((before :: buckets).map Prod.fst).Pairwise (· < ·))
    (h : bracket rank before buckets = some (lower, upper))
    (h' : bracket high before buckets = some (lower', upper')) :
    (lower', upper') = (lower, upper) ∨ upper.1 ≤ lower'.1 := by
  induction buckets generalizing before with
  | nil => exact absurd h (by simp [bracket])
  | cons bucket rest ih =>
      rw [List.map_cons, List.pairwise_cons] at hsorted
      rw [bracket] at h h'
      by_cases hhigh : high ≤ bucket.2
      · rw [if_pos (hle.trans hhigh)] at h
        rw [if_pos hhigh] at h'
        exact Or.inl (Option.some.inj (h'.symm.trans h))
      · rw [if_neg hhigh] at h'
        split_ifs at h with hrank
        · obtain ⟨rfl, rfl⟩ := Prod.mk.inj (Option.some.inj h)
          right
          -- what the higher rank found comes after this bucket
          obtain ⟨⟨pre, post, hsplit⟩, -⟩ := bracket_spec (not_le.1 hhigh) h'
          have hmem : lower' ∈ bucket :: rest := by
            rw [hsplit]
            exact List.mem_append_right _ List.mem_cons_self
          rcases List.mem_cons.1 hmem with rfl | hmem
          · exact le_rfl
          · rw [List.map_cons, List.pairwise_cons] at hsorted
            exact le_of_lt (hsorted.2.1 _ (List.mem_map_of_mem hmem))
        · exact ih hsorted.2 h h'

end Bracket

/-! ## Cumulative buckets -/

/-- The buckets of a histogram with observations. -/
structure CumulativeBuckets where
  buckets : List (Bound × ℚ)
  increasing : (buckets.map Prod.fst).Pairwise (· < ·)
  positive : ∀ bucket ∈ buckets, .fin 0 < bucket.1
  total : ℚ
  unbounded : buckets.getLast? = some (.posInf, total)
  cumulative : (buckets.map Prod.snd).Pairwise (· ≤ ·)
  nonneg : ∀ bucket ∈ buckets, 0 ≤ bucket.2
  total_pos : 0 < total

namespace CumulativeBuckets

variable {B : CumulativeBuckets} {p q x y : ℚ}

/-- The bounds with the zero below them. -/
theorem increasing_from_zero (B : CumulativeBuckets) :
    ((((.fin 0, 0) : Bound × ℚ) :: B.buckets).map Prod.fst).Pairwise (· < ·) := by
  refine List.pairwise_cons.2 ⟨fun b hb => ?_, B.increasing⟩
  obtain ⟨bucket, hmem, rfl⟩ := List.mem_map.1 hb
  exact B.positive bucket hmem

/-- Every rank is found, in a bucket whose lower bound is finite. -/
theorem quantile_eq (B : CumulativeBuckets) (hp1 : p ≤ 1) :
    ∃ lower upper, bracket (B.total * p) (.fin 0, 0) B.buckets = some (lower, upper) ∧
      quantile B.buckets p = .ok (answer (B.total * p) lower upper) := by
  have hrank : B.total * p ≤ B.total := by
    have := mul_le_mul_of_nonneg_left hp1 B.total_pos.le
    rwa [mul_one] at this
  obtain ⟨⟨lower, upper⟩, hfound⟩ := bracket_isSome (.fin 0, 0) B.unbounded hrank
  refine ⟨lower, upper, hfound, ?_⟩
  have hspec := quantileFrom_spec (B.total * p) (.fin 0, 0) B.buckets
  rw [hfound] at hspec
  rw [quantile, B.unbounded]
  simp only [not_le.2 B.total_pos, if_false]
  rw [hspec]

/-- The bucket that is found has a finite bound below it. -/
theorem lower_finite (hp : 0 < p) {lower upper : Bound × ℚ}
    (hfound : bracket (B.total * p) (.fin 0, 0) B.buckets = some (lower, upper)) :
    ∃ l, lower.1 = .fin l ∧ lower.1 < upper.1 := by
  obtain ⟨⟨pre, post, hsplit⟩, -⟩ := bracket_spec (mul_pos B.total_pos hp) hfound
  have hsorted := B.increasing_from_zero
  rw [hsplit, List.map_append, List.pairwise_append, List.map_cons, List.pairwise_cons] at hsorted
  have hlt : lower.1 < upper.1 := hsorted.2.1.1 _ (List.mem_map_of_mem List.mem_cons_self)
  have hmem : lower ∈ ((.fin 0, 0) : Bound × ℚ) :: B.buckets := by
    rw [hsplit]
    exact List.mem_append_right _ List.mem_cons_self
  have hzero : Bound.fin 0 ≤ lower.1 := by
    rcases List.mem_cons.1 hmem with rfl | hmem
    · exact le_rfl
    · exact (B.positive _ hmem).le
  cases hlower : lower.1 with
  | fin l => exact ⟨l, rfl, hlower ▸ hlt⟩
  | posInf => exact absurd (hlower ▸ hlt) (Bound.not_posInf_lt _)
  | negInf => exact absurd (hlower ▸ hzero) (not_le.2 (Bound.negInf_lt_fin 0))

/-- A finite answer, with the two bounds it is between. -/
theorem answer_seconds (hp : 0 < p) {lower upper : Bound × ℚ}
    (hfound : bracket (B.total * p) (.fin 0, 0) B.buckets = some (lower, upper))
    (h : answer (B.total * p) lower upper = .seconds x) :
    ∃ l u, lower.1 = .fin l ∧ upper.1 = .fin u ∧ l < u ∧ lower.2 < B.total * p ∧
      B.total * p ≤ upper.2 ∧
      x = l + (u - l) * (B.total * p - lower.2) / (upper.2 - lower.2) := by
  obtain ⟨l, hl, hlt⟩ := lower_finite hp hfound
  obtain ⟨-, hprevious, hcount⟩ := bracket_spec (mul_pos B.total_pos hp) hfound
  rw [answer] at h
  cases hupper : upper.1 with
  | fin u =>
      have hne : upper.2 ≠ lower.2 := (hprevious.trans_le hcount).ne'
      simp only [hupper, hne, if_false, hl, interpolate] at h
      rw [hl, hupper, Bound.fin_lt_fin] at hlt
      exact ⟨l, u, hl, rfl, hlt, hprevious, hcount, (Percentile.seconds.inj h).symm⟩
  | posInf => simp [hupper] at h
  | negInf => simp [hupper] at h

/-- Interpolation stays in the bucket. -/
theorem interpolate_mem {l u previous rank count : ℚ} (hlu : l < u) (hprevious : previous < rank)
    (hcount : rank ≤ count) :
    l < l + (u - l) * (rank - previous) / (count - previous) ∧
      l + (u - l) * (rank - previous) / (count - previous) ≤ u := by
  have hwidth : 0 < u - l := sub_pos.2 hlu
  have hrank : 0 < rank - previous := sub_pos.2 hprevious
  have hspan : 0 < count - previous := by linarith
  constructor
  · have : 0 < (u - l) * (rank - previous) / (count - previous) := by positivity
    linarith
  · have : (u - l) * (rank - previous) / (count - previous) ≤ u - l := by
      rw [div_le_iff₀ hspan]
      exact mul_le_mul_of_nonneg_left (by linarith) hwidth.le
    linarith

/-- A finite percentile lies in the bucket whose cumulative counts bracket its rank. -/
theorem quantile_bracketed (hp : 0 < p) (hp1 : p ≤ 1)
    (h : quantile B.buckets p = .ok (.seconds x)) :
    ∃ pre post l previous u count,
      ((.fin 0, 0) : Bound × ℚ) :: B.buckets = pre ++ (.fin l, previous) :: (.fin u, count) :: post ∧
      previous < B.total * p ∧ B.total * p ≤ count ∧ l < x ∧ x ≤ u := by
  obtain ⟨⟨_, previous⟩, ⟨_, count⟩, hfound, hquantile⟩ := B.quantile_eq hp1
  rw [hquantile] at h
  obtain ⟨l, u, rfl, rfl, hlu, hprevious, hcount, rfl⟩ :=
    answer_seconds hp hfound (Except.ok.inj h)
  obtain ⟨⟨pre, post, hsplit⟩, -⟩ := bracket_spec (mul_pos B.total_pos hp) hfound
  exact ⟨pre, post, l, previous, u, count, hsplit, hprevious, hcount,
    interpolate_mem hlu hprevious hcount⟩

/-- Percentiles grow. -/
theorem quantile_mono (hp : 0 < p) (hpq : p ≤ q) (hq : q ≤ 1)
    (h : quantile B.buckets p = .ok (.seconds x)) (h' : quantile B.buckets q = .ok (.seconds y)) :
    x ≤ y := by
  obtain ⟨lower, upper, hfound, hquantile⟩ := B.quantile_eq (hpq.trans hq)
  obtain ⟨lower', upper', hfound', hquantile'⟩ := B.quantile_eq hq
  rw [hquantile] at h
  rw [hquantile'] at h'
  have hrank : B.total * p ≤ B.total * q := mul_le_mul_of_nonneg_left hpq B.total_pos.le
  obtain ⟨l, u, hl, hu, hlu, hprevious, hcount, rfl⟩ :=
    answer_seconds hp hfound (Except.ok.inj h)
  obtain ⟨l', u', hl', hu', hlu', hprevious', hcount', rfl⟩ :=
    answer_seconds (hp.trans_le hpq) hfound' (Except.ok.inj h')
  rcases bracket_mono hrank B.increasing_from_zero hfound hfound' with heq | hle
  · obtain ⟨rfl, rfl⟩ := Prod.mk.inj heq
    obtain rfl := Bound.fin.inj (hl.symm.trans hl')
    obtain rfl := Bound.fin.inj (hu.symm.trans hu')
    have hspan : 0 < upper'.2 - lower'.2 := by linarith
    have hwidth : 0 < u - l := sub_pos.2 hlu
    gcongr
  · -- the lower bucket ends where the higher one begins, or before
    rw [hu, hl', ← not_lt, Bound.fin_lt_fin, not_lt] at hle
    calc _ ≤ u := (interpolate_mem hlu hprevious hcount).2
      _ ≤ l' := hle
      _ ≤ _ := (interpolate_mem hlu' hprevious' hcount').1.le

/-- Above a percentile that is not known none is. -/
theorem quantile_unknown (hp : 0 < p) (hpq : p ≤ q) (hq : q ≤ 1)
    (h : quantile B.buckets p = .ok .unknown) : quantile B.buckets q = .ok .unknown := by
  obtain ⟨lower, upper, hfound, hquantile⟩ := B.quantile_eq (hpq.trans hq)
  obtain ⟨lower', upper', hfound', hquantile'⟩ := B.quantile_eq hq
  rw [hquantile] at h
  have hrank : B.total * p ≤ B.total * q := mul_le_mul_of_nonneg_left hpq B.total_pos.le
  obtain ⟨l, hl, hlt⟩ := lower_finite hp hfound
  have hupper : upper.1 = .posInf := by
    have h := Except.ok.inj h
    rw [answer] at h
    cases hupper : upper.1 with
    | fin u => 
      simp only [hupper, hl, interpolate] at h
      split_ifs at h
    | posInf => rfl
    | negInf => exact absurd (hl ▸ hupper ▸ hlt) (not_lt.2 (Bound.negInf_lt_fin l).le)
  rcases bracket_mono hrank B.increasing_from_zero hfound hfound' with heq | hle
  · obtain ⟨rfl, rfl⟩ := Prod.mk.inj heq
    rw [hquantile', answer, hupper]
  · obtain ⟨l', -, hlt'⟩ := lower_finite (hp.trans_le hpq) hfound'
    exact absurd (hupper ▸ hle.trans_lt hlt') (Bound.not_posInf_lt _)

end CumulativeBuckets

end EirvahEdge.Experiment
