import Mathlib.Data.Prod.Lex
import Mathlib.Tactic.Common

/-!
# Source positions and their order

`SourcePosition` names one sample of one producer stream.  Positions of one
stream are compared epoch first, then sequence; `Before` is that order spelled
out and `rank` puts it into Mathlib's lexicographic product, where it is a
linear order.
-/

namespace EirvahEdge.Contracts

/-- `SourcePosition`; the boundary is the only one the contract admits. -/
structure SourcePosition where
  producer : String
  epoch : ℤ
  sequence : ℤ
  boundary : String := "adapter"
deriving DecidableEq, Repr

namespace SourcePosition

/-- Strict lexicographic order on `(epoch, sequence)`. -/
def Before (p q : SourcePosition) : Prop :=
  p.epoch < q.epoch ∨ p.epoch = q.epoch ∧ p.sequence < q.sequence

instance : DecidableRel Before := fun p q => by
  unfold Before
  infer_instance

/-- The position without its producer, in the lexicographic order. -/
def rank (p : SourcePosition) : ℤ ×ₗ ℤ := toLex (p.epoch, p.sequence)

theorem rank_lt_iff {p q : SourcePosition} : p.rank < q.rank ↔ p.Before q := by
  simp [rank, Before, Prod.Lex.toLex_lt_toLex]

theorem rank_eq_iff {p q : SourcePosition} :
    p.rank = q.rank ↔ p.epoch = q.epoch ∧ p.sequence = q.sequence := by
  simp [rank]

/-- A position that nothing of `q` is below, and `q` below `r`. -/
theorem Before.of_not_before {p q r : SourcePosition} (h : ¬ q.Before p)
    (h' : q.Before r) : p.Before r := by
  rw [← rank_lt_iff] at *
  exact lt_of_le_of_lt (not_lt.1 h) h'

theorem Before.irrefl (p : SourcePosition) : ¬ p.Before p := by
  rw [← rank_lt_iff]
  exact lt_irrefl _

theorem Before.trans {p q r : SourcePosition} (h : p.Before q)
    (h' : q.Before r) : p.Before r := by
  unfold Before at *
  omega

theorem Before.ne {p q : SourcePosition} (h : p.Before q) :
    (p.epoch, p.sequence) ≠ (q.epoch, q.sequence) := by
  unfold Before at h
  intro heq
  simp only [Prod.mk.injEq] at heq
  omega

end SourcePosition

end EirvahEdge.Contracts
