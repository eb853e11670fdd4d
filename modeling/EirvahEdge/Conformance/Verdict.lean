import EirvahEdge.Contracts.Value
import Mathlib.Order.Basic

/-!
# Verdicts

The evaluator judges finitely many checks, each with a status, and a rule by its
checks: one failure decides, otherwise one unknown does, and a rule without
checks is unknown.

A check belongs to the rule its name begins with.  `verdict_eq_pass` and
`verdict_eq_fail` say what a verdict means, and `verdict_rank_le` is how two
verdicts are compared.
-/

namespace EirvahEdge.Conformance

open EirvahEdge.Contracts

/-- `Status`. -/
inductive Status where
  | fail
  | unknown
  | pass
deriving DecidableEq, Repr

def Status.name : Status → String
  | .fail => "fail"
  | .unknown => "unknown"
  | .pass => "pass"

/-- From worst to best. -/
def Status.rank : Status → ℕ
  | .fail => 0
  | .unknown => 1
  | .pass => 2

/-- `verdict`. -/
def verdict (statuses : List Status) : Status :=
  if .fail ∈ statuses then .fail
  else if statuses = [] ∨ .unknown ∈ statuses then .unknown
  else .pass

/-- The `KeyError` of a record without a member. -/
def missing (key : String) : PyError := ⟨.other "KeyError", key⟩

/-! ## Rules and checks -/

/-- The rules of the reference. -/
inductive RuleId where
  | c01 | c02 | c03 | c04 | c05 | c06 | c07 | c08 | c09 | c10 | c11 | c12 | c13
deriving DecidableEq, Repr

def RuleId.id : RuleId → String
  | .c01 => "C01"
  | .c02 => "C02"
  | .c03 => "C03"
  | .c04 => "C04"
  | .c05 => "C05"
  | .c06 => "C06"
  | .c07 => "C07"
  | .c08 => "C08"
  | .c09 => "C09"
  | .c10 => "C10"
  | .c11 => "C11"
  | .c12 => "C12"
  | .c13 => "C13"

theorem RuleId.id_injective {r s : RuleId} (h : r.id = s.id) : r = s := by
  cases r <;> cases s <;> first | rfl | exact absurd h (by decide)

/-- The name of a check: its rule, a dot and what is checked. -/
structure CheckName where
  rule : RuleId
  suffix : String
deriving DecidableEq, Repr

/-- `Check`. -/
structure Check where
  name : CheckName
  status : Status
  reason : String
  scope : String
  executed : Bool
  evidence : List Json
deriving DecidableEq, Repr

/-- `item["rule"]`. -/
def Check.rule (c : Check) : RuleId := c.name.rule

def statuses (checks : List Check) : List Status := checks.map Check.status

/-! ## What a verdict says -/

theorem verdict_eq_fail {ss : List Status} : verdict ss = .fail ↔ .fail ∈ ss := by
  unfold verdict
  split_ifs with h h'
  · simp [h]
  · simp [h]
  · simp [h]

/-- A rule passes when it has checks and all of them pass. -/
theorem verdict_eq_pass {ss : List Status} :
    verdict ss = .pass ↔ ss ≠ [] ∧ ∀ s ∈ ss, s = .pass := by
  unfold verdict
  split_ifs with hfail hunknown
  · have : ∃ s ∈ ss, s ≠ .pass := ⟨.fail, hfail, by decide⟩
    simpa using fun _ => this
  · rcases hunknown with rfl | hunknown
    · simp
    · have : ∃ s ∈ ss, s ≠ .pass := ⟨.unknown, hunknown, by decide⟩
      simpa using fun _ => this
  · rw [not_or] at hunknown
    simp only [true_iff]
    refine ⟨hunknown.1, fun s hs => ?_⟩
    cases s with
    | pass => rfl
    | fail => exact absurd hs hfail
    | unknown => exact absurd hs hunknown.2

/-- One verdict is no better than another when it keeps the failures and passes
only together with the other. -/
theorem verdict_rank_le {ss ts : List Status} (hfail : .fail ∈ ts → .fail ∈ ss)
    (hpass : verdict ss = .pass → verdict ts = .pass) :
    (verdict ss).rank ≤ (verdict ts).rank := by
  cases hts : verdict ts with
  | pass => cases verdict ss <;> decide
  | fail =>
      have hss : verdict ss = .fail := verdict_eq_fail.2 (hfail (verdict_eq_fail.1 hts))
      rw [hss]
  | unknown =>
      have hne : verdict ss ≠ .pass := by
        intro h
        rw [hpass h] at hts
        cases hts
      cases hss : verdict ss with
      | pass => exact absurd hss hne
      | fail => decide
      | unknown => decide

theorem verdict_statuses_eq_pass {cs : List Check} :
    verdict (statuses cs) = .pass ↔ cs ≠ [] ∧ ∀ c ∈ cs, c.status = .pass := by
  rw [verdict_eq_pass, statuses]
  simp

theorem fail_mem_statuses {cs : List Check} :
    .fail ∈ statuses cs ↔ ∃ c ∈ cs, c.status = .fail := by
  simp [statuses]

end EirvahEdge.Conformance
