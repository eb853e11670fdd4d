import Mathlib.Data.List.Basic

/-!
# Histories

A history is a list of observations, latest first.  `Always P` says that every
observation satisfies `P` together with what came before it, so that "each such
event was preceded by ..." is one predicate that grows with the history and
holds at every place of it (`Always.at'`).
-/

namespace EirvahEdge.Lib.History

variable {α : Type*} {P Q : List α → α → Prop}

/-- Every entry satisfies `P` with the entries before it. -/
def Always (P : List α → α → Prop) : List α → Prop
  | [] => True
  | o :: older => P older o ∧ Always P older

@[simp] theorem always_nil : Always P [] := trivial

/-- The law at one place of the history. -/
theorem Always.at' {newer older : List α} {o : α} (h : Always P (newer ++ o :: older)) :
    P older o := by
  induction newer with
  | nil => exact h.1
  | cons x newer ih => exact ih h.2

/-- Entries that the law does not speak about extend the history. -/
theorem Always.append {older : List α} (h : Always P older) (newer : List α)
    (hnew : ∀ o ∈ newer, ∀ before, P before o) : Always P (newer ++ older) := by
  induction newer with
  | nil => exact h
  | cons o newer ih =>
      refine ⟨hnew o List.mem_cons_self _, ih fun x hx => hnew x (List.mem_cons_of_mem _ hx)⟩

end EirvahEdge.Lib.History
