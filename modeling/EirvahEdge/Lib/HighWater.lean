import Mathlib.Order.Basic
import Mathlib.Data.List.Basic
import Mathlib.Order.Lattice

/-!
# High-water marks

A consumer that keeps, of everything it has seen, only the item whose mark is
strictly above all earlier ones: `raise mark old x` is one observation and a
left fold of it is a run.  The item kept at the end has the greatest mark
(`foldl_raise_ge`) and was observed (`foldl_raise_mem`), so once items with
equal marks are equal, the result depends only on which items were observed,
not on how often or in which order (`foldl_raise_congr`, and
`foldl_raise_map_congr` for a part of the items).
-/

namespace EirvahEdge.Lib.HighWater

variable {α ρ : Type*} [LinearOrder α] (mark : ρ → α)

/-- Keep `x` when nothing is kept yet or its mark is strictly higher. -/
def raise : Option ρ → ρ → Option ρ
  | none, x => some x
  | some y, x => if mark y < mark x then some x else some y

variable {mark}

/-- One observation never lowers the mark, and reaches the observed one. -/
theorem raise_eq_some {o : Option ρ} {x r : ρ} (h : raise mark o x = some r) :
    mark x ≤ mark r ∧ (∀ y, o = some y → mark y ≤ mark r) ∧
      (r = x ∨ o = some r) := by
  cases o with
  | none =>
      obtain rfl : x = r := by simpa [raise] using h
      exact ⟨le_refl _, by simp, Or.inl rfl⟩
  | some y =>
      simp only [raise] at h
      split at h
      · next hlt =>
          obtain rfl : x = r := by simpa using h
          refine ⟨le_refl _, ?_, Or.inl rfl⟩
          intro z hz
          obtain rfl : y = z := by simpa using hz
          exact le_of_lt hlt
      · next hge =>
          obtain rfl : y = r := by simpa using h
          refine ⟨not_lt.1 hge, ?_, Or.inr rfl⟩
          intro z hz
          obtain rfl : y = z := by simpa using hz
          exact le_refl _

theorem raise_isSome (o : Option ρ) (x : ρ) : (raise mark o x).isSome := by
  cases o with
  | none => rfl
  | some y =>
      simp only [raise]
      split <;> rfl

/-- Whatever is kept at the end was kept at the start or observed. -/
theorem foldl_raise_mem {xs : List ρ} {o : Option ρ} {r : ρ}
    (h : xs.foldl (raise mark) o = some r) : r ∈ xs ∨ o = some r := by
  induction xs generalizing o with
  | nil => exact Or.inr h
  | cons x xs ih =>
      rcases ih h with hmem | hkept
      · exact Or.inl (List.mem_cons_of_mem x hmem)
      · rcases (raise_eq_some hkept).2.2 with rfl | hold
        · exact Or.inl List.mem_cons_self
        · exact Or.inr hold

/-- The mark kept at the end is at least every mark on the way. -/
theorem foldl_raise_ge {xs : List ρ} {o : Option ρ} {r : ρ}
    (h : xs.foldl (raise mark) o = some r) :
    (∀ x ∈ xs, mark x ≤ mark r) ∧ ∀ y, o = some y → mark y ≤ mark r := by
  induction xs generalizing o with
  | nil =>
      refine ⟨by simp, fun y hy => ?_⟩
      obtain rfl : r = y := Option.some.inj (h.symm.trans hy)
      exact le_refl _
  | cons x xs ih =>
      obtain ⟨hrest, hfirst⟩ := ih h
      have hsome : (raise mark o x).isSome := raise_isSome o x
      obtain ⟨z, hz⟩ := Option.isSome_iff_exists.1 hsome
      obtain ⟨hx, hold, -⟩ := raise_eq_some hz
      have hzr := hfirst z hz
      refine ⟨?_, fun y hy => le_trans (hold y hy) hzr⟩
      intro w hw
      rcases List.mem_cons.1 hw with rfl | hw
      · exact le_trans hx hzr
      · exact hrest w hw

theorem foldl_raise_isSome {xs : List ρ} (o : Option ρ)
    (h : xs ≠ [] ∨ o.isSome) : (xs.foldl (raise mark) o).isSome := by
  induction xs generalizing o with
  | nil => simpa using h
  | cons x xs ih => exact ih (raise mark o x) (Or.inr (raise_isSome o x))

/-- **Convergence, up to a view.**  When items with equal marks look equal, two runs that
observe the same items keep items that look equal, whatever the orders and
repetitions. -/
theorem foldl_raise_map_congr {β : Type*} (view : ρ → β) {xs ys : List ρ}
    (hmem : ∀ x, x ∈ xs ↔ x ∈ ys)
    (hview : ∀ x ∈ xs, ∀ y ∈ xs, mark x = mark y → view x = view y) :
    (xs.foldl (raise mark) none).map view = (ys.foldl (raise mark) none).map view := by
  cases hx : xs.foldl (raise mark) none with
  | none =>
      have hnil : xs = [] := by
        by_contra hne
        have hsome : (xs.foldl (raise mark) none).isSome :=
          foldl_raise_isSome none (Or.inl hne)
        simp [hx] at hsome
      subst hnil
      have hys : ys = [] := List.eq_nil_iff_forall_not_mem.2 fun y hy => by
        simpa using (hmem y).2 hy
      rw [hys]
      rfl
  | some a =>
      have ha : a ∈ xs := by simpa using foldl_raise_mem hx
      have hne : ys ≠ [] := List.ne_nil_of_mem ((hmem a).1 ha)
      have hsome : (ys.foldl (raise mark) none).isSome :=
        foldl_raise_isSome none (Or.inl hne)
      obtain ⟨b, hb⟩ := Option.isSome_iff_exists.1 hsome
      have hbxs : b ∈ xs := by
        have := foldl_raise_mem hb
        simpa using (hmem b).2 (by simpa using this)
      have hab : mark a ≤ mark b := (foldl_raise_ge hb).1 a ((hmem a).1 ha)
      have hba : mark b ≤ mark a := (foldl_raise_ge hx).1 b hbxs
      rw [hb, Option.map_some, Option.map_some, hview a ha b hbxs (le_antisymm hab hba)]

/-- **Convergence.**  When equal marks mean equal items, the same item is kept. -/
theorem foldl_raise_congr {xs ys : List ρ} (hmem : ∀ x, x ∈ xs ↔ x ∈ ys)
    (hinj : ∀ x ∈ xs, ∀ y ∈ xs, mark x = mark y → x = y) :
    xs.foldl (raise mark) none = ys.foldl (raise mark) none := by
  simpa using foldl_raise_map_congr id hmem hinj

end EirvahEdge.Lib.HighWater
