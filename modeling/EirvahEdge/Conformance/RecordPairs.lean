import EirvahEdge.Conformance.Execution
import Mathlib.Data.List.Sort
import Mathlib.Order.Extension.Linear

/-!
# The pairs of a list

`combinations` lists the pairs of the elements of a list, each with the earlier one first.  In
another order of the list the pairs are the same up to their direction, so a relation that is
not symmetric can hold of a pair in one order and of none in another.

It does not when it runs in a circle, since some step of the circle goes forward in any
order, or when it relates nothing.  `exists_combinations_iff` and `SteadyPairs.of_orders` say
that these are the only cases.
-/

namespace EirvahEdge.Conformance.Execution

variable {α : Type} {xs ys : List α} {a b c : α} {R : α → α → Prop}

theorem mem_of_combinations (h : (a, b) ∈ combinations xs) : a ∈ xs ∧ b ∈ xs := by
  induction xs with
  | nil => exact absurd h (by simp [combinations])
  | cons x xs ih =>
      rw [combinations, List.mem_append, List.mem_map] at h
      rcases h with ⟨y, hy, heq⟩ | h
      · obtain ⟨rfl, rfl⟩ := Prod.mk.inj heq
        exact ⟨List.mem_cons_self, List.mem_cons_of_mem _ hy⟩
      · exact ⟨List.mem_cons_of_mem _ (ih h).1, List.mem_cons_of_mem _ (ih h).2⟩

theorem ne_of_combinations (hnodup : xs.Nodup) (h : (a, b) ∈ combinations xs) : a ≠ b := by
  induction xs with
  | nil => exact absurd h (by simp [combinations])
  | cons x xs ih =>
      rw [List.nodup_cons] at hnodup
      rw [combinations, List.mem_append, List.mem_map] at h
      rcases h with ⟨y, hy, heq⟩ | h
      · obtain ⟨rfl, rfl⟩ := Prod.mk.inj heq
        exact fun h => hnodup.1 (h ▸ hy)
      · exact ih hnodup.2 h

/-- Two elements are a pair in the one order or in the other. -/
theorem combinations_of_mem (ha : a ∈ xs) (hb : b ∈ xs) (hne : a ≠ b) :
    (a, b) ∈ combinations xs ∨ (b, a) ∈ combinations xs := by
  induction xs with
  | nil => exact absurd ha List.not_mem_nil
  | cons x xs ih =>
      rw [combinations, List.mem_append, List.mem_append, List.mem_map, List.mem_map]
      rcases List.mem_cons.1 ha with rfl | ha'
      · rcases List.mem_cons.1 hb with rfl | hb'
        · exact absurd rfl hne
        · exact Or.inl (Or.inl ⟨b, hb', rfl⟩)
      · rcases List.mem_cons.1 hb with rfl | hb'
        · exact Or.inr (Or.inl ⟨a, ha', rfl⟩)
        · exact (ih ha' hb').imp Or.inr Or.inr

/-- The pairs of a list order its elements. -/
theorem combinations_trans (hnodup : xs.Nodup) (hab : (a, b) ∈ combinations xs)
    (hbc : (b, c) ∈ combinations xs) : (a, c) ∈ combinations xs := by
  induction xs with
  | nil => exact absurd hab (by simp [combinations])
  | cons x xs ih =>
      rw [List.nodup_cons] at hnodup
      rw [combinations, List.mem_append, List.mem_map] at hab hbc ⊢
      rcases hbc with ⟨y, hy, heq⟩ | hbc
      · obtain ⟨rfl, rfl⟩ := Prod.mk.inj heq
        rcases hab with ⟨z, hz, heq⟩ | hab
        · obtain ⟨rfl, rfl⟩ := Prod.mk.inj heq
          exact absurd hz hnodup.1
        · exact absurd (mem_of_combinations hab).2 hnodup.1
      · rcases hab with ⟨z, hz, heq⟩ | hab
        · obtain ⟨rfl, rfl⟩ := Prod.mk.inj heq
          exact Or.inl ⟨c, (mem_of_combinations hbc).2, rfl⟩
        · exact Or.inr (ih hnodup.2 hab hbc)

/-- The pairs of a list in which a relation holds of every element and each later one. -/
theorem rel_of_combinations (h : xs.Pairwise R) (hab : (a, b) ∈ combinations xs) : R a b := by
  induction h with
  | nil => exact absurd hab (by simp [combinations])
  | cons hx _ ih =>
      rw [combinations, List.mem_append, List.mem_map] at hab
      rcases hab with ⟨y, hy, heq⟩ | hab
      · obtain ⟨rfl, rfl⟩ := Prod.mk.inj heq
        exact hx y hy
      · exact ih hab

/-- Two elements of a list are related. -/
def Related (R : α → α → Prop) (xs : List α) (a b : α) : Prop := a ∈ xs ∧ b ∈ xs ∧ a ≠ b ∧ R a b

/-- A relation between the elements does not tell the orders of a list apart: it runs in a
circle, as where it holds of two elements both ways, or it relates none. -/
def SteadyPairs (R : α → α → Prop) (xs : List α) : Prop :=
  (∃ a, Relation.TransGen (Related R xs) a a) ∨ ∀ a b, ¬Related R xs a b

theorem Related.of_perm (hperm : xs.Perm ys) (h : Related R xs a b) : Related R ys a b :=
  ⟨hperm.mem_iff.1 h.1, hperm.mem_iff.1 h.2.1, h.2.2⟩

theorem transGen_of_perm (hperm : xs.Perm ys) (h : Relation.TransGen (Related R xs) a b) :
    Relation.TransGen (Related R ys) a b :=
  Relation.TransGen.mono (fun _ _ => Related.of_perm hperm) _ _ h

/-- A relation that is symmetric on the elements is steady. -/
theorem steadyPairs_of_symm (h : ∀ a ∈ xs, ∀ b ∈ xs, a ≠ b → R a b → R b a) :
    SteadyPairs R xs := by
  by_cases hsome : ∃ a b, Related R xs a b
  · obtain ⟨a, b, hab⟩ := hsome
    have hba : Related R xs b a :=
      ⟨hab.2.1, hab.1, hab.2.2.1.symm, h a hab.1 b hab.2.1 hab.2.2.1 hab.2.2.2⟩
    exact Or.inl ⟨a, Relation.TransGen.tail (.single hab) hba⟩
  · exact Or.inr fun a b hab => hsome ⟨a, b, hab⟩

theorem related_of_combinations (hnodup : xs.Nodup) (h : (a, b) ∈ combinations xs)
    (hR : R a b) : Related R xs a b :=
  ⟨(mem_of_combinations h).1, (mem_of_combinations h).2, ne_of_combinations hnodup h, hR⟩

/-- A circle of related elements has a pair that is in the order of the list. -/
theorem exists_combinations_of_circle (hnodup : xs.Nodup)
    (h : Relation.TransGen (Related R xs) a a) : ∃ p ∈ combinations xs, R p.1 p.2 := by
  by_contra hnone
  -- every related pair is then in the opposite order, and so is what is reached by several
  have hback : ∀ {b}, Relation.TransGen (Related R xs) a b → (b, a) ∈ combinations xs := by
    intro b hab
    have hstep : ∀ {b c}, Related R xs b c → (c, b) ∈ combinations xs := by
      rintro b c ⟨hb, hc, hne, hR⟩
      exact (combinations_of_mem hb hc hne).resolve_left fun h => hnone ⟨(b, c), h, hR⟩
    induction hab with
    | single hab => exact hstep hab
    | tail _ hbc ih => exact combinations_trans hnodup (hstep hbc) ih
  exact ne_of_combinations hnodup (hback h) rfl

/-- Whether there is a related pair is the same in every order. -/
theorem exists_combinations_iff (h : SteadyPairs R xs) (hnodup : xs.Nodup)
    (hperm : xs.Perm ys) :
    (∃ p ∈ combinations xs, R p.1 p.2) ↔ ∃ p ∈ combinations ys, R p.1 p.2 := by
  have hnodup' : ys.Nodup := hperm.nodup_iff.1 hnodup
  rcases h with ⟨a, ha⟩ | hnone
  · exact iff_of_true (exists_combinations_of_circle hnodup ha)
      (exists_combinations_of_circle hnodup' (transGen_of_perm hperm ha))
  · refine iff_of_false ?_ ?_
    · rintro ⟨p, hp, hR⟩
      exact hnone _ _ (related_of_combinations hnodup hp hR)
    · rintro ⟨p, hp, hR⟩
      exact hnone _ _ ((related_of_combinations hnodup' hp hR).of_perm hperm.symm)

/-- Without a circle, some order of the list has no related pair. -/
theorem exists_perm_without_pair (hnodup : xs.Nodup)
    (hacyclic : ∀ a, ¬Relation.TransGen (Related R xs) a a) :
    ∃ ys, xs.Perm ys ∧ ∀ p ∈ combinations ys, ¬R p.1 p.2 := by
  classical
  let before (a b : α) : Prop := Relation.ReflTransGen (Related R xs) b a
  have : IsPartialOrder α before :=
    { refl := fun a => .refl
      trans := fun a b c hab hbc => hbc.trans hab
      antisymm := fun a b hab hba => by
        rcases Relation.reflTransGen_iff_eq_or_transGen.1 hab with heq | htrans
        · exact heq
        · exact absurd (htrans.trans_left hba) (hacyclic b) }
  obtain ⟨order, horder, hle⟩ := extend_partialOrder before
  refine ⟨xs.insertionSort order, (List.perm_insertionSort order xs).symm, ?_⟩
  rintro ⟨a, b⟩ hp hR
  have hperm := List.perm_insertionSort order xs
  have hab : Related R xs a b :=
    (related_of_combinations (hperm.nodup_iff.2 hnodup) hp hR).of_perm hperm
  have hforth : order a b := rel_of_combinations (List.pairwise_insertionSort order xs) hp
  have hback : order b a := hle b a (.single hab)
  exact hab.2.2.1 (antisymm hforth hback)

/-- A relation that does not tell the orders of the list apart is steady. -/
theorem SteadyPairs.of_orders (hnodup : xs.Nodup)
    (h : ∀ ys, xs.Perm ys →
      ((∃ p ∈ combinations xs, R p.1 p.2) ↔ ∃ p ∈ combinations ys, R p.1 p.2)) :
    SteadyPairs R xs := by
  classical
  rw [SteadyPairs, or_iff_not_imp_left]
  intro hcircle a b hab
  rw [not_exists] at hcircle
  obtain ⟨ys, hys, hnone⟩ := exists_perm_without_pair hnodup hcircle
  -- the two elements in front of the others are a pair
  have hb : b ∈ xs.erase a := (List.mem_erase_of_ne hab.2.2.1.symm).2 hab.2.1
  have hzs : xs.Perm (a :: b :: (xs.erase a).erase b) :=
    (List.perm_cons_erase hab.1).trans ((List.perm_cons_erase hb).cons a)
  have hpair : (a, b) ∈ combinations (a :: b :: (xs.erase a).erase b) := by
    simp [combinations]
  obtain ⟨p, hp, hR⟩ := (h ys hys).1 ((h _ hzs).2 ⟨_, hpair, hab.2.2.2⟩)
  exact hnone p hp hR

end EirvahEdge.Conformance.Execution
