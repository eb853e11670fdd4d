import Mathlib.Data.List.Nodup
import Mathlib.Data.List.Perm.Basic
import Mathlib.Order.Lattice

/-!
# Dictionaries that are only read in the order of their keys

`Dict κ β` is a list of items whose keys increase.  Assigning replaces the value of a key
that is there.  A dictionary is determined by what `get` answers (`ext_get`), so the order in
which distinct keys were assigned leaves no trace (`set_comm`).
-/

namespace EirvahEdge.Lib

/-- Items in the order of their keys, each key once. -/
structure Dict (κ β : Type*) [LinearOrder κ] where
  items : List (κ × β)
  sorted : (items.map Prod.fst).Pairwise (· < ·)

namespace Dict

variable {κ β : Type*} [LinearOrder κ]

/-- The items with `v` under `k`. -/
def insertItem (k : κ) (v : β) : List (κ × β) → List (κ × β)
  | [] => [(k, v)]
  | (j, u) :: rest =>
      if k < j then (k, v) :: (j, u) :: rest
      else if k = j then (k, v) :: rest
      else (j, u) :: insertItem k v rest

theorem mem_keys_insertItem {k j : κ} {v : β} {items : List (κ × β)} :
    j ∈ (insertItem k v items).map Prod.fst ↔ j = k ∨ j ∈ items.map Prod.fst := by
  induction items with
  | nil => simp [insertItem]
  | cons item rest ih =>
      obtain ⟨i, u⟩ := item
      rw [insertItem]
      split_ifs with hlt heq
      · simp
      · subst heq
        simp
      · rw [List.map_cons, List.mem_cons, ih, List.map_cons, List.mem_cons]
        exact or_left_comm

theorem sorted_insertItem {k : κ} {v : β} {items : List (κ × β)}
    (h : (items.map Prod.fst).Pairwise (· < ·)) :
    ((insertItem k v items).map Prod.fst).Pairwise (· < ·) := by
  induction items with
  | nil => simp [insertItem]
  | cons item rest ih =>
      obtain ⟨i, u⟩ := item
      rw [List.map_cons, List.pairwise_cons] at h
      rw [insertItem]
      split_ifs with hlt heq
      · simp only [List.map_cons, List.pairwise_cons, List.mem_cons, forall_eq_or_imp]
        exact ⟨⟨hlt, fun j hj => lt_trans hlt (h.1 j hj)⟩, h⟩
      · subst heq
        exact List.pairwise_cons.2 h
      · refine List.pairwise_cons.2 ⟨fun j hj => ?_, ih h.2⟩
        rcases mem_keys_insertItem.1 hj with rfl | hj
        · exact lt_of_le_of_ne (not_lt.1 hlt) (Ne.symm heq)
        · exact h.1 j hj

theorem mem_insertItem {k j : κ} {v w : β} {items : List (κ × β)}
    (h : (items.map Prod.fst).Pairwise (· < ·)) :
    (j, w) ∈ insertItem k v items ↔ if j = k then w = v else (j, w) ∈ items := by
  induction items with
  | nil => by_cases hj : j = k <;> simp [insertItem, hj]
  | cons item rest ih =>
      obtain ⟨i, u⟩ := item
      rw [List.map_cons, List.pairwise_cons] at h
      have hnot : ∀ m, m ≤ i → (m, w) ∉ rest := fun m hm hmem =>
        not_lt_of_ge hm (h.1 m (List.mem_map_of_mem hmem))
      rw [insertItem]
      by_cases hj : j = k
      · subst hj
        rw [if_pos rfl] at ih ⊢
        split_ifs with hlt heq
        · have hne : j ≠ i := ne_of_lt hlt
          simp [hne, hnot j (le_of_lt hlt)]
        · simp [hnot j (le_of_eq heq)]
        · simp [heq, ih h.2]
      · rw [if_neg hj] at ih ⊢
        split_ifs with hlt heq
        · simp [hj]
        · simp [hj, ← heq]
        · simp [ih h.2]

/-- No items. -/
def empty : Dict κ β := ⟨[], List.Pairwise.nil⟩

/-- `d[k] = v`. -/
def set (d : Dict κ β) (k : κ) (v : β) : Dict κ β where
  items := insertItem k v d.items
  sorted := sorted_insertItem d.sorted

/-- `d.get(k)`. -/
def get (d : Dict κ β) (k : κ) : Option β := (d.items.find? fun e => e.1 = k).map Prod.snd

@[ext] theorem ext {d e : Dict κ β} (h : d.items = e.items) : d = e := by
  obtain ⟨items, _⟩ := d
  obtain ⟨items', _⟩ := e
  cases h
  rfl

@[simp] theorem get_empty (k : κ) : (empty : Dict κ β).get k = none := rfl

theorem mem_items {d : Dict κ β} {k : κ} {v : β} : (k, v) ∈ d.items ↔ d.get k = some v := by
  obtain ⟨items, hsorted⟩ := d
  rw [get]
  induction items with
  | nil => simp
  | cons item rest ih =>
      obtain ⟨j, u⟩ := item
      rw [List.map_cons, List.pairwise_cons] at hsorted
      rw [List.mem_cons, List.find?_cons]
      by_cases hj : j = k
      · subst hj
        have hnot : (j, v) ∉ rest := fun hmem =>
          lt_irrefl j (hsorted.1 j (List.mem_map_of_mem hmem))
        simp [hnot, eq_comm]
      · have hne : (k, v) ≠ (j, u) := fun h => hj (Prod.ext_iff.1 h).1.symm
        simp only [hne, false_or, hj, decide_false]
        exact ih hsorted.2

/-- Two dictionaries that answer alike are equal. -/
theorem ext_get {d e : Dict κ β} (h : ∀ k, d.get k = e.get k) : d = e := by
  have hmem : ∀ item, item ∈ d.items ↔ item ∈ e.items := by
    rintro ⟨k, v⟩
    rw [mem_items, mem_items, h]
  have hnodup : ∀ c : Dict κ β, c.items.Nodup := fun c =>
    List.Nodup.of_map Prod.fst (c.sorted.imp ne_of_lt)
  have hantisymm : ∀ a b, a ∈ d.items → b ∈ e.items → a.1 < b.1 → b.1 < a.1 → a = b :=
    fun a b _ _ hab hba => absurd (lt_trans hab hba) (lt_irrefl _)
  exact ext (List.Perm.eq_of_pairwise hantisymm (List.pairwise_map.1 d.sorted)
    (List.pairwise_map.1 e.sorted)
    ((List.perm_ext_iff_of_nodup (hnodup d) (hnodup e)).2 hmem))

theorem get_set (d : Dict κ β) (k j : κ) (v : β) :
    (d.set k v).get j = if j = k then some v else d.get j := by
  ext w
  rw [← mem_items]
  have hmem : (j, w) ∈ (d.set k v).items ↔ if j = k then w = v else (j, w) ∈ d.items :=
    mem_insertItem d.sorted
  rw [hmem]
  split_ifs
  · exact ⟨fun h => h ▸ rfl, fun h => (Option.some.inj h).symm⟩
  · exact mem_items

@[simp] theorem get_set_self (d : Dict κ β) (k : κ) (v : β) : (d.set k v).get k = some v := by
  rw [get_set, if_pos rfl]

theorem get_set_of_ne (d : Dict κ β) {k j : κ} (h : j ≠ k) (v : β) :
    (d.set k v).get j = d.get j := by
  rw [get_set, if_neg h]

/-- A later assignment to the same key is the one that counts. -/
theorem set_set (d : Dict κ β) (k : κ) (u v : β) : (d.set k u).set k v = d.set k v := by
  refine ext_get fun j => ?_
  rw [get_set, get_set, get_set]
  split_ifs <;> rfl

/-- Assignments to distinct keys commute. -/
theorem set_comm (d : Dict κ β) {j k : κ} (h : j ≠ k) (u v : β) :
    (d.set j u).set k v = (d.set k v).set j u := by
  refine ext_get fun i => ?_
  rw [get_set, get_set, get_set, get_set]
  split_ifs with hk hj
  · exact absurd (hj.symm.trans hk) h
  all_goals rfl

/-- The last item has the greatest key. -/
theorem le_getLast {d : Dict κ β} {last : κ × β} (h : d.items.getLast? = some last) {k : κ} {v : β}
    (hk : d.get k = some v) : k ≤ last.1 := by
  obtain ⟨front, hfront⟩ := List.getLast?_eq_some_iff.1 h
  have hsorted := d.sorted
  rw [hfront, List.map_append, List.pairwise_append] at hsorted
  have hmem := mem_items.2 hk
  rw [hfront, List.mem_append, List.mem_singleton] at hmem
  rcases hmem with hmem | rfl
  · exact le_of_lt (hsorted.2.2 k (List.mem_map_of_mem hmem) _ List.mem_cons_self)
  · exact le_refl _

end Dict

end EirvahEdge.Lib
