import Mathlib.Data.List.Nodup
import Mathlib.Data.List.Perm.Basic

/-!
# Keyed tables

A relational table with a primary key: the rows in insertion order, together
with the proof that no key occurs twice, so that a table with two rows under
one key cannot be built.  The operations are the statements programs issue
against such tables:

* `lookup`: `SELECT * WHERE key = k`;
* `insert`: `INSERT`, refused (`none`) when the key is taken;
* `replace`: `INSERT OR REPLACE`;
* `deleteWhere`: `DELETE WHERE p`;
* `updateWhere`: `UPDATE SET f WHERE p`, for an `f` that keeps the key;
* `updateEach`: one `UPDATE` by key for each row of a selection;
* `count`: `SELECT count(*) WHERE p`.

Each operation has one equation for `lookup`, so a proof about a statement is
a proof about single rows, and one fact about `count`.
-/

namespace EirvahEdge.Lib

/-- Rows with pairwise distinct keys, oldest first. -/
structure Table {κ ρ : Type*} (key : ρ → κ) where
  rows : List ρ
  keys_nodup : (rows.map key).Nodup

namespace Table

variable {κ ρ : Type*} {key : ρ → κ}

@[ext] theorem ext {t u : Table key} (h : t.rows = u.rows) : t = u := by
  cases t
  cases u
  simpa using h

/-- The table without rows. -/
def empty : Table key := ⟨[], List.nodup_nil⟩

instance : Inhabited (Table key) := ⟨empty⟩

/-- `DELETE WHERE p`. -/
def deleteWhere (t : Table key) (p : ρ → Bool) : Table key where
  rows := t.rows.filter fun r => !p r
  keys_nodup := t.keys_nodup.sublist (List.filter_sublist.map key)

/-- The row after `UPDATE SET f WHERE p`. -/
def updateRow (p : ρ → Bool) (f : ρ → ρ) (r : ρ) : ρ := if p r then f r else r

theorem key_updateRow {p : ρ → Bool} {f : ρ → ρ} (hf : ∀ r, key (f r) = key r)
    (r : ρ) : key (updateRow p f r) = key r := by
  unfold updateRow
  split
  · exact hf r
  · rfl

/-- `UPDATE SET f WHERE p`; the assignment leaves the key alone. -/
def updateWhere (t : Table key) (p : ρ → Bool) (f : ρ → ρ)
    (hf : ∀ r, key (f r) = key r := by intro _; rfl) : Table key where
  rows := t.rows.map (updateRow p f)
  keys_nodup := by
    have hkeys : (t.rows.map (updateRow p f)).map key = t.rows.map key := by
      rw [List.map_map]
      exact List.map_congr_left fun r _ => key_updateRow hf r
    rw [hkeys]
    exact t.keys_nodup

/-- `SELECT count(*) WHERE p`. -/
def count (t : Table key) (p : ρ → Bool) : Nat := t.rows.countP p

section Keyed

variable [DecidableEq κ]

/-- `SELECT * WHERE key = k`. -/
def lookup (t : Table key) (k : κ) : Option ρ :=
  t.rows.find? fun r => decide (key r = k)

theorem lookup_eq_none_iff {t : Table key} {k : κ} :
    t.lookup k = none ↔ ∀ r ∈ t.rows, key r ≠ k := by
  simp [lookup]

/-- `INSERT`: the primary key refuses a second row under a taken key. -/
def insert (t : Table key) (r : ρ) : Option (Table key) :=
  if h : t.lookup (key r) = none then
    some
      { rows := t.rows ++ [r]
        keys_nodup := by
          have hfresh := lookup_eq_none_iff.1 h
          rw [List.map_append, List.map_singleton]
          refine List.nodup_append.2
            ⟨t.keys_nodup, List.nodup_singleton _, ?_⟩
          intro a ha b hb hab
          obtain ⟨x, hx, rfl⟩ := List.mem_map.1 ha
          exact hfresh x hx (hab.trans (List.mem_singleton.1 hb)) }
  else none

/-- `INSERT OR REPLACE`: the row that held the key goes, the new one is
appended. -/
def replace (t : Table key) (r : ρ) : Table key where
  rows := (t.rows.filter fun x => !decide (key x = key r)) ++ [r]
  keys_nodup := by
    rw [List.map_append, List.map_singleton]
    refine List.nodup_append.2
      ⟨t.keys_nodup.sublist (List.filter_sublist.map key),
        List.nodup_singleton _, ?_⟩
    intro a ha b hb hab
    obtain ⟨x, hx, rfl⟩ := List.mem_map.1 ha
    have hne : key x ≠ key r := by simpa using (List.mem_filter.1 hx).2
    exact hne (hab.trans (List.mem_singleton.1 hb))

/-- A key names at most one row, so a lookup returns exactly the member that
carries the key. -/
theorem lookup_eq_some_iff {t : Table key} {k : κ} {r : ρ} :
    t.lookup k = some r ↔ r ∈ t.rows ∧ key r = k := by
  constructor
  · intro h
    exact ⟨List.mem_of_find?_eq_some h, by simpa using List.find?_some h⟩
  · rintro ⟨hr, rfl⟩
    cases h : t.lookup (key r) with
    | none => exact absurd rfl (lookup_eq_none_iff.1 h r hr)
    | some x =>
        have hx : x ∈ t.rows := List.mem_of_find?_eq_some h
        have hkey : key x = key r := by simpa using List.find?_some h
        rw [List.inj_on_of_nodup_map t.keys_nodup hx hr hkey]

theorem lookup_mem {t : Table key} {k : κ} {r : ρ} (h : t.lookup k = some r) :
    r ∈ t.rows :=
  (lookup_eq_some_iff.1 h).1

theorem key_of_lookup {t : Table key} {k : κ} {r : ρ}
    (h : t.lookup k = some r) : key r = k :=
  (lookup_eq_some_iff.1 h).2

theorem lookup_key {t : Table key} {r : ρ} (h : r ∈ t.rows) :
    t.lookup (key r) = some r :=
  lookup_eq_some_iff.2 ⟨h, rfl⟩

@[simp] theorem lookup_empty (k : κ) : (empty : Table key).lookup k = none := rfl

theorem lookup_deleteWhere (t : Table key) (p : ρ → Bool) (k : κ) :
    (t.deleteWhere p).lookup k = (t.lookup k).filter fun r => !p r := by
  apply Option.ext
  intro r
  rw [lookup_eq_some_iff, Option.filter_eq_some_iff, lookup_eq_some_iff]
  simp only [deleteWhere, List.mem_filter]
  constructor
  · rintro ⟨⟨hr, hp⟩, hk⟩
    exact ⟨⟨hr, hk⟩, hp⟩
  · rintro ⟨⟨hr, hk⟩, hp⟩
    exact ⟨⟨hr, hp⟩, hk⟩

theorem lookup_updateWhere (t : Table key) (p : ρ → Bool) (f : ρ → ρ)
    (hf : ∀ r, key (f r) = key r) (k : κ) :
    (t.updateWhere p f hf).lookup k = (t.lookup k).map (updateRow p f) := by
  apply Option.ext
  intro r
  rw [lookup_eq_some_iff, Option.map_eq_some_iff]
  simp only [updateWhere, List.mem_map]
  constructor
  · rintro ⟨⟨x, hx, rfl⟩, hk⟩
    rw [key_updateRow hf] at hk
    exact ⟨x, lookup_eq_some_iff.2 ⟨hx, hk⟩, rfl⟩
  · rintro ⟨x, hx, rfl⟩
    obtain ⟨hmem, hk⟩ := lookup_eq_some_iff.1 hx
    exact ⟨⟨x, hmem, rfl⟩, (key_updateRow hf x).trans hk⟩

/-- An update of rows under one key leaves every other key alone. -/
theorem lookup_updateWhere_other {t : Table key} {p : ρ → Bool} {f : ρ → ρ}
    {hf : ∀ r, key (f r) = key r} {k k' : κ}
    (hp : ∀ r, p r = true → key r = k) (hk : k ≠ k') :
    (t.updateWhere p f hf).lookup k' = t.lookup k' := by
  rw [lookup_updateWhere]
  cases hr : t.lookup k' with
  | none => rfl
  | some r =>
      have hfalse : p r ≠ true := fun h => hk ((hp r h).symm.trans (key_of_lookup hr))
      simp [updateRow, hfalse]

/-- An update that selects the row under a key rewrites it. -/
theorem lookup_updateWhere_self {t : Table key} {p : ρ → Bool} {f : ρ → ρ}
    {hf : ∀ r, key (f r) = key r} {k : κ} {r : ρ} (hr : t.lookup k = some r)
    (hp : p r = true) : (t.updateWhere p f hf).lookup k = some (f r) := by
  rw [lookup_updateWhere, hr]
  simp [updateRow, hp]

/-- A successful insertion found the key free. -/
theorem insert_eq_some {t u : Table key} {r : ρ} (h : t.insert r = some u) :
    t.lookup (key r) = none ∧ u.rows = t.rows ++ [r] := by
  unfold insert at h
  split at h
  · next hfree =>
      cases h
      exact ⟨hfree, rfl⟩
  · cases h

theorem insert_isSome {t : Table key} {r : ρ} (h : t.lookup (key r) = none) :
    (t.insert r).isSome := by
  simp [insert, h]

theorem lookup_insert {t u : Table key} {r : ρ} (h : t.insert r = some u)
    (k : κ) : u.lookup k = if key r = k then some r else t.lookup k := by
  obtain ⟨hfree, hrows⟩ := insert_eq_some h
  apply Option.ext
  intro x
  rw [lookup_eq_some_iff, hrows, List.mem_append, List.mem_singleton]
  by_cases hk : key r = k
  · rw [if_pos hk]
    constructor
    · rintro ⟨hx | rfl, hxk⟩
      · exact absurd (hxk.trans hk.symm) (lookup_eq_none_iff.1 hfree x hx)
      · rfl
    · intro hx
      cases hx
      exact ⟨Or.inr rfl, hk⟩
  · rw [if_neg hk, lookup_eq_some_iff]
    constructor
    · rintro ⟨hx | rfl, hxk⟩
      · exact ⟨hx, hxk⟩
      · exact absurd hxk hk
    · rintro ⟨hx, hxk⟩
      exact ⟨Or.inl hx, hxk⟩

theorem lookup_replace (t : Table key) (r : ρ) (k : κ) :
    (t.replace r).lookup k = if key r = k then some r else t.lookup k := by
  apply Option.ext
  intro x
  rw [lookup_eq_some_iff]
  simp only [replace, List.mem_append, List.mem_filter, List.mem_singleton,
    Bool.not_eq_true', decide_eq_false_iff_not]
  by_cases hk : key r = k
  · rw [if_pos hk]
    constructor
    · rintro ⟨⟨_, hne⟩ | rfl, hxk⟩
      · exact absurd (hxk.trans hk.symm) hne
      · rfl
    · intro hx
      cases hx
      exact ⟨Or.inr rfl, hk⟩
  · rw [if_neg hk, lookup_eq_some_iff]
    constructor
    · rintro ⟨⟨hx, _⟩ | rfl, hxk⟩
      · exact ⟨hx, hxk⟩
      · exact absurd hxk hk
    · rintro ⟨hx, hxk⟩
      exact ⟨Or.inl ⟨hx, fun h => hk (h.symm.trans hxk)⟩, hxk⟩

/-- One `UPDATE SET f x WHERE key = key x` for every selected row `x`. -/
def updateEach (t : Table key) (xs : List ρ) (f : ρ → ρ → ρ)
    (hf : ∀ x r, key (f x r) = key r := by intro _ _; rfl) : Table key :=
  xs.foldl (fun t x => t.updateWhere (fun r => decide (key r = key x)) (f x) (hf x)) t

/-- With distinct keys selected, a row is updated by the selected row of its
own key and by no other. -/
theorem lookup_updateEach (t : Table key) (xs : List ρ) (f : ρ → ρ → ρ)
    (hf : ∀ x r, key (f x r) = key r) (hxs : (xs.map key).Nodup) (k : κ) :
    (t.updateEach xs f hf).lookup k = (t.lookup k).map fun r =>
      match xs.find? fun x => decide (key x = k) with
      | some x => f x r
      | none => r := by
  induction xs generalizing t with
  | nil => simp [updateEach]
  | cons x xs ih =>
      have hx : key x ∉ xs.map key ∧ (xs.map key).Nodup := List.nodup_cons.1 hxs
      have hstep : t.updateEach (x :: xs) f hf =
          (t.updateWhere (fun r => decide (key r = key x)) (f x) (hf x)).updateEach
            xs f hf := rfl
      rw [hstep, ih _ hx.2, lookup_updateWhere]
      cases hr : t.lookup k with
      | none => rfl
      | some r =>
          have hk : key r = k := key_of_lookup hr
          by_cases hxk : key x = k
          · have hnone : xs.find? (fun y => decide (key y = k)) = none := by
              rw [List.find?_eq_none]
              intro y hy
              simp only [decide_eq_true_eq]
              rintro hyk
              exact hx.1 (hxk.trans hyk.symm ▸ List.mem_map_of_mem hy)
            simp [hnone, updateRow, hk, hxk]
          · have hkx : ¬ k = key x := fun h => hxk h.symm
            simp [updateRow, hk, hxk, hkx]

/-- What is counted occurs, and an update of the rows counted under one key rewrites it. -/
theorem updateWhere_of_count_pos {t : Table key} {p : ρ → Bool} {k : κ}
    (f : ρ → ρ) (hf : ∀ r, key (f r) = key r) (hp : ∀ r, p r = true → key r = k)
    (hcount : 0 < t.count p) :
    ∃ r, t.lookup k = some r ∧ p r = true ∧
      (t.updateWhere p f hf).lookup k = some (f r) ∧
      ∀ k', k ≠ k' → (t.updateWhere p f hf).lookup k' = t.lookup k' := by
  obtain ⟨r, hmem, hr⟩ := List.countP_pos_iff.1 hcount
  have hrow : t.lookup k = some r := lookup_eq_some_iff.2 ⟨hmem, hp r hr⟩
  exact ⟨r, hrow, hr, lookup_updateWhere_self hrow hr,
    fun k' hk => lookup_updateWhere_other hp hk⟩

theorem count_insert {t u : Table key} {r : ρ} (h : t.insert r = some u)
    (p : ρ → Bool) : u.count p = t.count p + if p r then 1 else 0 := by
  rw [count, (insert_eq_some h).2, List.countP_append, List.countP_singleton]
  rfl

end Keyed

theorem count_deleteWhere_le (t : Table key) (p q : ρ → Bool) :
    (t.deleteWhere q).count p ≤ t.count p :=
  List.filter_sublist.countP_le

/-- An update that turns no row into a counted one does not raise the count. -/
theorem count_updateWhere_le (t : Table key) (p q : ρ → Bool) (f : ρ → ρ)
    (hf : ∀ r, key (f r) = key r) (hp : ∀ r, p (f r) = true → p r = true) :
    (t.updateWhere q f hf).count p ≤ t.count p := by
  simp only [count, updateWhere, List.countP_map]
  apply List.countP_mono_left
  intro r _ hr
  simp only [Function.comp, updateRow] at hr
  split at hr
  · exact hp r hr
  · exact hr

end Table

end EirvahEdge.Lib
