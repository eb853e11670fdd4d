import Mathlib.Data.List.Forall2

/-!
# Loops that may raise

A `mapM` that returns has applied the function to each element in turn (`mapM_eq_ok`).
`filterE` and `anyE` scan a list with a predicate that may raise; the first exception ends the
scan, and for `anyE` the first hit does as well.

What a scan makes of a list in another order depends on which exceptions the elements raise
(`Uniform`, `Settles`): `filterE_perm` and `anyE_eq_of_settles` say when it does not.
-/

namespace EirvahEdge.Lib.Except

variable {ε α β : Type}

/-- A result and what is decided about it, from one evaluation. -/
theorem exists_ok {P : α → Prop} [DecidablePred P] {x : Except ε α}
    (h : (x.toOption.any fun a => decide (P a)) = true) : ∃ a, x = .ok a ∧ P a := by
  cases x with
  | error e => cases h
  | ok a => exact ⟨a, rfl, of_decide_eq_true h⟩

theorem mapM_eq_ok {f : α → Except ε β} {xs : List α} {ys : List β} :
    xs.mapM f = .ok ys ↔ List.Forall₂ (fun x y => f x = .ok y) xs ys := by
  induction xs generalizing ys with
  | nil =>
      rw [List.mapM_nil, List.forall₂_nil_left_iff]
      exact ⟨fun h => (Except.ok.inj h).symm, fun h => h ▸ rfl⟩
  | cons x xs ih =>
      rw [List.mapM_cons, List.forall₂_cons_left_iff]
      cases hx : f x with
      | error e => simp [bind, Except.bind]
      | ok y =>
          cases hrest : xs.mapM f with
          | error e =>
              have hnone : ∀ zs, ¬List.Forall₂ (fun x y => f x = .ok y) xs zs := fun zs h => by
                simp [← ih, hrest] at h
              simp [bind, Except.bind, hnone]
          | ok zs =>
              simp only [bind, Except.bind, pure, Except.pure, Except.ok.injEq]
              constructor
              · rintro rfl
                exact ⟨y, zs, rfl, ih.1 hrest, rfl⟩
              · rintro ⟨y', zs', hy, hzs, rfl⟩
                obtain rfl := hy
                rw [← ih, hrest] at hzs
                rw [Except.ok.inj hzs]

section Results

variable {f : α → Except ε β} {xs : List α} {ys : List β}

/-- Every result is that of an element. -/
theorem exists_of_mapM (h : xs.mapM f = .ok ys) {y : β} (hy : y ∈ ys) :
    ∃ x ∈ xs, f x = .ok y := by
  replace h := mapM_eq_ok.1 h
  induction h with
  | nil => exact absurd hy List.not_mem_nil
  | cons hx _ ih =>
      rcases List.mem_cons.1 hy with rfl | hy
      · exact ⟨_, List.mem_cons_self, hx⟩
      · obtain ⟨x, hmem, hf⟩ := ih hy
        exact ⟨x, List.mem_cons_of_mem _ hmem, hf⟩

/-- The last result is that of the last element. -/
theorem getLast_of_mapM (h : xs.mapM f = .ok ys) {y : β} (hy : ys.getLast? = some y) :
    ∃ x, xs.getLast? = some x ∧ f x = .ok y := by
  replace h := mapM_eq_ok.1 h
  induction h with
  | nil => exact absurd hy (by simp)
  | cons hx htail ih =>
      cases htail with
      | nil =>
          obtain rfl := Option.some.inj hy
          exact ⟨_, rfl, hx⟩
      | cons hx' htail' =>
          obtain ⟨x, hlast, hf⟩ := ih (by rwa [List.getLast?_cons_cons] at hy)
          exact ⟨x, by rwa [List.getLast?_cons_cons], hf⟩

/-- An exception is that of an element. -/
theorem exists_of_mapM_error {e : ε} (h : xs.mapM f = .error e) : ∃ x ∈ xs, f x = .error e := by
  induction xs with
  | nil => exact absurd h (by simp [pure, Except.pure])
  | cons x xs ih =>
      rw [List.mapM_cons] at h
      cases hx : f x with
      | error e' =>
          rw [hx] at h
          obtain rfl := Except.error.inj h
          exact ⟨x, List.mem_cons_self, hx⟩
      | ok y =>
          cases hrest : xs.mapM f with
          | error e' =>
              rw [hx, hrest] at h
              obtain rfl := Except.error.inj h
              obtain ⟨z, hz, hf⟩ := ih hrest
              exact ⟨z, List.mem_cons_of_mem _ hz, hf⟩
          | ok zs => simp [hx, hrest, bind, Except.bind, pure, Except.pure] at h

/-- Each element has its result. -/
theorem mem_of_mapM (h : xs.mapM f = .ok ys) {x : α} (hx : x ∈ xs) :
    ∃ y ∈ ys, f x = .ok y := by
  replace h := mapM_eq_ok.1 h
  induction h with
  | nil => exact absurd hx List.not_mem_nil
  | cons hf _ ih =>
      rcases List.mem_cons.1 hx with rfl | hx
      · exact ⟨_, List.mem_cons_self, hf⟩
      · obtain ⟨y, hmem, hf'⟩ := ih hx
        exact ⟨y, List.mem_cons_of_mem _ hmem, hf'⟩

end Results

/-! ## Scans -/

section Scans

variable {κ : Type} {p : α → Except ε Bool} {xs ys : List α} {x : α} {e : ε}

/-- `[x for x in xs if p(x)]`. -/
def filterE (p : α → Except ε Bool) : List α → Except ε (List α)
  | [] => .ok []
  | x :: xs => do
      let keep ← p x
      let rest ← filterE p xs
      .ok (if keep then x :: rest else rest)

/-- `any(p(x) for x in xs)`. -/
def anyE (p : α → Except ε Bool) : List α → Except ε Bool
  | [] => .ok false
  | x :: xs => do
      if ← p x then .ok true else anyE p xs

/-- The predicate was evaluated and holds. -/
def holds (p : α → Except ε Bool) (x : α) : Bool :=
  match p x with
  | .ok b => b
  | .error _ => false

theorem holds_eq_true : holds p x = true ↔ p x = .ok true := by
  unfold holds
  cases p x <;> simp

/-- A scan returns exactly when nothing raises, and then it is a filter. -/
theorem filterE_eq_ok : filterE p xs = .ok ys ↔
    (∀ x ∈ xs, ∀ e, p x ≠ .error e) ∧ ys = xs.filter (holds p) := by
  induction xs generalizing ys with
  | nil => simp [filterE, eq_comm]
  | cons x xs ih =>
      rw [filterE]
      cases hx : p x with
      | error e =>
          simp only [bind, Except.bind, List.forall_mem_cons, reduceCtorEq, false_iff]
          exact fun h => h.1.1 e hx
      | ok keep =>
          have hhead : ∀ e, p x ≠ .error e := fun e h => by simp [hx] at h
          have hholds : holds p x = keep := by rw [holds, hx]
          cases hrest : filterE p xs with
          | error e =>
              have hnot : ¬∀ x ∈ xs, ∀ e, p x ≠ .error e := fun h => by
                rw [ih.2 ⟨h, rfl⟩] at hrest
                exact absurd hrest (by simp)
              simp [bind, Except.bind, hnot]
          | ok rest =>
              obtain ⟨hall, rfl⟩ := ih.1 hrest
              have hcons : ∀ y ∈ x :: xs, ∀ e, p y ≠ .error e :=
                List.forall_mem_cons.2 ⟨hhead, hall⟩
              rw [List.filter_cons, hholds, and_iff_right hcons]
              exact ⟨fun h => (Except.ok.inj h).symm, fun h => congrArg Except.ok h.symm⟩

theorem exists_of_filterE_error (h : filterE p xs = .error e) : ∃ x ∈ xs, p x = .error e := by
  induction xs with
  | nil => exact absurd h (by simp [filterE])
  | cons x xs ih =>
      rw [filterE] at h
      cases hx : p x with
      | error e' =>
          rw [hx] at h
          obtain rfl : e' = e := Except.error.inj h
          exact ⟨x, List.mem_cons_self, hx⟩
      | ok keep =>
          cases hrest : filterE p xs with
          | error e' =>
              rw [hx, hrest] at h
              obtain rfl := Except.error.inj h
              obtain ⟨y, hy, hp⟩ := ih hrest
              exact ⟨y, List.mem_cons_of_mem _ hy, hp⟩
          | ok rest => simp [hx, hrest, bind, Except.bind] at h

theorem anyE_eq_false : anyE p xs = .ok false ↔ ∀ x ∈ xs, p x = .ok false := by
  induction xs with
  | nil => simp [anyE]
  | cons x xs ih =>
      rw [anyE, List.forall_mem_cons, ← ih]
      cases hx : p x with
      | error e => simp [bind, Except.bind]
      | ok b => cases b <;> simp [bind, Except.bind]

theorem exists_of_anyE_true (h : anyE p xs = .ok true) : ∃ x ∈ xs, p x = .ok true := by
  induction xs with
  | nil => exact absurd h (by simp [anyE])
  | cons x xs ih =>
      rw [anyE] at h
      cases hx : p x with
      | error e => simp [hx, bind, Except.bind] at h
      | ok b =>
          cases b with
          | true => exact ⟨x, List.mem_cons_self, hx⟩
          | false =>
              obtain ⟨y, hy, hp⟩ := ih (by simpa [hx, bind, Except.bind] using h)
              exact ⟨y, List.mem_cons_of_mem _ hy, hp⟩

theorem exists_of_anyE_error (h : anyE p xs = .error e) : ∃ x ∈ xs, p x = .error e := by
  induction xs with
  | nil => exact absurd h (by simp [anyE])
  | cons x xs ih =>
      rw [anyE] at h
      cases hx : p x with
      | error e' =>
          rw [hx] at h
          obtain rfl : e' = e := Except.error.inj h
          exact ⟨x, List.mem_cons_self, hx⟩
      | ok b =>
          cases b with
          | true => simp [hx, bind, Except.bind] at h
          | false =>
              obtain ⟨y, hy, hp⟩ := ih (by simpa [hx, bind, Except.bind] using h)
              exact ⟨y, List.mem_cons_of_mem _ hy, hp⟩

/-- What is kept of a sublist is a sublist of what is kept. -/
theorem filterE_sublist {as bs : List α} (h : xs.Sublist ys) (hxs : filterE p xs = .ok as)
    (hys : filterE p ys = .ok bs) : as.Sublist bs := by
  rw [(filterE_eq_ok.1 hxs).2, (filterE_eq_ok.1 hys).2]
  exact h.filter _

/-- A scan in which nothing raises is that of what is known. -/
theorem filterE_of_ok (h : ∀ x ∈ xs, ∃ b, p x = .ok b) :
    filterE p xs = .ok (xs.filter (holds p)) := by
  refine filterE_eq_ok.2 ⟨fun x hx e he => ?_, rfl⟩
  obtain ⟨b, hb⟩ := h x hx
  exact absurd (he.symm.trans hb) (by simp)

/-- A scan begins with an element that it keeps. -/
theorem exists_filterE_cons (hx : p x = .ok true) (h : ∀ y ∈ xs, ∃ b, p y = .ok b) :
    ∃ rest, filterE p (x :: xs) = .ok (x :: rest) := by
  refine ⟨xs.filter (holds p), ?_⟩
  rw [filterE, hx, filterE_of_ok h]
  rfl

theorem anyE_of_ok (h : ∀ x ∈ xs, ∃ b, p x = .ok b) : anyE p xs = .ok (xs.any (holds p)) := by
  induction xs with
  | nil => rfl
  | cons x xs ih =>
      rw [List.forall_mem_cons] at h
      obtain ⟨⟨b, hb⟩, hrest⟩ := h
      rw [anyE, hb, List.any_cons, holds, hb]
      cases b with
      | true => rfl
      | false => exact ih hrest

/-! ## Scans in another order -/

/-- All exceptions that the elements raise are of one kind. -/
def Uniform (kind : ε → κ) (p : α → Except ε Bool) (xs : List α) : Prop :=
  ∀ x ∈ xs, ∀ y ∈ xs, ∀ e e', p x = .error e → p y = .error e' → kind e = kind e'

/-- What `anyE` comes to in any order: a hit and nothing that raises, nothing but misses, or
exceptions of one kind and no hit. -/
def Settles (kind : ε → κ) (p : α → Except ε Bool) (xs : List α) : Except κ Bool → Prop
  | .ok true => (∃ x ∈ xs, p x = .ok true) ∧ ∀ x ∈ xs, ∀ e, p x ≠ .error e
  | .ok false => ∀ x ∈ xs, p x = .ok false
  | .error k => (∃ x ∈ xs, ∃ e, p x = .error e) ∧ (∀ x ∈ xs, p x ≠ .ok true) ∧
      ∀ x ∈ xs, ∀ e, p x = .error e → kind e = k

/-- The scan in any order gives what it comes to. -/
theorem anyE_eq_of_settles {kind : ε → κ} {o : Except κ Bool} (h : Settles kind p xs o)
    (hmem : ∀ x, x ∈ ys ↔ x ∈ xs) : (anyE p ys).mapError kind = o := by
  cases hany : anyE p ys with
  | error e =>
      obtain ⟨x, hx, hp⟩ := exists_of_anyE_error hany
      match o, h with
      | .ok true, h => exact absurd hp (h.2 x ((hmem x).1 hx) e)
      | .ok false, h => exact absurd (hp.symm.trans (h x ((hmem x).1 hx))) (by simp)
      | .error k, h => exact congrArg Except.error (h.2.2 x ((hmem x).1 hx) e hp)
  | ok b =>
      cases b with
      | true =>
          obtain ⟨x, hx, hp⟩ := exists_of_anyE_true hany
          match o, h with
          | .ok true, h => rfl
          | .ok false, h => exact absurd (hp.symm.trans (h x ((hmem x).1 hx))) (by simp)
          | .error k, h => exact absurd hp (h.2.1 x ((hmem x).1 hx))
      | false =>
          have hall := anyE_eq_false.1 hany
          match o, h with
          | .ok true, h =>
              obtain ⟨x, hx, hp⟩ := h.1
              exact absurd (hp.symm.trans (hall x ((hmem x).2 hx))) (by simp)
          | .ok false, h => rfl
          | .error k, h =>
              obtain ⟨x, hx, e, hp⟩ := h.1
              exact absurd (hp.symm.trans (hall x ((hmem x).2 hx))) (by simp)

/-- If nothing raises, it comes to whether there is a hit. -/
theorem settles_of_ok {kind : ε → κ} (h : ∀ x ∈ xs, ∃ b, p x = .ok b) :
    ∃ o, Settles kind p xs o := by
  by_cases hhit : ∃ x ∈ xs, p x = .ok true
  · refine ⟨.ok true, hhit, fun x hx e he => ?_⟩
    obtain ⟨b, hb⟩ := h x hx
    exact absurd (he.symm.trans hb) (by simp)
  · refine ⟨.ok false, fun x hx => ?_⟩
    obtain ⟨b, hb⟩ := h x hx
    cases b with
    | true => exact absurd ⟨x, hx, hb⟩ hhit
    | false => exact hb

theorem uniform_of_ok {kind : ε → κ} (h : ∀ x ∈ xs, ∃ b, p x = .ok b) : Uniform kind p xs := by
  intro x hx y hy e e' he
  obtain ⟨b, hb⟩ := h x hx
  exact absurd (he.symm.trans hb) (by simp)

/-- A scan of the same elements in another order raises as before, or returns as before up to
the order. -/
theorem filterE_perm {kind : ε → κ} (h : Uniform kind p xs) (hperm : xs.Perm ys) :
    (∃ as bs, filterE p xs = .ok as ∧ filterE p ys = .ok bs ∧ as.Perm bs) ∨
      ∃ e e', filterE p xs = .error e ∧ filterE p ys = .error e' ∧ kind e = kind e' := by
  cases hxs : filterE p xs with
  | ok as =>
      obtain ⟨hall, rfl⟩ := filterE_eq_ok.1 hxs
      refine Or.inl ⟨_, _, rfl, filterE_eq_ok.2 ⟨?_, rfl⟩, hperm.filter _⟩
      exact fun x hx => hall x (hperm.mem_iff.2 hx)
  | error e =>
      obtain ⟨x, hx, hp⟩ := exists_of_filterE_error hxs
      cases hys : filterE p ys with
      | ok bs => exact absurd hp ((filterE_eq_ok.1 hys).1 x (hperm.mem_iff.1 hx) e)
      | error e' =>
          obtain ⟨y, hy, hq⟩ := exists_of_filterE_error hys
          exact Or.inr ⟨e, e', rfl, rfl, h x hx y (hperm.mem_iff.2 hy) e e' hp hq⟩

end Scans

/-- Two computations that fail alike, and go on alike from what they return. -/
theorem mapError_bind_congr {κ : Type} {kind : ε → κ} {x y : Except ε α} {f g : α → Except ε β}
    (h : x.mapError kind = y.mapError kind)
    (hfg : ∀ a, x = .ok a → y = .ok a → (f a).mapError kind = (g a).mapError kind) :
    (x >>= f).mapError kind = (y >>= g).mapError kind := by
  cases x with
  | error e =>
      cases y with
      | error e' => exact congrArg Except.error (Except.error.inj h)
      | ok b => exact absurd h (by simp [Except.mapError])
  | ok a =>
      cases y with
      | error e => exact absurd h (by simp [Except.mapError])
      | ok b =>
          obtain rfl : a = b := Except.ok.inj h
          exact hfg a rfl rfl

/-! ## Computations that raise -/

/-- The computation raises. -/
def Raised (x : Except ε α) : Prop := ∃ e, x = .error e

section Raised

variable {x : Except ε α} {f : α → Except ε β} {xs : List α}

theorem Raised.bind (h : Raised x) (f : α → Except ε β) : Raised (x >>= f) := by
  obtain ⟨e, rfl⟩ := h
  exact ⟨e, rfl⟩

/-- A computation raises when what it goes on with does, or before that. -/
theorem raised_bind (x : Except ε α) (h : ∀ a, Raised (f a)) : Raised (x >>= f) := by
  cases x with
  | error e => exact ⟨e, rfl⟩
  | ok a => exact h a

/-- One turn of a loop that raises is enough. -/
theorem raised_mapM {a : α} (ha : a ∈ xs) (h : Raised (f a)) : Raised (xs.mapM f) := by
  obtain ⟨e, he⟩ := h
  cases hmap : xs.mapM f with
  | error e => exact ⟨e, rfl⟩
  | ok ys =>
      obtain ⟨y, -, hy⟩ := mem_of_mapM hmap ha
      exact absurd (he.symm.trans hy) (by simp)

end Raised

/-! ## Loops in another order -/

/-- Both raise, or both return and what they return is related. -/
inductive Alike (R : α → β → Prop) : Except ε α → Except ε β → Prop
  | error (e e' : ε) : Alike R (.error e) (.error e')
  | ok {a : α} {b : β} (h : R a b) : Alike R (.ok a) (.ok b)

section Alike

variable {γ δ : Type} {x : Except ε α} {y : Except ε β}

theorem Alike.bind {R : α → β → Prop} {Q : γ → δ → Prop} {f : α → Except ε γ}
    {g : β → Except ε δ} (h : Alike R x y) (hfg : ∀ a b, R a b → Alike Q (f a) (g b)) :
    Alike Q (x >>= f) (y >>= g) := by
  cases h with
  | error e e' => exact .error e e'
  | ok h => exact hfg _ _ h

theorem Alike.trans {z : Except ε γ} {R : α → β → Prop} {Q : β → γ → Prop} {P : α → γ → Prop}
    (h : Alike R x y) (h' : Alike Q y z) (hP : ∀ a b c, R a b → Q b c → P a c) :
    Alike P x z := by
  cases h with
  | error e e' => cases h' with
    | error _ e'' => exact .error e e''
  | ok h => cases h' with
    | ok h' => exact .ok (hP _ _ _ h h')

theorem Alike.of_raised {R : α → β → Prop} (hx : Raised x) (hy : Raised y) : Alike R x y := by
  obtain ⟨e, rfl⟩ := hx
  obtain ⟨e', rfl⟩ := hy
  exact .error e e'

theorem Alike.raised {R : α → β → Prop} (h : Alike R x y) (hx : Raised x) : Raised y := by
  obtain ⟨e, rfl⟩ := hx
  cases h with
  | error _ e' => exact ⟨e', rfl⟩

/-- A result that is there is there for the other as well. -/
theorem Alike.exists_ok {R : α → β → Prop} (h : Alike R x y) {a : α} (hx : x = .ok a) :
    ∃ b, y = .ok b ∧ R a b := by
  subst hx
  cases h with
  | ok h => exact ⟨_, rfl, h⟩

/-- A loop over the same elements in another order. -/
theorem mapM_perm {f : α → Except ε β} {xs ys : List α} (h : xs.Perm ys) :
    Alike List.Perm (xs.mapM f) (ys.mapM f) := by
  induction h with
  | nil => exact .ok (List.Perm.refl _)
  | cons x h ih =>
      rw [List.mapM_cons, List.mapM_cons]
      cases f x with
      | error e => exact .error e e
      | ok b => exact ih.bind fun bs cs hbc => .ok (hbc.cons b)
  | swap x y xs =>
      simp only [List.mapM_cons]
      cases f x with
      | error e => cases f y <;> exact .error _ _
      | ok b =>
          cases f y with
          | error e => exact .error _ _
          | ok c =>
              cases xs.mapM f with
              | error e => exact .error _ _
              | ok bs => exact .ok (List.Perm.swap b c bs)
  | trans h h' ih ih' => exact ih.trans ih' fun as bs cs => List.Perm.trans

/-- Loops whose turns are alike. -/
theorem mapM_congr {R : β → γ → Prop} {f : α → Except ε β} {g : α → Except ε γ} {xs : List α}
    (h : ∀ x ∈ xs, Alike R (f x) (g x)) :
    Alike (List.Forall₂ R) (xs.mapM f) (xs.mapM g) := by
  induction xs with
  | nil => exact .ok List.Forall₂.nil
  | cons x xs ih =>
      rw [List.forall_mem_cons] at h
      rw [List.mapM_cons, List.mapM_cons]
      exact h.1.bind fun b c hbc => (ih h.2).bind fun bs cs hrest =>
        .ok (List.Forall₂.cons hbc hrest)

end Alike

end EirvahEdge.Lib.Except
