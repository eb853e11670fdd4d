import Mathlib.Logic.Basic
import Mathlib.Data.List.Basic

/-!
# Runs of a partial step function

A system is a function `step : σ → ε → Option σ`: `step s e` is the state
after event `e`, or `none` when `e` is not enabled in `s`.  A run is the list
of its events, `exec` folds it, and a statement about "every run" quantifies
over that list.

Two kinds of side condition occur in practice, and both are kept out of the
step function so that one system can be studied with and without them:

* `Guarded step G s es` says that every step of the run is taken in a state
  and with an event that satisfy `G` (a clock that never goes back, a bound on
  the inputs, the absence of one particular race);
* an invariant of the guarded system is then proved from one step lemma by
  `exec_invariant_of_guarded`, and an unconditional one by `exec_invariant`.

`exec_iff_guarded` is for a property that a step loses exactly when it breaks
the guard, and `always_iff_guarded` for one that has to hold in every state of a run
and may come back.
-/

namespace EirvahEdge.Lib.Run

variable {σ ε : Type*}

/-- Feed the events of a run to a partial step function, first event first. -/
def exec (step : σ → ε → Option σ) : σ → List ε → Option σ
  | s, [] => some s
  | s, e :: es => (step s e).bind fun t => exec step t es

/-- Every step of the run is taken under `G`. -/
def Guarded (step : σ → ε → Option σ) (G : σ → ε → Prop) : σ → List ε → Prop
  | _, [] => True
  | s, e :: es =>
      G s e ∧ match step s e with
        | some t => Guarded step G t es
        | none => True

/-- Every state of the run, the first one included, satisfies `P`. -/
def Always (step : σ → ε → Option σ) (P : σ → Prop) : σ → List ε → Prop
  | s, [] => P s
  | s, e :: es =>
      P s ∧ match step s e with
        | some t => Always step P t es
        | none => True

/-- The states a system can be in when it starts from `s`. -/
def Reachable (step : σ → ε → Option σ) (s t : σ) : Prop :=
  ∃ es, exec step s es = some t

/-- A guard that can be evaluated makes the guardedness of a run evaluable. -/
instance Guarded.decidable (step : σ → ε → Option σ) (G : σ → ε → Prop)
    [∀ s e, Decidable (G s e)] : ∀ s es, Decidable (Guarded step G s es)
  | _, [] => inferInstanceAs (Decidable True)
  | s, e :: es =>
      match h : step s e with
      | some t =>
          have := Guarded.decidable step G t es
          decidable_of_iff (G s e ∧ Guarded step G t es) (by simp [Guarded, h])
      | none => decidable_of_iff (G s e) (by simp [Guarded, h])

section Exec

variable (step : σ → ε → Option σ)

@[simp] theorem exec_nil (s : σ) : exec step s [] = some s := rfl

theorem exec_cons (s : σ) (e : ε) (es : List ε) :
    exec step s (e :: es) = (step s e).bind fun t => exec step t es := rfl

theorem exec_append (s : σ) (es fs : List ε) :
    exec step s (es ++ fs) = (exec step s es).bind fun t => exec step t fs := by
  induction es generalizing s with
  | nil => rfl
  | cons e es ih =>
      simp only [List.cons_append, exec_cons, Option.bind_assoc]
      congr 1
      funext t
      exact ih t

variable {step}

/-- A run of a step and a rest reaches the end through the state in between. -/
theorem exec_cons_eq_some {s u : σ} {e : ε} {es : List ε} :
    exec step s (e :: es) = some u ↔
      ∃ t, step s e = some t ∧ exec step t es = some u := by
  simp [exec_cons, Option.bind_eq_some_iff]

theorem exec_append_eq_some {s u : σ} {es fs : List ε} :
    exec step s (es ++ fs) = some u ↔
      ∃ t, exec step s es = some t ∧ exec step t fs = some u := by
  simp [exec_append, Option.bind_eq_some_iff]

/-- A run and what is decided about its end, from one evaluation. -/
theorem exists_exec {P : σ → Prop} [DecidablePred P] {s : σ} {es : List ε}
    (h : ((exec step s es).any fun t => decide (P t)) = true) :
    ∃ t, exec step s es = some t ∧ P t := by
  obtain ⟨t, ht, hP⟩ := (Option.any_eq_true _ _).1 h
  exact ⟨t, ht, of_decide_eq_true hP⟩

theorem Reachable.refl (s : σ) : Reachable step s s := ⟨[], rfl⟩

theorem Reachable.trans {s t u : σ} (h : Reachable step s t)
    (h' : Reachable step t u) : Reachable step s u := by
  obtain ⟨es, hes⟩ := h
  obtain ⟨fs, hfs⟩ := h'
  exact ⟨es ++ fs, exec_append_eq_some.2 ⟨t, hes, hfs⟩⟩

theorem Reachable.single {s t : σ} {e : ε} (h : step s e = some t) :
    Reachable step s t :=
  ⟨[e], exec_cons_eq_some.2 ⟨t, h, rfl⟩⟩

end Exec

section Invariant

variable {step : σ → ε → Option σ} {G : σ → ε → Prop} {I : σ → Prop}

theorem Guarded.head {s t : σ} {e : ε} {es : List ε}
    (h : Guarded step G s (e :: es)) (hs : step s e = some t) :
    G s e ∧ Guarded step G t es := by
  simpa [Guarded, hs] using h

/-- A guarded run splits at every intermediate state. -/
theorem Guarded.append {s t : σ} {es fs : List ε}
    (h : Guarded step G s (es ++ fs)) (hes : exec step s es = some t) :
    Guarded step G s es ∧ Guarded step G t fs := by
  induction es generalizing s with
  | nil =>
      obtain rfl : s = t := by simpa using hes
      exact ⟨trivial, h⟩
  | cons e es ih =>
      obtain ⟨u, hu, hrest⟩ := exec_cons_eq_some.1 hes
      obtain ⟨hG, htail⟩ := Guarded.head h hu
      obtain ⟨hleft, hright⟩ := ih htail hrest
      exact ⟨by simpa [Guarded, hu] using ⟨hG, hleft⟩, hright⟩

theorem Guarded.mono {G' : σ → ε → Prop} (himp : ∀ s e, G s e → G' s e)
    {s : σ} {es : List ε} (h : Guarded step G s es) : Guarded step G' s es := by
  induction es generalizing s with
  | nil => trivial
  | cons e es ih =>
      refine ⟨himp s e h.1, ?_⟩
      cases hs : step s e with
      | none => trivial
      | some t => exact ih (Guarded.head h hs).2

/-- Guarded runs compose. -/
theorem Guarded.append_of {s t : σ} {es fs : List ε} (hes : Guarded step G s es)
    (h : exec step s es = some t) (hfs : Guarded step G t fs) :
    Guarded step G s (es ++ fs) := by
  induction es generalizing s with
  | nil =>
      obtain rfl : s = t := by simpa using h
      exact hfs
  | cons e es ih =>
      obtain ⟨u, hu, hrest⟩ := exec_cons_eq_some.1 h
      obtain ⟨hG, htail⟩ := Guarded.head hes hu
      simpa [Guarded, hu] using ⟨hG, ih htail hrest⟩

/-- A run is guarded when each of its events meets the guard where it happens. -/
theorem guarded_iff_forall {s : σ} {es : List ε} :
    Guarded step G s es ↔ ∀ es₁ e es₂ t, es = es₁ ++ e :: es₂ →
      exec step s es₁ = some t → G t e := by
  induction es generalizing s with
  | nil => simp [Guarded]
  | cons e es ih =>
      constructor
      · intro h es₁ f es₂ t heq ht
        cases es₁ with
        | nil =>
            obtain ⟨rfl, rfl⟩ := List.cons.inj heq
            obtain rfl : s = t := by simpa using ht
            exact h.1
        | cons f' es₁ =>
            obtain ⟨rfl, rfl⟩ := List.cons.inj heq
            obtain ⟨u, hu, hrest⟩ := exec_cons_eq_some.1 ht
            exact ih.1 (Guarded.head h hu).2 es₁ f es₂ t rfl hrest
      · intro h
        refine ⟨h [] e es s rfl rfl, ?_⟩
        cases hs : step s e with
        | none => trivial
        | some u =>
            refine ih.2 fun es₁ f es₂ t heq ht => ?_
            exact h (e :: es₁) f es₂ t (by rw [heq]; rfl) (exec_cons_eq_some.2 ⟨u, hs, ht⟩)

/-- Events that always satisfy the guard. -/
theorem Guarded.of_forall {s : σ} {es : List ε} (h : ∀ e ∈ es, ∀ s, G s e) :
    Guarded step G s es := by
  induction es generalizing s with
  | nil => trivial
  | cons e es ih =>
      refine ⟨h e List.mem_cons_self s, ?_⟩
      cases hs : step s e with
      | none => trivial
      | some t => exact ih fun x hx => h x (List.mem_cons_of_mem _ hx)

/-- **Guarded run rule.**  What holds at the start and is kept by every step
taken under the guard holds wherever a guarded run arrives. -/
theorem exec_invariant_of_guarded
    (hstep : ∀ s e t, I s → G s e → step s e = some t → I t)
    {s t : σ} {es : List ε} (hI : I s) (hG : Guarded step G s es)
    (h : exec step s es = some t) : I t := by
  induction es generalizing s with
  | nil =>
      obtain rfl : s = t := by simpa using h
      exact hI
  | cons e es ih =>
      obtain ⟨u, hu, hrest⟩ := exec_cons_eq_some.1 h
      obtain ⟨hGe, htail⟩ := Guarded.head hG hu
      exact ih (hstep s e u hI hGe hu) htail hrest

/-- **Run rule.**  What holds at the start and is kept by every step holds in
every reachable state. -/
theorem exec_invariant (hstep : ∀ s e t, I s → step s e = some t → I t)
    {s t : σ} {es : List ε} (hI : I s) (h : exec step s es = some t) : I t := by
  induction es generalizing s with
  | nil =>
      obtain rfl : s = t := by simpa using h
      exact hI
  | cons e es ih =>
      obtain ⟨u, hu, hrest⟩ := exec_cons_eq_some.1 h
      exact ih (hstep s e u hI hu) hrest

/-- **Exact run rule.**  When each step decides, by its guard, whether a property
lasts, a run keeps the property exactly when it is guarded. -/
theorem exec_iff_guarded {P : σ → Prop}
    (hstep : ∀ s e t, I s → step s e = some t → I t ∧ (P t ↔ P s ∧ G s e))
    {s t : σ} {es : List ε} (hI : I s) (h : exec step s es = some t) :
    P t ↔ P s ∧ Guarded step G s es := by
  induction es generalizing s with
  | nil =>
      obtain rfl : s = t := by simpa using h
      simp [Guarded]
  | cons e es ih =>
      obtain ⟨u, hu, hrest⟩ := exec_cons_eq_some.1 h
      obtain ⟨hIu, hPu⟩ := hstep s e u hI hu
      rw [ih hIu hrest, hPu, and_assoc]
      simp [Guarded, hu]

/-- A property of every state of a run holds wherever a part of the run arrives. -/
theorem Always.of_exec {P : σ → Prop} {s t : σ} {es fs : List ε}
    (h : Always step P s (es ++ fs)) (hes : exec step s es = some t) : P t := by
  induction es generalizing s with
  | nil =>
      obtain rfl : s = t := by simpa using hes
      cases fs with
      | nil => exact h
      | cons f fs => exact h.1
  | cons e es ih =>
      obtain ⟨u, hu, hrest⟩ := exec_cons_eq_some.1 hes
      have htail : Always step P u (es ++ fs) := by
        have hmatch := h.2
        rw [hu] at hmatch
        exact hmatch
      exact ih htail hrest

/-- **Exact run rule, state by state.**  When a step from a good state arrives in a good
state exactly under its guard, all states of a run are good exactly when the run is
guarded. -/
theorem always_iff_guarded {P : σ → Prop}
    (hstep : ∀ s e t, I s → P s → step s e = some t → I t ∧ (P t ↔ G s e))
    (hnone : ∀ s e, I s → step s e = none → G s e)
    {s : σ} {es : List ε} (hI : I s) (hP : P s) :
    Always step P s es ↔ Guarded step G s es := by
  induction es generalizing s with
  | nil => exact ⟨fun _ => trivial, fun _ => hP⟩
  | cons e es ih =>
      cases hs : step s e with
      | none => simp [Always, Guarded, hs, hP, hnone s e hI hs]
      | some t =>
          obtain ⟨hIt, hiff⟩ := hstep s e t hI hP hs
          by_cases hG : G s e
          · simp [Always, Guarded, hs, hP, hG, ih hIt (hiff.2 hG)]
          · have hnot : ¬ Always step P t es := by
              intro h
              exact hG (hiff.1 ((show Always step P t ([] ++ es) from h).of_exec rfl))
            simp [Always, Guarded, hs, hG, hnot]

/-- A run goes through one state and later through another. -/
def Through (step : σ → ε → Option σ) (s : σ) (es : List ε) (t u : σ) : Prop :=
  ∃ es₁ es₂ es₃, es = es₁ ++ es₂ ++ es₃ ∧ exec step s es₁ = some t ∧ exec step t es₂ = some u

/-- **Guarded relational run rule.**  A preorder that every guarded step respects, given
an invariant, relates any two states of a guarded run. -/
theorem rel_of_through {R : σ → σ → Prop} (hrefl : ∀ s, R s s)
    (htrans : ∀ s t u, R s t → R t u → R s u)
    (hinv : ∀ s e t, I s → step s e = some t → I t)
    (hstep : ∀ s e t, I s → G s e → step s e = some t → R s t)
    {s t u : σ} {es : List ε} (hI : I s) (hG : Guarded step G s es)
    (h : Through step s es t u) : R t u := by
  obtain ⟨es₁, es₂, es₃, rfl, ht, hu⟩ := h
  have hIt : I t := exec_invariant hinv hI ht
  rw [List.append_assoc] at hG
  have hG' := (Guarded.append (Guarded.append hG ht).2 hu).1
  clear hG ht hI
  induction es₂ generalizing t with
  | nil =>
      obtain rfl : t = u := by simpa using hu
      exact hrefl t
  | cons e es₂ ih =>
      obtain ⟨v, hv, hrest⟩ := exec_cons_eq_some.1 hu
      obtain ⟨hGe, htail⟩ := Guarded.head hG' hv
      exact htrans t v u (hstep t e v hIt hGe hv) (ih hrest (hinv t e v hIt hv) htail)

end Invariant

end EirvahEdge.Lib.Run
