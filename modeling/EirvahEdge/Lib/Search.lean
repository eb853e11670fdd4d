import Mathlib.Data.List.Basic

/-!
# Searching a graph with blocked vertices

`search` is the loop over a stack of vertices that are still to be looked at and a list of
those that are done with.  Blocked vertices are those it starts with as done.  Every turn
takes a vertex off the stack, and what it puts there instead are the ends of edges that no
later turn uses again, so there are at most as many turns as vertices on the stack and edges
together (`turns_eq_search`).  The search succeeds exactly when a path leads from a vertex on
the stack to the goal and avoids what is blocked, at both its ends as well (`search_iff`).
-/

namespace EirvahEdge.Lib.Search

variable {α : Type}

/-! ## Paths -/

/-- The vertices of a path along the edges, both ends included. -/
inductive Path (edges : List (α × α)) : α → α → List α → Prop where
  | single (a : α) : Path edges a a [a]
  | cons {a b c : α} {nodes : List α} (hedge : (a, b) ∈ edges) (hrest : Path edges b c nodes) :
      Path edges a c (a :: nodes)

/-- There is a path that no blocked vertex is on. -/
def Avoids (edges : List (α × α)) (blocked : List α) (a c : α) : Prop :=
  ∃ nodes, Path edges a c nodes ∧ ∀ n ∈ nodes, n ∉ blocked

section Avoids

variable {edges : List (α × α)} {seen : List α} {node a b c : α}

theorem Path.start_mem {nodes : List α} (h : Path edges a c nodes) : a ∈ nodes := by
  cases h <;> exact List.mem_cons_self

theorem Avoids.start (h : Avoids edges seen a c) : a ∉ seen := by
  obtain ⟨nodes, hpath, havoid⟩ := h
  exact havoid a hpath.start_mem

theorem Avoids.cons (ha : a ∉ seen) (hedge : (a, b) ∈ edges) (h : Avoids edges seen b c) :
    Avoids edges seen a c := by
  obtain ⟨nodes, hpath, havoid⟩ := h
  exact ⟨a :: nodes, .cons hedge hpath, List.forall_mem_cons.2 ⟨ha, havoid⟩⟩

/-- Fewer blocked vertices block fewer paths. -/
theorem Avoids.of_cons (h : Avoids edges (node :: seen) a c) : Avoids edges seen a c := by
  obtain ⟨nodes, hpath, havoid⟩ := h
  exact ⟨nodes, hpath, fun n hn hmem => havoid n hn (List.mem_cons_of_mem _ hmem)⟩

end Avoids

/-! ## The search -/

variable [DecidableEq α]

/-- The ends of the edges that leave a vertex. -/
def targets (edges : List (α × α)) (node : α) : List α :=
  (edges.filter fun e => e.1 = node).map Prod.snd

theorem mem_targets {edges : List (α × α)} {a b : α} :
    b ∈ targets edges a ↔ (a, b) ∈ edges := by
  simp [targets]

/-- The edges that leave a vertex which is not done with. -/
def unused (edges : List (α × α)) (seen : List α) : List (α × α) :=
  edges.filter fun e => e.1 ∉ seen

/-- A vertex that is looked at uses up the edges that leave it. -/
theorem length_unused (edges : List (α × α)) {seen : List α} {node : α} (h : node ∉ seen) :
    (targets edges node).length + (unused edges (node :: seen)).length =
      (unused edges seen).length := by
  rw [targets, List.length_map, unused, unused]
  induction edges with
  | nil => rfl
  | cons e edges ih =>
      by_cases hnode : e.1 = node
      · simp [hnode, h] at ih ⊢
        omega
      · by_cases hseen : e.1 ∈ seen
        · simp [hnode, hseen] at ih ⊢
          omega
        · simp [hnode, hseen] at ih ⊢
          omega

/-- The loop; the stack has its top in front. -/
def search (edges : List (α × α)) (goal : α) : List α → List α → Bool
  | [], _ => false
  | node :: pending, seen =>
      if node ∈ seen then search edges goal pending seen
      else if node = goal then true
      else search edges goal ((targets edges node).reverse ++ pending) (node :: seen)
termination_by pending seen => pending.length + (unused edges seen).length
decreasing_by
  · simp
  · rename_i h _
    have hunused : (targets edges node).length + (unused edges (node :: seen)).length =
        (unused edges seen).length :=
      length_unused edges h
    simp only [List.length_append, List.length_reverse, List.length_cons]
    omega

/-! ## The number of turns -/

/-- At most `n` turns of the loop; `none` when it is not over by then. -/
def turns (edges : List (α × α)) (goal : α) : ℕ → List α → List α → Option Bool
  | _, [], _ => some false
  | 0, _ :: _, _ => none
  | n + 1, node :: pending, seen =>
      if node ∈ seen then turns edges goal n pending seen
      else if node = goal then some true
      else turns edges goal n ((targets edges node).reverse ++ pending) (node :: seen)

/-- The loop is over after as many turns as there are vertices on the stack and edges that can
still be used. -/
theorem turns_eq_search {edges : List (α × α)} {goal : α} {n : ℕ} {pending seen : List α}
    (h : pending.length + (unused edges seen).length ≤ n) :
    turns edges goal n pending seen = some (search edges goal pending seen) := by
  induction n generalizing pending seen with
  | zero =>
      have hpending : pending = [] := List.eq_nil_of_length_eq_zero (by omega)
      subst hpending
      rw [turns, search]
  | succ n ih =>
      cases pending with
      | nil => rw [turns, search]
      | cons node pending =>
          rw [turns, search]
          rw [List.length_cons] at h
          split_ifs with hseen
          · exact ih (by omega)
          · rfl
          · have := length_unused edges hseen
            refine ih ?_
            rw [List.length_append, List.length_reverse]
            omega

/-! ## What the search finds -/

/-- A path that is on a vertex, which is not its end, goes on from there without coming back. -/
theorem Avoids.split {edges : List (α × α)} {seen : List α} {node goal a : α}
    (hgoal : node ≠ goal) (h : Avoids edges seen a goal) :
    Avoids edges (node :: seen) a goal ∨
      ∃ b ∈ targets edges node, Avoids edges (node :: seen) b goal := by
  obtain ⟨nodes, hpath, havoid⟩ := h
  induction hpath with
  | single a =>
      left
      refine ⟨[a], .single a, fun n hn hmem => ?_⟩
      obtain rfl := List.mem_singleton.1 hn
      rcases List.mem_cons.1 hmem with rfl | hmem
      · exact hgoal rfl
      · exact havoid _ hn hmem
  | cons hedge hrest ih =>
      rename_i a b goal nodes
      rw [List.forall_mem_cons] at havoid
      rcases ih hgoal havoid.2 with hrest' | hlater
      · by_cases ha : a = node
        · subst ha
          exact Or.inr ⟨b, mem_targets.2 hedge, hrest'⟩
        · left
          exact hrest'.cons (by simp [ha, havoid.1]) hedge
      · exact Or.inr hlater

/-- The search finds a path from the stack that avoids what is done with. -/
theorem search_iff {edges : List (α × α)} {goal : α} {pending seen : List α} :
    search edges goal pending seen = true ↔ ∃ a ∈ pending, Avoids edges seen a goal := by
  induction pending, seen using search.induct edges goal with
  | case1 seen => simp [search]
  | case2 node pending seen hseen ih =>
      rw [search, if_pos hseen, ih]
      constructor
      · rintro ⟨a, ha, h⟩
        exact ⟨a, List.mem_cons_of_mem _ ha, h⟩
      · rintro ⟨a, ha, h⟩
        rcases List.mem_cons.1 ha with rfl | ha
        · exact absurd hseen h.start
        · exact ⟨a, ha, h⟩
  | case3 pending seen hseen =>
      rw [search, if_neg hseen, if_pos rfl]
      refine iff_of_true rfl ⟨goal, List.mem_cons_self, [goal], .single goal, ?_⟩
      simpa using hseen
  | case4 node pending seen hseen hgoal ih =>
      rw [search, if_neg hseen, if_neg hgoal, ih]
      constructor
      · rintro ⟨a, ha, h⟩
        rcases List.mem_append.1 ha with ha | ha
        · exact ⟨node, List.mem_cons_self,
            h.of_cons.cons hseen (mem_targets.1 (List.mem_reverse.1 ha))⟩
        · exact ⟨a, List.mem_cons_of_mem _ ha, h.of_cons⟩
      · rintro ⟨a, ha, h⟩
        rcases h.split hgoal with h | ⟨b, hb, h⟩
        · rcases List.mem_cons.1 ha with rfl | ha
          · exact absurd List.mem_cons_self h.start
          · exact ⟨a, List.mem_append_right _ ha, h⟩
        · exact ⟨b, List.mem_append_left _ (List.mem_reverse.2 hb), h⟩

end EirvahEdge.Lib.Search
