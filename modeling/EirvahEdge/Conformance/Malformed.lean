import EirvahEdge.Conformance.Evaluate

/-!
# Malformed evidence and passing rules

A rule about state (C05) or events (C06) may pass only on a package whose cases were
all judged, and a package that is unavailable or malformed may not help any rule.
Both hold because an unknown that the data evidence takes away is replaced by one of
its own, and no later step removes that without deciding it: the recovery checks
replace the five names they report on, the assurance checks touch other rules.

There is one gap.  A package that is bound to the policy but has no usable origin of
its clock is reported under C05 alone, while the unknown under C06 is gone.

## Main results

* `mem_collected`, `mem_assured`: where a check of the result comes from;
* `pass_of_mem_collected`: every check under C05 or C06 counts;
* `malformedNeverPasses_iff`: exactly when malformed evidence never passes.
-/

namespace EirvahEdge.Conformance

open EirvahEdge.Lib
open EirvahEdge.Contracts

/-! ## Where checks come from -/

theorem mem_supersede {checks new : List Check} {c : Check} :
    c ∈ supersede checks new ↔ (c ∈ checks ∧ c.name ∉ new.map Check.name) ∨ c ∈ new := by
  simp [supersede, List.mem_append, List.mem_filter]

theorem mem_selected {rule : RuleId} {checks : List Check} {c : Check} :
    c ∈ selected rule.id checks ↔ c ∈ checks ∧ c.rule = rule := by
  rw [selected, List.mem_filter, beq_iff_eq]
  exact and_congr_right fun _ => ⟨RuleId.id_injective, fun h => h ▸ rfl⟩

theorem excuse_name (closedNoWrite : List String) (c : Check) :
    (excuse closedNoWrite c).name = c.name := by
  unfold excuse
  split
  · split_ifs <;> rfl
  · rfl

theorem excuse_of_notMem {closedNoWrite : List String} {c : Check}
    (h : c.name ∉ excusable) : excuse closedNoWrite c = c := by
  unfold excuse
  split
  · rw [if_neg fun hand => h hand.1]
  · rfl

/-- Excusing makes no failure and hides none. -/
theorem excuse_eq_fail {closedNoWrite : List String} {c : Check} :
    (excuse closedNoWrite c).status = .fail ↔ c.status = .fail := by
  unfold excuse
  split
  · split_ifs with h
    · simp [h.2.1]
    · rfl
  · rfl

namespace Evidence

variable {e : Evidence}

/-- The names of the recovery checks that are there. -/
def recoveredNames (e : Evidence) : List CheckName :=
  match e.recovery with
  | none => []
  | some r => r.checks.map Check.name

def recoveryChecks (e : Evidence) : List Check :=
  match e.recovery with
  | none => []
  | some r => r.checks

theorem recoveredNames_subset {name : CheckName} (h : name ∈ e.recoveredNames) :
    name ∈ recoveryNames := by
  unfold recoveredNames at h
  split at h
  · simp at h
  · next r _ =>
      obtain ⟨c, hc, rfl⟩ := List.mem_map.1 h
      exact r.named c hc

theorem faultChecks_named {c : Check} (h : c ∈ e.faultChecks) : c.name ∈ faultNames := by
  unfold faultChecks at h
  split at h
  · simp at h
  · next f _ => exact f.named c h

/-- **The sources of a collected check.** -/
theorem mem_collected {data : Option (List Check)} {c : Check} :
    c ∈ e.collected data ↔
      ((c ∈ e.initial ∨ c ∈ data.getD []) ∧ c.name ∉ e.recoveredNames) ∨
        c ∈ e.recoveryChecks ∨ c ∈ e.faultChecks ∨
        c ∈ (deferredRules data.isSome e.faults.isSome).map deferredCheck ∨ c ∈ e.standing := by
  have hrecovered (checks : List Check) : c ∈ e.recovered checks ↔
      (c ∈ checks ∧ c.name ∉ e.recoveredNames) ∨ c ∈ e.recoveryChecks := by
    unfold recovered recoveredNames recoveryChecks
    cases e.recovery with
    | none => simp
    | some r => exact mem_supersede
  rw [collected, List.mem_append, List.mem_append, List.mem_append, hrecovered, List.mem_append]
  simp only [or_assoc]

/-- How a collected check goes through the assurance evidence. -/
def Through (e : Evidence) (x c : Check) : Prop :=
  match e.assurance with
  | none => c = x
  | some (a, closedNoWrite) => x.name ∉ a.checks.map Check.name ∧ excuse closedNoWrite x = c

def assuranceChecks (e : Evidence) : List Check :=
  match e.assurance with
  | none => []
  | some (a, closedNoWrite) => a.checks.map (excuse closedNoWrite)

theorem mem_assured {checks : List Check} {c : Check} :
    c ∈ e.assured checks ↔ (∃ x ∈ checks, e.Through x c) ∨ c ∈ e.assuranceChecks := by
  unfold assured Through assuranceChecks
  cases e.assurance with
  | none => simp
  | some a =>
      obtain ⟨a, closedNoWrite⟩ := a
      simp only [List.mem_map, mem_supersede]
      constructor
      · rintro ⟨x, ⟨hx, hnot⟩ | hx, rfl⟩
        · exact Or.inl ⟨x, hx, hnot, rfl⟩
        · exact Or.inr ⟨x, hx, rfl⟩
      · rintro (⟨x, hx, hnot, rfl⟩ | ⟨x, hx, rfl⟩)
        · exact ⟨x, Or.inl ⟨hx, hnot⟩, rfl⟩
        · exact ⟨x, Or.inr hx, rfl⟩

theorem Through.name {x c : Check} (h : e.Through x c) : c.name = x.name := by
  unfold Through at h
  split at h
  · rw [h]
  · rw [← h.2, excuse_name]

theorem Through.fail {x c : Check} (h : e.Through x c) (hc : c.status = .fail) :
    x.status = .fail := by
  unfold Through at h
  split at h
  · rw [← h]
    exact hc
  · rw [← h.2] at hc
    exact excuse_eq_fail.1 hc

/-- A check that no command can excuse stays as it is. -/
theorem Through.eq {x c : Check} (h : e.Through x c) (hx : x.name ∉ excusable) : c = x := by
  unfold Through at h
  split at h
  · exact h
  · rw [← h.2, excuse_of_notMem hx]

theorem through_self {x : Check} (hassurance : x.name ∉ assuranceNames)
    (hexcusable : x.name ∉ excusable) : e.Through x x := by
  unfold Through
  split
  · rfl
  · next a closedNoWrite _ =>
      refine ⟨fun hmem => ?_, excuse_of_notMem hexcusable⟩
      obtain ⟨c, hc, hname⟩ := List.mem_map.1 hmem
      exact hassurance (hname ▸ a.named c hc)

theorem assuranceChecks_named {c : Check} (h : c ∈ e.assuranceChecks) :
    c.name ∈ assuranceNames := by
  unfold assuranceChecks at h
  split at h
  · simp at h
  · next a closedNoWrite _ =>
      obtain ⟨x, hx, rfl⟩ := List.mem_map.1 h
      rw [excuse_name]
      exact a.named x hx

theorem reconciled_rule {checks : List Check} (h : e.reconciled = .ok checks) {c : Check}
    (hc : c ∈ checks) : c.rule = .c12 := by
  unfold reconciled at h
  split at h
  · cases h
    simp at hc
  · obtain ⟨present, -, h⟩ := bind_eq_ok.1 h
    cases h
    rw [List.mem_singleton.1 hc]
    rfl

end Evidence

/-! ## Rules about cases -/

/-- No assurance check is about C05 or C06, and no such check is excused. -/
theorem untouched_of_rule {kind : CaseKind} {name : CheckName} (h : name.rule = kind.rule) :
    name ∉ assuranceNames ∧ name ∉ excusable := by
  have hrules : ∀ n ∈ assuranceNames ++ excusable, ∀ k : CaseKind, n.rule ≠ k.rule := by
    intro n hn k
    cases k <;> revert n <;> decide
  refine ⟨fun hmem => ?_, fun hmem => ?_⟩
  · exact hrules name (List.mem_append_left _ hmem) kind h
  · exact hrules name (List.mem_append_right _ hmem) kind h

/-- A package is reported under C05, C06 and the integrity of its list of cases. -/
theorem dataReport_rules {E : Pinned} {package : Json} {checks : List Check}
    (h : checkDataEvidence E package = .ok checks) {c : Check} (hc : c ∈ checks) :
    (∃ kind : CaseKind, c.rule = kind.rule) ∨ IsIntegrity c := by
  have hplaceholder : ∀ c ∈ unboundReport ++ originReport ++ placeholders,
      ∃ kind : CaseKind, c.rule = kind.rule := by
    have hrules : ∀ c ∈ unboundReport ++ originReport ++ placeholders,
        c.rule = .c05 ∨ c.rule = .c06 := by decide +kernel
    intro c hc
    cases hrules c hc with
    | inl h => exact ⟨.state, h⟩
    | inr h => exact ⟨.event, h⟩
  rcases checkDataEvidence_cases h with ⟨-, rfl⟩ | ⟨-, rfl⟩ | ⟨_, _, _, _, _, hjudges⟩
  · exact Or.inl (hplaceholder c (by simp [hc]))
  · exact Or.inl (hplaceholder c (by simp [hc]))
  · rw [hjudges.report_eq, List.mem_append, List.mem_append] at hc
    rcases hc with (hc | hc) | hc
    · exact Or.inr (hjudges.integrity c hc)
    · obtain ⟨p, -, hp⟩ := hjudges.judged c hc
      exact Or.inl ⟨p.kind, congrArg CheckName.rule hp.name⟩
    · exact Or.inl (hplaceholder c (by simp [hc]))

section Merged

variable {e : Evidence} {data : Option (List Check)} {commands : List Check}
variable (hcommands : e.reconciled = .ok commands)

/-- All checks of a report. -/
def Evidence.merged (e : Evidence) (data : Option (List Check)) (commands : List Check) :
    List Check :=
  e.assured (e.collected data) ++ commands

/-- **Every collected check under C05 or C06 counts.** -/
theorem pass_of_mem_collected {kind : CaseKind}
    (hpass : verdict (statuses (selected kind.rule.id (e.merged data commands))) = .pass)
    {x : Check} (hx : x ∈ e.collected data) (hrule : x.rule = kind.rule) : x.status = .pass := by
  obtain ⟨hassurance, hexcusable⟩ := untouched_of_rule hrule
  have hmem : x ∈ e.merged data commands :=
    List.mem_append_left _ (Evidence.mem_assured.2
      (Or.inl ⟨x, hx, Evidence.through_self hassurance hexcusable⟩))
  exact (verdict_statuses_eq_pass.1 hpass).2 x (mem_selected.2 ⟨hmem, hrule⟩)

include hcommands in
/-- Nothing else does. -/
theorem mem_collected_of_selected {kind : CaseKind} {c : Check}
    (hc : c ∈ selected kind.rule.id (e.merged data commands)) :
    c ∈ e.collected data ∧ c.rule = kind.rule := by
  obtain ⟨hc, hrule⟩ := mem_selected.1 hc
  refine ⟨?_, hrule⟩
  obtain ⟨hassurance, hexcusable⟩ := untouched_of_rule hrule
  rw [Evidence.merged, List.mem_append, Evidence.mem_assured] at hc
  rcases hc with (⟨x, hx, hthrough⟩ | hc) | hc
  · rw [hthrough.name] at hexcusable
    rw [hthrough.eq hexcusable]
    exact hx
  · exact absurd (Evidence.assuranceChecks_named hc) hassurance
  · rw [Evidence.reconciled_rule hcommands hc] at hrule
    cases kind <;> cases hrule

/-- A check of the data evidence that `check_recovery` does not report on is collected. -/
theorem mem_collected_of_data {checks : List Check} {c : Check} (hc : c ∈ checks)
    (hname : c.name ∉ recoveryNames) : c ∈ e.collected (some checks) :=
  Evidence.mem_collected.2
    (Or.inl ⟨Or.inr hc, fun hmem => hname (Evidence.recoveredNames_subset hmem)⟩)

/-! ## With and without the package -/

section Omitted

variable {checks : List Check} {c : Check}

/-- What is collected with one package is collected with another, or is of the package, or
is a rule that only the first defers. -/
theorem mem_collected_of_mem {data : Option (List Check)} (data' : Option (List Check))
    (hc : c ∈ e.collected data) :
    c ∈ e.collected data' ∨ c ∈ data.getD [] ∨
      ∃ rule ∈ deferredRules data.isSome e.faults.isSome,
        rule ∉ deferredRules data'.isSome e.faults.isSome ∧ c = deferredCheck rule := by
  rw [Evidence.mem_collected] at hc ⊢
  rcases hc with ⟨hc | hc, hname⟩ | hc | hc | hc | hc
  · exact Or.inl (Or.inl ⟨Or.inl hc, hname⟩)
  · exact Or.inr (Or.inl hc)
  · exact Or.inl (Or.inr (Or.inl hc))
  · exact Or.inl (Or.inr (Or.inr (Or.inl hc)))
  · obtain ⟨rule, hrule, rfl⟩ := List.mem_map.1 hc
    by_cases hkept : rule ∈ deferredRules data'.isSome e.faults.isSome
    · exact Or.inl (Or.inr (Or.inr (Or.inr (Or.inl (List.mem_map_of_mem hkept)))))
    · exact Or.inr (Or.inr ⟨rule, hrule, hkept, rfl⟩)
  · exact Or.inl (Or.inr (Or.inr (Or.inr (Or.inr hc))))

/-- Of what is there without a package, only the two deferred checks are gone. -/
theorem mem_collected_of_omitted (hc : c ∈ e.collected none) :
    c ∈ e.collected (some checks) ∨ ∃ kind : CaseKind, c = deferredCheck kind.rule := by
  rcases mem_collected_of_mem (some checks) hc with hc | hc | ⟨rule, hrule, hgone, rfl⟩
  · exact Or.inl hc
  · simp at hc
  · have hcase : rule = .c05 ∨ rule = .c06 := by
      simp only [deferredRules, Option.isSome_none, Option.isSome_some] at hrule hgone
      simp at hrule hgone
      tauto
    rcases hcase with rfl | rfl
    · exact Or.inr ⟨.state, rfl⟩
    · exact Or.inr ⟨.event, rfl⟩

/-- What a package adds is its report. -/
theorem mem_collected_of_supplied (hc : c ∈ e.collected (some checks)) :
    c ∈ e.collected none ∨ c ∈ checks := by
  rcases mem_collected_of_mem none hc with hc | hc | ⟨rule, hrule, hgone, rfl⟩
  · exact Or.inl hc
  · exact Or.inr hc
  · simp only [deferredRules, Option.isSome_none, Option.isSome_some] at hrule hgone
    simp at hrule hgone
    tauto

theorem mem_merged_of_omitted (hc : c ∈ e.merged none commands) :
    c ∈ e.merged (some checks) commands ∨ ∃ kind : CaseKind, c = deferredCheck kind.rule := by
  rw [Evidence.merged, List.mem_append, Evidence.mem_assured] at hc ⊢
  rcases hc with (⟨x, hx, hthrough⟩ | hc) | hc
  · have hcollected : x ∈ e.collected (some checks) ∨
        ∃ kind : CaseKind, x = deferredCheck kind.rule := mem_collected_of_omitted hx
    cases hcollected with
    | inl hx => exact Or.inl (Or.inl (Or.inl ⟨x, hx, hthrough⟩))
    | inr hx =>
        obtain ⟨kind, rfl⟩ := hx
        have hname : (deferredCheck kind.rule).name ∉ excusable := by cases kind <;> decide
        exact Or.inr ⟨kind, hthrough.eq hname⟩
  · exact Or.inl (Or.inl (Or.inr hc))
  · exact Or.inl (Or.inr hc)

theorem mem_merged_of_supplied (hc : c ∈ e.merged (some checks) commands) :
    c ∈ e.merged none commands ∨ ∃ x ∈ checks, e.Through x c := by
  rw [Evidence.merged, List.mem_append, Evidence.mem_assured] at hc ⊢
  rcases hc with (⟨x, hx, hthrough⟩ | hc) | hc
  · cases mem_collected_of_supplied hx with
    | inl hx => exact Or.inl (Or.inl (Or.inl ⟨x, hx, hthrough⟩))
    | inr hx => exact Or.inr ⟨x, hx, hthrough⟩
  · exact Or.inl (Or.inl (Or.inr hc))
  · exact Or.inl (Or.inr hc)

end Omitted

/-- Without a package, C05 and C06 do not pass. -/
theorem not_pass_of_omitted (kind : CaseKind) :
    verdict (statuses (selected kind.rule.id (e.merged none commands))) ≠ .pass := by
  intro hpass
  have hmem : deferredCheck kind.rule ∈ e.collected none := by
    refine Evidence.mem_collected.2 (Or.inr (Or.inr (Or.inr (Or.inl ?_))))
    apply List.mem_map_of_mem
    cases kind <;> simp [deferredRules, CaseKind.rule]
  have hstatus := pass_of_mem_collected hpass hmem rfl
  cases hstatus

/-- **A package helps only a rule about cases that passes with it.** -/
theorem rank_le_of_omitted {E : Pinned} {package : Json} {checks : List Check}
    (h : checkDataEvidence E package = .ok checks) (rule : String)
    (hrule : ∀ kind : CaseKind, rule = kind.rule.id →
      verdict (statuses (selected rule (e.merged (some checks) commands))) ≠ .pass) :
    (verdict (statuses (selected rule (e.merged (some checks) commands)))).rank ≤
      (verdict (statuses (selected rule (e.merged none commands)))).rank := by
  have hkeep {c : Check} (hc : c ∈ selected rule (e.merged none commands)) :
      c ∈ selected rule (e.merged (some checks) commands) ∨
        ∃ kind : CaseKind, c = deferredCheck kind.rule ∧ rule = kind.rule.id := by
    obtain ⟨hc, hname⟩ := List.mem_filter.1 hc
    have hmerged : c ∈ e.merged (some checks) commands ∨
        ∃ kind : CaseKind, c = deferredCheck kind.rule := mem_merged_of_omitted hc
    cases hmerged with
    | inl hc => exact Or.inl (List.mem_filter.2 ⟨hc, hname⟩)
    | inr hc =>
        obtain ⟨kind, rfl⟩ := hc
        exact Or.inr ⟨kind, rfl, (beq_iff_eq.1 hname).symm⟩
  apply verdict_rank_le
  · intro hfail
    obtain ⟨c, hc, hstatus⟩ := fail_mem_statuses.1 hfail
    cases hkeep hc with
    | inl hc => exact fail_mem_statuses.2 ⟨c, hc, hstatus⟩
    | inr hc =>
        obtain ⟨kind, rfl, -⟩ := hc
        cases hstatus
  · intro hpass
    have hother (kind : CaseKind) : rule ≠ kind.rule.id := fun heq => hrule kind heq hpass
    obtain ⟨hne, hall⟩ := verdict_statuses_eq_pass.1 hpass
    rw [verdict_statuses_eq_pass]
    constructor
    · obtain ⟨c, hc⟩ := List.exists_mem_of_ne_nil _ hne
      obtain ⟨hmerged, hname⟩ := List.mem_filter.1 hc
      cases mem_merged_of_supplied hmerged with
      | inl hmem => exact List.ne_nil_of_mem (List.mem_filter.2 ⟨hmem, hname⟩)
      | inr hmem =>
          obtain ⟨x, hx, hthrough⟩ := hmem
          cases dataReport_rules h hx with
          | inl hkind =>
              obtain ⟨kind, hkind⟩ := hkind
              have heq : rule = kind.rule.id := by
                rw [← beq_iff_eq.1 hname, ← hkind, Check.rule, hthrough.name]
                rfl
              exact absurd heq (hother kind)
          | inr hintegrity =>
              have hexcusable : x.name ∉ excusable := by
                rw [hintegrity.1]
                decide
              have hpassed := hall c hc
              rw [hthrough.eq hexcusable] at hpassed
              exact absurd hpassed hintegrity.2
    · intro c hc
      cases hkeep hc with
      | inl hc => exact hall c hc
      | inr hc =>
          obtain ⟨kind, -, heq⟩ := hc
          exact absurd heq (hother kind)

end Merged

/-! ## What a pass under C05 or C06 rests on -/

/-- Every case of a kind was captured, judged and reported as passed. -/
structure KindPassed (E : Pinned) (package : Json) (kind : CaseKind) : Prop where
  evaluated : CasesPassed E package kind
  reported : ∃ checks, checkDataEvidence E package = .ok checks ∧
    ∀ p ∈ E.plan.cases, p.kind = kind → ∃ c ∈ checks, c.name = p.name ∧ c.status = .pass

/-- Nothing in the package was good enough to pass. -/
def Unusable (E : Pinned) (package : Json) : Prop :=
  ∃ checks, checkDataEvidence E package = .ok checks ∧ ∀ c ∈ checks, c.status ≠ .pass

theorem Unusable.not_kindPassed {E : Pinned} {package : Json} (h : Unusable E package)
    (kind : CaseKind) : ¬ KindPassed E package kind := by
  intro hpassed
  obtain ⟨checks, hchecks, hnone⟩ := h
  obtain ⟨reported, hreported, hall⟩ := hpassed.reported
  obtain ⟨p, hp, hkind⟩ := E.plan.covers kind
  obtain ⟨c, hc, -, hstatus⟩ := hall p hp hkind
  rw [hchecks] at hreported
  cases hreported
  exact hnone c hc hstatus

section Passing

variable {E : Pinned} {e : Evidence} {commands : List Check}

/-- The checks under C06 when the package has no origin. -/
theorem mem_collected_originReport {c : Check} (hrule : c.rule = .c06) :
    c ∈ e.collected (some originReport) ↔ c ∈ e.execution.checks ++ e.recoveryChecks := by
  have hother {names : List CheckName} (hnames : ∀ n ∈ names, n.rule ≠ .c06)
      (hc : c.name ∈ names) : False := hnames c.name hc hrule
  rw [Evidence.mem_collected, List.mem_append]
  constructor
  · rintro (⟨hc | hc, -⟩ | hc | hc | hc | hc)
    · rw [Evidence.initial, List.mem_append, List.mem_append] at hc
      rcases hc with (hc | hc) | hc
      · exact (hother (by decide) (e.declared.named c hc)).elim
      · exact (hother (by decide) (e.bindings.named c hc)).elim
      · exact Or.inl hc
    · rw [Option.getD_some, originReport, List.mem_singleton] at hc
      rw [hc] at hrule
      cases hrule
    · exact Or.inr hc
    · exact (hother (by decide) (Evidence.faultChecks_named hc)).elim
    · obtain ⟨rule, hmem, rfl⟩ := List.mem_map.1 hc
      obtain rfl : rule = .c06 := hrule
      cases hfaults : e.faults.isSome <;>
        simp [deferredRules, hfaults] at hmem
    · have hstanding : ∀ x ∈ e.standing, x.rule ≠ .c06 := by
        intro x hx
        simp only [Evidence.standing, List.mem_cons, List.not_mem_nil, or_false] at hx
        rcases hx with rfl | rfl <;> simp [Check.rule, result]
      exact absurd hrule (hstanding c hc)
  · rintro (hc | hc)
    · have hname : c.name ∉ recoveryNames := by
        have hdisjoint : ∀ n ∈ executionNames, n ∉ recoveryNames := by decide
        exact hdisjoint c.name (e.execution.named c hc)
      exact Or.inl ⟨Or.inl (List.mem_append_right _ hc),
        fun hmem => hname (Evidence.recoveredNames_subset hmem)⟩
    · exact Or.inr (Or.inl hc)

/-- The checks on executed commands and on recovery pass C06 by themselves. -/
def PassesByItself (e : Evidence) : Prop :=
  verdict (statuses (selected RuleId.c06.id (e.execution.checks ++ e.recoveryChecks))) = .pass

instance : Decidable (PassesByItself e) := inferInstanceAs (Decidable (_ = Status.pass))

/-- Without an origin, C06 is judged by the other sources. -/
theorem originReport_pass_iff (hcommands : e.reconciled = .ok commands) :
    verdict (statuses (selected RuleId.c06.id (e.merged (some originReport) commands))) = .pass ↔
      PassesByItself e := by
  have hmem (c : Check) :
      c ∈ selected RuleId.c06.id (e.merged (some originReport) commands) ↔
        c ∈ selected RuleId.c06.id (e.execution.checks ++ e.recoveryChecks) := by
    constructor
    · intro hc
      obtain ⟨hcollected, hrule⟩ : c ∈ e.collected (some originReport) ∧
          c.rule = CaseKind.event.rule := mem_collected_of_selected hcommands hc
      exact mem_selected.2 ⟨(mem_collected_originReport hrule).1 hcollected, hrule⟩
    · intro hc
      obtain ⟨hc, hrule⟩ := mem_selected.1 hc
      obtain ⟨hassurance, hexcusable⟩ :=
        untouched_of_rule (show c.name.rule = CaseKind.event.rule from hrule)
      have hcollected := (mem_collected_originReport hrule).2 hc
      refine mem_selected.2 ⟨List.mem_append_left _ (Evidence.mem_assured.2 (Or.inl ?_)), hrule⟩
      exact ⟨c, hcollected, Evidence.through_self hassurance hexcusable⟩
  rw [PassesByItself, verdict_statuses_eq_pass, verdict_statuses_eq_pass]
  refine and_congr (not_congr ?_) (forall_congr' fun c => by rw [hmem c])
  rw [List.eq_nil_iff_forall_not_mem, List.eq_nil_iff_forall_not_mem]
  exact forall_congr' fun c => not_congr (hmem c)

/-- **A pass under C05 or C06**: the cases passed, or the package has no origin and C06
passes by itself. -/
theorem kindPassed_of_pass {package : Json} {checks : List Check}
    (h : checkDataEvidence E package = .ok checks) (hcommands : e.reconciled = .ok commands)
    {kind : CaseKind}
    (hpass : verdict (statuses (selected kind.rule.id (e.merged (some checks) commands))) = .pass) :
    KindPassed E package kind ∨
      (kind = .event ∧ OriginUnavailable E package ∧ PassesByItself e) := by
  rcases checkDataEvidence_cases h with ⟨-, rfl⟩ | ⟨horigin, rfl⟩ | ⟨fields, cases, base, _, _, hj⟩
  · have hmem : unavailable kind.rule "Valid policy-bound consumer evidence not supplied" ∈
        unboundReport := by
      cases kind <;> simp [unboundReport, CaseKind.rule]
    have hname : (unavailable kind.rule
        "Valid policy-bound consumer evidence not supplied").name ∉ recoveryNames := by
      cases kind <;> decide
    have hstatus := pass_of_mem_collected hpass (mem_collected_of_data hmem hname) rfl
    cases hstatus
  · cases kind with
    | state =>
        have hname : (unavailable .c05 "Injected clock origin unavailable").name ∉
            recoveryNames := by decide
        have hstatus := pass_of_mem_collected hpass
          (mem_collected_of_data (List.mem_singleton.2 rfl) hname) rfl
        cases hstatus
    | event => exact Or.inr ⟨rfl, horigin, (originReport_pass_iff hcommands).1 hpass⟩
  · have hcase : ∀ p ∈ E.plan.cases, p.kind = kind → ∃ c ∈ checks,
        JudgesCase E base (cases.foldl Captured.add {}) p c ∧ c.status = .pass := by
      intro p hp hkind
      obtain ⟨c, hc, hjudges⟩ := hj.judges p hp
      have hmem : c ∈ checks := by
        rw [hj.report_eq]
        exact List.mem_append_left _ (List.mem_append_right _ hc)
      have hfresh : c.name ∉ recoveryNames := hjudges.name ▸ E.plan.names_fresh p hp
      have hrule : c.rule = kind.rule := by
        rw [Check.rule, hjudges.name, ← hkind]
        rfl
      exact ⟨c, hmem, hjudges,
        pass_of_mem_collected hpass (mem_collected_of_data hmem hfresh) hrule⟩
    refine Or.inl ⟨⟨fields, cases, base, hj.bound, hj.origin, fun p hp hkind => ?_⟩,
      checks, h, fun p hp hkind => ?_⟩
    · obtain ⟨c, -, hjudges, hstatus⟩ := hcase p hp hkind
      exact hjudges.passed hstatus
    · obtain ⟨c, hc, hjudges, hstatus⟩ := hcase p hp hkind
      exact ⟨c, hc, hjudges.name, hstatus⟩

end Passing

/-! ## The whole report -/

/-- The evidence without the data package. -/
def Evidence.omitted (e : Evidence) : Evidence := { e with data := none }

section Report

variable (E : Pinned) (reference : Reference) (now : AwareDatetime) (e : Evidence)

/-- Malformed evidence never creates a pass in the report. -/
structure MalformedNeverPasses (report : Report) : Prop where
  /-- A rule about cases passes on evaluated cases. -/
  evaluated : ∀ kind : CaseKind, ∀ v ∈ report.rules, v.rule.id = kind.rule.id →
    v.status = .pass → ∃ package, e.data = some package ∧ KindPassed E package kind
  /-- A package that is of no use helps no rule. -/
  noBetter : ∀ package, e.data = some package → Unusable E package →
    ∃ other, evaluate E reference now e.omitted = .ok other ∧
      List.Forall₂ (fun v w => v.rule = w.rule ∧ v.status.rank ≤ w.status.rank)
        report.rules other.rules
  /-- Any package helps only a rule whose cases all passed. -/
  onlyByCases : ∀ package, e.data = some package →
    ∃ other, evaluate E reference now e.omitted = .ok other ∧
      List.Forall₂ (fun v w => v.rule = w.rule ∧ (w.status.rank < v.status.rank →
        ∃ kind : CaseKind, v.rule.id = kind.rule.id ∧ KindPassed E package kind))
        report.rules other.rules

/-- A package bound to the policy comes without an origin, and the reference has the
rule C06, which passes by itself. -/
structure OriginDefect : Prop where
  origin : ∃ package, e.data = some package ∧ OriginUnavailable E package
  listed : ∃ rule ∈ reference.rules, rule.id = RuleId.c06.id
  byItself : PassesByItself e

variable {E reference now e} {report : Report}

theorem evaluate_eq_ok : evaluate E reference now e = .ok report ↔
    ∃ data commands, e.dataReport E = .ok data ∧ e.reconciled = .ok commands ∧
      report = reference.report now (e.merged data commands) := by
  rw [evaluate, map_eq_ok]
  constructor
  · rintro ⟨checks, hchecks, rfl⟩
    obtain ⟨data, hdata, hchecks⟩ := bind_eq_ok.1 hchecks
    obtain ⟨commands, hcommands, hchecks⟩ := bind_eq_ok.1 hchecks
    cases hchecks
    exact ⟨data, commands, hdata, hcommands, rfl⟩
  · rintro ⟨data, commands, hdata, hcommands, rfl⟩
    refine ⟨e.merged data commands, ?_, rfl⟩
    rw [Evidence.checks, hdata]
    exact bind_eq_ok.2 ⟨data, rfl, bind_eq_ok.2 ⟨commands, hcommands, rfl⟩⟩

/-- Leaving the package out is always possible. -/
theorem evaluate_omitted {commands : List Check} (hcommands : e.reconciled = .ok commands) :
    evaluate E reference now e.omitted =
      .ok (reference.report now (e.merged none commands)) :=
  evaluate_eq_ok.2 ⟨none, commands, rfl, hcommands, rfl⟩

theorem forall₂_rules {R : RuleVerdict → RuleVerdict → Prop} {checks others : List Check} :
    List.Forall₂ R (reference.report now checks).rules (reference.report now others).rules ↔
      ∀ rule ∈ reference.rules, R (judgeRule checks rule) (judgeRule others rule) := by
  rw [Reference.report, Reference.report, List.forall₂_map_left_iff, List.forall₂_map_right_iff,
    List.forall₂_same]

/-- A package that was supplied was checked. -/
theorem dataReport_eq_some {package : Json} (hdata : e.data = some package)
    {data : Option (List Check)} (h : e.dataReport E = .ok data) :
    ∃ checks, data = some checks ∧ checkDataEvidence E package = .ok checks := by
  rw [Evidence.dataReport, hdata] at h
  obtain ⟨checks, hchecks, rfl⟩ := map_eq_ok.1 h
  exact ⟨checks, rfl, hchecks⟩

/-- Without the defect every pass rests on its cases. -/
theorem kindPassed_of_not_defect (hdefect : ¬ OriginDefect E reference e) {package : Json}
    (hdata : e.data = some package) {checks commands : List Check}
    (hchecks : checkDataEvidence E package = .ok checks) (hcommands : e.reconciled = .ok commands)
    {rule : ReferenceRule} (hmem : rule ∈ reference.rules) {kind : CaseKind}
    (hrule : rule.id = kind.rule.id)
    (hpass : (judgeRule (e.merged (some checks) commands) rule).status = .pass) :
    KindPassed E package kind := by
  rw [judgeRule, hrule] at hpass
  cases kindPassed_of_pass hchecks hcommands hpass with
  | inl hkind => exact hkind
  | inr hevent =>
      obtain ⟨rfl, horigin, hitself⟩ := hevent
      exact absurd ⟨⟨package, hdata, horigin⟩, ⟨rule, hmem, hrule⟩, hitself⟩ hdefect

/-- **Malformed evidence never creates a pass, exactly without the defect**: unless a
package that is bound to the policy has no usable origin of its clock while the checks
on executed commands and on recovery pass C06 by themselves. -/
theorem malformedNeverPasses_iff (h : evaluate E reference now e = .ok report) :
    MalformedNeverPasses E reference now e report ↔ ¬ OriginDefect E reference e := by
  obtain ⟨data, commands, hreport, hcommands, rfl⟩ := evaluate_eq_ok.1 h
  have homitted : evaluate E reference now e.omitted =
      .ok (reference.report now (e.merged none commands)) := evaluate_omitted hcommands
  constructor
  · intro hsound hdefect
    obtain ⟨package, hdata, horigin⟩ := hdefect.origin
    obtain ⟨rule, hmem, hrule⟩ := hdefect.listed
    obtain ⟨checks, rfl, hchecks⟩ := dataReport_eq_some hdata hreport
    obtain ⟨fields, cases, hbound, hnone⟩ := horigin
    have hreported : checks = originReport := by
      rw [checkDataEvidence, hbound] at hchecks
      dsimp only at hchecks
      rw [hnone] at hchecks
      exact (Except.ok.inj hchecks).symm
    subst hreported
    have hunusable : Unusable E package := by
      refine ⟨originReport, hchecks, fun c hc => ?_⟩
      rw [List.mem_singleton.1 hc]
      decide
    have hpass : (judgeRule (e.merged (some originReport) commands) rule).status = .pass := by
      rw [judgeRule, hrule]
      exact (originReport_pass_iff hcommands).2 hdefect.byItself
    have hmemRules : judgeRule (e.merged (some originReport) commands) rule ∈
        (reference.report now (e.merged (some originReport) commands)).rules :=
      List.mem_map_of_mem hmem
    obtain ⟨package', hdata', hkind⟩ :=
      hsound.evaluated .event _ hmemRules hrule hpass
    rw [hdata] at hdata'
    cases hdata'
    exact hunusable.not_kindPassed .event hkind
  · intro hdefect
    have honly (package : Json) (hdata : e.data = some package) (rule : ReferenceRule)
        (hmem : rule ∈ reference.rules)
        (hlt : (judgeRule (e.merged none commands) rule).status.rank <
          (judgeRule (e.merged data commands) rule).status.rank) :
        ∃ kind : CaseKind, rule.id = kind.rule.id ∧ KindPassed E package kind := by
      obtain ⟨checks, rfl, hchecks⟩ := dataReport_eq_some hdata hreport
      by_contra hnone
      have hle : (verdict (statuses (selected rule.id (e.merged (some checks) commands)))).rank ≤
          (verdict (statuses (selected rule.id (e.merged none commands)))).rank :=
        rank_le_of_omitted hchecks rule.id fun kind hrule hpass => hnone ⟨kind, hrule,
          kindPassed_of_not_defect hdefect hdata hchecks hcommands hmem hrule hpass⟩
      exact absurd hlt (not_lt.2 hle)
    constructor
    · intro kind v hv hrule hpass
      obtain ⟨rule, hmem, rfl⟩ := List.mem_map.1 hv
      cases hdata : e.data with
      | none =>
          rw [Evidence.dataReport, hdata] at hreport
          cases hreport
          have hrule' : rule.id = kind.rule.id := hrule
          rw [judgeRule, hrule'] at hpass
          exact absurd hpass (not_pass_of_omitted kind)
      | some package =>
          obtain ⟨checks, rfl, hchecks⟩ := dataReport_eq_some hdata hreport
          exact ⟨package, rfl,
            kindPassed_of_not_defect hdefect hdata hchecks hcommands hmem hrule hpass⟩
    · intro package hdata hunusable
      refine ⟨_, homitted, forall₂_rules.2 fun rule hmem => ⟨rfl, ?_⟩⟩
      by_contra hlt
      obtain ⟨kind, -, hkind⟩ := honly package hdata rule hmem (not_le.1 hlt)
      exact hunusable.not_kindPassed kind hkind
    · intro package hdata
      exact ⟨_, homitted, forall₂_rules.2 fun rule hmem =>
        ⟨rfl, honly package hdata rule hmem⟩⟩

end Report

namespace ReplayPackage

/-! Two cases of the pinned plan and a package that records them. -/

def base : AwareDatetime := .ofMicros 1767225600000000

def start : String := "2026-01-01T00:00:00+00:00"

def second : String := "2026-01-01T00:00:01+00:00"

def expiry : String := "2026-01-01T00:00:02+00:00"

def texts : DatetimeText :=
  .ofTable [(base, start), (.ofMicros 1767225601000000, second),
    (.ofMicros 1767225602000000, expiry)]

def rejectCountTopic : String :=
  "uniza/zilina/factory1/line_a/reject_station/reject_counter_01/reject_count"

def policy : Policy where
  topicBindings := [("reject_count", rejectCountTopic)]
  inspectionTopic := "uniza/zilina/factory1/line_a/inspector/inspector_01/bottle_inspection"
  inspectionMaxAgeS := 2
  requiredCases := ["ordered-reject_count", "inspection-expiry"]
  temperatureTopic :=
    "uniza/zilina/factory1/line_a/bottler/setpoint_unit/setpoint_temperature"
  rejectTopic := "uniza/zilina/factory1/line_a/reject_station/rejector_01/reject_bottle"

/-- A count received as it is observed. -/
def countStep (count : ℤ) (at' : ℚ) : PlanStep where
  op := .receive at' (.sample (.int count) "good") true "accepted"
  nowS := at'
  commandValue := none
  state := some ⟨"fresh", some (.int count)⟩

/-- An inspection that arrives when it is two seconds old. -/
def expiryStep : PlanStep where
  op := .receive 0 (.inspection "aaaaaaaaaaaaaaaa" 1 10 false 0 false) false "stale"
  nowS := 2
  commandValue := none
  state := none

def cases : List PlanCase :=
  [⟨"ordered-reject_count", .state, some "reject_count", [countStep 10 0, countStep 11 1]⟩,
    ⟨"inspection-expiry", .event, none, [expiryStep]⟩]

def plan : Plan where
  cases := cases
  covers
    | .state => ⟨_, List.mem_cons_self, rfl⟩
    | .event => ⟨_, List.mem_cons_of_mem _ List.mem_cons_self, rfl⟩
  names_fresh := by decide

def sha256 : String := "cd6d9b8eb0f5ae54f17af37f8e278c41d7ac1d48be2ba8c121f2584b8b2a5d6f"

/-- `fromisoformat` on the two origins below. -/
def pinned : Pinned where
  policy := policy
  plan := plan
  policySha256 := sha256
  planSha256 := sha256
  texts := texts
  fromisoformat s :=
    if s = start then .ok (.aware base)
    else if s = "2026-01-01T00:00:00" then .ok (.naive 1767225600000000)
    else .error (valueError "Invalid isoformat string")

def countRecord (count : ℤ) (at' : ℚ) (text : String) : Json :=
  .obj [("topic", .str rejectCountTopic), ("input", (countStep count at').input),
    ("now", .str text), ("consumer_instance", .str "7d1e"),
    ("payload", .obj [("sosa:resultTime", .str text), ("sosa:hasSimpleResult", .int count),
      ("eirvah:quality", .str "good")]),
    ("decision", .obj [("accepted", .bool true), ("reason", .str "accepted")]),
    ("command", .null),
    ("state", .obj [("status", .str "fresh"), ("value", .int count),
      ("source_timestamp", .str text)])]

def expiryRecord : Json :=
  .obj [("topic", .str policy.inspectionTopic), ("input", expiryStep.input),
    ("now", .str expiry), ("consumer_instance", .str "c02b"),
    ("payload", .obj [("inspection_id", .str "aaaaaaaaaaaaaaaa:0001"), ("bottle_id", .int 10),
      ("passed", .bool false), ("inspected_at", .str start)]),
    ("decision", .obj [("accepted", .bool false), ("reason", .str "stale"),
      ("missing_sequences", .int 0), ("late_sequence", .bool false)]),
    ("command", .null), ("state", .null)]

/-- The package with some origin of its clock. -/
def package (origin : String) : Json :=
  .obj [("schema_version", .str "1.0"), ("execution_mode", .str executionMode),
    ("virtual_origin", .str origin), ("policy_sha256", .str sha256), ("plan_sha256", .str sha256),
    ("source_sha256", .obj (requiredSources.map fun name => (name, .str sha256))),
    ("cases", .arr [
      .obj [("id", .str "ordered-reject_count"),
        ("records", .arr [countRecord 10 0 start, countRecord 11 1 second])],
      .obj [("id", .str "inspection-expiry"), ("records", .arr [expiryRecord])]])]

def reference : Reference where
  id := "paper1-v2.1-selected-local-profile-v1"
  rules := [⟨"C05", "State validity across ordering and restarts", [6]⟩,
    ⟨"C06", "Inspection identity and business effects", [6]⟩]

def noFindings (names : List CheckName) : Findings names := ⟨[], by simp⟩

/-- The check on one complete `process_observed` record. -/
def feedback : Check :=
  result ⟨.c06, "feedback"⟩ .pass
    "Recorded bottle-specific counter/identity feedback, not transport acknowledgement"
    "reported_simulator_feedback" [.str "01J0000000000000000000000A", .str "record-1"]

def recovered : List Check :=
  recoveryNames.map fun name => result name .pass "Observed" "bounded_live_recovery_profile"

/-- One passing feedback record and a data package; the recovery evidence is optional. -/
def supplied (origin : String) (recovery : Option (Findings recoveryNames)) : Evidence where
  declared := noFindings _
  bindings := noFindings _
  execution := ⟨[feedback], by decide +kernel⟩
  records := []
  commands := []
  collectionErrors := []
  data := some (package origin)
  recovery := recovery
  faults := none
  assurance := none

def complete : Evidence := supplied start (some ⟨recovered, by decide +kernel⟩)

def withoutOrigin : Evidence := supplied "2026-01-01T00:00:00" none

/-- The statuses of the two rules. -/
def outcome (e : Evidence) : Option (List Status) :=
  (evaluate pinned reference base e).toOption.map fun r => r.rules.map RuleVerdict.status

end ReplayPackage

open ReplayPackage in
/-- On a complete package both rules pass and nothing is wrong with it. -/
theorem malformedNeverPasses_example : outcome complete = some [.pass, .pass] ∧
    ∃ report, evaluate pinned reference base complete = .ok report ∧
      MalformedNeverPasses pinned reference base complete report := by
  have houtcome : outcome complete = some [.pass, .pass] := by decide +kernel
  refine ⟨houtcome, ?_⟩
  cases h : evaluate pinned reference base complete with
  | error e =>
      rw [outcome, h] at houtcome
      cases houtcome
  | ok report =>
      refine ⟨report, rfl, (malformedNeverPasses_iff h).2 fun hdefect => ?_⟩
      obtain ⟨package', hdata, fields, cases', hbound, hnone⟩ := hdefect.origin
      cases hdata
      have horigin : ((boundCases pinned (package start)).bind
          fun bound => virtualOrigin pinned bound.1) = some base := by decide +kernel
      rw [hbound] at horigin
      exact absurd (hnone.symm.trans horigin) (by simp)

open ReplayPackage in
/-- With an origin that has no offset, C06 passes on the feedback record alone: no case
was judged, and without the package the rule is unknown. -/
theorem passes_without_origin : outcome withoutOrigin = some [.unknown, .pass] ∧
    outcome withoutOrigin.omitted = some [.unknown, .unknown] ∧
    (checkDataEvidence pinned (package "2026-01-01T00:00:00")).toOption = some originReport ∧
    ∃ report, evaluate pinned reference base withoutOrigin = .ok report ∧
      ¬ MalformedNeverPasses pinned reference base withoutOrigin report := by
  have houtcome : outcome withoutOrigin = some [.unknown, .pass] := by decide +kernel
  have hchecks : (checkDataEvidence pinned (package "2026-01-01T00:00:00")).toOption =
      some originReport := by decide +kernel
  refine ⟨houtcome, by decide +kernel, hchecks, ?_⟩
  have hunusable : Unusable pinned (package "2026-01-01T00:00:00") := by
    cases h : checkDataEvidence pinned (package "2026-01-01T00:00:00") with
    | error e =>
        rw [h] at hchecks
        cases hchecks
    | ok checks =>
        rw [h] at hchecks
        cases hchecks
        exact ⟨originReport, h, by decide +kernel⟩
  cases h : evaluate pinned reference base withoutOrigin with
  | error e =>
      rw [outcome, h] at houtcome
      cases houtcome
  | ok report =>
      refine ⟨report, rfl, fun hsound => ?_⟩
      rw [outcome, h] at houtcome
      obtain ⟨data, commands, -, -, rfl⟩ := evaluate_eq_ok.1 h
      have hstatus : (judgeRule (withoutOrigin.merged data commands)
          ⟨"C06", "Inspection identity and business effects", [6]⟩).status = .pass := by
        simp only [Except.toOption, Option.map_some, Reference.report, reference, List.map_cons,
          List.map_nil, Option.some.injEq, List.cons.injEq] at houtcome
        exact houtcome.2.1
      obtain ⟨package', hdata, hkind⟩ := hsound.evaluated .event _
        (List.mem_map_of_mem (List.mem_cons_of_mem _ List.mem_cons_self)) rfl hstatus
      cases hdata
      exact hunusable.not_kindPassed .event hkind

end EirvahEdge.Conformance
