import EirvahEdge.Conformance.RecordOrder

/-!
# Records that were lost

Logs rotate, so what is evaluated may lack records of a run.  A check that fails without the
lost records fails with them as well: a pair that contradicts itself is still there, and with
one admission for each attempt and one approval for each time a write is judged on the same
grounds.

The exception is a record that is there and cannot be read.  The checks of a write are evaluated
in one `try`, as are the pairs of bindings of a command, and what would have failed is then
reported as incomplete.  `fail_of_sublist` says that nothing else is lost.
-/

namespace EirvahEdge.Conformance.Execution

open EirvahEdge.Lib
open EirvahEdge.Lib.Except
open EirvahEdge.Contracts

/-! ## What is reported of a command -/

/-- The checks of a command, by where they come from. -/
inductive Reported (S : Setting) (command : String) (rows : List Record) : Check → Prop
  | stage : Reported S command rows (stageCheck command rows)
  | write {write : Record} {checks : List Check} {c : Check} (hwrite : write ∈ writesOf rows)
      (hchecks : judgeWrite S command rows write = .ok checks) (hc : c ∈ checks) :
      Reported S command rows c
  | noWrite {c : Check} (hnone : writesOf rows = []) (hc : c ∈ noWriteChecks command) :
      Reported S command rows c
  | initiations : Reported S command rows (initiationCheck S command (writesOf rows))
  | bindings {c : Check} (hc : bindingCheck S command rows = .ok c) : Reported S command rows c
  | outcomes {c : Check} (hc : outcomeCheck S command rows = .ok c) : Reported S command rows c
  | feedback {r : Record} {c : Check} (hr : r ∈ rows) (haction : r.action = "process_observed")
      (hc : feedbackCheck S command r = .ok c) : Reported S command rows c

section Command

variable {S : Setting} {command : String} {rows sub : List Record} {cs : List Check} {c : Check}
  {write : Record}

/-- What `judgeCommand` returns is put together from its checks. -/
theorem judgeCommand_eq_ok (h : judgeCommand S command rows = .ok cs) :
    ∃ judged bound outcomes observed,
      (writesOf rows).mapM (judgeWrite S command rows) = .ok judged ∧
      bindingCheck S command rows = .ok bound ∧ outcomeCheck S command rows = .ok outcomes ∧
      (rows.filter fun r => r.action = "process_observed").mapM (feedbackCheck S command) =
        .ok observed ∧
      cs = [stageCheck command rows] ++ judged.flatten ++
        (if (writesOf rows).isEmpty then noWriteChecks command else []) ++
        [initiationCheck S command (writesOf rows), bound, outcomes] ++ observed := by
  unfold judgeCommand at h
  obtain ⟨judged, hjudged, h⟩ := bind_eq_ok.1 h
  obtain ⟨bound, hbound, h⟩ := bind_eq_ok.1 h
  obtain ⟨outcomes, houtcomes, h⟩ := bind_eq_ok.1 h
  obtain ⟨observed, hobserved, h⟩ := bind_eq_ok.1 h
  exact ⟨judged, bound, outcomes, observed, hjudged, hbound, houtcomes, hobserved,
    (Except.ok.inj h).symm⟩

theorem mem_judgeCommand (h : judgeCommand S command rows = .ok cs) :
    c ∈ cs ↔ Reported S command rows c := by
  obtain ⟨judged, bound, outcomes, observed, hjudged, hbound, houtcomes, hobserved, rfl⟩ :=
    judgeCommand_eq_ok h
  constructor
  · intro hc
    simp only [List.mem_append, List.mem_cons, List.not_mem_nil, or_false, List.mem_flatten] at hc
    rcases hc with (((rfl | ⟨checks, hchecks, hc⟩) | hc) | rfl | rfl | rfl) | hc
    · exact .stage
    · obtain ⟨write, hwrite, hjudge⟩ := exists_of_mapM hjudged hchecks
      exact .write hwrite hjudge hc
    · split_ifs at hc with hnone
      · exact .noWrite (List.isEmpty_iff.1 hnone) hc
      · exact absurd hc List.not_mem_nil
    · exact .initiations
    · exact .bindings hbound
    · exact .outcomes houtcomes
    · obtain ⟨r, hr, hc⟩ := exists_of_mapM hobserved hc
      obtain ⟨hr, haction⟩ := List.mem_filter.1 hr
      exact .feedback hr (of_decide_eq_true haction) hc
  · intro hc
    simp only [List.mem_append, List.mem_cons, List.not_mem_nil, or_false, List.mem_flatten]
    cases hc with
    | stage => exact Or.inl (Or.inl (Or.inl (Or.inl rfl)))
    | write hwrite hchecks hc =>
        obtain ⟨checks, hmem, hjudge⟩ := mem_of_mapM hjudged hwrite
        rw [hchecks] at hjudge
        exact Or.inl (Or.inl (Or.inl (Or.inr ⟨checks, hmem, Except.ok.inj hjudge ▸ hc⟩)))
    | noWrite hnone hc =>
        rw [hnone]
        exact Or.inl (Or.inl (Or.inr hc))
    | initiations => exact Or.inl (Or.inr (Or.inl rfl))
    | bindings hc => exact Or.inl (Or.inr (Or.inr (Or.inl (Except.ok.inj (hc.symm.trans hbound)))))
    | outcomes hc =>
        exact Or.inl (Or.inr (Or.inr (Or.inr (Except.ok.inj (hc.symm.trans houtcomes)))))
    | feedback hr haction hc =>
        obtain ⟨c', hmem, hc'⟩ := mem_of_mapM hobserved
          (List.mem_filter.2 ⟨hr, decide_eq_true haction⟩)
        exact Or.inr (Except.ok.inj (hc.symm.trans hc') ▸ hmem)

end Command

/-! ## One write -/

/-- At most one admission was recorded for each attempt. -/
def AdmittedOnce (rows : List Record) : Prop :=
  ∀ attempt : Json, (rows.filter fun r => r.action = "executor_admitted" &&
    (r.get "attempt_id").truthy && jsonEq (r.get "attempt_id") attempt).length ≤ 1

/-- The approvals of the validator. -/
def approvalsOf (S : Setting) (rows : List Record) : List Record :=
  (decisionsOf S rows).filter fun r => jsonEq (r.get "decision") (.str "approve")

/-- No two approvals were issued at one time. -/
def ApprovedApart (S : Setting) (rows : List Record) : Prop :=
  (approvalsOf S rows).Pairwise fun r q => (r.get "approval_issued_at").truthy →
    jsonEq (r.get "approval_issued_at") (q.get "approval_issued_at") = false

section Write

variable {S : Setting} {command : String} {rows sub found : List Record} {write r m : Record}
  {g g' : Grounds}

theorem AdmittedOnce.sublist (h : AdmittedOnce rows) (hsub : sub.Sublist rows) :
    AdmittedOnce sub := fun attempt => (hsub.filter _).length_le.trans (h attempt)

theorem ApprovedApart.sublist (h : ApprovedApart S rows) (hsub : sub.Sublist rows) :
    ApprovedApart S sub := List.Pairwise.sublist ((hsub.filter _).filter _) h

/-- What a match has to be before anything of it is compared. -/
theorem admits_of_isMatch (h : isMatch S write r = .ok true) :
    (r.action = "executor_admitted" && (r.get "attempt_id").truthy &&
      jsonEq (r.get "attempt_id") (write.get "attempt_id")) = true := by
  unfold isMatch at h
  split_ifs at h with hif
  · simp only [Bool.and_eq_true] at hif ⊢
    exact ⟨⟨hif.1.1.1.1, hif.1.2⟩, hif.2⟩
  · exact absurd (Except.ok.inj h) (by simp)

/-- At most one record admits a write. -/
theorem length_found_le (h : AdmittedOnce rows)
    (hfound : filterE (isMatch S write) rows = .ok found) : found.length ≤ 1 := by
  rw [(filterE_eq_ok.1 hfound).2]
  refine le_trans (List.Sublist.length_le ?_) (h (write.get "attempt_id"))
  exact List.monotone_filter_right rows fun r hr => admits_of_isMatch (holds_eq_true.1 hr)

/-- The admission that is used is the only one, and its approval has a time. -/
theorem admittedOf_eq_some (h : admittedOf S found = .ok (some m)) :
    found = [m] ∧ ∃ s, m.get "approval_issued_at" = .str s := by
  unfold admittedOf at h
  match found, h with
  | [r], h =>
      simp only at h
      cases hread : Json.item r.fields "approval_issued_at" >>= readAware S.toReading with
      | error e =>
          rw [hread] at h
          cases hcaught : isCaught e <;> simp [hcaught] at h
      | ok t =>
          rw [hread] at h
          obtain rfl := Option.some.inj (Except.ok.inj h)
          refine ⟨rfl, ?_⟩
          obtain ⟨value, hvalue, ht⟩ := bind_eq_ok.1 hread
          cases value with
          | str s => exact ⟨s, by rw [Record.get, get, Json.item_eq_ok.1 hvalue]; rfl⟩
          | _ => simp [readAware] at ht
  | [], h => exact absurd (Except.ok.inj h) (by simp)
  | _ :: _ :: _, h => exact absurd (Except.ok.inj h) (by simp)

/-- An approval is one of those of the validator, with the time that the admission names. -/
theorem names_of_isApproval (h : isApproval S write (some m) r = .ok true) :
    jsonEq (r.get "decision") (.str "approve") = true ∧
      (r.get "approval_issued_at").truthy = true ∧
      jsonEq (r.get "approval_issued_at") (m.get "approval_issued_at") = true := by
  refine ⟨approves_of_isApproval h, ?_⟩
  unfold isApproval at h
  split_ifs at h with hif
  · obtain ⟨same, -, h⟩ := bind_eq_ok.1 h
    cases same with
    | true => exact Bool.and_eq_true_iff.1 (Except.ok.inj h)
    | false => exact absurd (Except.ok.inj h) (by simp)
  · exact absurd (Except.ok.inj h) (by simp)

theorem eq_of_jsonEq_str {value : Json} {s : String} (h : jsonEq value (.str s) = true) :
    value = .str s := by
  cases value with
  | str t => rw [jsonEq_str, decide_eq_true_iff] at h; rw [h]
  | float x => cases hx : x.toRat? <;> simp [jsonEq, scalarEq, number?, hx] at h
  | _ => simp [jsonEq, scalarEq, number?] at h

/-- At most one approval is known to be that of an admission. -/
theorem length_approvals_le {approvals : List Record} (h : ApprovedApart S rows) {s : String}
    (hm : m.get "approval_issued_at" = .str s)
    (happrovals : filterE (isApproval S write (some m)) (decisionsOf S rows) = .ok approvals) :
    approvals.length ≤ 1 := by
  have heq := (filterE_eq_ok.1 happrovals).2
  have hnames : ∀ r ∈ approvals, (r.get "approval_issued_at").truthy = true ∧
      r.get "approval_issued_at" = .str s := by
    intro r hr
    rw [heq, List.mem_filter, holds_eq_true] at hr
    obtain ⟨-, htruthy, hissued⟩ := names_of_isApproval hr.2
    exact ⟨htruthy, eq_of_jsonEq_str (hm ▸ hissued)⟩
  have hapart : approvals.Pairwise fun r q => (r.get "approval_issued_at").truthy →
      jsonEq (r.get "approval_issued_at") (q.get "approval_issued_at") = false := by
    refine List.Pairwise.sublist ?_ h
    rw [heq]
    exact List.monotone_filter_right _ fun r hr => (names_of_isApproval (holds_eq_true.1 hr)).1
  match approvals, hnames, hapart with
  | [], _, _ => exact Nat.zero_le 1
  | [r], _, _ => exact le_refl 1
  | r :: q :: _, hnames, hapart =>
      obtain ⟨htruthy, hr⟩ := hnames r List.mem_cons_self
      have hq := (hnames q (List.mem_cons_of_mem _ List.mem_cons_self)).2
      have hne := (List.pairwise_cons.1 hapart).1 q List.mem_cons_self htruthy
      rw [hr, hq, jsonEq_str, decide_eq_false_iff_not] at hne
      exact absurd rfl hne

/-- A write that is admitted without the lost records has the same grounds with them. -/
theorem grounds_of_sublist (hsub : sub.Sublist rows) (honce : AdmittedOnce rows)
    (hapart : ApprovedApart S rows) (hg' : groundsOf S sub write = .ok g')
    (hg : groundsOf S rows write = .ok g) (hm : g'.admitted = some m) :
    g.admitted = some m ∧ g'.approvals.Sublist g.approvals ∧ g.approvals.length ≤ 1 := by
  obtain ⟨found', hfound', hadmitted', happrovals'⟩ := groundsOf_eq_ok hg'
  obtain ⟨found, hfound, hadmitted, happrovals⟩ := groundsOf_eq_ok hg
  rw [hm] at hadmitted' happrovals'
  obtain ⟨rfl, s, hs⟩ := admittedOf_eq_some hadmitted'
  obtain rfl : [m] = found :=
    (filterE_sublist hsub hfound' hfound).eq_of_length_le (length_found_le honce hfound)
  rw [hadmitted'] at hadmitted
  rw [← Except.ok.inj hadmitted] at happrovals ⊢
  exact ⟨rfl, filterE_sublist (hsub.filter _) happrovals' happrovals,
    length_approvals_le hapart hs happrovals⟩

/-- An admission was judged on the approvals before the write, on whether the first of them was
refused, and fails exactly when it was. -/
theorem admissionStatus_eq_ok {status : Status} (h : admissionStatus S rows write g = .ok status) :
    ∃ ordered refused, orderedOf S write g = .ok ordered ∧
      refusedLater S rows write ordered = .ok refused ∧ (status = .fail ↔ refused = true) := by
  cases hordered : orderedOf S write g with
  | error e =>
      unfold orderedOf at hordered
      unfold admissionStatus at h
      rw [hordered] at h
      exact absurd h (by simp [bind, Except.bind])
  | ok ordered =>
      rw [admissionStatus_eq hordered] at h
      obtain ⟨refused, hrefused, h⟩ := bind_eq_ok.1 h
      obtain ⟨unclear, -, h⟩ := bind_eq_ok.1 h
      refine ⟨ordered, refused, rfl, hrefused, ?_⟩
      rw [← Except.ok.inj h]
      exact admission_eq_fail_iff _ _ _

/-- Only the approval of an admission is one. -/
theorem admitted_of_isApproval {admitted : Option Record}
    (h : isApproval S write admitted r = .ok true) : ∃ m, admitted = some m := by
  cases admitted with
  | some m => exact ⟨m, rfl⟩
  | none =>
      unfold isApproval at h
      split_ifs at h
      · obtain ⟨same, -, h⟩ := bind_eq_ok.1 h
        cases same <;> exact absurd (Except.ok.inj h) (by simp)
      · exact absurd (Except.ok.inj h) (by simp)

/-- A refusal that is known without the lost records is known with them. -/
theorem admission_fails_of_sublist {status : Status} (hsub : sub.Sublist rows)
    (honce : AdmittedOnce rows) (hapart : ApprovedApart S rows)
    (hg' : groundsOf S sub write = .ok g') (hg : groundsOf S rows write = .ok g)
    (hfail : admissionStatus S sub write g' = .ok .fail)
    (hstatus : admissionStatus S rows write g = .ok status) : status = .fail := by
  obtain ⟨ordered', refused', hordered', hrefused', hiff'⟩ := admissionStatus_eq_ok hfail
  obtain ⟨ordered, refused, hordered, hrefused, hiff⟩ := admissionStatus_eq_ok hstatus
  rw [hiff'.1 rfl] at hrefused'
  rw [hiff]
  cases ordered' with
  | nil => exact absurd (Except.ok.inj hrefused') (by simp)
  | cons a rest =>
      have ha : a ∈ g'.approvals := by
        have hmem : a ∈ a :: rest := List.mem_cons_self
        rw [(filterE_eq_ok.1 hordered').2] at hmem
        exact (List.mem_filter.1 hmem).1
      obtain ⟨m, hm⟩ := admitted_of_isApproval (of_mem_approvals hg' ha).2
      obtain ⟨-, happrovals, hlength⟩ := grounds_of_sublist hsub honce hapart hg' hg hm
      have hle : ordered.length ≤ 1 := by
        rw [(filterE_eq_ok.1 hordered).2]
        exact (List.length_filter_le _ _).trans hlength
      obtain rfl : a :: rest = ordered :=
        (filterE_sublist happrovals hordered' hordered).eq_of_length_le (hle.trans (by simp))
      obtain ⟨r, hr, hrefuses⟩ := exists_of_anyE_true hrefused'
      have hr' : r ∈ decisionsOf S rows := (hsub.filter _).subset hr
      cases refused with
      | true => rfl
      | false => exact absurd (hrefuses.symm.trans (anyE_eq_false.1 hrefused r hr')) (by simp)

/-- A check that the `try` of a write appends. -/
theorem of_mem_tryWrite {c : Check} (h : c ∈ (tryWrite S command rows write).1) :
    ∃ g policy, groundsOf S rows write = .ok g ∧ policyStatus S write = .ok policy ∧
      (c = policyCheck command write policy ∨
        (∃ status, admissionStatus S rows write g = .ok status ∧
          c = admissionCheck command write status) ∨
        ∃ deadline, deadlineStatus S.toReading write = .ok deadline ∧
          c = deadlineCheckOf command write deadline) := by
  unfold tryWrite at h
  cases hg : groundsOf S rows write with
  | error e => simp [hg] at h
  | ok g =>
      cases hpolicy : policyStatus S write with
      | error e => simp [hg, hpolicy] at h
      | ok policy =>
          refine ⟨g, policy, rfl, rfl, ?_⟩
          cases hstatus : admissionStatus S rows write g with
          | error e =>
              simp only [hg, hpolicy, hstatus, List.mem_singleton] at h
              exact Or.inl h
          | ok status =>
              cases hdeadline : deadlineStatus S.toReading write with
              | error e =>
                  simp only [hg, hpolicy, hstatus, hdeadline, List.mem_cons, List.not_mem_nil,
                    or_false] at h
                  exact h.imp_right fun h => Or.inl ⟨status, rfl, h⟩
              | ok deadline =>
                  simp only [hg, hpolicy, hstatus, hdeadline, List.mem_cons, List.not_mem_nil,
                    or_false] at h
                  exact h.imp_right (Or.imp (fun h => ⟨status, rfl, h⟩) fun h => ⟨deadline, rfl, h⟩)

/-- The `try` of a write ended before it came to a check. -/
def Interrupted (S : Setting) (command : String) (rows : List Record) (write : Record)
    (name : CheckName) : Prop :=
  ∃ checks e, tryWrite S command rows write = (checks, .error e) ∧ ∀ k ∈ checks, k.name ≠ name

/-- What fails in the `try` of a write without the lost records fails with them, or is not
reached. -/
theorem tryWrite_of_sublist {c : Check} (hsub : sub.Sublist rows) (honce : AdmittedOnce rows)
    (hapart : ApprovedApart S rows) (hc : c ∈ (tryWrite S command sub write).1)
    (hfail : c.status = .fail) :
    c ∈ (tryWrite S command rows write).1 ∨ Interrupted S command rows write c.name := by
  obtain ⟨g', policy, hg', hpolicy, hcheck⟩ := of_mem_tryWrite hc
  unfold Interrupted tryWrite
  cases hg : groundsOf S rows write with
  | error e => exact Or.inr ⟨[], e, rfl, by simp⟩
  | ok g =>
      rw [hpolicy]
      cases hstatus : admissionStatus S rows write g with
      | error e =>
          simp only [hstatus]
          rcases hcheck with rfl | ⟨status, -, rfl⟩ | ⟨deadline, -, rfl⟩
          · exact Or.inl List.mem_cons_self
          · exact Or.inr ⟨_, e, rfl, by
              simp [policyCheck, admissionCheck, result, writePolicy, admission]⟩
          · exact Or.inr ⟨_, e, rfl, by
              simp [policyCheck, deadlineCheckOf, result, writePolicy, deadlineCheck]⟩
      | ok status =>
          simp only [hstatus]
          rcases hcheck with rfl | ⟨status', hstatus', rfl⟩ | ⟨deadline, hdeadline, rfl⟩
          · cases deadlineStatus S.toReading write <;> exact Or.inl (by simp)
          · obtain rfl : status' = .fail := hfail
            obtain rfl := admission_fails_of_sublist hsub honce hapart hg' hg hstatus' hstatus
            cases deadlineStatus S.toReading write <;> exact Or.inl (by simp)
          · rw [hdeadline]
            exact Or.inl (by simp)

end Write

/-! ## The command as a whole -/

section Command

variable {S : Setting} {command : String} {rows sub : List Record} {cs : List Check} {c : Check}
  {write : Record}

theorem combinations_sublist {α : Type} {xs ys : List α} (h : xs.Sublist ys) :
    (combinations xs).Sublist (combinations ys) := by
  induction h with
  | slnil => exact List.Sublist.refl _
  | cons y _ ih => exact ih.trans (List.sublist_append_right _ _)
  | cons_cons y h ih => exact (h.map _).append ih

/-- The pairs fail when one of them does. -/
theorem verdict_states_eq_fail {states : List Status} {some' : Bool} :
    verdict (if !states.isEmpty then states else if some' then [.pass] else [.unknown]) = .fail ↔
      .fail ∈ states := by
  rw [verdict_eq_fail]
  cases states with
  | nil => cases some' <;> simp
  | cons s states => simp

/-- Two initiations within the window are so with the lost records. -/
theorem initiations_fail_of_sublist (hsub : sub.Sublist rows)
    (hfail : (initiationCheck S command (writesOf sub)).status = .fail) :
    (initiationCheck S command (writesOf rows)).status = .fail := by
  replace hfail := verdict_states_eq_fail.1 hfail
  exact verdict_states_eq_fail.2
    (((combinations_sublist (hsub.filter _)).map fun p => pairState S p.1 p.2).subset hfail)

/-- What is reported when the bindings of a command cannot all be read. -/
def incompleteBinding (command : String) : Check :=
  result bindingName .unknown "Immutable command fields incomplete" "supplied_records"
    [.str command]

/-- What `bindingCheck` reports: the states of the pairs, or that they could not be compared. -/
theorem bindingCheck_eq_ok (h : bindingCheck S command rows = .ok c) :
    (c.name = bindingName ∧ c.evidence = [.str command]) ∧
    ((∃ found, (combinations (boundOf rows)).mapM (fun p => bindingState S p.1 p.2) = .ok found ∧
        (c.status = .fail ↔ some .fail ∈ found)) ∨
      ∃ e, (combinations (boundOf rows)).mapM (fun p => bindingState S p.1 p.2) = .error e ∧
        c = incompleteBinding command) := by
  unfold bindingCheck at h
  cases hfound : (combinations (boundOf rows)).mapM fun p => bindingState S p.1 p.2 with
  | ok found =>
      rw [hfound] at h
      obtain rfl := Except.ok.inj h
      refine ⟨⟨rfl, rfl⟩, Or.inl ⟨found, rfl, verdict_states_eq_fail.trans ?_⟩⟩
      rw [List.mem_filterMap]
      simp
  | error e =>
      rw [hfound] at h
      cases hcaught : isCaught e with
      | true =>
          simp only [hcaught, if_true] at h
          obtain rfl := Except.ok.inj h
          exact ⟨⟨rfl, rfl⟩, Or.inr ⟨e, rfl, rfl⟩⟩
      | false => simp [hcaught] at h

/-- A contradiction between two bindings is there with the lost records, unless a binding cannot be
read. -/
theorem binding_of_sublist {c' : Check} (hsub : sub.Sublist rows)
    (hc' : bindingCheck S command sub = .ok c') (hc : bindingCheck S command rows = .ok c)
    (hfail : c'.status = .fail) :
    triple c = triple c' ∨ c = incompleteBinding command ∧
      ∃ e, (combinations (boundOf rows)).mapM (fun p => bindingState S p.1 p.2) = .error e := by
  obtain ⟨⟨hname, hevidence⟩, ⟨found, hfound, hiff⟩ | ⟨e, he, rfl⟩⟩ := bindingCheck_eq_ok hc
  · obtain ⟨⟨hname', hevidence'⟩, ⟨found', hfound', hiff'⟩ | ⟨e, he, rfl⟩⟩ := bindingCheck_eq_ok hc'
    · obtain ⟨⟨a, b⟩, hpair, hstate⟩ := exists_of_mapM hfound' (hiff'.1 hfail)
      have hpair' := (combinations_sublist (hsub.filter _)).subset hpair
      obtain ⟨o, ho, hstate'⟩ := mem_of_mapM hfound hpair'
      rw [← Except.ok.inj (hstate.symm.trans hstate')] at ho
      refine Or.inl ?_
      rw [triple, triple, commandOf, commandOf, hname, hname', hevidence, hevidence', hfail,
        hiff.2 ho]
    · exact absurd hfail (by simp [incompleteBinding, result])
  · exact Or.inr ⟨rfl, e, he⟩

/-- What `outcomeCheck` reports. -/
theorem outcomeCheck_eq_ok (h : outcomeCheck S command rows = .ok c) :
    ∃ bad, (outcomesOf rows).mapM (badOutcome S) = .ok bad ∧
      triple c = (outcomeMeaning, some (.str command), c.status) ∧
      (c.status = .fail ↔ ∃ reasons ∈ bad, reasons ≠ []) := by
  unfold outcomeCheck at h
  obtain ⟨bad, hbad, h⟩ := bind_eq_ok.1 h
  obtain rfl := Except.ok.inj h
  refine ⟨bad, hbad, rfl, ?_⟩
  have hflatten : bad.flatten.isEmpty = false ↔ ∃ reasons ∈ bad, reasons ≠ [] := by
    rw [← Bool.not_eq_true, List.isEmpty_iff, List.flatten_eq_nil_iff]
    simp only [not_forall, exists_prop]
  rw [← hflatten]
  cases bad.flatten.isEmpty <;> cases (outcomesOf rows).isEmpty <;> simp [result]

/-- A wrong outcome is there with the lost records. -/
theorem outcomes_of_sublist {c' : Check} (hsub : sub.Sublist rows)
    (hc' : outcomeCheck S command sub = .ok c') (hc : outcomeCheck S command rows = .ok c)
    (hfail : c'.status = .fail) : triple c = triple c' := by
  obtain ⟨bad', hbad', htriple', hiff'⟩ := outcomeCheck_eq_ok hc'
  obtain ⟨bad, hbad, htriple, hiff⟩ := outcomeCheck_eq_ok hc
  obtain ⟨reasons, hreasons, hne⟩ := hiff'.1 hfail
  obtain ⟨r, hr, hwrong⟩ := exists_of_mapM hbad' hreasons
  obtain ⟨reasons', hreasons', hwrong'⟩ := mem_of_mapM hbad ((hsub.filter _).subset hr)
  rw [← Except.ok.inj (hwrong.symm.trans hwrong')] at hreasons'
  rw [htriple, htriple', hfail, hiff.2 ⟨reasons, hreasons', hne⟩]

/-- The report says of a check that its evidence could not be read: the `try` of its write ended
before it, or the bindings of its command could not be compared. -/
inductive Incomplete (S : Setting) (command : String) (rows : List Record) (out : List Check) :
    Check → Prop
  | write {write : Record} {c : Check} (hwrite : write ∈ writesOf rows)
      (hevidence : c.evidence = writeEvidence command write)
      (hend : Interrupted S command rows write c.name)
      (hout : ∀ k ∈ incompleteChecks command write, k ∈ out) : Incomplete S command rows out c
  | bindings {c : Check} {e : PyError} (hname : c.name = bindingName)
      (hevidence : c.evidence = [.str command])
      (hend : (combinations (boundOf rows)).mapM (fun p => bindingState S p.1 p.2) = .error e)
      (hout : incompleteBinding command ∈ out) : Incomplete S command rows out c

/-- What a write adds to the report. -/
theorem judgeWrite_eq_ok {checks : List Check} (h : judgeWrite S command rows write = .ok checks) :
    ((tryWrite S command rows write).2 = .ok () ∧ checks = (tryWrite S command rows write).1) ∨
      ∃ e, (tryWrite S command rows write).2 = .error e ∧
        checks = (tryWrite S command rows write).1 ++ incompleteChecks command write := by
  unfold judgeWrite at h
  match htry : tryWrite S command rows write, h with
  | (checks', .ok ()), h => exact Or.inl ⟨rfl, (Except.ok.inj h).symm⟩
  | (checks', .error e), h =>
      cases hcaught : isCaught e with
      | true =>
          simp only [hcaught, if_true] at h
          exact Or.inr ⟨e, rfl, (Except.ok.inj h).symm⟩
      | false => simp [hcaught] at h

/-- A check of a write is from its `try`, or says that its evidence is incomplete. -/
theorem mem_of_judgeWrite {checks : List Check} (h : judgeWrite S command rows write = .ok checks)
    (hc : c ∈ checks) :
    c ∈ (tryWrite S command rows write).1 ∨ c ∈ incompleteChecks command write := by
  rcases judgeWrite_eq_ok h with ⟨-, rfl⟩ | ⟨e, -, rfl⟩
  · exact Or.inl hc
  · exact List.mem_append.1 hc

/-- A check of a write that fails is from its `try`. -/
theorem mem_tryWrite_of_fail {checks : List Check}
    (h : judgeWrite S command rows write = .ok checks) (hc : c ∈ checks)
    (hfail : c.status = .fail) : c ∈ (tryWrite S command rows write).1 := by
  refine (mem_of_judgeWrite h hc).resolve_right fun hc => ?_
  simp only [incompleteChecks, List.mem_cons, List.not_mem_nil, or_false] at hc
  rcases hc with rfl | rfl <;> exact absurd hfail (by simp [result])

theorem evidence_of_mem_tryWrite (h : c ∈ (tryWrite S command rows write).1) :
    c.evidence = writeEvidence command write := by
  obtain ⟨g, policy, -, -, rfl | ⟨status, -, rfl⟩ | ⟨deadline, -, rfl⟩⟩ := of_mem_tryWrite h <;> rfl

/-- A write that fails without the lost records fails with them, or its evidence is incomplete. -/
theorem write_of_sublist {checks checks' : List Check} (hsub : sub.Sublist rows)
    (honce : AdmittedOnce rows) (hapart : ApprovedApart S rows) (hwrite : write ∈ writesOf rows)
    (hchecks' : judgeWrite S command sub write = .ok checks')
    (hchecks : judgeWrite S command rows write = .ok checks) (hc : c ∈ checks')
    (hfail : c.status = .fail) : c ∈ checks ∨ Incomplete S command rows checks c := by
  have hcheck : c ∈ (tryWrite S command sub write).1 := mem_tryWrite_of_fail hchecks' hc hfail
  rcases tryWrite_of_sublist hsub honce hapart hcheck hfail with hmem | hend
  · rcases judgeWrite_eq_ok hchecks with ⟨-, rfl⟩ | ⟨e, -, rfl⟩
    · exact Or.inl hmem
    · exact Or.inl (List.mem_append_left _ hmem)
  · refine Or.inr (.write hwrite (evidence_of_mem_tryWrite hcheck) hend fun k hk => ?_)
    obtain ⟨checks'', e, htry, -⟩ := hend
    rcases judgeWrite_eq_ok hchecks with ⟨hok, -⟩ | ⟨e', -, rfl⟩
    · exact absurd hok (by simp [htry])
    · exact List.mem_append_right _ hk

theorem Incomplete.mono {out out' : List Check} (h : Incomplete S command rows out c)
    (hsub : out ⊆ out') : Incomplete S command rows out' c := by
  cases h with
  | write hwrite hevidence hend hout =>
      exact .write hwrite hevidence hend fun k hk => hsub (hout k hk)
  | bindings hname hevidence hend hout => exact .bindings hname hevidence hend (hsub hout)

/-- What fails of a command without the lost records fails with them, or its evidence is
incomplete. -/
theorem command_of_sublist (hsub : sub.Sublist rows) (honce : AdmittedOnce rows)
    (hapart : ApprovedApart S rows) (hcs : judgeCommand S command rows = .ok cs)
    (hc : Reported S command sub c) (hfail : c.status = .fail) :
    (∃ c' ∈ cs, triple c' = triple c) ∨ Incomplete S command rows cs c := by
  cases hc with
  | stage =>
      unfold stageCheck result at hfail
      split_ifs at hfail
  | write hwrite hchecks' hc =>
      have hwrite' := (hsub.filter _).subset hwrite
      obtain ⟨judged, bound, outcomes, observed, hjudged, -⟩ := judgeCommand_eq_ok hcs
      obtain ⟨checks, -, hchecks⟩ := mem_of_mapM hjudged hwrite'
      rcases write_of_sublist hsub honce hapart hwrite' hchecks' hchecks hc hfail with hmem | hinc
      · exact Or.inl ⟨c, (mem_judgeCommand hcs).2 (.write hwrite' hchecks hmem), rfl⟩
      · exact Or.inr (hinc.mono fun k hk => (mem_judgeCommand hcs).2 (.write hwrite' hchecks hk))
  | noWrite hnone hc =>
      simp only [noWriteChecks, List.map_cons, List.map_nil, List.mem_cons, List.not_mem_nil,
        or_false] at hc
      rcases hc with rfl | rfl <;> exact absurd hfail (by simp [result])
  | initiations =>
      refine Or.inl ⟨_, (mem_judgeCommand hcs).2 .initiations, ?_⟩
      unfold triple
      rw [hfail, initiations_fail_of_sublist hsub hfail]
      rfl
  | bindings hc =>
      obtain ⟨judged, bound, outcomes, observed, -, hbound, -⟩ := judgeCommand_eq_ok hcs
      have hmem := (mem_judgeCommand hcs).2 (.bindings hbound)
      rcases binding_of_sublist hsub hc hbound hfail with h | ⟨rfl, e, he⟩
      · exact Or.inl ⟨bound, hmem, h⟩
      · obtain ⟨⟨hname, hevidence⟩, -⟩ := bindingCheck_eq_ok hc
        exact Or.inr (.bindings hname hevidence he hmem)
  | outcomes hc =>
      obtain ⟨judged, bound, outcomes, observed, -, -, houtcomes, -⟩ := judgeCommand_eq_ok hcs
      exact Or.inl ⟨outcomes, (mem_judgeCommand hcs).2 (.outcomes houtcomes),
        outcomes_of_sublist hsub hc houtcomes hfail⟩
  | feedback hr haction hc =>
      exact Or.inl ⟨c, (mem_judgeCommand hcs).2 (.feedback (hsub.subset hr) haction hc), rfl⟩

end Command

/-! ## All records -/

section All

variable {S : Setting} {records sub : List Fields} {out : List Check} {c : Check}

theorem mem_commandIds {clean : List Record} {command : String} :
    command ∈ commandIds clean ↔ ∃ r ∈ clean, r.correlationId = command := by
  simp only [commandIds, List.mem_reverse, List.mem_dedup, List.mem_map]

/-- What `checkExecution` returns is put together from the checks of the commands. -/
theorem checkExecution_eq_ok (hdistinct : Distinct records)
    (h : checkExecution S records = .ok out) :
    ∃ C judged, C.clean = recordsIn S records ∧ C.conflicts = [] ∧
      (commandIds (recordsIn S records)).mapM
        (fun command => judgeCommand S command (recordsOf (recordsIn S records) command)) =
          .ok judged ∧
      out = [integrityCheck C] ++ judged.flatten ++
        (if C.clean.isEmpty then noCommandChecks else []) ++ [historyCheck] := by
  unfold checkExecution at h
  rcases collect_cases (S := S) hdistinct with ⟨C, hC, hclean, hconflicts, -⟩ | ⟨⟨e, he⟩, -⟩
  · obtain ⟨C', hC', h⟩ := bind_eq_ok.1 h
    obtain rfl := Except.ok.inj (hC.symm.trans hC')
    obtain ⟨judged, hjudged, h⟩ := bind_eq_ok.1 h
    rw [hclean] at hjudged
    exact ⟨C, judged, hclean, hconflicts, hjudged, (Except.ok.inj h).symm⟩
  · rw [he] at h
    exact absurd h (by simp [bind, Except.bind])

/-- The checks of a command are among those that are returned. -/
theorem exists_judged {command : String} (hdistinct : Distinct records)
    (h : checkExecution S records = .ok out)
    (hcommand : command ∈ commandIds (recordsIn S records)) :
    ∃ cs, judgeCommand S command (recordsOf (recordsIn S records) command) = .ok cs ∧
      cs ⊆ out := by
  obtain ⟨C, judged, -, -, hjudged, rfl⟩ := checkExecution_eq_ok hdistinct h
  obtain ⟨cs, hcs, hjudge⟩ := mem_of_mapM hjudged hcommand
  exact ⟨cs, hjudge, fun k hk => List.mem_append_left _ (List.mem_append_left _
    (List.mem_append_right _ (List.mem_flatten.2 ⟨cs, hcs, hk⟩)))⟩

/-- A check that fails is that of a command. -/
theorem reported_of_fail (hdistinct : Distinct records) (h : checkExecution S records = .ok out)
    (hc : c ∈ out) (hfail : c.status = .fail) : ∃ command ∈ commandIds (recordsIn S records),
      Reported S command (recordsOf (recordsIn S records) command) c := by
  obtain ⟨C, judged, -, hconflicts, hjudged, rfl⟩ := checkExecution_eq_ok hdistinct h
  simp only [List.mem_append, List.mem_singleton, List.mem_flatten] at hc
  rcases hc with ((rfl | ⟨cs, hcs, hc⟩) | hc) | rfl
  · exfalso
    unfold integrityCheck result at hfail
    rw [hconflicts] at hfail
    simp only [List.isEmpty_nil, Bool.not_true, Bool.false_eq_true, if_false] at hfail
    split_ifs at hfail
  · obtain ⟨command, hcommand, hjudge⟩ := exists_of_mapM hjudged hcs
    exact ⟨command, hcommand, (mem_judgeCommand hjudge).1 hc⟩
  · split_ifs at hc
    · simp only [noCommandChecks, List.map_cons, List.map_nil, List.mem_cons, List.not_mem_nil,
        or_false] at hc
      rcases hc with rfl | rfl | rfl | rfl | rfl <;> exact absurd hfail (by simp [result])
    · exact absurd hc List.not_mem_nil
  · exact absurd hfail (by simp [historyCheck, result])

/-- What fails on a part of the records fails on all of them, or is reported there as
incomplete because a record cannot be read. -/
theorem fail_of_sublist (S : Setting) (records sub : List Fields) (out out' : List Check)
    (hsub : sub.Sublist records) (hdistinct : Distinct records)
    (honce : AdmittedOnce (recordsIn S records)) (hapart : ApprovedApart S (recordsIn S records))
    (hout : checkExecution S records = .ok out) (hout' : checkExecution S sub = .ok out') :
    ∀ c ∈ out', c.status = .fail → (∃ c' ∈ out, triple c' = triple c) ∨
      ∃ command, Incomplete S command (recordsOf (recordsIn S records) command) out c := by
  intro c hc hfail
  have hclean : (recordsIn S sub).Sublist (recordsIn S records) := hsub.filterMap _
  have hdistinct' : Distinct sub := List.Nodup.sublist (hsub.filterMap _) hdistinct
  obtain ⟨command, hcommand, hreported⟩ := reported_of_fail hdistinct' hout' hc hfail
  have hcommand' : command ∈ commandIds (recordsIn S records) := by
    obtain ⟨r, hr, hid⟩ := mem_commandIds.1 hcommand
    exact mem_commandIds.2 ⟨r, hclean.subset hr, hid⟩
  obtain ⟨cs, hjudge, hmem⟩ := exists_judged hdistinct hout hcommand'
  rcases command_of_sublist (hclean.filter _) (honce.sublist List.filter_sublist)
    (hapart.sublist List.filter_sublist) hjudge hreported hfail with ⟨c', hc', htriple⟩ | hinc
  · exact Or.inl ⟨c', hmem hc', htriple⟩
  · exact Or.inr ⟨command, hinc.mono hmem⟩

end All

/-! ## A record that cannot be read -/

theorem admittedOnce_of_length {rows : List Record}
    (h : (rows.filter fun r => r.action = "executor_admitted").length ≤ 1) : AdmittedOnce rows := by
  refine fun attempt => le_trans (List.Sublist.length_le ?_) h
  refine List.monotone_filter_right rows fun r hr => ?_
  exact (Bool.and_eq_true_iff.1 (Bool.and_eq_true_iff.1 hr).1).1

namespace Recorded

def requested : Fields :=
  line "r-6" "experiment-driver" "request_received" 0 "2026-11-04T12:00:00+00:00" []

/-- A write after its deadline. -/
def expired : Fields := line "r-7" writer "write_initiated" 31 "2026-11-04T12:00:31+00:00" []

/-- An approval that was recorded without the deadline. -/
def undated : Fields :=
  (line "r-8" validator "validation_decided" 10 "2026-11-04T12:00:10+00:00" approval).filter
    fun f => f.1 != "deadline"

/-- An approval of a request whose time has no counterpart in UTC. -/
def unplaced : Fields :=
  undated.filter (fun f => f.1 != "requested_at") ++
    [("requested_at", .str "0001-01-01T00:00:00+01:00"),
      ("deadline", .str "2026-11-04T12:00:30+00:00")]

/-- The records of a write after a refusal. -/
def refusedWrite : List Fields := [requested, approved, rejected, admitted, initiated]

end Recorded

open Recorded in
/-- The refusal counts without the request as well. -/
theorem fail_of_sublist_refused : ∃ out out',
    checkExecution setting refusedWrite = .ok out ∧
    checkExecution setting [approved, rejected, admitted, initiated] = .ok out' ∧
    (admission, some (.str command), .fail) ∈ out'.map triple ∧
    ∀ c ∈ out', c.status = .fail → (∃ c' ∈ out, triple c' = triple c) ∨ ∃ command,
      Incomplete setting command (recordsOf (recordsIn setting refusedWrite) command) out c := by
  have hdistinct : Distinct refusedWrite := by decide +kernel
  have honce : AdmittedOnce (recordsIn setting refusedWrite) :=
    admittedOnce_of_length (by decide +kernel)
  have hapart : ApprovedApart setting (recordsIn setting refusedWrite) := by
    unfold ApprovedApart
    decide +kernel
  obtain ⟨out, hout, -⟩ : ∃ out, checkExecution setting refusedWrite = .ok out ∧ True :=
    exists_ok (by decide +kernel)
  obtain ⟨out', hout', hfail⟩ : ∃ out,
      checkExecution setting [approved, rejected, admitted, initiated] = .ok out ∧
        (admission, some (Json.str command), Status.fail) ∈ out.map triple :=
    exists_ok (by decide +kernel)
  exact ⟨out, out', hout, hout', hfail,
    fail_of_sublist setting refusedWrite _ out out' (List.sublist_cons_self _ _) hdistinct honce
      hapart hout hout'⟩

open Recorded in
/-- A write after its deadline is not reported, when an approval cannot be read. -/
theorem unreadable_hides_failure : [expired].Sublist [undated, expired] ∧
    Distinct [undated, expired] ∧ AdmittedOnce (recordsIn setting [undated, expired]) ∧
    ApprovedApart setting (recordsIn setting [undated, expired]) ∧
    (∃ out out', checkExecution setting [undated, expired] = .ok out ∧
      checkExecution setting [expired] = .ok out' ∧
      (deadlineCheck, some (.str command), .fail) ∈ out'.map triple ∧
      (deadlineCheck, some (.str command), .fail) ∉ out.map triple) ∧
    Distinct [unplaced, expired] ∧ AdmittedOnce (recordsIn setting [unplaced, expired]) ∧
    ApprovedApart setting (recordsIn setting [unplaced, expired]) ∧
    (checkExecution setting [unplaced, expired]).isOk = false := by
  obtain ⟨out, hout, hnone⟩ : ∃ out, checkExecution setting [undated, expired] = .ok out ∧
      (deadlineCheck, some (Json.str command), Status.fail) ∉ out.map triple :=
    exists_ok (by decide +kernel)
  obtain ⟨out', hout', hfail⟩ : ∃ out, checkExecution setting [expired] = .ok out ∧
      (deadlineCheck, some (Json.str command), Status.fail) ∈ out.map triple :=
    exists_ok (by decide +kernel)
  refine ⟨List.sublist_cons_self _ _, by decide +kernel, admittedOnce_of_length (by decide +kernel),
    ?_, ⟨out, out', hout, hout', hfail, hnone⟩,
    by decide +kernel, admittedOnce_of_length (by decide +kernel), ?_, by decide +kernel⟩ <;>
  · unfold ApprovedApart
    decide +kernel

end EirvahEdge.Conformance.Execution
