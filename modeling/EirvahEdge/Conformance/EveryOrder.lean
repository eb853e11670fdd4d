import EirvahEdge.Conformance.LostRecords

/-!
# Reports that are the same in every order

`checkExecution_perm` asks for `SteadyRecords`.  Here is what happens without: when the records
of each command can be read and show one write at most, then some two orders of the records are
reported differently, since an approval that is put in front decides whether a refusal counts
(`admission_of_first`), and two records whose bindings differ can be put in the order in which
they are inside the window.

`ordersAgree_iff` puts both together.
-/

namespace EirvahEdge.Conformance.Execution

open EirvahEdge.Lib
open EirvahEdge.Lib.Except
open EirvahEdge.Contracts

/-! ## The records of a command in an order of their own -/

section Orders

variable {S : Setting} {records : List Fields} {command : String} {rows ys : List Record}
  {row : Fields}

/-- What a filter leaves of a list can be put in an order of its own. -/
theorem exists_perm_of_filter {α : Type} {p : α → Bool} {xs ys : List α}
    (h : (xs.filter p).Perm ys) : ∃ zs, xs.Perm zs ∧ zs.filter p = ys := by
  have hkept : ∀ x ∈ ys, p x = true := fun x hx => (List.mem_filter.1 (h.mem_iff.2 hx)).2
  refine ⟨ys ++ xs.filter fun x => !p x, ?_, ?_⟩
  · exact (List.filter_append_perm p xs).symm.trans (h.append_right _)
  · rw [List.filter_append, List.filter_eq_self.2 hkept, List.filter_filter]
    simp

/-- The line is a record of the command. -/
def isLineOf (S : Setting) (command : String) (row : Fields) : Bool :=
  (recordOf S row).any fun r => r.correlationId = command

theorem recordOf_eq_some {r : Record} (h : recordOf S row = some r) : r.fields = row := by
  unfold recordOf at h
  cases hread : readRecord S.toReading row with
  | error e => simp [hread, Except.toOption] at h
  | ok r' =>
      rw [hread] at h
      obtain rfl : r' = r := Option.some.inj h
      exact (readRecord_eq_ok hread).1

theorem recordsOf_recordsIn :
    recordsOf (recordsIn S records) command =
      (records.filter (isLineOf S command)).filterMap (recordOf S) := by
  rw [recordsOf, recordsIn, List.filter_filterMap, List.filterMap_filter]
  refine List.filterMap_congr fun row _ => ?_
  unfold isLineOf
  cases recordOf S row with
  | none => rfl
  | some r => by_cases h : r.correlationId = command <;> simp [h]

/-- The records of a command have its lines. -/
theorem fields_of_recordsOf :
    (recordsOf (recordsIn S records) command).map Record.fields =
      records.filter (isLineOf S command) := by
  rw [recordsOf_recordsIn, List.map_filterMap]
  refine (List.filterMap_congr fun row hrow => ?_).trans List.filterMap_some
  have hline := (List.mem_filter.1 hrow).2
  unfold isLineOf at hline
  cases hread : recordOf S row with
  | none => simp [hread] at hline
  | some r => simp [recordOf_eq_some hread]

/-- The lines can be put in an order in which the records of a command are in a given one. -/
theorem exists_order (h : (recordsOf (recordsIn S records) command).Perm ys) :
    ∃ records', records.Perm records' ∧ recordsOf (recordsIn S records') command = ys := by
  have hof : ∀ r ∈ ys, recordOf S r.fields = some r := by
    intro r hr
    obtain ⟨hmem, -⟩ := List.mem_filter.1 (h.mem_iff.2 hr)
    obtain ⟨row, -, hread⟩ := List.mem_filterMap.1 hmem
    rw [recordOf_eq_some hread, hread]
  have hlines := h.map Record.fields
  rw [fields_of_recordsOf] at hlines
  obtain ⟨records', hperm, hfilter⟩ := exists_perm_of_filter hlines
  refine ⟨records', hperm, ?_⟩
  rw [recordsOf_recordsIn, hfilter, List.filterMap_map]
  exact (List.filterMap_congr hof).trans List.filterMap_some

end Orders

/-! ## What is reported to fail -/

section Fails

variable {S : Setting} {records : List Fields} {command : String} {rows : List Record}
  {cs out : List Check} {c : Check} {name : CheckName} {write : Record}

/-- The check of a command failed. -/
def Fails (out : List Check) (name : CheckName) (command : String) : Prop :=
  (name, some (.str command), .fail) ∈ out.map triple

theorem SameTriples.fails_iff {out' : List Check} (h : SameTriples out out') :
    Fails out name command ↔ Fails out' name command := h.mem_iff

theorem triple_feedbackCheck {r : Record} (h : feedbackCheck S command r = .ok c) :
    triple c = (feedback, some (.str command), c.status) := by
  unfold feedbackCheck at h
  split at h
  · obtain rfl := Except.ok.inj h
    rfl
  · split at h
    · obtain rfl := Except.ok.inj h
      rfl
    · cases h

/-- A check that is reported of a command says so. -/
theorem Reported.commandOf (h : Reported S command rows c) :
    commandOf c = some (.str command) := by
  cases h with
  | stage => rfl
  | write hwrite hchecks hc =>
      rcases mem_of_judgeWrite hchecks hc with htry | hc
      · obtain ⟨g, policy, -, -, rfl | ⟨status, -, rfl⟩ | ⟨deadline, -, rfl⟩⟩ :=
          of_mem_tryWrite htry <;> rfl
      · simp only [incompleteChecks, List.mem_cons, List.not_mem_nil, or_false] at hc
        rcases hc with rfl | rfl <;> rfl
  | noWrite hnone hc =>
      simp only [noWriteChecks, List.map_cons, List.map_nil, List.mem_cons, List.not_mem_nil,
        or_false] at hc
      rcases hc with rfl | rfl <;> rfl
  | initiations => rfl
  | bindings hc =>
      obtain ⟨⟨hname, hevidence⟩, -⟩ := bindingCheck_eq_ok hc
      rw [Execution.commandOf, hname, hevidence]
      rfl
  | outcomes hc =>
      obtain ⟨bad, -, htriple, -⟩ := outcomeCheck_eq_ok hc
      exact (Prod.mk.inj (Prod.mk.inj htriple).2).1
  | feedback hr haction hc => exact (Prod.mk.inj (Prod.mk.inj (triple_feedbackCheck hc)).2).1

/-- A check of a command failed when one of that name is reported of it. -/
theorem fails_iff_reported (hdistinct : Distinct records)
    (hout : checkExecution S records = .ok out)
    (hcommand : command ∈ commandIds (recordsIn S records)) :
    Fails out name command ↔
      ∃ c, Reported S command (recordsOf (recordsIn S records) command) c ∧ c.name = name ∧
        c.status = .fail := by
  constructor
  · intro h
    obtain ⟨c, hc, htriple⟩ := List.mem_map.1 h
    obtain ⟨hname, hrest⟩ := Prod.mk.inj htriple
    obtain ⟨hcommand', hfail⟩ := Prod.mk.inj hrest
    obtain ⟨command', -, hreported⟩ := reported_of_fail hdistinct hout hc hfail
    obtain rfl : command' = command := by
      rw [hreported.commandOf] at hcommand'
      exact Json.str.inj (Option.some.inj hcommand')
    exact ⟨c, hreported, hname, hfail⟩
  · rintro ⟨c, hreported, rfl, hfail⟩
    obtain ⟨cs, hcs, hsub⟩ := exists_judged hdistinct hout hcommand
    refine List.mem_map.2 ⟨c, hsub ((mem_judgeCommand hcs).2 hreported), ?_⟩
    rw [triple, hreported.commandOf, hfail]

/-- Where a check that fails comes from. -/
theorem Reported.of_fail (h : Reported S command rows c) (hfail : c.status = .fail) :
    (∃ write ∈ writesOf rows, c ∈ (tryWrite S command rows write).1) ∨
      bindingCheck S command rows = .ok c ∨
      c.name = Execution.initiations ∨ c.name = outcomeMeaning ∨
      c.name = Execution.feedback := by
  cases h with
  | stage =>
      unfold stageCheck result at hfail
      split_ifs at hfail
  | write hwrite hchecks hc =>
      exact Or.inl ⟨_, hwrite, mem_tryWrite_of_fail hchecks hc hfail⟩
  | noWrite hnone hc =>
      simp only [noWriteChecks, List.map_cons, List.map_nil, List.mem_cons, List.not_mem_nil,
        or_false] at hc
      rcases hc with rfl | rfl <;> exact absurd hfail (by simp [result])
  | initiations => exact Or.inr (Or.inr (Or.inl rfl))
  | bindings hc => exact Or.inr (Or.inl hc)
  | outcomes hc =>
      obtain ⟨bad, -, htriple, -⟩ := outcomeCheck_eq_ok hc
      exact Or.inr (Or.inr (Or.inr (Or.inl (Prod.mk.inj htriple).1)))
  | feedback hr haction hc =>
      exact Or.inr (Or.inr (Or.inr (Or.inr (Prod.mk.inj (triple_feedbackCheck hc)).1)))

/-- The admission of a command fails when that of a write does. -/
theorem admission_reported_iff (hcs : judgeCommand S command rows = .ok cs) :
    (∃ c, Reported S command rows c ∧ c.name = admission ∧ c.status = .fail) ↔
      ∃ write ∈ writesOf rows, ∃ g policy, groundsOf S rows write = .ok g ∧
        policyStatus S write = .ok policy ∧ admissionStatus S rows write g = .ok .fail := by
  constructor
  · rintro ⟨c, hreported, hname, hfail⟩
    rcases hreported.of_fail hfail with ⟨write, hwrite, hc⟩ | hbinding | hother
    · obtain ⟨g, policy, hg, hpolicy, rfl | ⟨status, hstatus, rfl⟩ | ⟨deadline, -, rfl⟩⟩ :=
        of_mem_tryWrite hc
      · exact absurd hname (by simp [policyCheck, result, writePolicy, admission])
      · obtain rfl : status = .fail := hfail
        exact ⟨write, hwrite, g, policy, hg, hpolicy, hstatus⟩
      · exact absurd hname (by simp [deadlineCheckOf, result, deadlineCheck, admission])
    · rw [(bindingCheck_eq_ok hbinding).1.1] at hname
      exact absurd hname (by decide)
    · rw [hname] at hother
      exact absurd hother (by decide)
  · rintro ⟨write, hwrite, g, policy, hg, hpolicy, hstatus⟩
    obtain ⟨judged, bound, outcomes, observed, hjudged, -⟩ := judgeCommand_eq_ok hcs
    obtain ⟨checks, -, hchecks⟩ := mem_of_mapM hjudged hwrite
    have htry : admissionCheck command write .fail ∈ (tryWrite S command rows write).1 := by
      unfold tryWrite
      rw [hg]
      simp only [hpolicy, hstatus]
      cases deadlineStatus S.toReading write <;> simp
    refine ⟨admissionCheck command write .fail, .write hwrite hchecks ?_, rfl, rfl⟩
    rcases judgeWrite_eq_ok hchecks with ⟨-, rfl⟩ | ⟨e, -, rfl⟩
    · exact htry
    · exact List.mem_append_left _ htry

/-- The bindings of a command fail when two records contradict each other, in their order. -/
theorem bindings_reported_iff (h : Readable S rows) (hcs : judgeCommand S command rows = .ok cs) :
    (∃ c, Reported S command rows c ∧ c.name = bindingName ∧ c.status = .fail) ↔
      ∃ p ∈ combinations (boundOf rows), Contradicts S p.1 p.2 := by
  obtain ⟨judged, bound, outcomes, observed, -, hbound, -⟩ := judgeCommand_eq_ok hcs
  obtain ⟨⟨hname, -⟩, ⟨found, hfound, hiff⟩ | ⟨e, he, -⟩⟩ := bindingCheck_eq_ok hbound
  · have hpairs := mem_pairStates (s := .fail) hfound
    rw [List.mem_filterMap] at hpairs
    simp only [id, exists_eq_right, pairState_eq_fail] at hpairs
    refine Iff.trans ⟨?_, fun hfail => ⟨bound, .bindings hbound, hname, hfail⟩⟩ (hiff.trans hpairs)
    rintro ⟨c, hreported, hname, hfail⟩
    rcases hreported.of_fail hfail with ⟨write, -, hc⟩ | hbinding | hother
    · obtain ⟨g, policy, -, -, rfl | ⟨status, -, rfl⟩ | ⟨deadline, -, rfl⟩⟩ := of_mem_tryWrite hc
      · exact absurd hname (by simp [policyCheck, result, writePolicy, bindingName])
      · exact absurd hname (by simp [admissionCheck, result, admission, bindingName])
      · exact absurd hname (by simp [deadlineCheckOf, result, deadlineCheck, bindingName])
    · obtain rfl := Except.ok.inj (hbound.symm.trans hbinding)
      exact hfail
    · rw [hname] at hother
      exact absurd hother (by decide)
  · obtain ⟨r, hr, hread⟩ := exists_of_pairStates_error he
    obtain ⟨value, hvalue⟩ := exists_of_isOk (h.binding r (List.mem_filter.1 hr).1)
    exact absurd (hread.symm.trans hvalue) (by simp)

end Fails

/-! ## Two orders that differ -/

/-- In every order of the records the same triples are reported, or in every order an exception
is raised. -/
def OrdersAgree (S : Setting) (records : List Fields) : Prop :=
  ∀ records', records.Perm records' →
    Alike SameTriples (checkExecution S records) (checkExecution S records')

/-- The records of each command can be read and show one write at most, and the checks
return. -/
structure Plain (S : Setting) (records : List Fields) : Prop where
  readable : ∀ command, Readable S (recordsOf (recordsIn S records) command)
  oneWrite : ∀ command, (writesOf (recordsOf (recordsIn S records) command)).length ≤ 1
  returns : ∃ out, checkExecution S records = .ok out

section Plain

variable {S : Setting} {records : List Fields} {command : String} {rows ys zs found : List Record}
  {write approval : Record} {g : Grounds} {policy : Status}

theorem mem_commandIds_of_ne_nil (h : recordsOf (recordsIn S records) command ≠ []) :
    command ∈ commandIds (recordsIn S records) := by
  obtain ⟨r, hr⟩ := List.exists_mem_of_ne_nil _ h
  obtain ⟨hmem, hcommand⟩ := List.mem_filter.1 hr
  exact mem_commandIds.2 ⟨r, hmem, of_decide_eq_true hcommand⟩

/-- When the orders agree, a check of a command fails in each order of its records or in none. -/
theorem reported_iff_of_agree (hdistinct : Distinct records) (h : Plain S records)
    (hagree : OrdersAgree S records) (hys : (recordsOf (recordsIn S records) command).Perm ys)
    (hzs : (recordsOf (recordsIn S records) command).Perm zs) (hsome : ys ≠ [])
    (name : CheckName) :
    (∃ cs, judgeCommand S command ys = .ok cs) ∧ (∃ cs, judgeCommand S command zs = .ok cs) ∧
      ((∃ c, Reported S command ys c ∧ c.name = name ∧ c.status = .fail) ↔
        ∃ c, Reported S command zs c ∧ c.name = name ∧ c.status = .fail) := by
  obtain ⟨out, hout⟩ := h.returns
  have hone {ws : List Record} (hws : (recordsOf (recordsIn S records) command).Perm ws)
      (hsome : ws ≠ []) : (∃ cs, judgeCommand S command ws = .ok cs) ∧
        (Fails out name command ↔
          ∃ c, Reported S command ws c ∧ c.name = name ∧ c.status = .fail) := by
    obtain ⟨records', hperm, rfl⟩ := exists_order hws
    have hdistinct' : Distinct records' := (hperm.filterMap _).nodup_iff.1 hdistinct
    obtain ⟨out', hout', htriples⟩ := (hagree records' hperm).exists_ok hout
    have hcommand := mem_commandIds_of_ne_nil hsome
    obtain ⟨cs, hcs, -⟩ := exists_judged hdistinct' hout' hcommand
    exact ⟨⟨cs, hcs⟩, htriples.fails_iff.trans (fails_iff_reported hdistinct' hout' hcommand)⟩
  have hzsome : zs ≠ [] := fun hnil => hsome (List.perm_nil.1 (hnil ▸ hys.symm.trans hzs))
  obtain ⟨hys, hfails⟩ := hone hys hsome
  obtain ⟨hzs, hfails'⟩ := hone hzs hzsome
  exact ⟨hys, hzs, hfails.symm.trans hfails'⟩

theorem Readable.of_perm (h : Readable S rows) (hperm : rows.Perm ys) : Readable S ys :=
  ⟨fun r hr => h.binding r (hperm.mem_iff.2 hr),
    fun r hr q hq => h.before r (hperm.mem_iff.2 hr) q (hperm.mem_iff.2 hq)⟩

theorem eq_of_length_le_one {α : Type} {xs : List α} {a b : α} (h : xs.length ≤ 1) (ha : a ∈ xs)
    (hb : b ∈ xs) : a = b := by
  match xs, h with
  | [x], _ => rw [List.mem_singleton.1 ha, List.mem_singleton.1 hb]
  | _ :: _ :: _, h => exact absurd h (by simp)

/-- With the approval of the only write in front, the admission fails when it was refused. -/
theorem admission_reported_first {cs : List Check} (h : Readable S rows)
    (hone : (writesOf rows).length ≤ 1) (hwrite : write ∈ writesOf rows)
    (hg : groundsOf S rows write = .ok g) (hpolicy : policyStatus S write = .ok policy)
    (hfound : orderedOf S write g = .ok found) (happroval : approval ∈ found)
    (hcs : judgeCommand S command (approval :: rows.erase approval) = .ok cs) :
    (∃ c, Reported S command (approval :: rows.erase approval) c ∧ c.name = admission ∧
      c.status = .fail) ↔ Superseded S rows write approval := by
  have hw : write ∈ rows := (List.mem_filter.1 hwrite).1
  have hmem : approval ∈ rows := by
    rw [(filterE_eq_ok.1 hfound).2] at happroval
    exact (List.mem_filter.1 (of_mem_approvals hg (List.mem_filter.1 happroval).1).1).1
  have hwrites : (writesOf rows).Perm (writesOf (approval :: rows.erase approval)) :=
    (List.perm_cons_erase hmem).filter _
  obtain ⟨g', status, hg', hstatus, hiff⟩ := admission_of_first h hw hg hfound happroval
  rw [admission_reported_iff hcs, ← hiff]
  constructor
  · rintro ⟨write', hwrite', g'', policy', hg'', -, hfail⟩
    obtain rfl := eq_of_length_le_one hone hwrite (hwrites.mem_iff.2 hwrite')
    obtain rfl := Except.ok.inj (hg'.symm.trans hg'')
    exact Except.ok.inj (hstatus.symm.trans hfail)
  · rintro rfl
    exact ⟨write, hwrites.mem_iff.1 hwrite, g', policy, hg', hpolicy, hstatus⟩

/-- When the orders agree, nothing that is evaluated depends on them. -/
theorem Plain.steady (h : Plain S records) (hdistinct : Distinct records)
    (hagree : OrdersAgree S records) (command : String) :
    Steady S (recordsOf (recordsIn S records) command) := by
  have hread := h.readable command
  have hone := h.oneWrite command
  have hnodup := recordsOf_nodup (S := S) hdistinct command
  refine hread.steady (Or.inr ?_) (SteadyPairs.of_orders (hnodup.filter _) ?_) ?_
  · exact fun a b hab => hab.2.2.1 (eq_of_length_le_one hone hab.1 hab.2.1)
  · intro bs hbs
    by_cases hsome : recordsOf (recordsIn S records) command = []
    · have hnil : bs = [] := List.nil_perm.1 (by simpa [hsome, boundOf] using hbs)
      rw [hnil, hsome]
      rfl
    · obtain ⟨ys, hys, rfl⟩ := exists_perm_of_filter hbs
      obtain ⟨⟨cs, hcs⟩, ⟨cs', hcs'⟩, hiff⟩ := reported_iff_of_agree hdistinct h hagree
        (List.Perm.refl _) hys hsome bindingName
      rwa [bindings_reported_iff hread hcs, bindings_reported_iff (hread.of_perm hys) hcs'] at hiff
  · intro write hwrite g policy found hg hpolicy hfound a ha b hb hrefused
    have hmem {r : Record} (hr : r ∈ found) : r ∈ recordsOf (recordsIn S records) command := by
      rw [(filterE_eq_ok.1 hfound).2] at hr
      exact (List.mem_filter.1 (of_mem_approvals hg (List.mem_filter.1 hr).1).1).1
    obtain ⟨⟨cs, hcs⟩, ⟨cs', hcs'⟩, hiff⟩ := reported_iff_of_agree hdistinct h hagree
      (List.perm_cons_erase (hmem ha)) (List.perm_cons_erase (hmem hb)) (List.cons_ne_nil _ _)
      admission
    rw [admission_reported_first hread hone hwrite hg hpolicy hfound ha hcs,
      admission_reported_first hread hone hwrite hg hpolicy hfound hb hcs'] at hiff
    exact hiff.1 hrefused

end Plain

/-- **The order of the records.**  What is reported is the same in every order of steady records;
and when the records of each command can be read and show one write at most, in no others. -/
theorem ordersAgree_iff (S : Setting) (records : List Fields) (hrecords : Distinct records) :
    (SteadyRecords S records → OrdersAgree S records) ∧
      (Plain S records → (OrdersAgree S records ↔ SteadyRecords S records)) := by
  have hsteady : SteadyRecords S records → OrdersAgree S records := fun h records' hperm =>
    checkExecution_perm S records records' hrecords hperm h
  refine ⟨hsteady, fun hplain => ⟨fun hagree => ?_, hsteady⟩⟩
  exact Or.inr (Or.inr fun command => hplain.steady hrecords hagree command)

/-! ## A decision that was recorded twice -/

/-- What is reported of the admission of writes. -/
def admissions (out : List Check) : List Status :=
  (out.filter fun c => c.name = admission).map Check.status

theorem SameTriples.admissions {out out' : List Check} (h : SameTriples out out') :
    (admissions out).Perm (admissions out') := by
  have hof : ∀ cs : List Check, Execution.admissions cs =
      ((cs.map triple).filter fun t => t.1 = admission).map fun t => t.2.2 := by
    intro cs
    rw [List.filter_map, List.map_map]
    rfl
  rw [hof, hof]
  exact (h.filter _).map _

namespace Recorded

/-- The records of an approved write. -/
def approvedOnce : List Fields := [approved, admitted, initiated]

/-- The approval is recorded before and after a refusal. -/
def approvedTwice : List Fields := [approved, rejected, repeated, admitted, initiated]

def approvedTwice' : List Fields := [repeated, rejected, approved, admitted, initiated]

theorem recordsOf_approvedOnce (id : String) :
    recordsOf (recordsIn setting approvedOnce) id =
        recordsOf (recordsIn setting approvedOnce) command ∨
      recordsOf (recordsIn setting approvedOnce) id = [] := by
  by_cases hid : id = command
  · exact Or.inl (by rw [hid])
  · refine Or.inr (List.filter_eq_nil_iff.2 fun r hr h => hid ?_)
    have hcommand : ∀ r ∈ recordsIn setting approvedOnce, r.correlationId = command := by
      decide +kernel
    rw [← hcommand r hr, of_decide_eq_true h]

end Recorded

open Recorded in
/-- The records of one approved write are judged alike in every order. -/
theorem ordersAgree_iff_approvedOnce : Plain setting approvedOnce ∧
    OrdersAgree setting approvedOnce ∧ SteadyRecords setting approvedOnce := by
  have hdistinct : Distinct approvedOnce := by decide +kernel
  have hreadable : Readable setting (recordsOf (recordsIn setting approvedOnce) command) :=
    ⟨by decide +kernel, by decide +kernel⟩
  have hsteady : Steady setting (recordsOf (recordsIn setting approvedOnce) command) :=
    hreadable.steady_of_single (by decide +kernel) (by decide +kernel)
  have hplain : Plain setting approvedOnce := by
    refine ⟨fun id => ?_, fun id => ?_, ?_⟩
    · rcases recordsOf_approvedOnce id with hid | hid
      · exact hid ▸ hreadable
      · exact hid ▸ ⟨by simp, by simp⟩
    · rcases recordsOf_approvedOnce id with hid | hid
      · rw [hid]
        decide +kernel
      · rw [hid]
        exact Nat.zero_le 1
    · obtain ⟨out, hout, -⟩ : ∃ out, checkExecution setting approvedOnce = .ok out ∧ True :=
        exists_ok (by decide +kernel)
      exact ⟨out, hout⟩
  have hagree : OrdersAgree setting approvedOnce := by
    refine (ordersAgree_iff setting approvedOnce hdistinct).1 (Or.inr (Or.inr fun id => ?_))
    rcases recordsOf_approvedOnce id with hid | hid
    · exact hid ▸ hsteady
    · rw [hid]
      exact Readable.steady_of_single ⟨by simp, by simp⟩ (by simp [boundOf])
        (by simp [decisionsOf])
  exact ⟨hplain, hagree, ((ordersAgree_iff setting approvedOnce hdistinct).2 hplain).1 hagree⟩

open Recorded in
/-- Whether the repeated approval comes first decides whether the refusal counts. -/
theorem order_changes_admission : Distinct approvedTwice ∧ approvedTwice.Perm approvedTwice' ∧
    (checkExecution setting approvedTwice).toOption.map admissions = some [.fail] ∧
    (checkExecution setting approvedTwice').toOption.map admissions = some [.pass] ∧
    ¬Alike SameTriples (checkExecution setting approvedTwice)
      (checkExecution setting approvedTwice') := by
  have hfail : (checkExecution setting approvedTwice).toOption.map admissions = some [.fail] := by
    decide +kernel
  have hpass : (checkExecution setting approvedTwice').toOption.map admissions = some [.pass] := by
    decide +kernel
  refine ⟨by decide +kernel, by decide +kernel, hfail, hpass, fun hsame => ?_⟩
  cases hout : checkExecution setting approvedTwice with
  | error e => simp [hout, Except.toOption] at hfail
  | ok out =>
      obtain ⟨out', hout', htriples⟩ := hsame.exists_ok hout
      rw [hout] at hfail
      rw [hout'] at hpass
      have hperm := htriples.admissions
      rw [Option.some.inj hfail, Option.some.inj hpass] at hperm
      exact absurd hperm (by decide)

end EirvahEdge.Conformance.Execution
