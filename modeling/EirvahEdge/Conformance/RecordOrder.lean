import EirvahEdge.Conformance.RecordPairs

/-!
# The order of the records

Records come from the logs of many pods, in no particular order.  `check_execution` scans them
for the admission of a write, for approvals and refusals and for pairs that contradict each
other, and most of these scans do not depend on the order.

Four do.  When several approvals are known to be before a write, the search for a later
refusal starts from whichever of them comes first.  A search that is over at its first hit
does not see an element that raises behind it.  When the elements of a scan raise
exceptions of which only some are caught, the first one decides.  And the sums of
`within_window` can put one of two records within the window of the other, but not the
other way.  `SteadyRecords` excludes these where they are evaluated and not made irrelevant
by an exception that is raised in every order; `checkExecution_perm` says that the reported
statuses are then the same in every order.
-/

namespace EirvahEdge.Conformance.Execution

open EirvahEdge.Lib
open EirvahEdge.Lib.Except
open EirvahEdge.Contracts

/-! ## Verdicts -/

/-- The verdict on pairs that fail or are unknown: whether there are any, and whether one
fails. -/
theorem verdict_of_ne_pass {ss : List Status} (h : .pass ∉ ss) (hne : ss ≠ []) :
    verdict ss = if .fail ∈ ss then .fail else .unknown := by
  unfold verdict
  by_cases hfail : .fail ∈ ss
  · rw [if_pos hfail, if_pos hfail]
  · obtain ⟨s, hs⟩ := List.exists_mem_of_ne_nil ss hne
    have hunknown : .unknown ∈ ss := by
      cases s with
      | pass => exact absurd hs h
      | fail => exact absurd hs hfail
      | unknown => exact hs
    rw [if_neg hfail, if_neg hfail, if_pos (Or.inr hunknown)]

/-! ## Collecting in another order -/

/-- The id that a line carries. -/
def recordIdText (fields : Fields) : Option String :=
  match Json.member fields "record_id" with
  | some (.str s) => some s
  | _ => none

/-- No two lines carry one id. -/
def Distinct (records : List Fields) : Prop := (records.filterMap recordIdText).Nodup

instance (records : List Fields) : Decidable (Distinct records) :=
  inferInstanceAs (Decidable (List.Nodup _))

theorem Distinct.tail {row : Fields} {rest : List Fields} (h : Distinct (row :: rest)) :
    Distinct rest := by
  unfold Distinct at h ⊢
  rw [List.filterMap_cons] at h
  split at h
  · exact h
  · exact h.of_cons

section Collect

variable {S : Setting} {row : Fields} {rows records : List Fields} {r : Record} {C C' : Collected}

theorem readIdentity_eq_ok {name s : String} (h : readIdentity row name = .ok s) :
    Json.member row name = some (.str s) := by
  obtain ⟨value, hvalue, h⟩ := bind_eq_ok.1 h
  rw [Json.item_eq_ok.1 hvalue]
  cases value with
  | str t =>
      simp only at h
      split_ifs at h
      rw [Except.ok.inj h]
  | _ => simp at h

/-- A record keeps its line, with the id it carries. -/
theorem readRecord_eq_ok (h : readRecord S.toReading row = .ok r) :
    r.fields = row ∧ recordIdText row = some r.recordId := by
  unfold readRecord at h
  obtain ⟨-, -, h⟩ := bind_eq_ok.1 h
  obtain ⟨recordId, hid, h⟩ := bind_eq_ok.1 h
  obtain ⟨component, -, h⟩ := bind_eq_ok.1 h
  obtain ⟨action, -, h⟩ := bind_eq_ok.1 h
  obtain ⟨correlationId, -, h⟩ := bind_eq_ok.1 h
  obtain ⟨processInstance, -, h⟩ := bind_eq_ok.1 h
  obtain ⟨monotonicNs, -, h⟩ := bind_eq_ok.1 h
  obtain ⟨-, h⟩ := ite_error_eq_ok.1 h
  obtain ⟨value, -, h⟩ := bind_eq_ok.1 h
  obtain ⟨recordedAt, -, h⟩ := bind_eq_ok.1 h
  obtain ⟨-, h⟩ := ite_error_eq_ok.1 h
  obtain rfl := Except.ok.inj h
  exact ⟨rfl, by rw [recordIdText, readIdentity_eq_ok hid]⟩

/-- The record of a line, when it is one. -/
def recordOf (S : Setting) (row : Fields) : Option Record := (readRecord S.toReading row).toOption

/-- The records among the lines. -/
def recordsIn (S : Setting) (records : List Fields) : List Record :=
  records.filterMap (recordOf S)

/-- An exception that ends the collection. -/
def Uncaught (S : Setting) (row : Fields) : Prop :=
  ∃ e, readRecord S.toReading row = .error e ∧ isCaught e = false

/-- Lines with distinct ids are collected one by one. -/
theorem foldlM_collectRow (hdistinct : ∀ c ∈ C.clean, ∀ row ∈ rows,
    recordIdText row ≠ some c.recordId) (hrows : Distinct rows) :
    (∃ issues, rows.foldlM (collectRow S) C =
        .ok { C with
          clean := C.clean ++ rows.filterMap (recordOf S), issues := C.issues ++ issues } ∧
      (issues = [] ↔ ∀ row ∈ rows, (recordOf S row).isSome) ∧ ∀ row ∈ rows, ¬Uncaught S row) ∨
    (∃ e, rows.foldlM (collectRow S) C = .error e) ∧ ∃ row ∈ rows, Uncaught S row := by
  induction rows generalizing C with
  | nil =>
      left
      refine ⟨[], ?_, by simp, by simp⟩
      rw [List.foldlM_nil, List.filterMap_nil, List.append_nil, List.append_nil]
      rfl
  | cons row rest ih =>
      rw [List.foldlM_cons]
      have hrest : Distinct rest := hrows.tail
      have hdistinct' : ∀ c ∈ C.clean, ∀ row ∈ rest, recordIdText row ≠ some c.recordId :=
        fun c hc row' hrow' => hdistinct c hc row' (List.mem_cons_of_mem _ hrow')
      cases hread : readRecord S.toReading row with
      | error e =>
          have hnone : recordOf S row = none := by rw [recordOf, hread]; rfl
          cases hcaught : isCaught e with
          | false =>
              right
              refine ⟨⟨e, ?_⟩, row, List.mem_cons_self, e, hread, hcaught⟩
              simp [collectRow, hread, hcaught, bind, Except.bind]
          | true =>
              have hstep : collectRow S C row = .ok { C with
                  issues := C.issues ++ ["Invalid or incomplete execution record"] } := by
                simp [collectRow, hread, hcaught]
              rw [hstep]
              have hnot : ¬Uncaught S row := fun ⟨e', he', hun⟩ => by
                rw [hread] at he'
                rw [← Except.error.inj he', hcaught] at hun
                exact absurd hun (by simp)
              rcases ih (C := { C with issues := C.issues ++ [_] }) hdistinct' hrest with
                ⟨issues, hfold, -, hall⟩ | ⟨herror, row', hrow', hun⟩
              · left
                refine ⟨"Invalid or incomplete execution record" :: issues, ?_, ?_,
                  List.forall_mem_cons.2 ⟨hnot, hall⟩⟩
                · rw [List.filterMap_cons, hnone]
                  refine hfold.trans ?_
                  simp only [List.append_assoc, List.singleton_append]
                · simp [hnone]
              · exact Or.inr ⟨herror, row', List.mem_cons_of_mem _ hrow', hun⟩
      | ok r =>
          obtain ⟨-, hid⟩ := readRecord_eq_ok hread
          have hsome : recordOf S row = some r := by rw [recordOf, hread]; rfl
          have hfind : C.clean.find? (fun c => c.recordId = r.recordId) = none := by
            refine List.find?_eq_none.2 fun c hc heq => ?_
            have heq := of_decide_eq_true heq
            exact hdistinct c hc row List.mem_cons_self (by rw [hid, heq])
          have hstep : collectRow S C row = .ok { C with clean := C.clean ++ [r] } := by
            simp [collectRow, hread, hfind]
          rw [hstep]
          have hnot : ¬Uncaught S row := fun ⟨e', he', _⟩ => by simp [hread] at he'
          have hdistinct'' : ∀ c ∈ C.clean ++ [r], ∀ row ∈ rest,
              recordIdText row ≠ some c.recordId := by
            intro c hc row' hrow' heq
            rcases List.mem_append.1 hc with hc | hc
            · exact hdistinct' c hc row' hrow' heq
            · obtain rfl := List.mem_singleton.1 hc
              unfold Distinct at hrows
              rw [List.filterMap_cons, hid] at hrows
              exact (List.nodup_cons.1 hrows).1 (List.mem_filterMap.2 ⟨row', hrow', heq⟩)
          rcases ih (C := { C with clean := C.clean ++ [r] }) hdistinct'' hrest with
            ⟨issues, hfold, hissues, hall⟩ | ⟨herror, row', hrow', hun⟩
          · left
            refine ⟨issues, ?_, ?_, List.forall_mem_cons.2 ⟨hnot, hall⟩⟩
            · rw [List.filterMap_cons, hsome]
              refine hfold.trans ?_
              simp only [List.append_assoc, List.singleton_append]
            · rw [hissues, List.forall_mem_cons, hsome]
              simp
          · exact Or.inr ⟨herror, row', List.mem_cons_of_mem _ hrow', hun⟩

/-- The records of lines with distinct ids. -/
theorem collect_cases (hrows : Distinct records) :
    (∃ C, collect S records = .ok C ∧ C.clean = recordsIn S records ∧
        C.conflicts = [] ∧ (C.issues = [] ↔ ∀ row ∈ records, (recordOf S row).isSome) ∧
        ∀ row ∈ records, ¬Uncaught S row) ∨
      (∃ e, collect S records = .error e) ∧ ∃ row ∈ records, Uncaught S row := by
  rcases foldlM_collectRow (S := S) (C := {}) (by simp) hrows with
    ⟨issues, hfold, hissues, hall⟩ | herror
  · exact Or.inl ⟨_, hfold, List.nil_append _, rfl, by simpa using hissues, hall⟩
  · exact Or.inr herror

/-- Distinct lines have distinct records. -/
theorem nodup_clean (hrows : Distinct records) :
    ((recordsIn S records).map Record.recordId).Nodup := by
  refine List.Nodup.sublist ?_ hrows
  unfold recordsIn
  induction records with
  | nil => exact List.Sublist.refl _
  | cons row rest ih =>
      have hrest : Distinct rest := hrows.tail
      rw [List.filterMap_cons, List.filterMap_cons]
      cases hread : recordOf S row with
      | none =>
          cases recordIdText row with
          | none => exact ih hrest
          | some s => exact (ih hrest).cons _
      | some r =>
          have hok : readRecord S.toReading row = .ok r := by
            unfold recordOf at hread
            cases h : readRecord S.toReading row with
            | error e => simp [h, Except.toOption] at hread
            | ok r' =>
                rw [h] at hread
                rw [Option.some.inj hread]
          rw [(readRecord_eq_ok hok).2]
          exact (ih hrest).cons_cons _

end Collect

/-! ## One write in another order -/

/-- The approvals that are known to be before the write. -/
def orderedOf (S : Setting) (write : Record) (g : Grounds) : Except PyError (List Record) :=
  filterE (fun r => isBefore S r write) g.approvals

/-- The search for later refusals comes to the same from each of the ordered approvals, and the
search for unclear decisions does in each order. -/
structure SteadyAdmission (S : Setting) (rows : List Record) (write : Record) (g : Grounds) :
    Prop where
  ordered : Uniform isCaught (fun r => isBefore S r write) g.approvals
  refusals : ∀ found, orderedOf S write g = .ok found →
    ∃ o, ∀ approval ∈ found, Settles isCaught (refuses S write approval) (decisionsOf S rows) o
  unclear : ∀ found refused, orderedOf S write g = .ok found →
    refusedLater S rows write found = .ok refused →
    ∃ o, Settles isCaught
      (isUnclear S write (!(g.approvals.filter (isCausal write g.admitted)).isEmpty))
      (decisionsOf S rows) o

/-- What the checks of a write evaluate does not depend on the order of the records. -/
structure SteadyWrite (S : Setting) (rows : List Record) (write : Record) : Prop where
  found : Uniform isCaught (isMatch S write) rows
  approvals : ∀ found admitted, filterE (isMatch S write) rows = .ok found →
    admittedOf S found = .ok admitted →
    Uniform isCaught (isApproval S write admitted) (decisionsOf S rows)
  admission : ∀ g status, groundsOf S rows write = .ok g → policyStatus S write = .ok status →
    SteadyAdmission S rows write g

section OneWrite

variable {S : Setting} {rows rows' : List Record} {write : Record} {g g' : Grounds}
  {command : String}

theorem decisionsOf_perm (h : rows.Perm rows') : (decisionsOf S rows).Perm (decisionsOf S rows') :=
  h.filter _

theorem admittedOf_perm {found found' : List Record} (h : found.Perm found') :
    admittedOf S found = admittedOf S found' := by
  match found, found', h with
  | [], found', h => rw [List.nil_perm.1 h]
  | [r], found', h => rw [List.singleton_perm.1 h]
  | _ :: _ :: _, [], h => exact absurd h.length_eq (by simp)
  | _ :: _ :: _, [_], h => exact absurd h.length_eq (by simp)
  | _ :: _ :: _, _ :: _ :: _, h => rfl

/-- The grounds of a write are the same up to the order of the approvals. -/
theorem groundsOf_perm (hperm : rows.Perm rows') (h : SteadyWrite S rows write) :
    (∃ g g', groundsOf S rows write = .ok g ∧ groundsOf S rows' write = .ok g' ∧
        g.admitted = g'.admitted ∧ g.approvals.Perm g'.approvals) ∨
      ∃ e e', groundsOf S rows write = .error e ∧ groundsOf S rows' write = .error e' ∧
        isCaught e = isCaught e' := by
  unfold groundsOf
  rcases filterE_perm h.found hperm with
    ⟨found, found', hfound, hfound', hmatches⟩ | ⟨e, e', he, he', hkind⟩
  · rw [hfound, hfound']
    cases hadmitted : admittedOf S found with
    | error e =>
        have hadmitted' := (admittedOf_perm hmatches).symm.trans hadmitted
        exact Or.inr ⟨e, e, by simp [hadmitted, bind, Except.bind],
          by simp [hadmitted', bind, Except.bind], rfl⟩
    | ok admitted =>
        have hadmitted' := (admittedOf_perm hmatches).symm.trans hadmitted
        rcases filterE_perm (h.approvals found admitted hfound hadmitted)
            (decisionsOf_perm hperm) with
          ⟨as, bs, has, hbs, hperm'⟩ | ⟨e, e', he, he', hkind⟩
        · exact Or.inl ⟨⟨admitted, as⟩, ⟨admitted, bs⟩,
            by simp [hadmitted, has, bind, Except.bind],
            by simp [hadmitted', hbs, bind, Except.bind], rfl, hperm'⟩
        · exact Or.inr ⟨e, e', by simp [hadmitted, he, bind, Except.bind],
            by simp [hadmitted', he', bind, Except.bind], hkind⟩
  · exact Or.inr ⟨e, e', by rw [he]; rfl, by rw [he']; rfl, hkind⟩

/-- The search for later refusals comes to the same. -/
theorem refusedLater_perm {found found' : List Record} {o : Except Bool Bool}
    (hperm : rows.Perm rows') (hfound : found.Perm found')
    (h : ∀ approval ∈ found,
      Settles isCaught (refuses S write approval) (decisionsOf S rows) o) :
    (refusedLater S rows write found).mapError isCaught =
      (refusedLater S rows' write found').mapError isCaught := by
  have hmem : ∀ r, r ∈ decisionsOf S rows' ↔ r ∈ decisionsOf S rows := fun r =>
    (decisionsOf_perm hperm).mem_iff.symm
  cases found with
  | nil => rw [List.nil_perm.1 hfound, refusedLater, refusedLater]
  | cons a as =>
      cases found' with
      | nil => exact absurd hfound.length_eq (by simp)
      | cons b bs =>
          have hb : b ∈ a :: as := hfound.mem_iff.2 List.mem_cons_self
          rw [refusedLater, refusedLater,
            anyE_eq_of_settles (h a List.mem_cons_self) fun _ => Iff.rfl,
            anyE_eq_of_settles (h b hb) hmem]

/-- The admission, once the approvals before the write are known. -/
theorem admissionStatus_eq {found : List Record} (h : orderedOf S write g = .ok found) :
    admissionStatus S rows write g = (do
      let refused ← refusedLater S rows write found
      let unclear ← anyE
        (isUnclear S write (!(g.approvals.filter (isCausal write g.admitted)).isEmpty))
        (decisionsOf S rows)
      .ok (if refused then .fail
        else if unclear then .unknown
        else if g.admitted.isSome &&
          !(found.isEmpty && (g.approvals.filter (isCausal write g.admitted)).isEmpty) then .pass
        else .unknown)) := by
  unfold orderedOf at h
  unfold admissionStatus
  rw [h]
  rfl

/-- The status of the admission is the same, or its evaluation fails alike. -/
theorem admissionStatus_perm (hperm : rows.Perm rows') (hadmitted : g.admitted = g'.admitted)
    (happrovals : g.approvals.Perm g'.approvals) (h : SteadyAdmission S rows write g) :
    (admissionStatus S rows write g).mapError isCaught =
      (admissionStatus S rows' write g').mapError isCaught := by
  have hmem : ∀ r, r ∈ decisionsOf S rows' ↔ r ∈ decisionsOf S rows := fun r =>
    (decisionsOf_perm hperm).mem_iff.symm
  have hcausal : (g'.approvals.filter (isCausal write g'.admitted)).isEmpty =
      (g.approvals.filter (isCausal write g.admitted)).isEmpty := by
    rw [hadmitted]
    exact (happrovals.filter _).isEmpty_eq.symm
  rcases filterE_perm h.ordered happrovals with
    ⟨found, found', hfound, hfound', hordered⟩ | ⟨e, e', he, he', hkind⟩
  · obtain ⟨o, ho⟩ := h.refusals found hfound
    have hempty : found'.isEmpty = found.isEmpty := hordered.isEmpty_eq.symm
    rw [admissionStatus_eq hfound, admissionStatus_eq (g := g') hfound', hcausal, hempty]
    refine mapError_bind_congr (refusedLater_perm hperm hordered ho) fun refused hrefused _ => ?_
    obtain ⟨o', ho'⟩ := h.unclear found refused hfound hrefused
    refine mapError_bind_congr ?_ fun unclear _ _ => by rw [hadmitted]
    rw [anyE_eq_of_settles ho' fun _ => Iff.rfl, anyE_eq_of_settles ho' hmem]
  · unfold admissionStatus
    rw [he, he']
    exact congrArg Except.error hkind

/-- A write is judged as before: the same checks are appended, and the end is alike. -/
theorem tryWrite_perm (command : String) (hperm : rows.Perm rows') (h : SteadyWrite S rows write) :
    (tryWrite S command rows write).1 = (tryWrite S command rows' write).1 ∧
      (tryWrite S command rows write).2.mapError isCaught =
        (tryWrite S command rows' write).2.mapError isCaught := by
  unfold tryWrite
  rcases groundsOf_perm hperm h with
    ⟨g, g', hg, hg', hadmitted, happrovals⟩ | ⟨e, e', he, he', hkind⟩
  · rw [hg, hg']
    cases hpolicy : policyStatus S write with
    | error e => exact ⟨rfl, rfl⟩
    | ok policy =>
        have hstatus := admissionStatus_perm hperm hadmitted happrovals
          (h.admission g policy hg hpolicy)
        cases hs : admissionStatus S rows write g with
        | error e =>
            cases hs' : admissionStatus S rows' write g' with
            | error e' =>
                rw [hs, hs'] at hstatus
                simp only [hs, hs']
                exact ⟨trivial, congrArg Except.error (Except.error.inj hstatus)⟩
            | ok status' => exact absurd hstatus (by simp [hs, hs', Except.mapError])
        | ok status =>
            cases hs' : admissionStatus S rows' write g' with
            | error e' => exact absurd hstatus (by simp [hs, hs', Except.mapError])
            | ok status' =>
                rw [hs, hs'] at hstatus
                obtain rfl : status = status' := Except.ok.inj hstatus
                simp only [hs, hs']
                cases deadlineStatus S.toReading write with
                | error e => exact ⟨trivial, trivial⟩
                | ok deadline => exact ⟨trivial, trivial⟩
  · rw [he, he']
    exact ⟨rfl, congrArg Except.error hkind⟩

theorem judgeWrite_perm (hperm : rows.Perm rows') (h : SteadyWrite S rows write) :
    Alike Eq (judgeWrite S command rows write) (judgeWrite S command rows' write) := by
  obtain ⟨hchecks, hend⟩ := tryWrite_perm command hperm h
  unfold judgeWrite
  match htry : tryWrite S command rows write, htry' : tryWrite S command rows' write with
  | (checks, .ok ()), (checks', .ok ()) =>
      rw [htry, htry'] at hchecks
      exact .ok hchecks
  | (checks, .ok ()), (checks', .error e) =>
      exact absurd hend (by simp [htry, htry', Except.mapError])
  | (checks, .error e), (checks', .ok ()) =>
      exact absurd hend (by simp [htry, htry', Except.mapError])
  | (checks, .error e), (checks', .error e') =>
      rw [htry, htry'] at hchecks hend
      obtain rfl : checks = checks' := hchecks
      have hkind : isCaught e = isCaught e' := Except.error.inj hend
      simp only [hkind]
      cases isCaught e' with
      | true => exact .ok rfl
      | false => exact .error e e'

end OneWrite

/-! ## A command in another order -/

/-- The records are within the retention window, in this order of the two. -/
def Inside (S : Setting) (a b : Record) : Prop :=
  withinWindow S.toReading S.reference.retentionSeconds a b = some true

instance (S : Setting) (a b : Record) : Decidable (Inside S a b) :=
  inferInstanceAs (Decidable (_ = _))

/-- Two records of one command within the retention window, with bindings that differ. -/
def Contradicts (S : Setting) (a b : Record) : Prop :=
  bindingEq S a b = .ok false ∧ Inside S a b

/-- What the checks of a command evaluate does not depend on the order of its records.  The
window is only looked at for pairs of writes and, once the bindings can be compared, for
pairs whose bindings differ. -/
structure Steady (S : Setting) (rows : List Record) : Prop where
  writes : ∀ write ∈ writesOf rows, SteadyWrite S rows write
  initiations : SteadyPairs (Inside S) (writesOf rows)
  bindings : ∀ a ∈ boundOf rows, ∀ b ∈ boundOf rows, ∀ e e',
    binding S.toReading a = .error e → binding S.toReading b = .error e' →
    isCaught e = isCaught e'
  bound : (∀ a ∈ boundOf rows, ∀ b ∈ boundOf rows, a ≠ b → ∃ same, bindingEq S a b = .ok same) →
    SteadyPairs (Contradicts S) (boundOf rows)

/-- Judging a command ends in an exception that is not caught, in every order of its
records. -/
inductive RaisesAlways (S : Setting) (command : String) (rows : List Record) : Prop
  | write (write : Record) (mem : write ∈ writesOf rows) (steady : SteadyWrite S rows write)
      (raises : Raised (judgeWrite S command rows write))
  | binding (a b : Record) (mem : a ∈ boundOf rows) (other : b ∈ boundOf rows) (ne : a ≠ b)
      (raises : Raised (binding S.toReading a))
      (uncaught : ∀ r ∈ boundOf rows, ∀ e, binding S.toReading r = .error e → isCaught e = false)
  | outcome (r : Record) (mem : r ∈ outcomesOf rows) (raises : Raised (badOutcome S r))
  | feedback (r : Record) (mem : r ∈ rows) (action : r.action = "process_observed")
      (raises : Raised (feedbackCheck S command r))

section Command

variable {S : Setting} {rows rows' : List Record} {command : String} {a b : Record}

/-! ### Pairs -/

theorem pairState_eq_fail : pairState S a b = .fail ↔ Inside S a b := by
  unfold pairState Inside
  split <;> simp_all

theorem pairState_ne_pass : pairState S a b ≠ .pass := by
  unfold pairState
  split <;> simp

/-- The verdict on pairs, when the two orders have some alike and some that fail alike. -/
theorem verdict_pairs {ss ts : List Status} (other : List Status) (hss : .pass ∉ ss)
    (hts : .pass ∉ ts) (hany : (∃ s, s ∈ ss) ↔ ∃ s, s ∈ ts) (hfail : .fail ∈ ss ↔ .fail ∈ ts) :
    verdict (if !ss.isEmpty then ss else other) = verdict (if !ts.isEmpty then ts else other) := by
  by_cases hempty : ss = []
  · have hempty' : ts = [] := by
      rw [List.eq_nil_iff_forall_not_mem, ← not_exists, ← hany, hempty]
      simp
    rw [hempty, hempty']
  · have hempty' : ts ≠ [] := by
      obtain ⟨t, ht⟩ := hany.1 (List.exists_mem_of_ne_nil ss hempty)
      exact List.ne_nil_of_mem ht
    have hnot : (!ss.isEmpty) = true := by simpa using hempty
    have hnot' : (!ts.isEmpty) = true := by simpa using hempty'
    rw [if_pos hnot, if_pos hnot', verdict_of_ne_pass hss hempty, verdict_of_ne_pass hts hempty']
    simp only [hfail]

theorem writesOf_subset {r : Record} (h : r ∈ writesOf rows) : r ∈ boundOf rows := by
  obtain ⟨hr, haction⟩ := List.mem_filter.1 h
  exact List.mem_filter.2 ⟨hr, by simp [of_decide_eq_true haction]⟩

/-- Whether there are pairs at all. -/
theorem exists_pair_iff {xs ys : List Record} (hnodup : xs.Nodup) (hperm : xs.Perm ys) :
    (∃ p, p ∈ combinations xs) ↔ ∃ p, p ∈ combinations ys := by
  have hiff := exists_combinations_iff (R := fun _ _ : Record => True)
    (steadyPairs_of_symm fun _ _ _ _ _ _ => trivial) hnodup hperm
  simpa using hiff

theorem stageCheck_perm (hperm : rows.Perm rows') :
    triple (stageCheck command rows) = triple (stageCheck command rows') := by
  have haction : ∀ action, hasAction rows action = hasAction rows' action := fun action =>
    hperm.any_eq
  have hcompleted : rows.any completedOnce = rows'.any completedOnce := hperm.any_eq
  have hmissing : missingActions rows = missingActions rows' := by
    simp only [missingActions, requiredActions, haction, hcompleted]
  simp only [stageCheck, hmissing]
  rfl

theorem initiationCheck_perm (command : String) (hnodup : rows.Nodup) (hperm : rows.Perm rows')
    (h : SteadyPairs (Inside S) (writesOf rows)) :
    triple (initiationCheck S command (writesOf rows)) =
      triple (initiationCheck S command (writesOf rows')) := by
  have hwrites : (writesOf rows).Perm (writesOf rows') := hperm.filter _
  have hpass (ps : List (Record × Record)) : .pass ∉ ps.map fun p => pairState S p.1 p.2 := by
    simp [pairState_ne_pass]
  have hnodupW : (writesOf rows).Nodup := hnodup.filter _
  have hany := exists_pair_iff hnodupW hwrites
  have hfail := exists_combinations_iff h hnodupW hwrites
  have hverdict := verdict_pairs
    (if !(writesOf rows').isEmpty then [.pass] else [.unknown])
    (hpass (combinations (writesOf rows))) (hpass (combinations (writesOf rows')))
    (by simpa using hany) (by simpa [pairState_eq_fail] using hfail)
  unfold initiationCheck triple commandOf result
  simp only [hwrites.isEmpty_eq, hverdict]
  rfl

/-! ### Bindings -/

/-- The bindings of two records are compared alike in both orders. -/
theorem bindingEq_comm {same : Bool} (h : bindingEq S a b = .ok same) :
    bindingEq S b a = .ok same := by
  unfold bindingEq at *
  cases hfirst : binding S.toReading a with
  | error e => simp [hfirst, bind, Except.bind] at h
  | ok x =>
      cases hsecond : binding S.toReading b with
      | error e => simp [hfirst, hsecond, bind, Except.bind] at h
      | ok y =>
          rw [hfirst, hsecond] at h
          rw [← h]
          simp only [bind, Except.bind, eq_comm]

theorem bindingState_eq_ok {o : Option Status} : bindingState S a b = .ok o ↔
    ∃ same, bindingEq S a b = .ok same ∧ o = if same then none else some (pairState S a b) := by
  unfold bindingState
  cases bindingEq S a b with
  | error e => simp [bind, Except.bind]
  | ok same => simp [bind, Except.bind, eq_comm]

theorem bindingState_error {e : PyError} (h : bindingState S a b = .error e) :
    binding S.toReading a = .error e ∨ binding S.toReading b = .error e := by
  unfold bindingState bindingEq at h
  cases hfirst : binding S.toReading a with
  | error e' =>
      rw [hfirst] at h
      exact Or.inl (congrArg Except.error (Except.error.inj h))
  | ok x =>
      cases hsecond : binding S.toReading b with
      | error e' =>
          rw [hfirst, hsecond] at h
          exact Or.inr (congrArg Except.error (Except.error.inj h))
      | ok y => simp [hfirst, hsecond, bind, Except.bind] at h

/-- The pairs whose bindings are compared. -/
def pairStates (S : Setting) (rows : List Record) : Except PyError (List (Option Status)) :=
  (combinations (boundOf rows)).mapM fun p => bindingState S p.1 p.2

/-- When no pair raises, any two records can be compared. -/
theorem comparable_of_pairStates {found : List (Option Status)}
    (hfound : pairStates S rows = .ok found) (ha : a ∈ boundOf rows) (hb : b ∈ boundOf rows)
    (hne : a ≠ b) : ∃ same, bindingEq S a b = .ok same := by
  rcases combinations_of_mem ha hb hne with hpair | hpair
  · obtain ⟨o, -, hstate⟩ := mem_of_mapM hfound hpair
    obtain ⟨same, hsame, -⟩ := bindingState_eq_ok.1 hstate
    exact ⟨same, hsame⟩
  · obtain ⟨o, -, hstate⟩ := mem_of_mapM hfound hpair
    obtain ⟨same, hsame, -⟩ := bindingState_eq_ok.1 hstate
    exact ⟨same, bindingEq_comm hsame⟩

/-- If no pair raises in one order, none does in the other. -/
theorem pairStates_perm {found' : List (Option Status)} (hnodup : rows.Nodup)
    (hperm : rows.Perm rows') (hfound' : pairStates S rows' = .ok found') :
    ∃ found, pairStates S rows = .ok found := by
  cases hfound : pairStates S rows with
  | ok found => exact ⟨found, rfl⟩
  | error e =>
      obtain ⟨⟨a, b⟩, hpair, hstate⟩ := exists_of_mapM_error hfound
      obtain ⟨ha, hb⟩ := mem_of_combinations hpair
      have hbound : (boundOf rows).Perm (boundOf rows') := hperm.filter _
      obtain ⟨same, hsame⟩ := comparable_of_pairStates hfound' (hbound.mem_iff.1 ha)
        (hbound.mem_iff.1 hb) (ne_of_combinations (hnodup.filter _) hpair)
      have hok : bindingState S a b = .ok _ := bindingState_eq_ok.2 ⟨same, hsame, rfl⟩
      exact absurd (hstate.symm.trans hok) (by simp)

/-- The states that are judged are those of the pairs whose bindings differ. -/
theorem mem_pairStates {found : List (Option Status)} (hfound : pairStates S rows = .ok found)
    {s : Status} : s ∈ found.filterMap id ↔
      ∃ p ∈ combinations (boundOf rows),
        bindingEq S p.1 p.2 = .ok false ∧ pairState S p.1 p.2 = s := by
  rw [List.mem_filterMap]
  constructor
  · rintro ⟨o, ho, hs⟩
    obtain ⟨p, hp, hstate⟩ := exists_of_mapM hfound ho
    obtain ⟨same, hsame, rfl⟩ := bindingState_eq_ok.1 hstate
    cases same with
    | true => cases hs
    | false => exact ⟨p, hp, hsame, Option.some.inj hs⟩
  · rintro ⟨p, hp, hsame, rfl⟩
    obtain ⟨o, ho, hstate⟩ := mem_of_mapM hfound hp
    obtain ⟨same, hsame', rfl⟩ := bindingState_eq_ok.1 hstate
    obtain rfl := Except.ok.inj (hsame.symm.trans hsame')
    exact ⟨_, ho, rfl⟩

/-- An exception in comparing the bindings is that of one of the records. -/
theorem exists_of_pairStates_error {e : PyError} (h : pairStates S rows = .error e) :
    ∃ r ∈ boundOf rows, binding S.toReading r = .error e := by
  obtain ⟨⟨a, b⟩, hpair, hstate⟩ := exists_of_mapM_error h
  obtain ⟨ha, hb⟩ := mem_of_combinations hpair
  rcases bindingState_error hstate with he | he
  · exact ⟨a, ha, he⟩
  · exact ⟨b, hb, he⟩

/-- The bindings are judged as before. -/
theorem bindingCheck_perm (hnodup : rows.Nodup) (hperm : rows.Perm rows') (h : Steady S rows) :
    Alike (fun c c' => triple c = triple c') (bindingCheck S command rows)
      (bindingCheck S command rows') := by
  have hbound : (boundOf rows).Perm (boundOf rows') := hperm.filter _
  have hnodup' : rows'.Nodup := hperm.nodup_iff.1 hnodup
  have hnodupB : (boundOf rows).Nodup := hnodup.filter _
  have hstates (rows : List Record) :
      (combinations (boundOf rows)).mapM (fun p => bindingState S p.1 p.2) = pairStates S rows :=
    rfl
  simp only [bindingCheck, hstates]
  cases hfound : pairStates S rows with
  | ok found =>
      obtain ⟨found', hfound'⟩ := pairStates_perm hnodup' hperm.symm hfound
      have hpass {rows : List Record} {found : List (Option Status)}
          (hfound : pairStates S rows = .ok found) : .pass ∉ found.filterMap id := by
        rw [mem_pairStates hfound]
        rintro ⟨p, -, -, hstate⟩
        exact pairState_ne_pass hstate
      have hany : (∃ s, s ∈ found.filterMap id) ↔ ∃ s, s ∈ found'.filterMap id := by
        have hiff := exists_combinations_iff (R := fun a b => bindingEq S a b = .ok false)
          (steadyPairs_of_symm fun _ _ _ _ _ => bindingEq_comm) hnodupB hbound
        simp only [mem_pairStates hfound, mem_pairStates hfound']
        constructor
        · rintro ⟨s, p, hp, hdiffer, -⟩
          obtain ⟨q, hq, hdiffer'⟩ := hiff.1 ⟨p, hp, hdiffer⟩
          exact ⟨_, q, hq, hdiffer', rfl⟩
        · rintro ⟨s, p, hp, hdiffer, -⟩
          obtain ⟨q, hq, hdiffer'⟩ := hiff.2 ⟨p, hp, hdiffer⟩
          exact ⟨_, q, hq, hdiffer', rfl⟩
      have hfail : .fail ∈ found.filterMap id ↔ .fail ∈ found'.filterMap id := by
        have hsteady : SteadyPairs (Contradicts S) (boundOf rows) :=
          h.bound fun a ha b hb hne => comparable_of_pairStates hfound ha hb hne
        simpa only [mem_pairStates hfound, mem_pairStates hfound', pairState_eq_fail,
          Contradicts] using exists_combinations_iff hsteady hnodupB hbound
      have hverdict := verdict_pairs
        (if !(boundOf rows').isEmpty then [.pass] else [.unknown])
        (hpass hfound) (hpass hfound') hany hfail
      refine hfound' ▸ .ok ?_
      unfold triple commandOf result
      simp only [hbound.isEmpty_eq, hverdict]
  | error e =>
      cases hfound' : pairStates S rows' with
      | ok found' =>
          obtain ⟨found, hok⟩ := pairStates_perm hnodup hperm hfound'
          exact absurd (hfound.symm.trans hok) (by simp)
      | error e' =>
          obtain ⟨r, hr, he⟩ := exists_of_pairStates_error hfound
          obtain ⟨r', hr', he'⟩ := exists_of_pairStates_error hfound'
          have hkind : isCaught e = isCaught e' :=
            h.bindings r hr r' (hbound.mem_iff.2 hr') e e' he he'
          simp only [hkind]
          cases isCaught e' with
          | true => exact .ok rfl
          | false => exact .error e e'

theorem outcomeCheck_perm (hperm : rows.Perm rows') :
    Alike (fun c c' => triple c = triple c') (outcomeCheck S command rows)
      (outcomeCheck S command rows') := by
  have houtcomes : (outcomesOf rows).Perm (outcomesOf rows') := hperm.filter _
  refine (mapM_perm houtcomes).bind fun bad bad' hbad => ?_
  refine .ok ?_
  unfold triple commandOf result
  rw [hbad.flatten.isEmpty_eq, houtcomes.isEmpty_eq]
  rfl

/-- The same names, commands and statuses, in some order. -/
def SameTriples (cs cs' : List Check) : Prop := (cs.map triple).Perm (cs'.map triple)

theorem SameTriples.append {as as' bs bs' : List Check} (h : SameTriples as as')
    (h' : SameTriples bs bs') : SameTriples (as ++ bs) (as' ++ bs') := by
  unfold SameTriples at *
  rw [List.map_append, List.map_append]
  exact List.Perm.append h h'

theorem SameTriples.cons {c c' : Check} {cs cs' : List Check} (h : triple c = triple c')
    (hrest : SameTriples cs cs') : SameTriples (c :: cs) (c' :: cs') := by
  unfold SameTriples at *
  rw [List.map_cons, List.map_cons, h]
  exact List.Perm.cons _ hrest

theorem SameTriples.refl (cs : List Check) : SameTriples cs cs := List.Perm.refl _

theorem SameTriples.of_perm {cs cs' : List Check} (h : cs.Perm cs') : SameTriples cs cs' := h.map _

/-- The command is judged as before. -/
theorem judgeCommand_perm (hnodup : rows.Nodup) (hperm : rows.Perm rows') (h : Steady S rows) :
    Alike SameTriples (judgeCommand S command rows) (judgeCommand S command rows') := by
  have hwrites : (writesOf rows).Perm (writesOf rows') := hperm.filter _
  have hjudged : Alike List.Perm ((writesOf rows).mapM (judgeWrite S command rows))
      ((writesOf rows').mapM (judgeWrite S command rows')) := by
    refine (mapM_perm hwrites).trans (mapM_congr (R := Eq) fun write hwrite => ?_)
      fun as bs cs hab hbc => ?_
    · exact judgeWrite_perm hperm (h.writes write (hwrites.mem_iff.2 hwrite))
    · rw [List.forall₂_eq_eq_eq] at hbc
      exact hbc ▸ hab
  unfold judgeCommand
  refine hjudged.bind fun judged judged' hjudged => ?_
  refine (bindingCheck_perm hnodup hperm h).bind fun bound bound' hbound => ?_
  refine (outcomeCheck_perm hperm).bind fun outcomes outcomes' houtcomes => ?_
  refine (mapM_perm (hperm.filter _)).bind fun observed observed' hobserved => ?_
  rw [hwrites.isEmpty_eq]
  have hpairs := initiationCheck_perm command hnodup hperm h.initiations
  have hrest := (SameTriples.cons hpairs
    (SameTriples.cons hbound (SameTriples.cons houtcomes (SameTriples.refl [])))).append
    (SameTriples.of_perm hobserved)
  simp only [List.append_assoc, List.cons_append, List.nil_append] at hrest ⊢
  refine .ok (SameTriples.cons (stageCheck_perm hperm) ?_)
  exact ((SameTriples.of_perm hjudged.flatten).append ((SameTriples.refl _).append hrest))

/-- A command that raises in every order does. -/
theorem RaisesAlways.raised (h : RaisesAlways S command rows) (hperm : rows.Perm rows') :
    Raised (judgeCommand S command rows') := by
  have hbound : (boundOf rows).Perm (boundOf rows') := hperm.filter _
  unfold judgeCommand
  cases h with
  | write write mem steady raises =>
      have hmem : write ∈ writesOf rows' := (hperm.filter _).mem_iff.1 mem
      exact (raised_mapM hmem ((judgeWrite_perm hperm steady).raised raises)).bind _
  | binding a b mem other ne raises uncaught =>
      refine raised_bind _ fun _ => Raised.bind ?_ _
      have hstates : ∃ e, pairStates S rows' = .error e := by
        cases hfound : pairStates S rows' with
        | error e => exact ⟨e, rfl⟩
        | ok found =>
            obtain ⟨same, hsame⟩ := comparable_of_pairStates hfound (hbound.mem_iff.1 mem)
              (hbound.mem_iff.1 other) ne
            obtain ⟨e, he⟩ := raises
            unfold bindingEq at hsame
            rw [he] at hsame
            cases hsame
      obtain ⟨e, he⟩ := hstates
      obtain ⟨r, hr, hre⟩ := exists_of_pairStates_error he
      have hcaught : isCaught e = false := uncaught r (hbound.mem_iff.2 hr) e hre
      refine ⟨e, ?_⟩
      unfold pairStates at he
      unfold bindingCheck
      rw [he]
      simp [hcaught]
  | outcome r mem raises =>
      refine raised_bind _ fun _ => raised_bind _ fun _ => Raised.bind ?_ _
      exact (raised_mapM ((hperm.filter _).mem_iff.1 mem) raises).bind _
  | feedback r mem action raises =>
      refine raised_bind _ fun _ => raised_bind _ fun _ => raised_bind _ fun _ => Raised.bind ?_ _
      refine raised_mapM (List.mem_filter.2 ⟨hperm.mem_iff.1 mem, ?_⟩) raises
      simpa using action

/-- The command has a record. -/
theorem RaisesAlways.exists_mem (h : RaisesAlways S command rows) : ∃ r, r ∈ rows := by
  cases h with
  | write write mem steady raises => exact ⟨write, (List.mem_filter.1 mem).1⟩
  | binding a b mem other ne raises uncaught => exact ⟨a, (List.mem_filter.1 mem).1⟩
  | outcome r mem raises => exact ⟨r, (List.mem_filter.1 mem).1⟩
  | feedback r mem action raises => exact ⟨r, mem⟩

end Command

/-! ## All records in another order -/

/-- Nothing that is evaluated depends on the order of the records, or their checks raise in
every order. -/
def SteadyRecords (S : Setting) (records : List Fields) : Prop :=
  (∃ row ∈ records, Uncaught S row) ∨
    (∃ command, RaisesAlways S command (recordsOf (recordsIn S records) command)) ∨
    ∀ command, Steady S (recordsOf (recordsIn S records) command)

section All

variable {S : Setting} {records records' : List Fields} {C C' : Collected}

theorem recordsOf_nodup (hrecords : Distinct records) (command : String) :
    (recordsOf (recordsIn S records) command).Nodup :=
  (List.Nodup.of_map _ (nodup_clean hrecords)).filter _

theorem commandIds_perm {clean clean' : List Record} (h : clean.Perm clean') :
    (commandIds clean).Perm (commandIds clean') := by
  have hids := (List.reverse_perm (clean.map Record.correlationId)).trans
    ((h.map _).trans (List.reverse_perm (clean'.map Record.correlationId)).symm)
  exact (List.reverse_perm _).trans (hids.dedup.trans (List.reverse_perm _).symm)

theorem SameTriples.flatten {css css' : List (List Check)} (h : List.Forall₂ SameTriples css css') :
    SameTriples css.flatten css'.flatten := by
  induction h with
  | nil => exact SameTriples.refl []
  | cons h _ ih => exact h.append ih

/-- What is reported of the collection, and when nothing was collected. -/
theorem integrityCheck_congr (hconflicts : C.conflicts = []) (hconflicts' : C'.conflicts = [])
    (hissues : C.issues = [] ↔ C'.issues = []) (hclean : C.clean.isEmpty = C'.clean.isEmpty) :
    triple (integrityCheck C) = triple (integrityCheck C') := by
  have hempty : C.issues.isEmpty = C'.issues.isEmpty := by
    rw [Bool.eq_iff_iff, List.isEmpty_iff, List.isEmpty_iff, hissues]
  unfold triple commandOf integrityCheck result
  rw [hconflicts, hconflicts', hempty, hclean]
  rfl

/-- A command that raises in every order makes the checks raise. -/
theorem raised_of_command (hcollect : collect S records' = .ok C)
    (hclean : C.clean = recordsIn S records') (hperm : records.Perm records') {command : String}
    (h : RaisesAlways S command (recordsOf (recordsIn S records) command)) :
    Raised (checkExecution S records') := by
  have hrecords : (recordsIn S records).Perm (recordsIn S records') := hperm.filterMap _
  have hrows := hrecords.filter fun r => r.correlationId = command
  obtain ⟨r, hr⟩ := h.exists_mem
  obtain ⟨hmem, hcommand⟩ := List.mem_filter.1 hr
  have hid : command ∈ commandIds C.clean := by
    rw [commandIds, List.mem_reverse, List.mem_dedup, List.mem_reverse, hclean]
    exact List.mem_map.2 ⟨r, hrecords.mem_iff.1 hmem, of_decide_eq_true hcommand⟩
  unfold checkExecution
  rw [hcollect]
  refine Raised.bind (raised_mapM hid ?_) _
  rw [hclean]
  exact h.raised hrows

/-- Records with distinct ids whose checks are steady get the same statuses in every order, or
are refused in every order. -/
theorem checkExecution_perm (S : Setting) (records records' : List Fields)
    (hrecords : Distinct records) (hperm : records.Perm records')
    (hsteady : SteadyRecords S records) :
    Alike SameTriples (checkExecution S records) (checkExecution S records') := by
  have hrecords' : Distinct records' := (hperm.filterMap _).nodup_iff.1 hrecords
  have hclean : (recordsIn S records).Perm (recordsIn S records') :=
    hperm.filterMap _
  rcases collect_cases (S := S) hrecords, collect_cases (S := S) hrecords' with
    ⟨⟨C, hC, hCclean, hCconflicts, hCissues, hCread⟩ | ⟨⟨e, he⟩, row, hrow, hun⟩,
      ⟨C', hC', hCclean', hCconflicts', hCissues', hCread'⟩ | ⟨⟨e', he'⟩, row', hrow', hun'⟩⟩
  · rcases hsteady with ⟨row, hrow, hun⟩ | ⟨command, hraises⟩ | hsteady
    · exact absurd hun (hCread row hrow)
    · exact .of_raised (raised_of_command hC hCclean (List.Perm.refl _) hraises)
        (raised_of_command hC' hCclean' hperm hraises)
    unfold checkExecution
    rw [hC, hC']
    have hissues : C.issues = [] ↔ C'.issues = [] := by
      rw [hCissues, hCissues']
      exact forall_congr' fun row => imp_congr_left hperm.mem_iff
    have hcommands : Alike (fun as bs => SameTriples as.flatten bs.flatten)
        ((commandIds C.clean).mapM fun command =>
          judgeCommand S command (recordsOf C.clean command))
        ((commandIds C'.clean).mapM fun command =>
          judgeCommand S command (recordsOf C'.clean command)) := by
      rw [hCclean, hCclean']
      refine (mapM_perm (commandIds_perm hclean)).trans
        (mapM_congr (R := SameTriples) fun command _ => ?_) fun as bs cs hab hbc => ?_
      · exact judgeCommand_perm (recordsOf_nodup hrecords command) (hclean.filter _)
          (hsteady command)
      · exact (SameTriples.of_perm hab.flatten).trans (SameTriples.flatten hbc)
    have hempty : C.clean.isEmpty = C'.clean.isEmpty := by
      rw [hCclean, hCclean', hclean.isEmpty_eq]
    refine hcommands.bind fun judged judged' hjudged => ?_
    rw [hempty]
    refine .ok (SameTriples.cons (integrityCheck_congr hCconflicts hCconflicts' hissues hempty) ?_)
    exact (hjudged.append (SameTriples.refl _)).append (SameTriples.refl _)
  · exact absurd hun' (hCread row' (hperm.mem_iff.2 hrow'))
  · exact absurd hun (hCread' row (hperm.mem_iff.1 hrow))
  · unfold checkExecution
    rw [he, he']
    exact .error e e'

end All

/-! ## Records that can be read -/

/-- The members that are compared can be read. -/
structure Readable (S : Setting) (rows : List Record) : Prop where
  binding : ∀ r ∈ rows, (binding S.toReading r).isOk
  before : ∀ r ∈ rows, ∀ q ∈ rows, (before S.toReading r q).isOk

section Readable

variable {S : Setting} {rows : List Record} {write approval r : Record}

theorem exists_of_isOk {ε α : Type} {x : Except ε α} (h : x.isOk) : ∃ a, x = .ok a := by
  cases x with
  | error e => exact absurd h (by simp [Except.isOk, Except.toBool])
  | ok a => exact ⟨a, rfl⟩

theorem Readable.bindingEq (h : Readable S rows) (hr : r ∈ rows) (hw : write ∈ rows) :
    ∃ b, bindingEq S r write = .ok b := by
  obtain ⟨mine, hmine⟩ := exists_of_isOk (h.binding r hr)
  obtain ⟨its, hits⟩ := exists_of_isOk (h.binding write hw)
  exact ⟨_, by rw [Execution.bindingEq, hmine, hits]; rfl⟩

theorem Readable.isBefore (h : Readable S rows) (hr : r ∈ rows) (hw : write ∈ rows) :
    ∃ b, isBefore S r write = .ok b := by
  obtain ⟨order, horder⟩ := exists_of_isOk (h.before r hr write hw)
  exact ⟨_, by rw [Execution.isBefore, horder]; rfl⟩

theorem Readable.isMatch (h : Readable S rows) (hw : write ∈ rows) (hr : r ∈ rows) :
    ∃ b, isMatch S write r = .ok b := by
  obtain ⟨same, hsame⟩ := h.bindingEq hr hw
  unfold Execution.isMatch
  split
  · rw [hsame]
    cases same with
    | true => exact h.isBefore hr hw
    | false => exact ⟨false, rfl⟩
  · exact ⟨false, rfl⟩

theorem Readable.isApproval (h : Readable S rows) (hw : write ∈ rows) (hr : r ∈ rows)
    (admitted : Option Record) : ∃ b, isApproval S write admitted r = .ok b := by
  obtain ⟨same, hsame⟩ := h.bindingEq hr hw
  unfold Execution.isApproval
  split
  · rw [hsame]
    cases same <;> exact ⟨_, rfl⟩
  · exact ⟨false, rfl⟩

theorem Readable.refuses (h : Readable S rows) (hw : write ∈ rows) (ha : approval ∈ rows)
    (hr : r ∈ rows) : ∃ b, refuses S write approval r = .ok b := by
  obtain ⟨same, hsame⟩ := h.bindingEq hr hw
  obtain ⟨later, hlater⟩ := h.isBefore ha hr
  unfold Execution.refuses
  split
  · rw [hsame]
    cases same with
    | true =>
        rw [hlater]
        cases later with
        | true => exact h.isBefore hr hw
        | false => exact ⟨false, rfl⟩
    | false => exact ⟨false, rfl⟩
  · exact ⟨false, rfl⟩

theorem Readable.isUnclear (h : Readable S rows) (hw : write ∈ rows) (hr : r ∈ rows)
    (causal : Bool) : ∃ b, isUnclear S write causal r = .ok b := by
  obtain ⟨order, horder⟩ := exists_of_isOk (h.before r hr write hw)
  obtain ⟨same, hsame⟩ := h.bindingEq hr hw
  unfold Execution.isUnclear
  rw [horder]
  simp only [bind, Except.bind]
  split
  · split
    · rw [hsame]
      cases same <;> exact ⟨_, rfl⟩
    · exact ⟨true, rfl⟩
  · exact ⟨false, rfl⟩

/-- What the grounds of a write are made of. -/
theorem groundsOf_eq_ok {g : Grounds} (h : groundsOf S rows write = .ok g) :
    ∃ found, filterE (isMatch S write) rows = .ok found ∧ admittedOf S found = .ok g.admitted ∧
      filterE (isApproval S write g.admitted) (decisionsOf S rows) = .ok g.approvals := by
  unfold groundsOf at h
  obtain ⟨found, hfound, h⟩ := bind_eq_ok.1 h
  obtain ⟨admitted, hadmitted, h⟩ := bind_eq_ok.1 h
  obtain ⟨approvals, happrovals, h⟩ := bind_eq_ok.1 h
  obtain rfl := Except.ok.inj h
  exact ⟨found, hfound, hadmitted, happrovals⟩

theorem approves_of_isApproval {admitted : Option Record}
    (h : isApproval S write admitted r = .ok true) :
    jsonEq (r.get "decision") (.str "approve") = true := by
  unfold isApproval at h
  split_ifs at h with hif
  · exact (Bool.and_eq_true_iff.1 hif).1
  · exact absurd (Except.ok.inj h) (by simp)

theorem of_mem_approvals {g : Grounds} (h : groundsOf S rows write = .ok g)
    (hr : r ∈ g.approvals) :
    r ∈ decisionsOf S rows ∧ isApproval S write g.admitted r = .ok true := by
  obtain ⟨found, -, -, happrovals⟩ := groundsOf_eq_ok h
  obtain ⟨-, heq⟩ := filterE_eq_ok.1 happrovals
  rw [heq, List.mem_filter] at hr
  exact ⟨hr.1, holds_eq_true.1 hr.2⟩

/-- The approval was refused before the write. -/
def Superseded (S : Setting) (rows : List Record) (write approval : Record) : Prop :=
  ∃ r ∈ decisionsOf S rows, refuses S write approval r = .ok true

/-- Records that can be read are judged alike in every order, when the approvals before a write
agree on a refusal and the pairs are steady. -/
theorem Readable.steady (h : Readable S rows)
    (hinitiations : SteadyPairs (Inside S) (writesOf rows))
    (hbound : SteadyPairs (Contradicts S) (boundOf rows))
    (hsuperseded : ∀ write ∈ writesOf rows, ∀ g policy found, groundsOf S rows write = .ok g →
      policyStatus S write = .ok policy → orderedOf S write g = .ok found →
      ∀ a ∈ found, ∀ b ∈ found, Superseded S rows write a → Superseded S rows write b) :
    Steady S rows where
  initiations := hinitiations
  bindings a ha b hb e e' he _ := by
    obtain ⟨value, hvalue⟩ := exists_of_isOk (h.binding a (List.mem_filter.1 ha).1)
    exact absurd (he.symm.trans hvalue) (by simp)
  bound _ := hbound
  writes write hwrite := by
    have hw : write ∈ rows := (List.mem_filter.1 hwrite).1
    have hdecision : ∀ {r}, r ∈ decisionsOf S rows → r ∈ rows := fun hr => (List.mem_filter.1 hr).1
    refine ⟨uniform_of_ok fun r hr => h.isMatch hw hr, fun found admitted _ _ =>
      uniform_of_ok fun r hr => h.isApproval hw (hdecision hr) admitted, ?_⟩
    intro g policy hg hpolicy
    have happroval : ∀ {r}, r ∈ g.approvals → r ∈ rows := fun hr =>
      hdecision (of_mem_approvals hg hr).1
    refine ⟨uniform_of_ok fun r hr => h.isBefore (happroval hr) hw, fun found hfound => ?_,
      fun found refused _ _ => settles_of_ok fun r hr => h.isUnclear hw (hdecision hr) _⟩
    have hordered : ∀ {r}, r ∈ found → r ∈ rows := fun hr => by
      rw [(filterE_eq_ok.1 hfound).2] at hr
      exact happroval (List.mem_filter.1 hr).1
    have hrefuses : ∀ a ∈ found, ∀ r ∈ decisionsOf S rows,
        ∃ b, Execution.refuses S write a r = .ok b :=
      fun a ha r hr => h.refuses hw (hordered ha) (hdecision hr)
    by_cases hsome : ∃ a ∈ found, Superseded S rows write a
    · obtain ⟨a, ha, hrefused⟩ := hsome
      refine ⟨.ok true, fun b hb => ⟨?_, fun r hr e he => ?_⟩⟩
      · exact hsuperseded write hwrite g policy found hg hpolicy hfound a ha b hb hrefused
      · obtain ⟨o, ho⟩ := hrefuses b hb r hr
        exact absurd (he.symm.trans ho) (by simp)
    · refine ⟨.ok false, fun b hb r hr => ?_⟩
      obtain ⟨o, ho⟩ := hrefuses b hb r hr
      cases o with
      | true => exact absurd ⟨b, hb, r, hr, ho⟩ hsome
      | false => exact ho

/-- So are records that can be read, with at most one decision to approve. -/
theorem Readable.steady_of_single (h : Readable S rows)
    (hwindow : ∀ a ∈ boundOf rows, ∀ b ∈ boundOf rows, Inside S a b → Inside S b a)
    (hone : ∀ a ∈ decisionsOf S rows, ∀ b ∈ decisionsOf S rows,
      jsonEq (a.get "decision") (.str "approve") → jsonEq (b.get "decision") (.str "approve") →
      a = b) : Steady S rows := by
  refine h.steady ?_ ?_ fun write _ g _ found hg _ hfound a ha b hb hrefused => ?_
  · exact steadyPairs_of_symm fun a ha b hb _ =>
      hwindow a (writesOf_subset ha) b (writesOf_subset hb)
  · exact steadyPairs_of_symm fun a ha b hb _ hab =>
      ⟨bindingEq_comm hab.1, hwindow a ha b hb hab.2⟩
  · have hdecided : ∀ {r}, r ∈ found → r ∈ decisionsOf S rows ∧
        jsonEq (r.get "decision") (.str "approve") = true := fun hr => by
      rw [(filterE_eq_ok.1 hfound).2] at hr
      have hof := of_mem_approvals hg (List.mem_filter.1 hr).1
      exact ⟨hof.1, approves_of_isApproval hof.2⟩
    rwa [hone b (hdecided hb).1 a (hdecided ha).1 (hdecided hb).2 (hdecided ha).2]

theorem admission_eq_fail_iff : ∀ refused unclear supported : Bool,
    (if refused then Status.fail else if unclear then .unknown
      else if supported then .pass else .unknown) = .fail ↔ refused = true := by
  decide

/-- With an approval before the write in the first place, the admission fails exactly when a
refusal is known to be later than that approval. -/
theorem admission_of_first {g : Grounds} {found : List Record} (h : Readable S rows)
    (hw : write ∈ rows) (hg : groundsOf S rows write = .ok g)
    (hfound : orderedOf S write g = .ok found) (happroval : approval ∈ found) :
    ∃ g' status, groundsOf S (approval :: rows.erase approval) write = .ok g' ∧
      admissionStatus S (approval :: rows.erase approval) write g' = .ok status ∧
      (status = .fail ↔ Superseded S rows write approval) := by
  have hdecision : ∀ {r}, r ∈ decisionsOf S rows → r ∈ rows := fun hr => (List.mem_filter.1 hr).1
  obtain ⟨hmem, hbefore⟩ : approval ∈ g.approvals ∧ isBefore S approval write = .ok true := by
    rw [(filterE_eq_ok.1 hfound).2, List.mem_filter, holds_eq_true] at happroval
    exact happroval
  obtain ⟨hdecided, happroves⟩ := of_mem_approvals hg hmem
  obtain ⟨matched, hmatched, hadmitted, -⟩ := groundsOf_eq_ok hg
  have hperm : rows.Perm (approval :: rows.erase approval) :=
    List.perm_cons_erase (hdecision hdecided)
  -- the decisions in the new order begin with the approval, and so does what is filtered
  have hdecisions : decisionsOf S (approval :: rows.erase approval) =
      approval :: decisionsOf S (rows.erase approval) :=
    List.filter_cons_of_pos (List.mem_filter.1 hdecided).2
  have hrest : ∀ r ∈ decisionsOf S (rows.erase approval), r ∈ rows := fun r hr =>
    List.mem_of_mem_erase (List.mem_filter.1 hr).1
  have hall : ∀ r ∈ decisionsOf S (approval :: rows.erase approval), r ∈ rows := fun r hr =>
    hperm.mem_iff.2 (List.mem_filter.1 hr).1
  obtain ⟨others, hothers⟩ := exists_filterE_cons happroves fun r hr =>
    h.isApproval hw (hrest r hr) g.admitted
  let g' : Grounds := ⟨g.admitted, approval :: others⟩
  have hg' : groundsOf S (approval :: rows.erase approval) write = .ok g' := by
    have hmatched' := filterE_of_ok fun r hr => h.isMatch hw (hperm.mem_iff.2 hr)
    have hadmitted' := admittedOf_perm (S := S) (hperm.filter (holds (isMatch S write)))
    rw [← (filterE_eq_ok.1 hmatched).2, hadmitted] at hadmitted'
    simp only [groundsOf, hmatched', ← hadmitted', hdecisions, hothers, bind, Except.bind]
    rfl
  have hothers' : ∀ r ∈ others, r ∈ rows := fun r hr =>
    hdecision (hperm.filter _ |>.mem_iff.2 (of_mem_approvals hg' (List.mem_cons_of_mem _ hr)).1)
  obtain ⟨later, hlater⟩ := exists_filterE_cons (p := fun r => isBefore S r write) hbefore
    fun r hr => h.isBefore (hothers' r hr) hw
  have hrefused := anyE_of_ok fun r hr => h.refuses hw (hdecision hdecided) (hall r hr)
  have hunclear := anyE_of_ok fun r hr => h.isUnclear hw (hall r hr)
    (!(g'.approvals.filter (isCausal write g'.admitted)).isEmpty)
  have hstatus : admissionStatus S (approval :: rows.erase approval) write g' = _ :=
    admissionStatus_eq hlater
  rw [refusedLater, hrefused, hunclear] at hstatus
  refine ⟨g', _, hg', hstatus, ?_⟩
  have hiff : ((decisionsOf S (approval :: rows.erase approval)).any
      (holds (refuses S write approval)) = true) ↔ Superseded S rows write approval := by
    simp only [List.any_eq_true, holds_eq_true, Superseded, (decisionsOf_perm hperm).mem_iff]
  exact (admission_eq_fail_iff _ _ _).trans hiff

end Readable

/-! ## Records -/

namespace Recorded

/-- A second after noon. -/
def second (n : ℤ) : AwareDatetime := ⟨1793793600000000 + 1000000 * n, 0⟩

/-- `fromisoformat` on the texts below. -/
def fromisoformat (text : String) : Except PyError Datetime :=
  match [("2026-11-04T12:00:00+00:00", second 0), ("2026-11-04T12:00:10+00:00", second 10),
      ("2026-11-04T12:00:12+00:00", second 12), ("2026-11-04T12:00:14+00:00", second 14),
      ("2026-11-04T12:00:15+00:00", second 15), ("2026-11-04T12:00:20+00:00", second 20),
      ("2026-11-04T12:00:30+00:00", second 30), ("2026-11-04T12:00:31+00:00", second 31),
      ("0001-01-01T00:00:00+01:00", ⟨AwareDatetime.minMicros, 3600⟩)].lookup text with
  | some at' => .ok (.aware at')
  | none => .error (valueError "Invalid isoformat string")

def writer : String := "actuation-signal-publisher"
def validator : String := "actuation-event-validator"
def command : String := "01M6MAWHBB5Z3ZJDJXK24ACPFX"

def setting : Setting where
  fromisoformat := fromisoformat
  rounding := .double
  reference :=
    { writer := writer, validator := validator, processObserver := "experiment-driver",
      retentionSeconds := 300, controls := [] }
  policies := []

/-- A record at a second after noon, with members of its own. -/
def line (recordId component action : String) (second : ℤ) (at' : String) (more : Fields) :
    Fields :=
  [("event", .str "command_execution"), ("execution_schema", .str "1.0"),
    ("record_id", .str recordId), ("component", .str component), ("action", .str action),
    ("correlation_id", .str command), ("process_instance", .str (component ++ "-process")),
    ("monotonic_ns", .int (second * 1000000000)), ("recorded_at", .str at'),
    ("clock_uncertainty_s", .int 0), ("requester", .str "experiment-driver"),
    ("target", .str "uniza/zilina/factory1/line_a/capper/motor_01/speed_setpoint"),
    ("requested_value", .int 1200), ("value_type", .str "int64"),
    ("requested_at", .str "2026-11-04T12:00:00+00:00"),
    ("deadline", .str "2026-11-04T12:00:30+00:00"), ("attempt_id", .str "attempt-1")] ++ more

/-- What the validator decides, and the approval that the writer admits. -/
def approval : Fields :=
  [("decision", .str "approve"), ("approved_writer", .str writer),
    ("approval_issued_at", .str "2026-11-04T12:00:10+00:00")]

def approved : Fields :=
  line "r-1" validator "validation_decided" 10 "2026-11-04T12:00:10+00:00" approval

def rejected : Fields :=
  line "r-2" validator "validation_decided" 12 "2026-11-04T12:00:12+00:00"
    [("decision", .str "reject")]

def repeated : Fields :=
  line "r-3" validator "validation_decided" 14 "2026-11-04T12:00:14+00:00" approval

def admitted : Fields :=
  line "r-4" writer "executor_admitted" 15 "2026-11-04T12:00:15+00:00"
    [("approval_issued_at", .str "2026-11-04T12:00:10+00:00")]

def initiated : Fields := line "r-5" writer "write_initiated" 20 "2026-11-04T12:00:20+00:00" []

end Recorded

end EirvahEdge.Conformance.Execution
