import EirvahEdge.Writer.AtMostOnce

/-!
# When a definite refusal is truthful

`not_executed` claims that a command was never started.  Every reply the
publisher gives under a claim keeps that promise, because it is read off the row
of the claim.  A delivery that finds no row is the exception: its command may
have been started under a row that retention has deleted since, and the expiry
of its approval is then reported as a refusal.

`Retained` is the condition that excludes this: where a delivery is checked
again after the ledger had nothing to replay, a command that was ever started
still has its row.
-/

namespace EirvahEdge.Writer

open EirvahEdge.Lib
open EirvahEdge.Contracts

variable {δ τ : Type} [DecidableEq δ] [DecidableEq τ]

/-! ## The property -/

/-- The message delivers this command, and its approval was issued for it and
for this writer under the approval key. -/
def WriterMessage.Authentic (cfg : WriterConfig δ τ) (m : WriterMessage δ τ)
    (commandId : String) (digest : δ) : Prop :=
  ∃ request, m = .approved commandId request ∧
    request.command.correlationId = commandId ∧
    commandDigest cfg.crypto request.command = .ok digest ∧
    request.approval.commandDigest = digest ∧
    request.approval.purpose = .approval ∧
    request.approval.writer = cfg.writerId ∧
    signatureOf cfg.crypto request.approval cfg.approvalKey =
      .ok request.approval.signature

/-- The command of an authentic delivery was not started before. -/
def Unstarted (cfg : WriterConfig δ τ) (m : WriterMessage δ τ)
    (earlier : List (Obs δ τ)) : Prop :=
  ∀ commandId digest, m.Authentic cfg commandId digest →
    ∀ token, ⟨commandId, digest, token⟩ ∉ startsOf earlier

/-- Every definite refusal so far was truthful when it was given. -/
def Truthful (cfg : WriterConfig δ τ) : List (Obs δ τ) → Prop
  | [] => True
  | o :: earlier =>
      (match o with
        | .replied _ m r => r.outcome = .notExecuted → Unstarted cfg m earlier
        | _ => True) ∧ Truthful cfg earlier

omit [DecidableEq δ] [DecidableEq τ] in
theorem Truthful.replied {cfg : WriterConfig δ τ} {later earlier : List (Obs δ τ)}
    {d : ℕ} {m : WriterMessage δ τ} {r : WriteResult}
    (h : Truthful cfg (later ++ .replied d m r :: earlier))
    (hr : r.outcome = .notExecuted) : Unstarted cfg m earlier := by
  induction later with
  | nil => exact h.1 hr
  | cons o later ih => exact ih h.2

/-! ## The conditions -/

/-- No approval is delivered before the writer's clock reaches its issue. -/
def IssuedInPast : WriterEvent δ τ → Prop
  | .deliver (.approved _ request) now => request.approval.issuedAt.timestamp ≤ now
  | _ => True

/-- Where a delivery is checked again after its lookup, a command that was
started still has its row. -/
def Retained (s : WriterState δ τ) : WriterEvent δ τ → Prop
  | .verify d _ => ∀ t, s.handler? d .lookedUp = some t →
      (∃ x ∈ startsOf s.trace, x.commandId = t.command.correlationId ∧
        x.digest = t.digest) →
      ∃ row, s.db.lookup t.command.correlationId = some row ∧ row.digest = t.digest
  | _ => True

/-- The clock goes forward, approvals come after their issue, and started
commands are retained where it matters. -/
def Faithful (s : WriterState δ τ) (e : WriterEvent δ τ) : Prop :=
  ClockForward s e ∧ IssuedInPast e ∧ Retained s e

/-! ## Where refusals come from -/

section Sources

variable {cfg : WriterConfig δ τ} {s s' : WriterState δ τ}

/-- Before the lookup only deliveries that are not authentic are refused. -/
theorem unstarted_of_admission_error {m : WriterMessage δ τ} {now : ℚ} {e : PyError}
    (h : admission cfg now m = .error e)
    (hissued : IssuedInPast (.deliver m now)) (earlier : List (Obs δ τ)) :
    Unstarted cfg m earlier := by
  rintro commandId digest ⟨request, rfl, hid, hdigest, hbound, hpurpose, hwriter, hsig⟩
  obtain ⟨D, hD⟩ := deadlineOf_of_digest hdigest
  have hverify : verifyEvidence cfg.crypto request.command request.approval
      cfg.approvalKey .approval cfg.writerId now true = .ok () :=
    verifyEvidence_ok_iff.2 ⟨hpurpose, hwriter, by rw [hbound]; exact hdigest, hsig,
      D, hD, Or.inl rfl, hissued⟩
  simp [admission, hid, hverify, hdigest, bind, Except.bind, pure, Except.pure] at h

omit [DecidableEq τ] in
/-- What a row answers is a refusal only if it may be retried. -/
theorem retryable_of_notExecuted {row : CommandRow δ} {l : Lifecycle}
    (hl : row.Shows l) {digest : δ} {r : WriteResult}
    (hr : resultOf row digest = .ok r) (hout : r.outcome = .notExecuted) :
    r.retryable = true := by
  rw [hl.resultOf_eq] at hr
  obtain rfl := Except.ok.inj hr
  by_cases hdigest : row.digest = digest
  · rw [if_pos hdigest] at hout ⊢
    cases l with
    | preparing token => cases hout
    | started token t => cases hout
    | completed t w => cases hout
    | retryable reason => rfl
    | unknown t reason => cases hout
  · rw [if_neg hdigest] at hout
    cases hout

omit [DecidableEq δ] [DecidableEq τ] in
/-- A task's message is about the task's command only. -/
theorem unstarted_of_task {t : Task δ τ} {earlier : List (Obs δ τ)}
    (hdigest : commandDigest cfg.crypto t.command = .ok t.digest)
    (h : ∀ token, t.fact token ∉ startsOf earlier) :
    Unstarted cfg t.message earlier := by
  rintro commandId digest ⟨request, hm, hid, hd, -⟩ token
  simp only [Task.message, WriterMessage.approved.injEq] at hm
  obtain ⟨rfl, rfl⟩ := hm
  obtain rfl : t.digest = digest := Except.ok.inj (hdigest.symm.trans hd)
  exact h token

omit [DecidableEq δ] [DecidableEq τ] in
/-- A preparing row under a claim was not started. -/
theorem unstarted_of_fail (hI : WriterInv cfg s) {d : ℕ} {t : Task δ τ}
    (hmem : s.tasks d = some t) {token : String} (htoken : t.token = some token)
    {fault : Option PyError} {now : ℚ} {reason : String} {r : WriteResult}
    {db : Commands δ}
    (hc : fail cfg.ledger fault now s.db t.command.correlationId token reason =
      (.ok r, db)) (hout : r.outcome = .notExecuted) :
    Unstarted cfg t.message s.trace := by
  have hold := hI.task d t hmem
  obtain ⟨row, hrow, hrowtoken, -, hr, -⟩ := fail_ok hc
  have hstate : row.state ≠ .started := by
    intro hs
    rw [hr, hs] at hout
    cases hout
  -- the row under the token is the one that was claimed for this command
  have hdigest : row.digest = t.digest := by
    have hsame := hI.fenced.claims_inj _
      (hI.fenced.token_claimed _ row token hrow hrowtoken) _ (hold.claimed token htoken) rfl
    exact congrArg Fact.digest hsame
  refine unstarted_of_task hold.digest fun token' hstart => ?_
  obtain ⟨l, hl⟩ := hI.fenced.shows _ row hrow
  have htok := hl.token
  rw [hrowtoken] at htok
  rcases hI.fenced.start_state _ hstart row hrow hdigest with hs | hs | hs
  · exact hstate hs.1
  · rw [hl.state] at hs
    cases l <;> simp_all [Lifecycle.state, Lifecycle.token]
  · rw [hl.state] at hs
    cases l <;> simp_all [Lifecycle.state, Lifecycle.token]

end Sources

/-! ## Steps -/

section Steps

variable {cfg : WriterConfig δ τ} {s s' : WriterState δ τ}

omit [DecidableEq δ] [DecidableEq τ] in
/-- Anything but a reply keeps the record truthful. -/
theorem Truthful.cons {o : Obs δ τ} {trace : List (Obs δ τ)}
    (h : Truthful cfg trace) (ho : ∀ d m r, o ≠ .replied d m r) :
    Truthful cfg (o :: trace) := by
  refine ⟨?_, h⟩
  cases o with
  | replied d m r => exact absurd rfl (ho d m r)
  | claimed => trivial
  | verified => trivial
  | initiated => trivial
  | frame => trivial

omit [DecidableEq δ] [DecidableEq τ] in
/-- A reply that is no refusal, or one of a command that was not started. -/
theorem Truthful.reply {d : ℕ} {m : WriterMessage δ τ} {r : WriteResult}
    {trace : List (Obs δ τ)} (h : Truthful cfg trace)
    (hr : r.outcome = .notExecuted → Unstarted cfg m trace) :
    Truthful cfg (.replied d m r :: trace) :=
  ⟨hr, h⟩

theorem Truthful.step_lookup (hI : WriterInv cfg s) (h : Truthful cfg s.trace) {d : ℕ}
    {fault : Option PyError} {now : ℚ}
    (hs : step cfg s (.lookup d fault now) = some s') : Truthful cfg s'.trace := by
  obtain ⟨t, ht, rfl⟩ := Option.map_eq_some_iff.1 hs
  split
  · exact h.reply (by simp [refusal, runtimeError, PyError.isRuntimeError])
  · exact h
  · next r db hc =>
      split
      · exact h
      · next hretry =>
          refine h.reply fun hout => absurd ?_ hretry
          obtain ⟨hdb, ⟨-, hnone⟩ | ⟨row, r', hrow, hr, hsome⟩⟩ := lookup_ok hc
          · cases hnone
          · rw [hdb] at hrow
            obtain ⟨l, hl⟩ := hI.fenced.shows _ row (prune_lookup_eq_some.1 hrow).1
            rw [Option.some.inj hsome] at hout ⊢
            exact retryable_of_notExecuted hl hr hout

/-- The check before the claim refuses a command that was not started, because
its row would still be there. -/
theorem Truthful.step_verify (hI : WriterInv cfg s) (h : Truthful cfg s.trace) {d : ℕ}
    {now : ℚ} (hretained : Retained s (.verify d now))
    (hs : step cfg s (.verify d now) = some s') : Truthful cfg s'.trace := by
  obtain ⟨t, ht, rfl⟩ := Option.map_eq_some_iff.1 hs
  obtain ⟨hmem, -, hphase, -⟩ := handler?_eq_some ht
  have hold := hI.task d t hmem
  split
  · refine h.reply fun _ => unstarted_of_task hold.digest fun token hstart => ?_
    obtain ⟨row, hrow, hdigest⟩ := hretained t ht ⟨t.fact token, hstart, rfl, rfl⟩
    have hstate := (hold.free (Or.inl hphase) row hrow).1
    rcases hI.fenced.start_state _ hstart row hrow hdigest with hs | hs | hs
    · rw [hstate] at hs
      cases hs.1
    · rw [hstate] at hs
      cases hs
    · rw [hstate] at hs
      cases hs
  · exact h.cons (by simp)

theorem Truthful.step_claim (hI : WriterInv cfg s) (h : Truthful cfg s.trace) {d : ℕ}
    {fault : Option PyError} {pruneAt now : ℚ} {token : String}
    (hs : step cfg s (.claim d fault pruneAt now token) = some s') :
    Truthful cfg s'.trace := by
  simp only [step] at hs
  split at hs
  · cases hs
  · obtain ⟨t, ht, rfl⟩ := Option.map_eq_some_iff.1 hs
    split
    · exact h.cons (by simp)
    · next r db hc =>
        refine h.reply fun hout => ?_
        rcases claim_ok hc with ⟨hgranted, -⟩ | ⟨-, hdb, row, r', hrow, hrefused, hr, hsome⟩
        · cases hgranted
        · rw [hdb] at hrow
          obtain ⟨l, hl⟩ := hI.fenced.shows _ row (prune_lookup_eq_some.1 hrow).1
          rw [Option.some.inj hsome] at hout
          have hrow' := hl.retryable_of_reply hr (Or.inr hout)
          rcases hrefused with hne | hne
          · exact absurd hrow'.2 hne
          · exact absurd hrow'.1 hne
    · next db hc =>
        rcases claim_ok hc with ⟨hgranted, -⟩ | ⟨-, -, row, r', -, -, -, hsome⟩
        · cases hgranted
        · cases hsome
    · exact h.reply (by simp [refusal, runtimeError, PyError.isRuntimeError])

/-- **Step lemma.** -/
theorem Truthful.step {e : WriterEvent δ τ} (hI : WriterInv cfg s)
    (h : Truthful cfg s.trace) (hissued : IssuedInPast e) (hretained : Retained s e)
    (hs : Writer.step cfg s e = some s') : Truthful cfg s'.trace := by
  cases e with
  | restart now pruneAt =>
      simp only [Writer.step] at hs
      split at hs
      · rw [← Option.some.inj hs]
        exact h
      · cases hs
  | crash =>
      simp only [Writer.step] at hs
      split at hs
      · rw [← Option.some.inj hs]
        exact h
      · cases hs
  | deliver message now =>
      simp only [Writer.step] at hs
      split at hs
      · split at hs
        · next e he =>
            rw [← Option.some.inj hs]
            exact h.reply fun _ => unstarted_of_admission_error he hissued _
        · rw [← Option.some.inj hs]
          exact h.cons (by simp)
      · cases hs
  | lookup d fault now => exact h.step_lookup hI hs
  | verify d now => exact h.step_verify hI hretained hs
  | claim d fault pruneAt now token => exact h.step_claim hI hs
  | connect d previous draw =>
      obtain ⟨t, ht, rfl⟩ := Option.map_eq_some_iff.1 hs
      split
      · exact h
      · split <;> exact h
  | check d now =>
      obtain ⟨t, ht, hs⟩ := Option.bind_eq_some_iff.1 hs
      split at hs
      · cases hs
      · split at hs
        · rw [← Option.some.inj hs]
          exact h
        · rw [← Option.some.inj hs]
          exact h.cons (by simp)
  | mark d fault now =>
      obtain ⟨t, ht, hs⟩ := Option.bind_eq_some_iff.1 hs
      obtain ⟨token, htoken, rfl⟩ := Option.map_eq_some_iff.1 hs
      split
      · exact h
      · exact h.cons (by simp)
  | recheck d now =>
      obtain ⟨t, ht, rfl⟩ := Option.map_eq_some_iff.1 hs
      split
      · exact h
      · exact h.cons (by simp)
  | send d =>
      obtain ⟨t, hmem, hs⟩ := Option.bind_eq_some_iff.1 hs
      split at hs
      · rw [← Option.some.inj hs]
        exact h.cons (by simp)
      · cases hs
  | acknowledge d =>
      obtain ⟨t, ht, hs⟩ := Option.bind_eq_some_iff.1 hs
      split at hs
      · rw [← Option.some.inj hs]
        exact h
      · cases hs
  | raise d error =>
      obtain ⟨t, ht, rfl⟩ := Option.map_eq_some_iff.1 hs
      exact h
  | complete d fault now writtenAt =>
      obtain ⟨t, ht, hs⟩ := Option.bind_eq_some_iff.1 hs
      split at hs
      · split at hs
        · rw [← Option.some.inj hs]
          exact h
        · next hc =>
            rw [← Option.some.inj hs]
            refine h.reply fun hout => ?_
            rw [(complete_ok hc).1] at hout
            cases hout
      · cases hs
  | giveUp d fault now =>
      obtain ⟨t, ht, hs⟩ := Option.bind_eq_some_iff.1 hs
      split at hs
      · next hwrite htoken =>
          split at hs
          · rw [← Option.some.inj hs]
            exact h
          · next hc =>
              rw [← Option.some.inj hs]
              exact h.reply fun hout =>
                unstarted_of_fail hI (handler?_eq_some ht).1 htoken hc hout
      · cases hs
  | escape d =>
      obtain ⟨t, ht, hs⟩ := Option.bind_eq_some_iff.1 hs
      split at hs
      · rw [← Option.some.inj hs]
        exact h
      · cases hs
  | catchAll d fault now =>
      obtain ⟨t, ht, hs⟩ := Option.bind_eq_some_iff.1 hs
      obtain ⟨token, htoken, rfl⟩ := Option.map_eq_some_iff.1 hs
      exact h.reply (by simp [ledgerFailure])
  | cancel d fault now =>
      obtain ⟨t, ht, hs⟩ := Option.bind_eq_some_iff.1 hs
      split at hs
      · split at hs
        · rw [← Option.some.inj hs]
          exact h
        · rw [← Option.some.inj hs]
          exact h
      · cases hs

/-- **A definite refusal is truthful** in every run in which the clock goes
forward, approvals are delivered after their issue, and a command that was
started still has its row whenever a delivery of it is checked again after its
lookup: a delivery of an authentically approved command that is answered with
`not_executed` has no started commit before the answer. -/
theorem refusal_truthful (hK : CollisionFree cfg.crypto) (clock : ℚ)
    (es : List (WriterEvent δ τ))
    (hrun : Run.exec (Writer.step cfg) (.initial clock) es = some s)
    (hfaithful : Run.Guarded (Writer.step cfg) Faithful (.initial clock) es)
    {later earlier : List (Obs δ τ)} {d : ℕ} {m : WriterMessage δ τ} {r : WriteResult}
    (htrace : s.trace = later ++ .replied d m r :: earlier)
    (hout : r.outcome = .notExecuted) {commandId : String} {digest : δ}
    (hauthentic : m.Authentic cfg commandId digest) (token : String) :
    ⟨commandId, digest, token⟩ ∉ startsOf earlier := by
  have hboth : WriterInv cfg s ∧ Truthful cfg s.trace :=
    Run.exec_invariant_of_guarded (I := fun s => WriterInv cfg s ∧ Truthful cfg s.trace)
      (fun _ _ _ h hG hs => ⟨h.1.step hK hG.1 hs, h.2.step h.1 hG.2.1 hG.2.2 hs⟩)
      ⟨WriterInv.initial cfg clock, trivial⟩ hfaithful hrun
  have htruthful := hboth.2
  rw [htrace] at htruthful
  exact htruthful.replied hout commandId digest hauthentic token

/-- The condition leaves out nothing else: where it fails, the delivery is
answered with `not_executed` although its command was started. -/
theorem refused_of_not_retained (hI : WriterInv cfg s) {d : ℕ} {now : ℚ}
    (hclock : s.clock ≤ now) (hs : Writer.step cfg s (.verify d now) = some s')
    (hlost : ¬ Retained s (.verify d now)) :
    ∃ (t : Task δ τ) (r : WriteResult),
      s'.trace = .replied d t.message r :: s.trace ∧ r.outcome = .notExecuted ∧
        ∃ token, t.fact token ∈ startsOf s.trace := by
  obtain ⟨t, ht, rfl⟩ := Option.map_eq_some_iff.1 hs
  have hold := hI.task d t (handler?_eq_some ht).1
  have hstarted : ∃ x ∈ startsOf s.trace, x.commandId = t.command.correlationId ∧
      x.digest = t.digest ∧
      ¬ ∃ row, s.db.lookup t.command.correlationId = some row ∧ row.digest = t.digest := by
    simp only [Retained, ht, Option.some.injEq, forall_eq'] at hlost
    push Not at hlost
    obtain ⟨⟨x, hx, hid, hdigest⟩, hnone⟩ := hlost
    exact ⟨x, hx, hid, hdigest, by push Not; exact hnone⟩
  obtain ⟨x, hx, hid, hdigest, hnone⟩ := hstarted
  have hfact : t.fact x.token = x := by
    cases x
    simp_all [Task.fact]
  cases hv : verifyTask cfg t now with
  | ok u =>
      obtain ⟨-, -, -, -, D, hD, hle, -⟩ := verifyEvidence_ok_iff.1 hv
      have hnow : now ≤ D := by simpa using hle
      rcases hI.fenced.start_row x hx D (by rw [hdigest]; exact ⟨_, hold.digest, hD⟩) with
        hlt | ⟨row, hrow, hd⟩
      · exact absurd (hlt.trans_le hclock) (not_lt.2 hnow)
      · exact absurd ⟨row, by rw [← hid]; exact hrow, hd.trans hdigest⟩ hnone
  | error e =>
      refine ⟨t, refusal e, rfl, ?_, x.token, by rw [hfact]; exact hx⟩
      simp [refusal, verifyEvidence_error hv]

end Steps

/-! ## Runs -/

omit [DecidableEq δ] [DecidableEq τ] in
instance : DecidablePred (IssuedInPast (δ := δ) (τ := τ))
  | .deliver (.approved _ request) now =>
      inferInstanceAs (Decidable (request.approval.issuedAt.timestamp ≤ now))
  | .deliver (.malformed _) _ | .deliver (.unapproved ..) _ | .restart .. | .crash | .lookup ..
  | .verify .. | .claim .. | .connect .. | .check .. | .mark .. | .recheck .. | .send _
  | .acknowledge _ | .raise .. | .complete .. | .giveUp .. | .escape _ | .catchAll ..
  | .cancel .. => isTrue trivial

omit [DecidableEq τ] in
instance (s : WriterState δ τ) : DecidablePred (Retained s)
  | .verify d _ =>
      decidable_of_iff
        ((s.handler? d .lookedUp).all fun t =>
          !decide (∃ x ∈ startsOf s.trace, x.commandId = t.command.correlationId ∧
              x.digest = t.digest) ||
            (s.db.lookup t.command.correlationId).any fun row => decide (row.digest = t.digest))
        (by simp [Retained, Option.all_eq_true, Option.any_eq_true, imp_iff_not_or])
  | .deliver .. | .restart .. | .crash | .lookup .. | .claim .. | .connect .. | .check ..
  | .mark .. | .recheck .. | .send _ | .acknowledge _ | .raise .. | .complete .. | .giveUp ..
  | .escape _ | .catchAll .. | .cancel .. => isTrue trivial

omit [DecidableEq τ] in
instance (s : WriterState δ τ) : DecidablePred (Faithful s) := fun e =>
  inferInstanceAs (Decidable (ClockForward s e ∧ IssuedInPast e ∧ Retained s e))

/-- A delivery that stays without a claim until its approval has expired. -/
def expiredRun : List (WriterEvent Json (String × EvidenceBody Json)) :=
  [.restart (fun _ => 1000) 1000] ++ Valve.claiming 0 1000 "t1" ++
    [.connect 0 7 6, .raise 0 ⟨.connectionError, "refused"⟩, .giveUp 0 none 1001,
      .deliver Valve.message 1040, .lookup 1 none 1040, .verify 1 1040]

/-- The second delivery is refused, and nothing was started before. -/
theorem refusal_truthful_example :
    ∃ s earlier, Run.exec (step Valve.config) (.initial 1000) expiredRun = some s ∧
      s.trace = .replied 1 Valve.message (refusal (valueError "")) :: earlier ∧
      ⟨Valve.command.correlationId, Valve.digest, "t1"⟩ ∉ startsOf earlier := by
  obtain ⟨s, hs, hhead⟩ : ∃ s,
      Run.exec (step Valve.config) (.initial 1000) expiredRun = some s ∧
        s.trace.head? = some (.replied 1 Valve.message (refusal (valueError ""))) :=
    Run.exists_exec (by decide +kernel)
  have htrace := List.eq_cons_of_mem_head? hhead
  exact ⟨s, s.trace.tail, hs, htrace,
    refusal_truthful Valve.collisionFree 1000 expiredRun hs (by decide +kernel)
      (show s.trace = [] ++ _ :: s.trace.tail from htrace) rfl
      ⟨⟨Valve.command, Valve.approval⟩, rfl, rfl, by decide +kernel, rfl, rfl, rfl,
        by decide +kernel⟩ "t1"⟩

/-- A completed command is delivered again more than a day after its
deadline. -/
def forgottenRun : List (WriterEvent Json (String × EvidenceBody Json)) :=
  [.restart (fun _ => 1000) 1000] ++ Valve.claiming 0 1000 "t1" ++ [.connect 0 7 6] ++
    Valve.frame 0 1001 ++ Valve.frame 0 1001 ++
    [.acknowledge 0, .complete 0 none 1002 (.ofMicros 1002000000),
      .deliver Valve.message 90000, .lookup 1 none 90000, .verify 1 90000]

/-- The authentically approved command was completed, with a clock that goes
forward, and its second delivery is answered with `not_executed`. -/
theorem refusal_of_executed :
    Run.Guarded (step Valve.config) (fun s e => ClockForward s e ∧ IssuedInPast e)
      (.initial 1000) forgottenRun ∧
    ∃ s earlier, Run.exec (step Valve.config) (.initial 1000) forgottenRun = some s ∧
      s.trace = .replied 1 Valve.message (refusal (valueError "")) :: earlier ∧
      (refusal (valueError "")).outcome = .notExecuted ∧
      Valve.message.Authentic Valve.config Valve.command.correlationId Valve.digest ∧
      ⟨Valve.command.correlationId, Valve.digest, "t1"⟩ ∈ startsOf earlier := by
  refine ⟨by decide +kernel, ?_⟩
  obtain ⟨s, hs, hstate⟩ : ∃ s,
      Run.exec (step Valve.config) (.initial 1000) forgottenRun = some s ∧
        s.trace.head? = some (.replied 1 Valve.message (refusal (valueError ""))) ∧
        ⟨Valve.command.correlationId, Valve.digest, "t1"⟩ ∈ startsOf s.trace.tail :=
    Run.exists_exec (by decide +kernel)
  exact ⟨s, s.trace.tail, hs, List.eq_cons_of_mem_head? hstate.1, rfl,
    ⟨⟨Valve.command, Valve.approval⟩, rfl, rfl, by decide +kernel, rfl, rfl, rfl,
      by decide +kernel⟩, hstate.2⟩

end EirvahEdge.Writer
