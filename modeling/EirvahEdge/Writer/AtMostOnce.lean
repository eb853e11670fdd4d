import EirvahEdge.Writer.Worker

/-!
# At most one execution per command

The invariant of the signal publisher under a clock that never goes back, and
its first consequence: the frames of one command carry one claim token.

The ledger's fences (`Fenced`) carry the argument.  What the worker adds is that
it claims only what has not been started: between its lookup and its claim a
delivery holds the event loop, the row of its command is missing or retryable
throughout, and the check in between shows that the deadline is not past.
-/

namespace EirvahEdge.Writer

open EirvahEdge.Lib
open EirvahEdge.Contracts

variable {δ τ : Type}

/-! ## The deadline of a digest -/

/-- A command with this digest expires then. -/
def Expires (K : Crypto δ τ) (digest : δ) (D : ℚ) : Prop :=
  ∃ c, commandDigest K c = .ok digest ∧ deadlineOf c = some D

/-- Without collisions a digest has one deadline. -/
theorem Expires.unique {K : Crypto δ τ} (hK : CollisionFree K) {digest : δ}
    {D D' : ℚ} (h : Expires K digest D) (h' : Expires K digest D') : D = D' := by
  obtain ⟨c, hc, hD⟩ := h
  obtain ⟨c', hc', hD'⟩ := h'
  have hsame := (sameCommand_of_digest hK hc hc').deadlineOf_eq
  exact Option.some.inj (hD.symm.trans (hsame.trans hD'))

/-- A row claimed for a command is kept beyond the deadline of its digest. -/
theorem Expires.lt_keepFrom {cfg : WriterConfig δ τ} (hK : CollisionFree cfg.crypto)
    {c : ActuationRequest} {digest : δ} (hc : commandDigest cfg.crypto c = .ok digest)
    {D : ℚ} (hD : Expires cfg.crypto digest D) :
    D < cfg.ledger.keepFrom (claimDeadline cfg c) := by
  obtain ⟨D', hD'⟩ := deadlineOf_of_digest hc
  obtain rfl := hD.unique hK ⟨c, hc, hD'⟩
  rw [claimDeadline, hD', Option.getD_some]
  exact Rounding.lt_add_of_one_le (abs_deadline_lt hc hD') cfg.one_le_retention

/-! ## The invariant -/

/-- The row under the id is missing, or it may be claimed for this digest. -/
def RowFree (db : Commands δ) (commandId : String) (digest : δ) : Prop :=
  ∀ row, db.lookup commandId = some row →
    row.state = .retryable ∧ row.digest = digest

/-- The fact that a task holds a token for its command. -/
def Task.fact (t : Task δ τ) (token : String) : Fact δ :=
  ⟨t.command.correlationId, t.digest, token⟩

/-- What is known of one delivery. -/
structure TaskInv (cfg : WriterConfig δ τ) (db : Commands δ) (loop : Option ℕ)
    (trace : List (Obs δ τ)) (d : ℕ) (t : Task δ τ) : Prop where
  digest : commandDigest cfg.crypto t.command = .ok t.digest
  claimed : ∀ token, t.token = some token → t.fact token ∈ claimsOf trace
  held : t.handler.synchronous = true → loop = some d
  free : t.handler = .lookedUp ∨ t.handler = .checked →
    RowFree db t.command.correlationId t.digest
  unstarted : t.handler = .checked → ∀ token, t.fact token ∉ startsOf trace
  marked : (t.write = .marked ∨ ∃ v, t.write = .ready v) →
    ∃ token, t.token = some token ∧ t.fact token ∈ startsOf trace

/-- The ledger is fenced, every delivery is where it should be, and every frame
went out after a started commit under its token. -/
structure WriterInv (cfg : WriterConfig δ τ) (s : WriterState δ τ) : Prop where
  fenced : Fenced (Expires cfg.crypto) s.db s.clock (claimsOf s.trace)
    (startsOf s.trace)
  task : ∀ d t, s.tasks d = some t → TaskInv cfg s.db s.loop s.trace d t
  sent : ∀ d c a digest token f, Obs.frame d c a digest token f ∈ s.trace →
    commandDigest cfg.crypto c = .ok digest ∧
      ⟨c.correlationId, digest, token⟩ ∈ startsOf s.trace

theorem WriterInv.initial (cfg : WriterConfig δ τ) (clock : ℚ) :
    WriterInv cfg (WriterState.initial clock) where
  fenced := Fenced.initial _ clock
  task := by simp [WriterState.initial]
  sent := by simp [WriterState.initial]

/-! ## Rows that may be claimed stay so -/

theorem RowFree.prune {db : Commands δ} {k : String} {digest : δ}
    (h : RowFree db k digest) (t : ℚ) : RowFree (prune t db) k digest :=
  fun row hrow => h row (prune_lookup_eq_some.1 hrow).1

/-- Only a claim takes a row that may be claimed. -/
theorem RowFree.call [DecidableEq δ] {cfg : LedgerConfig} {db : Commands δ}
    {k : String} {digest : δ} (h : RowFree db k digest) {call : LedgerCall δ}
    (hcall : call.quiet = true ∨ ∃ fault now commandId token,
      call = .markStarted fault now commandId token) :
    RowFree (call.run cfg db).2 k digest := by
  have hclaim (fault pruneAt now token commandId digest deadline) :
      call ≠ .claim fault pruneAt now token commandId digest deadline := by
    rintro rfl
    rcases hcall with hquiet | ⟨_, _, _, _, hmark⟩
    · cases hquiet
    · cases hmark
  intro row' hrow'
  have heffect := call.effect cfg db k
  rw [hrow'] at heffect
  cases hold : db.lookup k with
  | none =>
      rw [hold] at heffect
      cases heffect with
      | create _ _ _ _ _ _ _ hc => exact absurd hc (hclaim _ _ _ _ _ _ _)
  | some row =>
      rw [hold] at heffect
      have hrow := h row hold
      have hactive : ¬ row.state.active = true := by
        simp [hrow.1, CommandState.active]
      cases heffect with
      | create _ _ _ _ _ _ _ hc => exact absurd hc (hclaim _ _ _ _ _ _ _)
      | step hstep =>
          cases hstep with
          | keep => exact hrow
          | reclaim => exact absurd rfl (hclaim _ _ _ _ _ _ _)
          | start _ _ _ _ ha => exact absurd ha hactive
          | complete _ _ _ _ _ hs => simp [hrow.1] at hs
          | fail _ _ _ _ _ ha => exact absurd ha hactive
          | recover _ _ _ ha => exact absurd ha hactive

/-! ## The parts of a step -/

section Parts

variable {cfg : WriterConfig δ τ} {s : WriterState δ τ}

/-- The clock goes on and the ledger changes without a claim or a start. -/
theorem WriterInv.at' (h : WriterInv cfg s) {now : ℚ} {db : Commands δ}
    (hf : Fenced (Expires cfg.crypto) db now (claimsOf s.trace) (startsOf s.trace))
    (hfree : ∀ k digest, RowFree s.db k digest → RowFree db k digest) :
    WriterInv cfg (s.at' now db) where
  fenced := hf
  task := fun d t ht =>
    { digest := (h.task d t ht).digest
      claimed := (h.task d t ht).claimed
      held := (h.task d t ht).held
      free := fun hp => hfree _ _ ((h.task d t ht).free hp)
      unstarted := (h.task d t ht).unstarted
      marked := (h.task d t ht).marked }
  sent := h.sent

/-- Only the clock goes on. -/
theorem WriterInv.tick (h : WriterInv cfg s) {now : ℚ} (hclock : s.clock ≤ now) :
    WriterInv cfg (s.at' now s.db) :=
  h.at' (h.fenced.tick hclock) fun _ _ hfree => hfree

/-- A ledger call that neither claims nor starts. -/
theorem WriterInv.call [DecidableEq δ] (h : WriterInv cfg s) {now : ℚ}
    (call : LedgerCall δ) (hquiet : call.quiet = true) (hclock : s.clock ≤ now)
    (hprune : ∀ t, call.pruneReading = some t → t ≤ now) :
    WriterInv cfg (s.at' now (call.run cfg.ledger s.db).2) :=
  h.at' (h.fenced.call hquiet hclock hprune) fun _ _ hfree =>
    hfree.call (Or.inl hquiet)

/-- A task is replaced. -/
theorem WriterInv.put (h : WriterInv cfg s) {d : ℕ} {t : Task δ τ}
    (ht : TaskInv cfg s.db s.loop s.trace d t) : WriterInv cfg (s.put d t) where
  fenced := h.fenced
  task := by
    intro d' t' ht'
    by_cases hd : d' = d
    · subst hd
      obtain rfl : t = t' := by simpa [WriterState.put] using ht'
      exact ht
    · exact h.task d' t' (by simpa [WriterState.put, hd] using ht')
  sent := h.sent

/-- Something happens that is neither a claim nor a start. -/
theorem WriterInv.observe (h : WriterInv cfg s) {o : Obs δ τ}
    (hclaim : o.claim? = none) (hstart : o.start? = none)
    (hframe : ∀ d c a digest token f, o = .frame d c a digest token f →
      commandDigest cfg.crypto c = .ok digest ∧
        ⟨c.correlationId, digest, token⟩ ∈ startsOf s.trace) :
    WriterInv cfg (s.observe o) := by
  have hclaims : claimsOf (o :: s.trace) = claimsOf s.trace :=
    List.filterMap_cons_none hclaim
  have hstarts : startsOf (o :: s.trace) = startsOf s.trace :=
    List.filterMap_cons_none hstart
  constructor
  · simpa only [WriterState.observe, hclaims, hstarts] using h.fenced
  · intro d t ht
    have hold := h.task d t ht
    constructor
    · exact hold.digest
    · simpa only [WriterState.observe, hclaims] using hold.claimed
    · exact hold.held
    · exact hold.free
    · simpa only [WriterState.observe, hstarts] using hold.unstarted
    · simpa only [WriterState.observe, hstarts] using hold.marked
  · intro d c a digest token f hmem
    simp only [WriterState.observe, hstarts]
    rcases List.mem_cons.1 hmem with ho | hmem
    · exact hframe d c a digest token f ho.symm
    · exact h.sent d c a digest token f hmem

theorem WriterInv.verified (h : WriterInv cfg s) (d : ℕ) (clock : ℚ) :
    WriterInv cfg (s.observe (.verified d clock)) :=
  h.observe rfl rfl (by simp)

theorem WriterInv.replied (h : WriterInv cfg s) (d : ℕ) (m : WriterMessage δ τ)
    (r : WriteResult) : WriterInv cfg (s.observe (.replied d m r)) :=
  h.observe rfl rfl (by simp)

/-- The delivery that could hold the event loop lets go of it. -/
theorem WriterInv.release (h : WriterInv cfg s) {d : ℕ}
    (hloop : s.loop = some d ∨ s.loop = none)
    (hd : ∀ t, s.tasks d = some t → t.handler.synchronous = false) :
    WriterInv cfg { s with loop := none } where
  fenced := h.fenced
  task := by
    intro d' t ht
    have hold := h.task d' t ht
    refine ⟨hold.digest, hold.claimed, fun hsync => ?_, hold.free, hold.unstarted,
      hold.marked⟩
    have hheld := hold.held hsync
    rcases hloop with hloop | hloop
    · have hsame : d = d' := Option.some.inj (hloop.symm.trans hheld)
      rw [hd t (by rw [hsame]; exact ht)] at hsync
      cases hsync
    · rw [hloop] at hheld
      cases hheld
  sent := h.sent

/-- The task keeps what is known of it while its coroutine ends and its write
does not pass `before_write`. -/
theorem TaskInv.retire {db : Commands δ} {loop : Option ℕ} {trace : List (Obs δ τ)}
    {d : ℕ} {t : Task δ τ} (h : TaskInv cfg db loop trace d t) {p : HandlerPhase}
    (hp : p.synchronous = false) {w : WriteStage} {frames : List Frame}
    (hw : w = t.write ∨ (w ≠ .marked ∧ ∀ v, w ≠ .ready v)) :
    TaskInv cfg db loop trace d { t with handler := p, write := w, frames := frames } where
  digest := h.digest
  claimed := h.claimed
  held := by
    intro hsync
    rw [hp] at hsync
    cases hsync
  free := by
    intro hphase
    rcases hphase with rfl | rfl <;> cases hp
  unstarted := by
    rintro rfl
    cases hp
  marked := by
    intro hmarked
    rcases hw with rfl | ⟨hne, hne'⟩
    · exact h.marked hmarked
    · rcases hmarked with hm | ⟨v, hv⟩
      · exact absurd hm hne
      · exact absurd hv (hne' v)

/-- A write moves on to a stage that did not pass `before_write`. -/
theorem TaskInv.write {db : Commands δ} {loop : Option ℕ} {trace : List (Obs δ τ)}
    {d : ℕ} {t : Task δ τ} (h : TaskInv cfg db loop trace d t) {w : WriteStage}
    {frames : List Frame} (hw : w ≠ .marked ∧ ∀ v, w ≠ .ready v) :
    TaskInv cfg db loop trace d { t with write := w, frames := frames } where
  digest := h.digest
  claimed := h.claimed
  held := h.held
  free := h.free
  unstarted := h.unstarted
  marked := by
    intro hmarked
    rcases hmarked with hm | ⟨v, hv⟩
    · exact absurd hm hw.1
    · exact absurd hv (hw.2 v)

theorem WriterInv.reply (h : WriterInv cfg s) {d : ℕ} {t : Task δ τ}
    (ht : TaskInv cfg s.db s.loop s.trace d t)
    (hloop : s.loop = some d ∨ s.loop = none) (r : WriteResult) :
    WriterInv cfg (s.reply d t r) := by
  have hgone : TaskInv cfg s.db s.loop s.trace d { t with handler := .gone } :=
    ht.retire rfl (Or.inl rfl)
  have hreplied := (h.put hgone).replied d t.message r
  refine hreplied.release hloop fun t' ht' => ?_
  obtain rfl : { t with handler := .gone } = t' := by
    simpa [WriterState.put, WriterState.observe] using ht'
  rfl

/-- A coroutine that is about to run. -/
theorem handler?_eq_some {d : ℕ} {p : HandlerPhase} {t : Task δ τ}
    (h : s.handler? d p = some t) : s.tasks d = some t ∧ s.up = true ∧
      t.handler = p ∧ s.loop = if p.synchronous then some d else none := by
  have h' := Option.filter_eq_some_iff.1 h
  simp only [Bool.and_eq_true, decide_eq_true_eq] at h'
  exact ⟨h'.1, h'.2.1.1, h'.2.1.2, h'.2.2⟩

theorem write?_eq_some {d : ℕ} {p : WriteStage → Bool} {t : Task δ τ}
    (h : s.write? d p = some t) :
    s.tasks d = some t ∧ s.up = true ∧ p t.write = true := by
  have h' := Option.filter_eq_some_iff.1 h
  simp only [Bool.and_eq_true] at h'
  exact ⟨h'.1, h'.2.1, h'.2.2⟩

end Parts

/-! ## Steps -/

section Steps

variable [DecidableEq δ] [DecidableEq τ] {cfg : WriterConfig δ τ}
  {s s' : WriterState δ τ}

omit [DecidableEq δ] [DecidableEq τ] in
/-- A delivery that holds the loop goes on to its next synchronous phase. -/
theorem TaskInv.advance {db : Commands δ} {trace : List (Obs δ τ)} {d : ℕ}
    {t : Task δ τ} (h : TaskInv cfg db (some d) trace d t) {p : HandlerPhase}
    (hfree : RowFree db t.command.correlationId t.digest)
    (hunstarted : p = .checked → ∀ token, t.fact token ∉ startsOf trace) :
    TaskInv cfg db (some d) trace d { t with handler := p } where
  digest := h.digest
  claimed := h.claimed
  held := fun _ => rfl
  free := fun _ => hfree
  unstarted := hunstarted
  marked := h.marked

/-- A result that may be retried, or none, leaves the row to be claimed. -/
theorem rowFree_of_lookup {fault : Option PyError} {now : ℚ} {db db' : Commands δ}
    {commandId : String} {digest : δ} {res : Option WriteResult}
    (hshows : ∀ k row, db.lookup k = some row → ∃ l, row.Shows l)
    (hc : lookup fault now db commandId digest = (.ok res, db'))
    (hres : ∀ r, res = some r → r.retryable = true) :
    RowFree db' commandId digest := by
  intro row hrow
  obtain ⟨hdb, ⟨hnone, -⟩ | ⟨row', r, hrow', hr, hsome⟩⟩ := lookup_ok hc
  · rw [hnone] at hrow
    cases hrow
  · obtain rfl := Option.some.inj (hrow'.symm.trans hrow)
    rw [hdb] at hrow
    obtain ⟨l, hl⟩ := hshows _ _ (prune_lookup_eq_some.1 hrow).1
    exact hl.retryable_of_reply hr (Or.inl (hres r hsome))

theorem WriterInv.step_lookup (h : WriterInv cfg s) {d : ℕ} {fault : Option PyError}
    {now : ℚ} (hclock : s.clock ≤ now)
    (hs : step cfg s (.lookup d fault now) = some s') : WriterInv cfg s' := by
  obtain ⟨t, ht, rfl⟩ := Option.map_eq_some_iff.1 hs
  obtain ⟨hmem, -, hphase, hloop⟩ := handler?_eq_some ht
  have hcall := h.call (.lookup fault now t.command.correlationId t.digest) rfl hclock
    (by simp [LedgerCall.pruneReading])
  cases hc : lookup fault now s.db t.command.correlationId t.digest with
  | mk r db =>
      simp only [LedgerCall.run, hc] at hcall
      have ht' := hcall.task d t hmem
      have hheld : (s.at' now db).loop = some d := hloop
      have hadvance (hfree : RowFree db t.command.correlationId t.digest) :
          WriterInv cfg ((s.at' now db).put d { t with handler := .lookedUp }) := by
        refine hcall.put ?_
        rw [hheld] at ht' ⊢
        exact ht'.advance hfree (by simp)
      rcases r with e | _ | r
      · exact hcall.reply ht' (Or.inl hheld) _
      · exact hadvance (rowFree_of_lookup h.fenced.shows hc (by simp))
      · dsimp only
        split
        · next hretry =>
            refine hadvance (rowFree_of_lookup h.fenced.shows hc fun r' hr' => ?_)
            rw [← Option.some.inj hr']
            exact hretry
        · exact hcall.reply ht' (Or.inl hheld) _

/-- The check before the claim: the deadline is not past, so a started command
would still have its row. -/
theorem WriterInv.step_verify (h : WriterInv cfg s) {d : ℕ} {now : ℚ}
    (hclock : s.clock ≤ now) (hs : step cfg s (.verify d now) = some s') :
    WriterInv cfg s' := by
  obtain ⟨t, ht, rfl⟩ := Option.map_eq_some_iff.1 hs
  obtain ⟨hmem, -, hphase, hloop⟩ := handler?_eq_some ht
  have htick := h.tick hclock
  have ht' := htick.task d t hmem
  have hheld : s.loop = some d := hloop
  cases hv : verifyTask cfg t now with
  | error e => exact htick.reply ht' (Or.inl hheld) _
  | ok u =>
      refine WriterInv.verified ?_ d now
      have hfree := ht'.free (Or.inl hphase)
      have hunstarted : ∀ token, t.fact token ∉ startsOf s.trace := by
        intro token hstart
        obtain ⟨-, -, hdigest, -, D, hD, hle, -⟩ := verifyEvidence_ok_iff.1 hv
        have hnow : now ≤ D := by simpa using hle
        rcases h.fenced.start_row _ hstart D ⟨t.command, ht'.digest, hD⟩ with
          hlt | ⟨row, hrow, hd⟩
        · exact absurd (hlt.trans_le hclock) (not_lt.2 hnow)
        · have hstate := (hfree row hrow).1
          rcases h.fenced.start_state _ hstart row hrow hd with hs | hs | hs
          · rw [hstate] at hs
            cases hs.1
          · rw [hstate] at hs
            cases hs
          · rw [hstate] at hs
            cases hs
      refine htick.put ?_
      have hloop' : (s.at' now s.db).loop = some d := hheld
      rw [hloop'] at ht' ⊢
      exact ht'.advance hfree fun _ => hunstarted

omit [DecidableEq δ] [DecidableEq τ] in
/-- A token is given out to the delivery that holds the loop. -/
theorem WriterInv.grant (h : WriterInv cfg s) {now : ℚ} {db : Commands δ} {d : ℕ}
    {t : Task δ τ} {token : String} (hmem : s.tasks d = some t)
    (hheld : s.loop = some d)
    (hf : Fenced (Expires cfg.crypto) db now (t.fact token :: claimsOf s.trace)
      (startsOf s.trace)) :
    WriterInv cfg ((s.at' now db).grant d t token) := by
  have hold := h.task d t hmem
  refine ⟨hf, ?_, ?_⟩
  · intro d' t' ht'
    by_cases hd : d' = d
    · subst hd
      have hnew : t.executing token = t' := by
        simpa [WriterState.grant, WriterState.put, WriterState.observe] using ht'
      subst hnew
      refine ⟨hold.digest, ?_, by simp [Task.executing, HandlerPhase.synchronous],
        by simp [Task.executing], by simp [Task.executing], by simp [Task.executing]⟩
      intro token' htoken
      obtain rfl : token = token' := Option.some.inj htoken
      exact List.mem_cons_self
    · have hmem' : s.tasks d' = some t' := by
        simpa [WriterState.grant, WriterState.put, WriterState.observe,
          WriterState.at', hd] using ht'
      have hold' := h.task d' t' hmem'
      -- nobody else is in a synchronous phase
      have hasync : t'.handler.synchronous = false := by
        cases hsync : t'.handler.synchronous with
        | false => rfl
        | true =>
            have hheld' := hold'.held hsync
            rw [hheld] at hheld'
            exact absurd (Option.some.inj hheld').symm hd
      refine ⟨hold'.digest, fun token htoken =>
        List.mem_cons_of_mem _ (hold'.claimed token htoken), ?_, ?_, ?_,
        hold'.marked⟩
      · intro hsync
        rw [hasync] at hsync
        cases hsync
      · intro hp
        rcases hp with hp | hp <;> rw [hp] at hasync <;> cases hasync
      · intro hp
        rw [hp] at hasync
        cases hasync
  · intro d' c a digest token' f hmem'
    rcases List.mem_cons.1 hmem' with hx | hx
    · cases hx
    · exact h.sent d' c a digest token' f hx

theorem WriterInv.step_claim (hK : CollisionFree cfg.crypto) (h : WriterInv cfg s)
    {d : ℕ} {fault : Option PyError} {pruneAt now : ℚ} {token : String}
    (hclock : s.clock ≤ pruneAt ∧ pruneAt ≤ now)
    (hs : step cfg s (.claim d fault pruneAt now token) = some s') :
    WriterInv cfg s' := by
  simp only [step] at hs
  split at hs
  · cases hs
  · next hfresh =>
      obtain ⟨t, ht, rfl⟩ := Option.map_eq_some_iff.1 hs
      obtain ⟨hmem, -, hphase, hloop⟩ := handler?_eq_some ht
      have hheld : s.loop = some d := hloop
      have hold := h.task d t hmem
      have hle := hclock.1.trans hclock.2
      cases hc : claim cfg.ledger fault pruneAt now token s.db t.command.correlationId
          t.digest (claimDeadline cfg t.command) with
      | mk r db =>
          have hpruned : WriterInv cfg (s.at' now (prune pruneAt s.db)) :=
            h.at' (h.fenced.prune hle hclock.2) fun _ _ hfree => hfree.prune pruneAt
          rcases r with e | ⟨_ | granted, result⟩
          · dsimp only
            rw [transaction_error hc]
            have htick := h.tick hle
            exact htick.reply (htick.task d t hmem) (Or.inl hheld) _
          · rcases claim_ok hc with ⟨hgranted, -⟩ | ⟨-, hdb, row, r, -, -, -, hresult⟩
            · cases hgranted
            · obtain rfl : result = some r := hresult
              dsimp only
              rw [hdb]
              exact hpruned.reply (hpruned.task d t hmem) (Or.inl hheld) _
          · obtain rfl : granted = token := by
              rcases claim_ok hc with ⟨hgranted, -⟩ | ⟨hnone, -⟩
              · exact Option.some.inj (congrArg Claim.token hgranted)
              · cases hnone
            have hunstarted : ∀ x ∈ startsOf s.trace,
                x.commandId = t.command.correlationId → x.digest ≠ t.digest := by
              intro x hx hid hd
              have hfact : t.fact x.token = x := by
                cases x
                simp_all [Task.fact]
              exact hold.unstarted hphase x.token (by rw [hfact]; exact hx)
            have hfresh' : ∀ x ∈ claimsOf s.trace, x.token ≠ granted :=
              fun x hx hxt => hfresh (by rw [← hxt]; exact List.mem_map_of_mem hx)
            exact h.grant hmem hheld (h.fenced.claim_granted hclock.1 hclock.2 hfresh'
              hunstarted (fun D hD => hD.lt_keepFrom hK hold.digest) hc rfl)

/-- The started commit. -/
theorem WriterInv.step_mark (h : WriterInv cfg s) {d : ℕ} {fault : Option PyError}
    {now : ℚ} (hclock : s.clock ≤ now)
    (hs : step cfg s (.mark d fault now) = some s') : WriterInv cfg s' := by
  obtain ⟨t, ht, hs⟩ := Option.bind_eq_some_iff.1 hs
  obtain ⟨token, htoken, rfl⟩ := Option.map_eq_some_iff.1 hs
  obtain ⟨hmem, -, -⟩ := write?_eq_some ht
  have hold := h.task d t hmem
  have hclaim := hold.claimed token htoken
  cases hc : markStarted fault now s.db t.command.correlationId token with
  | mk r db =>
      rcases r with e | u
      · dsimp only
        rw [transaction_error hc]
        have htick := h.tick hclock
        exact htick.put ((htick.task d t hmem).write (by simp))
      · have hf := h.fenced.started hclock hclaim hc
        have hfree : ∀ k digest, RowFree s.db k digest → RowFree db k digest := by
          intro k digest hfree
          have hcall : RowFree ((LedgerCall.markStarted fault now
              t.command.correlationId token).run cfg.ledger s.db).2 k digest :=
            hfree.call (Or.inr ⟨_, _, _, _, rfl⟩)
          simpa only [LedgerCall.run, hc] using hcall
        -- a row that may be claimed is not started by this commit
        have hother : ∀ k digest, RowFree s.db k digest → k ≠ t.command.correlationId := by
          intro k digest hfree hk
          obtain ⟨row, hrow, -, hactive, -⟩ := markStarted_ok hc
          have hstate := (hfree row (by rw [hk]; exact hrow)).1
          rw [hstate] at hactive
          cases hactive
        refine ⟨hf, ?_, ?_⟩
        · intro d' t' ht'
          by_cases hd : d' = d
          · subst hd
            obtain rfl : { t with write := .marked } = t' := by
              simpa [WriterState.put, WriterState.observe] using ht'
            refine ⟨hold.digest, hold.claimed, hold.held,
              fun hp => hfree _ _ (hold.free hp), fun hp token' => ?_,
              fun _ => ⟨token, htoken, List.mem_cons_self⟩⟩
            exact absurd rfl (hother _ _ (hold.free (Or.inr hp)))
          · have hold' := h.task d' t' (by
              simpa [WriterState.put, WriterState.observe, WriterState.at', hd] using ht')
            refine ⟨hold'.digest, hold'.claimed, hold'.held,
              fun hp => hfree _ _ (hold'.free hp), fun hp token' hmem' => ?_,
              fun hm => ?_⟩
            · have hne := hother _ _ (hold'.free (Or.inr hp))
              rcases List.mem_cons.1 hmem' with hx | hx
              · exact hne (congrArg Fact.commandId hx)
              · exact hold'.unstarted hp token' hx
            · obtain ⟨token', htoken', hstart⟩ := hold'.marked hm
              exact ⟨token', htoken', List.mem_cons_of_mem _ hstart⟩
        · intro d' c a digest token' f hmem'
          have hmem'' : Obs.frame d' c a digest token' f ∈ s.trace := by
            simpa [WriterState.put, WriterState.observe, WriterState.at'] using hmem'
          obtain ⟨hdigest, hstart⟩ := h.sent d' c a digest token' f hmem''
          exact ⟨hdigest, List.mem_cons_of_mem _ hstart⟩

omit [DecidableEq δ] [DecidableEq τ] in
/-- The process dies, or a new one takes over: no delivery is left. -/
theorem WriterInv.dropped (h : WriterInv cfg s) (up : Bool) :
    WriterInv cfg { s with up := up, tasks := fun _ => none, loop := none } where
  fenced := h.fenced
  task := by
    intro d t ht
    cases ht
  sent := h.sent

/-- A delivery passed the first checks and holds the loop. -/
theorem WriterInv.step_deliver (h : WriterInv cfg s) {message : WriterMessage δ τ}
    {now : ℚ} (hclock : s.clock ≤ now)
    (hs : step cfg s (.deliver message now) = some s') : WriterInv cfg s' := by
  simp only [step] at hs
  split at hs
  · next hidle =>
      have htick := h.tick hclock
      have hcount : WriterInv cfg { s.at' now s.db with deliveries := s.deliveries + 1 } :=
        ⟨htick.fenced, htick.task, htick.sent⟩
      cases ha : admission cfg now message with
      | error e =>
          simp only [ha] at hs
          rw [← Option.some.inj hs]
          exact hcount.replied _ _ _
      | ok r =>
          obtain ⟨request, digest⟩ := r
          simp only [ha] at hs
          rw [← Option.some.inj hs]
          have hdigest : commandDigest cfg.crypto request.command = .ok digest := by
            cases message with
            | malformed e => cases ha
            | unapproved correlationId e => cases ha
            | approved correlationId request' =>
                simp only [admission] at ha
                split at ha
                · cases ha
                · obtain ⟨u, -, ha⟩ := bind_eq_ok.1 ha
                  obtain ⟨digest', hdigest, ha⟩ := bind_eq_ok.1 ha
                  cases ha
                  exact hdigest
          -- the loop was free, so no other delivery is in a synchronous phase
          have hloop : WriterInv cfg { s.at' now s.db with
              deliveries := s.deliveries + 1, loop := some s.deliveries } := by
            refine ⟨hcount.fenced, fun d t ht => ?_, hcount.sent⟩
            have hold := hcount.task d t ht
            refine ⟨hold.digest, hold.claimed, fun hsync => ?_, hold.free,
              hold.unstarted, hold.marked⟩
            have hheld := hold.held hsync
            rw [show ({ s.at' now s.db with deliveries := s.deliveries + 1 } :
              WriterState δ τ).loop = none from hidle.2] at hheld
            cases hheld
          have hnew := hloop.put (d := s.deliveries) (t :=
            { command := request.command, approval := request.approval, digest })
            ⟨hdigest, by simp, fun _ => rfl, by simp, by simp, by simp⟩
          exact hnew.verified s.deliveries now
  · cases hs

theorem WriterInv.step_connect (h : WriterInv cfg s) {d previous draw : ℕ}
    (hs : step cfg s (.connect d previous draw) = some s') : WriterInv cfg s' := by
  obtain ⟨t, ht, rfl⟩ := Option.map_eq_some_iff.1 hs
  obtain ⟨hmem, -, -⟩ := write?_eq_some ht
  have hold := h.task d t hmem
  split
  · exact h.put (hold.write (by simp))
  · split
    · exact h.put (hold.write (by simp))
    · exact h.put (hold.write (by simp))

/-- `before_write`'s checks. -/
theorem WriterInv.step_check (h : WriterInv cfg s) {d : ℕ} {now : ℚ}
    (hclock : s.clock ≤ now) (hs : step cfg s (.check d now) = some s') :
    WriterInv cfg s' := by
  obtain ⟨t, ht, hs⟩ := Option.bind_eq_some_iff.1 hs
  obtain ⟨hmem, -, -⟩ := write?_eq_some ht
  have htick := h.tick hclock
  have hold := htick.task d t hmem
  split at hs
  · cases hs
  · split at hs
    · rw [← Option.some.inj hs]
      exact htick.put (hold.write (by simp))
    · rw [← Option.some.inj hs]
      exact (htick.put (hold.write (by simp))).verified d now

theorem WriterInv.step_recheck (h : WriterInv cfg s) {d : ℕ} {now : ℚ}
    (hclock : s.clock ≤ now) (hs : step cfg s (.recheck d now) = some s') :
    WriterInv cfg s' := by
  obtain ⟨t, ht, rfl⟩ := Option.map_eq_some_iff.1 hs
  obtain ⟨hmem, -, hstage⟩ := write?_eq_some ht
  have htick := h.tick hclock
  have hold := htick.task d t hmem
  split
  · exact htick.put (hold.write (by simp))
  · refine (htick.put ?_).verified d now
    have hmarked := hold.marked (Or.inl (by simpa using hstage))
    exact ⟨hold.digest, hold.claimed, hold.held, hold.free, hold.unstarted,
      fun _ => hmarked⟩

/-- A frame leaves: its write is ready, so it was started. -/
theorem WriterInv.step_send (h : WriterInv cfg s) {d : ℕ}
    (hs : step cfg s (.send d) = some s') : WriterInv cfg s' := by
  obtain ⟨t, hmem, hs⟩ := Option.bind_eq_some_iff.1 hs
  have hold := h.task d t hmem
  split at hs
  · next v token f frames hup hwrite htoken hframes =>
      rw [← Option.some.inj hs]
      refine (h.put (hold.write (by simp))).observe rfl rfl ?_
      intro d' c a digest token' f' ho
      obtain ⟨token'', htoken'', hstart⟩ := hold.marked (Or.inr ⟨v, hwrite⟩)
      obtain rfl := Option.some.inj (htoken.symm.trans htoken'')
      cases ho
      exact ⟨hold.digest, hstart⟩
  · cases hs

/-- `complete`, or the outer `except` after it raised. -/
theorem WriterInv.step_complete (h : WriterInv cfg s) {d : ℕ}
    {fault : Option PyError} {now : ℚ} {writtenAt : AwareDatetime}
    (hclock : s.clock ≤ now)
    (hs : step cfg s (.complete d fault now writtenAt) = some s') :
    WriterInv cfg s' := by
  obtain ⟨t, ht, hs⟩ := Option.bind_eq_some_iff.1 hs
  obtain ⟨hmem, -, hphase, hloop⟩ := handler?_eq_some ht
  split at hs
  · next token hwrite htoken =>
      have hcall := h.call (.complete fault now t.command.correlationId token writtenAt)
        rfl hclock (by simp [LedgerCall.pruneReading])
      cases hc : complete cfg.ledger fault now s.db t.command.correlationId token
          writtenAt with
      | mk r db =>
          simp only [LedgerCall.run, hc] at hcall hs
          have hold := hcall.task d t hmem
          cases r with
          | error e =>
              rw [← Option.some.inj hs]
              exact hcall.put (hold.retire rfl (Or.inl rfl))
          | ok result =>
              rw [← Option.some.inj hs]
              exact hcall.reply hold (Or.inr hloop) _
  · cases hs

/-- `fail` after the write raised, or the outer `except` after `fail` did. -/
theorem WriterInv.step_giveUp (h : WriterInv cfg s) {d : ℕ} {fault : Option PyError}
    {now : ℚ} (hclock : s.clock ≤ now)
    (hs : step cfg s (.giveUp d fault now) = some s') : WriterInv cfg s' := by
  obtain ⟨t, ht, hs⟩ := Option.bind_eq_some_iff.1 hs
  obtain ⟨hmem, -, hphase, hloop⟩ := handler?_eq_some ht
  split at hs
  · next e token hwrite htoken =>
      have hcall := h.call (.fail fault now t.command.correlationId token e.kind.name)
        rfl hclock (by simp [LedgerCall.pruneReading])
      cases hc : fail cfg.ledger fault now s.db t.command.correlationId token
          e.kind.name with
      | mk r db =>
          simp only [LedgerCall.run, hc] at hcall hs
          have hold := hcall.task d t hmem
          cases r with
          | error e =>
              rw [← Option.some.inj hs]
              exact hcall.put (hold.retire rfl (Or.inl rfl))
          | ok result =>
              rw [← Option.some.inj hs]
              exact hcall.reply hold (Or.inr hloop) _
  · cases hs

theorem WriterInv.step_catchAll (h : WriterInv cfg s) {d : ℕ}
    {fault : Option PyError} {now : ℚ} (hclock : s.clock ≤ now)
    (hs : step cfg s (.catchAll d fault now) = some s') : WriterInv cfg s' := by
  obtain ⟨t, ht, hs⟩ := Option.bind_eq_some_iff.1 hs
  obtain ⟨token, htoken, rfl⟩ := Option.map_eq_some_iff.1 hs
  obtain ⟨hmem, -, hphase, hloop⟩ := handler?_eq_some ht
  have hcall := h.call (.fail fault now t.command.correlationId token "ledger_failure")
    rfl hclock (by simp [LedgerCall.pruneReading])
  exact hcall.reply (hcall.task d t hmem) (Or.inr hloop) _

/-- The handler is cancelled; an S7 thread keeps its write. -/
theorem WriterInv.step_cancel (h : WriterInv cfg s) {d : ℕ} {fault : Option PyError}
    {now : ℚ} (hclock : s.clock ≤ now)
    (hs : step cfg s (.cancel d fault now) = some s') : WriterInv cfg s' := by
  obtain ⟨t, ht, hs⟩ := Option.bind_eq_some_iff.1 hs
  obtain ⟨hmem, -, hphase, hloop⟩ := handler?_eq_some ht
  split at hs
  · next token hrunning htoken =>
      have hcall := h.call
        (.fail fault now t.command.correlationId token "execution_cancelled")
        rfl hclock (by simp [LedgerCall.pruneReading])
      have hwrite : surviving cfg t = t.write ∨
          (surviving cfg t ≠ .marked ∧ ∀ v, surviving cfg t ≠ .ready v) := by
        unfold surviving
        split
        · exact Or.inl rfl
        · exact Or.inr (by simp)
      cases hc : fail cfg.ledger fault now s.db t.command.correlationId token
          "execution_cancelled" with
      | mk r db =>
          simp only [LedgerCall.run, hc] at hcall hs
          have hold := hcall.task d t hmem
          cases r with
          | error e =>
              rw [← Option.some.inj hs]
              exact hcall.put (hold.retire rfl hwrite)
          | ok result =>
              rw [← Option.some.inj hs]
              exact hcall.put (hold.retire rfl hwrite)
  · cases hs

/-- **Step lemma.**  Every step with a clock that does not go back keeps the
invariant. -/
theorem WriterInv.step (hK : CollisionFree cfg.crypto) {e : WriterEvent δ τ}
    (h : WriterInv cfg s) (hclock : ClockForward s e)
    (hs : Writer.step cfg s e = some s') : WriterInv cfg s' := by
  cases e with
  | restart now pruneAt =>
      simp only [Writer.step] at hs
      split at hs
      · next db hup hc =>
          have hcall := h.call (.recover none now pruneAt) rfl hclock.2
            (by simp [LedgerCall.pruneReading])
          simp only [LedgerCall.run, hc] at hcall
          rw [← Option.some.inj hs]
          exact hcall.dropped true
      · cases hs
  | crash =>
      simp only [Writer.step] at hs
      split at hs
      · rw [← Option.some.inj hs]
        exact h.dropped false
      · cases hs
  | deliver message now => exact h.step_deliver hclock hs
  | lookup d fault now => exact h.step_lookup hclock hs
  | verify d now => exact h.step_verify hclock hs
  | claim d fault pruneAt now token => exact h.step_claim hK hclock hs
  | connect d previous draw => exact h.step_connect hs
  | check d now => exact h.step_check hclock hs
  | mark d fault now => exact h.step_mark hclock hs
  | recheck d now => exact h.step_recheck hclock hs
  | send d => exact h.step_send hs
  | acknowledge d =>
      obtain ⟨t, ht, hs⟩ := Option.bind_eq_some_iff.1 hs
      split at hs
      · rw [← Option.some.inj hs]
        exact h.put ((h.task d t (write?_eq_some ht).1).write (by simp))
      · cases hs
  | raise d error =>
      obtain ⟨t, ht, rfl⟩ := Option.map_eq_some_iff.1 hs
      exact h.put ((h.task d t (write?_eq_some ht).1).write (by simp))
  | complete d fault now writtenAt => exact h.step_complete hclock hs
  | giveUp d fault now => exact h.step_giveUp hclock hs
  | escape d =>
      obtain ⟨t, ht, hs⟩ := Option.bind_eq_some_iff.1 hs
      split at hs
      · rw [← Option.some.inj hs]
        exact h.put ((h.task d t (handler?_eq_some ht).1).retire rfl
          (Or.inr (by simp)))
      · cases hs
  | catchAll d fault now => exact h.step_catchAll hclock hs
  | cancel d fault now => exact h.step_cancel hclock hs

/-- **Run lemma.** -/
theorem WriterInv.of_run (hK : CollisionFree cfg.crypto) {clock : ℚ}
    {es : List (WriterEvent δ τ)}
    (hclock : Run.Guarded (Writer.step cfg) ClockForward (.initial clock) es)
    (hrun : Run.exec (Writer.step cfg) (.initial clock) es = some s) :
    WriterInv cfg s :=
  Run.exec_invariant_of_guarded (fun _ _ _ h hG hs => h.step hK hG hs)
    (WriterInv.initial cfg clock) hclock hrun

/-- **At most one execution per command.**  In every run of the publisher from a
new database whose clock never goes back, with deliveries, checks, ledger
calls, failures, cancellations, worker threads, crashes and restarts in any
order: two frames sent for commands with one id and one digest were sent under
one claim token. -/
theorem at_most_once (hK : CollisionFree cfg.crypto) (clock : ℚ)
    (es : List (WriterEvent δ τ))
    (hclock : Run.Guarded (Writer.step cfg) ClockForward (.initial clock) es)
    (hrun : Run.exec (Writer.step cfg) (.initial clock) es = some s)
    {d d' : ℕ} {c c' : ActuationRequest} {a a' : SignedEvidence δ τ}
    {digest digest' : δ} {token token' : String} {f f' : Frame}
    (hf : Obs.frame d c a digest token f ∈ s.trace)
    (hf' : Obs.frame d' c' a' digest' token' f' ∈ s.trace)
    (hid : c.correlationId = c'.correlationId)
    (hdigest : commandDigest cfg.crypto c = commandDigest cfg.crypto c') :
    token = token' := by
  have hI := WriterInv.of_run hK hclock hrun
  obtain ⟨hd, hstart⟩ := hI.sent d c a digest token f hf
  obtain ⟨hd', hstart'⟩ := hI.sent d' c' a' digest' token' f' hf'
  have hsame : digest = digest' := Except.ok.inj (hd.symm.trans (hdigest.trans hd'))
  exact congrArg Fact.token (hI.fenced.starts_inj _ hstart _ hstart' hid hsame)

end Steps

/-- The handler is cancelled between the two frames of its worker thread, the
command is delivered again, and the process restarts in the end. -/
def cancelledRun : List (WriterEvent Json (String × EvidenceBody Json)) :=
  [.restart (fun _ => 1000) 1000] ++ Valve.claiming 0 1000 "t1" ++ [.connect 0 7 6] ++
    Valve.frame 0 1001 ++ [.check 0 1001, .mark 0 none 1001, .recheck 0 1002,
      .cancel 0 none 1002, .deliver Valve.message 1003, .lookup 1 none 1003, .send 0,
      .crash, .restart (fun _ => 1004) 1004]

/-- Both frames of the worker thread carry its token. -/
theorem at_most_once_example :
    ∃ s token token', Run.exec (step Valve.config) (.initial 1000) cancelledRun = some s ∧
      Obs.frame 0 Valve.command Valve.approval Valve.digest token
        (.dbWrite Valve.target 2 [0, 1, 0, 1]) ∈ s.trace ∧
      Obs.frame 0 Valve.command Valve.approval Valve.digest token'
        (.dbWrite Valve.target 0 [0, 8]) ∈ s.trace ∧ token = token' := by
  obtain ⟨s, hs, hframes⟩ : ∃ s,
      Run.exec (step Valve.config) (.initial 1000) cancelledRun = some s ∧
        Obs.frame 0 Valve.command Valve.approval Valve.digest "t1"
          (.dbWrite Valve.target 2 [0, 1, 0, 1]) ∈ s.trace ∧
        Obs.frame 0 Valve.command Valve.approval Valve.digest "t1"
          (.dbWrite Valve.target 0 [0, 8]) ∈ s.trace :=
    Run.exists_exec (by decide +kernel)
  exact ⟨s, "t1", "t1", hs, hframes.1, hframes.2,
    at_most_once Valve.collisionFree 1000 cancelledRun (by decide +kernel) hs
      hframes.1 hframes.2 rfl rfl⟩

end EirvahEdge.Writer
