import EirvahEdge.Writer.AtMostOnce

/-!
# What a retryable row and a dead token mean

Two consequences of the fences for a command that may be tried again.

With a clock that never goes back, nothing was sent for a command whose row is
preparing or retryable.  The order of the clock is needed: a row that was pruned
too early is inserted again while the worker thread of its old token still holds
a frame (`untouched_needs_clock`).

A token that lost its row stays dead whatever the clock does, because a row gets
a token only from `claim` and `claim` draws a new one.
-/

namespace EirvahEdge.Writer

open EirvahEdge.Lib
open EirvahEdge.Contracts

variable {δ τ : Type} [DecidableEq δ]

/-! ## Dead tokens -/

/-- The token a claim would give out. -/
def LedgerCall.grants? : LedgerCall δ → Option String
  | .claim _ _ _ token _ _ _ => some token
  | .lookup .. | .markStarted .. | .complete .. | .fail .. | .recover .. => none

/-- Only a claim brings a row under a token. -/
theorem HoldsClaim.of_call {cfg : LedgerConfig} {db : Commands δ}
    {call : LedgerCall δ} {k token : String}
    (h : HoldsClaim (call.run cfg db).2 k token) :
    HoldsClaim db k token ∨ call.grants? = some token := by
  obtain ⟨row', hrow', htoken, hactive⟩ := h
  have heffect := call.effect cfg db k
  rw [hrow'] at heffect
  cases hold : db.lookup k with
  | none =>
      rw [hold] at heffect
      cases heffect with
      | create fault pruneAt now token' commandId digest deadline hcall =>
          right
          rw [hcall]
          exact htoken
  | some row =>
      rw [hold] at heffect
      cases heffect with
      | create fault pruneAt now token' commandId digest deadline hcall =>
          right
          rw [hcall]
          exact htoken
      | step hstep =>
          cases hstep with
          | keep => exact Or.inl ⟨_, hold, htoken, hactive⟩
          | reclaim => exact Or.inr htoken
          | start _ now token' _ ha => exact Or.inl ⟨_, hold, htoken, ha⟩
          | complete => cases htoken
          | fail => cases htoken
          | recover => cases htoken

omit [DecidableEq δ] in
/-- A call under a token that does not hold the row raises and changes
nothing. -/
theorem dead_token_calls (cfg : LedgerConfig) {db : Commands δ} {k token : String}
    (h : ¬ HoldsClaim db k token) (fault : Option PyError) (now : ℚ)
    (reason : String) (writtenAt : AwareDatetime) :
    (∃ e, markStarted fault now db k token = (.error e, db)) ∧
    (∃ e, complete cfg fault now db k token writtenAt = (.error e, db)) ∧
    (∃ e, fail cfg fault now db k token reason = (.error e, db)) := by
  refine ⟨?_, ?_, ?_⟩
  · cases hc : markStarted fault now db k token with
    | mk r db' =>
        cases r with
        | error e => exact ⟨e, by rw [transaction_error hc]⟩
        | ok u =>
            obtain ⟨row, hrow, htoken, hactive, -⟩ := markStarted_ok hc
            exact absurd ⟨row, hrow, htoken, hactive⟩ h
  · cases hc : complete cfg fault now db k token writtenAt with
    | mk r db' =>
        cases r with
        | error e => exact ⟨e, by rw [transaction_error hc]⟩
        | ok u =>
            obtain ⟨-, row, hrow, htoken, hstate, -⟩ := complete_ok hc
            exact absurd ⟨row, hrow, htoken, by rw [hstate]; rfl⟩ h
  · cases hc : fail cfg fault now db k token reason with
    | mk r db' =>
        cases r with
        | error e => exact ⟨e, by rw [transaction_error hc]⟩
        | ok u =>
            obtain ⟨row, hrow, htoken, hactive, -⟩ := fail_ok hc
            exact absurd ⟨row, hrow, htoken, hactive⟩ h

/-! ## Steps of the publisher -/

variable [DecidableEq τ] {cfg : WriterConfig δ τ} {s s' : WriterState δ τ}

/-- A step makes at most one ledger call, its claim draws a fresh token, and
what was observed stays observed. -/
theorem step_call {e : WriterEvent δ τ} (hs : step cfg s e = some s') :
    (∀ o ∈ s.trace, o ∈ s'.trace) ∧
    (s'.db = s.db ∨ ∃ call : LedgerCall δ, s'.db = (call.run cfg.ledger s.db).2 ∧
      ∀ token, call.grants? = some token → token ∉ (claimsOf s.trace).map Fact.token) := by
  -- a call that gives out no token
  have hquiet (db : Commands δ) (call : LedgerCall δ)
      (hdb : db = (call.run cfg.ledger s.db).2) (hnone : call.grants? = none) :
      db = s.db ∨ ∃ call : LedgerCall δ, db = (call.run cfg.ledger s.db).2 ∧
        ∀ token, call.grants? = some token →
          token ∉ (claimsOf s.trace).map Fact.token :=
    Or.inr ⟨call, hdb, by simp [hnone]⟩
  cases e with
  | restart now pruneAt =>
      simp only [step] at hs
      split at hs
      · next db hup hc =>
          rw [← Option.some.inj hs]
          exact ⟨fun o ho => ho,
            hquiet _ (.recover none now pruneAt)
              (by simp [LedgerCall.run, hc, WriterState.at']) rfl⟩
      · cases hs
  | crash =>
      simp only [step] at hs
      split at hs
      · rw [← Option.some.inj hs]
        exact ⟨fun o ho => ho, Or.inl rfl⟩
      · cases hs
  | deliver message now =>
      simp only [step] at hs
      split at hs
      · split at hs
        · rw [← Option.some.inj hs]
          exact ⟨fun o ho => List.mem_cons_of_mem _ ho, Or.inl rfl⟩
        · rw [← Option.some.inj hs]
          exact ⟨fun o ho => List.mem_cons_of_mem _ ho, Or.inl rfl⟩
      · cases hs
  | lookup d fault now =>
      obtain ⟨t, ht, rfl⟩ := Option.map_eq_some_iff.1 hs
      have hcall (db : Commands δ) (r) (hc : lookup fault now s.db
          t.command.correlationId t.digest = (r, db)) :=
        hquiet db (.lookup fault now t.command.correlationId t.digest)
          (by simp [LedgerCall.run, hc]) rfl
      split
      · next e db hc => exact ⟨fun o ho => List.mem_cons_of_mem _ ho, hcall db _ hc⟩
      · next db hc => exact ⟨fun o ho => ho, hcall db _ hc⟩
      · next r db hc =>
          split
          · exact ⟨fun o ho => ho, hcall db _ hc⟩
          · exact ⟨fun o ho => List.mem_cons_of_mem _ ho, hcall db _ hc⟩
  | verify d now =>
      obtain ⟨t, ht, rfl⟩ := Option.map_eq_some_iff.1 hs
      split
      · exact ⟨fun o ho => List.mem_cons_of_mem _ ho, Or.inl rfl⟩
      · exact ⟨fun o ho => List.mem_cons_of_mem _ ho, Or.inl rfl⟩
  | claim d fault pruneAt now token =>
      simp only [step] at hs
      split at hs
      · cases hs
      · next hfresh =>
          obtain ⟨t, ht, rfl⟩ := Option.map_eq_some_iff.1 hs
          have hcall (db : Commands δ) (r) (hc : claim cfg.ledger fault pruneAt now token
              s.db t.command.correlationId t.digest (claimDeadline cfg t.command) =
              (r, db)) : db = s.db ∨ ∃ call : LedgerCall δ,
                db = (call.run cfg.ledger s.db).2 ∧ ∀ token, call.grants? = some token →
                  token ∉ (claimsOf s.trace).map Fact.token := by
            refine Or.inr ⟨.claim fault pruneAt now token t.command.correlationId
              t.digest (claimDeadline cfg t.command), by simp [LedgerCall.run, hc], ?_⟩
            intro token' htoken'
            rw [← Option.some.inj htoken']
            exact hfresh
          split
          · next hc => exact ⟨fun o ho => List.mem_cons_of_mem _ ho, hcall _ _ hc⟩
          · next hc => exact ⟨fun o ho => List.mem_cons_of_mem _ ho, hcall _ _ hc⟩
          · next hc => exact ⟨fun o ho => List.mem_cons_of_mem _ ho, hcall _ _ hc⟩
          · next hc => exact ⟨fun o ho => List.mem_cons_of_mem _ ho, hcall _ _ hc⟩
  | connect d previous draw =>
      obtain ⟨t, ht, rfl⟩ := Option.map_eq_some_iff.1 hs
      split
      · exact ⟨fun o ho => ho, Or.inl rfl⟩
      · split
        · exact ⟨fun o ho => ho, Or.inl rfl⟩
        · exact ⟨fun o ho => ho, Or.inl rfl⟩
  | check d now =>
      obtain ⟨t, ht, hs⟩ := Option.bind_eq_some_iff.1 hs
      split at hs
      · cases hs
      · split at hs
        · rw [← Option.some.inj hs]
          exact ⟨fun o ho => ho, Or.inl rfl⟩
        · rw [← Option.some.inj hs]
          exact ⟨fun o ho => List.mem_cons_of_mem _ ho, Or.inl rfl⟩
  | mark d fault now =>
      obtain ⟨t, ht, hs⟩ := Option.bind_eq_some_iff.1 hs
      obtain ⟨token, htoken, rfl⟩ := Option.map_eq_some_iff.1 hs
      have hcall (db : Commands δ) (r) (hc : markStarted fault now s.db
          t.command.correlationId token = (r, db)) :=
        hquiet db (.markStarted fault now t.command.correlationId token)
          (by simp [LedgerCall.run, hc]) rfl
      split
      · next hc => exact ⟨fun o ho => ho, hcall _ _ hc⟩
      · next hc => exact ⟨fun o ho => List.mem_cons_of_mem _ ho, hcall _ _ hc⟩
  | recheck d now =>
      obtain ⟨t, ht, rfl⟩ := Option.map_eq_some_iff.1 hs
      split
      · exact ⟨fun o ho => ho, Or.inl rfl⟩
      · exact ⟨fun o ho => List.mem_cons_of_mem _ ho, Or.inl rfl⟩
  | send d =>
      obtain ⟨t, hmem, hs⟩ := Option.bind_eq_some_iff.1 hs
      split at hs
      · rw [← Option.some.inj hs]
        exact ⟨fun o ho => List.mem_cons_of_mem _ ho, Or.inl rfl⟩
      · cases hs
  | acknowledge d =>
      obtain ⟨t, ht, hs⟩ := Option.bind_eq_some_iff.1 hs
      split at hs
      · rw [← Option.some.inj hs]
        exact ⟨fun o ho => ho, Or.inl rfl⟩
      · cases hs
  | raise d error =>
      obtain ⟨t, ht, rfl⟩ := Option.map_eq_some_iff.1 hs
      exact ⟨fun o ho => ho, Or.inl rfl⟩
  | complete d fault now writtenAt =>
      obtain ⟨t, ht, hs⟩ := Option.bind_eq_some_iff.1 hs
      split at hs
      · next token hwrite htoken =>
          have hcall (db : Commands δ) (r) (hc : complete cfg.ledger fault now s.db
              t.command.correlationId token writtenAt = (r, db)) :=
            hquiet db (.complete fault now t.command.correlationId token writtenAt)
              (by simp [LedgerCall.run, hc]) rfl
          split at hs
          · next hc =>
              rw [← Option.some.inj hs]
              exact ⟨fun o ho => ho, hcall _ _ hc⟩
          · next hc =>
              rw [← Option.some.inj hs]
              exact ⟨fun o ho => List.mem_cons_of_mem _ ho, hcall _ _ hc⟩
      · cases hs
  | giveUp d fault now =>
      obtain ⟨t, ht, hs⟩ := Option.bind_eq_some_iff.1 hs
      split at hs
      · next e token hwrite htoken =>
          have hcall (db : Commands δ) (r) (hc : fail cfg.ledger fault now s.db
              t.command.correlationId token e.kind.name = (r, db)) :=
            hquiet db (.fail fault now t.command.correlationId token e.kind.name)
              (by simp [LedgerCall.run, hc]) rfl
          split at hs
          · next hc =>
              rw [← Option.some.inj hs]
              exact ⟨fun o ho => ho, hcall _ _ hc⟩
          · next hc =>
              rw [← Option.some.inj hs]
              exact ⟨fun o ho => List.mem_cons_of_mem _ ho, hcall _ _ hc⟩
      · cases hs
  | escape d =>
      obtain ⟨t, ht, hs⟩ := Option.bind_eq_some_iff.1 hs
      split at hs
      · rw [← Option.some.inj hs]
        exact ⟨fun o ho => ho, Or.inl rfl⟩
      · cases hs
  | catchAll d fault now =>
      obtain ⟨t, ht, hs⟩ := Option.bind_eq_some_iff.1 hs
      obtain ⟨token, htoken, rfl⟩ := Option.map_eq_some_iff.1 hs
      exact ⟨fun o ho => List.mem_cons_of_mem _ ho,
        hquiet _ (.fail fault now t.command.correlationId token "ledger_failure") rfl rfl⟩
  | cancel d fault now =>
      obtain ⟨t, ht, hs⟩ := Option.bind_eq_some_iff.1 hs
      split at hs
      · next token hrunning htoken =>
          have hcall (db : Commands δ) (r) (hc : fail cfg.ledger fault now s.db
              t.command.correlationId token "execution_cancelled" = (r, db)) :=
            hquiet db
              (.fail fault now t.command.correlationId token "execution_cancelled")
              (by simp [LedgerCall.run, hc]) rfl
          split at hs
          · next hc =>
              rw [← Option.some.inj hs]
              exact ⟨fun o ho => ho, hcall _ _ hc⟩
          · next hc =>
              rw [← Option.some.inj hs]
              exact ⟨fun o ho => ho, hcall _ _ hc⟩
      · cases hs

/-- A token that was given out and lost its row never gets it back. -/
theorem dead_token_step {e : WriterEvent δ τ} (hs : step cfg s e = some s')
    {x : Fact δ} (hx : x ∈ claimsOf s.trace)
    (hdead : ¬ HoldsClaim s.db x.commandId x.token) :
    x ∈ claimsOf s'.trace ∧ ¬ HoldsClaim s'.db x.commandId x.token := by
  obtain ⟨htrace, hdb⟩ := step_call hs
  refine ⟨?_, fun hholds => ?_⟩
  · obtain ⟨o, ho, hclaim⟩ := List.mem_filterMap.1 hx
    exact List.mem_filterMap.2 ⟨o, htrace o ho, hclaim⟩
  · rcases hdb with hdb | ⟨call, hdb, hfresh⟩
    · rw [hdb] at hholds
      exact hdead hholds
    · rw [hdb] at hholds
      rcases HoldsClaim.of_call hholds with hold | hgrant
      · exact hdead hold
      · exact hfresh x.token hgrant (List.mem_map_of_mem hx)

theorem dead_token_run {es : List (WriterEvent δ τ)}
    (hrun : Run.exec (step cfg) s es = some s') {x : Fact δ}
    (hx : x ∈ claimsOf s.trace) (hdead : ¬ HoldsClaim s.db x.commandId x.token) :
    ¬ HoldsClaim s'.db x.commandId x.token :=
  (Run.exec_invariant (I := fun s => x ∈ claimsOf s.trace ∧
      ¬ HoldsClaim s.db x.commandId x.token)
    (fun _ _ _ h hs => dead_token_step hs h.1 h.2) ⟨hx, hdead⟩ hrun).2

/-- **Retryable means untouched.**  In a run whose clock never goes back, no
frame was sent for a command whose row is preparing or retryable.  In any run,
once the row of a token became retryable, unknown or completed, was claimed
again under another token or is gone, `mark_started`, `complete` and `fail`
under that token raise and change nothing, now and ever after. -/
theorem retryable_untouched (hK : CollisionFree cfg.crypto) (clock : ℚ)
    (es : List (WriterEvent δ τ))
    (hrun : Run.exec (step cfg) (.initial clock) es = some s) :
    (Run.Guarded (step cfg) ClockForward (.initial clock) es →
      ∀ row ∈ s.db.rows, row.state = .preparing ∨ row.state = .retryable →
        ∀ d c a token f, Obs.frame d c a row.digest token f ∈ s.trace →
          c.correlationId ≠ row.commandId) ∧
    ∀ x ∈ claimsOf s.trace,
      (∀ row, s.db.lookup x.commandId = some row → row.state = .retryable ∨
        row.state = .unknown ∨ row.state = .completed ∨ row.token ≠ some x.token) →
      ∀ fs s'', Run.exec (step cfg) s fs = some s'' →
        ∀ fault now reason writtenAt,
          (∃ e, markStarted fault now s''.db x.commandId x.token = (.error e, s''.db)) ∧
          (∃ e, complete cfg.ledger fault now s''.db x.commandId x.token writtenAt =
            (.error e, s''.db)) ∧
          (∃ e, fail cfg.ledger fault now s''.db x.commandId x.token reason =
            (.error e, s''.db)) := by
  refine ⟨fun hclock row hmem hstate d c a token f hframe hid => ?_,
    fun x hx hlost fs s'' hrest fault now reason writtenAt => ?_⟩
  · have hI := WriterInv.of_run hK hclock hrun
    have hstart := (hI.sent d c a row.digest token f hframe).2
    rcases hI.fenced.start_state _ hstart row
      (by rw [hid]; exact Table.lookup_key hmem) rfl with hs | hs | hs
    · rcases hstate with h | h <;> rw [h] at hs <;> cases hs.1
    · rcases hstate with h | h <;> rw [h] at hs <;> cases hs
    · rcases hstate with h | h <;> rw [h] at hs <;> cases hs
  · have hdead : ¬ HoldsClaim s.db x.commandId x.token := by
      rintro ⟨row, hrow, htoken, hactive⟩
      rcases hlost row hrow with h | h | h | h
      · simp [h, CommandState.active] at hactive
      · simp [h, CommandState.active] at hactive
      · simp [h, CommandState.active] at hactive
      · exact h htoken
    exact dead_token_calls cfg.ledger (dead_token_run hrest hx hdead) fault now reason
      writtenAt

/-- The first attempt is cancelled before its started commit, and the command
is claimed again while the worker thread of the first attempt lives on. -/
def reclaimedRun : List (WriterEvent Json (String × EvidenceBody Json)) :=
  [.restart (fun _ => 1000) 1000] ++ Valve.claiming 0 1000 "t1" ++
    [.connect 0 7 6, .check 0 1001, .cancel 0 none 1001] ++ Valve.claiming 1 1002 "t2"

/-- Nothing was sent for the command, which is preparing again, and the thread of the
first attempt cannot start its write any more. -/
theorem retryable_untouched_example :
    ∃ s e, Run.exec (step Valve.config) (.initial 1000) reclaimedRun = some s ∧
      (∀ d c a token f, Obs.frame d c a Valve.digest token f ∈ s.trace →
        c.correlationId ≠ Valve.command.correlationId) ∧
      markStarted none 1003 s.db Valve.command.correlationId "t1" = (.error e, s.db) := by
  obtain ⟨s, hs, hclaimed, hrow⟩ : ∃ s,
      Run.exec (step Valve.config) (.initial 1000) reclaimedRun = some s ∧
        ⟨Valve.command.correlationId, Valve.digest, "t1"⟩ ∈ claimsOf s.trace ∧
        ((s.db.lookup Valve.command.correlationId).any fun row =>
          decide (row.state = .preparing ∧ row.digest = Valve.digest ∧
            row.token ≠ some "t1")) = true :=
    Run.exists_exec (by decide +kernel)
  obtain ⟨row, hlookup, hat⟩ := (Option.any_eq_true _ _).1 hrow
  obtain ⟨hpreparing, hdigest, htoken⟩ := of_decide_eq_true hat
  have hclock : Run.Guarded (step Valve.config) ClockForward (.initial 1000) reclaimedRun := by
    decide +kernel
  obtain ⟨huntouched, hlost⟩ := retryable_untouched Valve.collisionFree 1000 reclaimedRun hs
  obtain ⟨e, he⟩ := (hlost ⟨Valve.command.correlationId, Valve.digest, "t1"⟩ hclaimed
    (fun row' hrow' => by
      obtain rfl : row = row' := Option.some.inj (hlookup.symm.trans hrow')
      exact Or.inr (Or.inr (Or.inr htoken))) [] s rfl none 1003 "late" (.ofMicros 0)).1
  obtain ⟨hmem, hid⟩ := Table.lookup_eq_some_iff.1 hlookup
  refine ⟨s, e, hs, fun d c a token f hframe => ?_, he⟩
  rw [← hdigest] at hframe
  rw [← hid]
  exact huntouched hclock row hmem (Or.inl hpreparing) d c a token f hframe

/-- The started row is pruned by a reading more than a day ahead, the clock is
set back, and the command is claimed again before the old thread sends. -/
def setBackRun : List (WriterEvent Json (String × EvidenceBody Json)) :=
  [.restart (fun _ => 1000) 1000] ++ Valve.claiming 0 1000 "t1" ++
    [.connect 0 7 6, .check 0 1001, .mark 0 none 1001, .recheck 0 1001,
      .cancel 0 none 1002, .deliver Valve.message 90000, .lookup 1 none 90000,
      .verify 1 1005, .claim 1 none 1005 1005 "t2", .send 0]

/-- A frame goes out while the row inserted before it is preparing. -/
theorem untouched_needs_clock :
    ∃ s row f sent, Run.exec (step Valve.config) (.initial 1000) setBackRun = some s ∧
      s.db.lookup Valve.command.correlationId = some row ∧ row.state = .preparing ∧
      row.digest = Valve.digest ∧ row.token = some "t2" ∧
      s.trace =
        .frame 0 Valve.command Valve.approval Valve.digest "t1" f :: sent ∧
      .claimed 1 Valve.command.correlationId Valve.digest "t2" ∈ sent := by
  obtain ⟨s, hs, hrow, hhead, htail⟩ : ∃ s,
      Run.exec (step Valve.config) (.initial 1000) setBackRun = some s ∧
        (s.db.lookup Valve.command.correlationId).map (fun row =>
          (row.state, row.digest, row.token)) =
            some (.preparing, Valve.digest, some "t2") ∧
        s.trace.head? = some (.frame 0 Valve.command Valve.approval Valve.digest "t1"
          (.dbWrite Valve.target 2 [0, 1, 0, 1])) ∧
        .claimed 1 Valve.command.correlationId Valve.digest "t2" ∈ s.trace.tail :=
    Run.exists_exec (by decide +kernel)
  obtain ⟨row, hrow, hcolumns⟩ := Option.map_eq_some_iff.1 hrow
  simp only [Prod.mk.injEq] at hcolumns
  exact ⟨s, row, _, s.trace.tail, hs, hrow, hcolumns.1, hcolumns.2.1, hcolumns.2.2,
    List.eq_cons_of_mem_head? hhead, htail⟩

end EirvahEdge.Writer
