import EirvahEdge.Lib.Run
import EirvahEdge.Writer.Ledger
import Mathlib.Logic.Function.Basic

/-!
# What every history of ledger calls keeps

A row goes through a `Lifecycle`: claimed, started, and settled as completed,
retryable or unknown.  The five columns that change are one of its five shapes
(`CommandRow.Shows`), so a row whose columns contradict each other is none.

`RowStep` is everything a call can make of a row it does not delete, and
`LedgerCall.effect` says that a call does one of these to every row, or deletes
an expired one, or inserts a claimed one.  The representation invariant is then
preserved row by row.  It needs nothing of the clock.
-/

namespace EirvahEdge.Writer

open EirvahEdge.Lib
open EirvahEdge.Contracts

variable {δ : Type}

/-! ## The life of a row -/

/-- Where a command stands, with what is known there and nothing else. -/
inductive Lifecycle where
  | preparing (token : String)
  | started (token : String) (startedAt : ℚ)
  | completed (startedAt : ℚ) (writtenAt : AwareDatetime)
  | retryable (reason : String)
  | unknown (startedAt : ℚ) (reason : String)
deriving DecidableEq, Repr

namespace Lifecycle

def state : Lifecycle → CommandState
  | .preparing _ => .preparing
  | .started .. => .started
  | .completed .. => .completed
  | .retryable _ => .retryable
  | .unknown .. => .unknown

def token : Lifecycle → Option String
  | .preparing token | .started token _ => some token
  | .completed .. | .retryable _ | .unknown .. => none

def startedAt : Lifecycle → Option ℚ
  | .started _ t | .completed t _ | .unknown t _ => some t
  | .preparing _ | .retryable _ => none

def result : Lifecycle → Option WriteResult
  | .preparing _ | .started .. => none
  | .completed _ writtenAt => some (completedResult writtenAt)
  | .retryable reason => some (settledResult .preparing reason)
  | .unknown _ reason => some (settledResult .started reason)

end Lifecycle

/-- The columns of the row are those of this point of its life. -/
structure CommandRow.Shows (row : CommandRow δ) (l : Lifecycle) : Prop where
  state : row.state = l.state
  token : row.token = l.token
  startedAt : row.startedAt = l.startedAt
  result : row.result = l.result

/-- The correlations between the columns of one row. -/
structure CommandRow.WellFormed (row : CommandRow δ) : Prop where
  token_iff : row.token.isSome ↔
    row.state = .preparing ∨ row.state = .started
  startedAt_iff : row.startedAt.isSome ↔
    row.state = .started ∨ row.state = .completed ∨ row.state = .unknown
  result_iff : row.result.isSome ↔
    row.state = .completed ∨ row.state = .retryable ∨ row.state = .unknown
  completed : row.state = .completed → ∃ r writtenAt, row.result = some r ∧
    r.outcome = .completed ∧ r.writtenAt = some writtenAt
  retryable : row.state = .retryable → ∃ r, row.result = some r ∧
    r.outcome = .notExecuted ∧ r.retryable = true
  unknown : row.state = .unknown → ∃ r, row.result = some r ∧
    r.outcome = .unknown

/-- The columns of a point of a life do not contradict each other. -/
theorem CommandRow.Shows.wellFormed {row : CommandRow δ} {l : Lifecycle}
    (h : row.Shows l) : row.WellFormed := by
  obtain ⟨hstate, htoken, hstarted, hresult⟩ := h
  constructor <;> rw [hstate] <;> cases l <;>
    simp_all [Lifecycle.state, Lifecycle.token, Lifecycle.startedAt,
      Lifecycle.result, completedResult, settledResult]

/-- The answer to a delivery of the command itself. -/
def Lifecycle.reply (l : Lifecycle) : WriteResult :=
  match l.result with
  | some result => { result with replayed := true }
  | none =>
      { outcome := .pending, reason := some "execution_in_progress", replayed := true }

/-- The answer to a delivery of another command under the same id. -/
def conflictReply : WriteResult :=
  { outcome := .conflict, reason := some "command_id_reused", replayed := true }

/-- A row that shows a point of a life answers every delivery. -/
theorem CommandRow.Shows.resultOf_eq [DecidableEq δ] {row : CommandRow δ}
    {l : Lifecycle} (h : row.Shows l) (digest : δ) :
    resultOf row digest = .ok (if row.digest = digest then l.reply else conflictReply) := by
  unfold resultOf
  by_cases hdigest : row.digest = digest
  · rw [if_neg (not_not.2 hdigest), if_pos hdigest, h.state, h.result]
    cases l with
    | preparing token => rfl
    | started token t => rfl
    | completed t w => rfl
    | retryable reason => rfl
    | unknown t reason => rfl
  · rw [if_pos hdigest, if_neg hdigest]
    rfl

/-- Only a completed row answers that the write completed. -/
theorem CommandRow.Shows.completed_of_reply [DecidableEq δ] {row : CommandRow δ}
    {l : Lifecycle} (h : row.Shows l) {digest : δ} {r : WriteResult}
    (hr : resultOf row digest = .ok r) (hcompleted : r.outcome = .completed) :
    ∃ w, row.state = .completed ∧ row.result = some (completedResult w) ∧
      r.writtenAt = some w := by
  rw [h.resultOf_eq] at hr
  obtain rfl := Except.ok.inj hr
  split at hcompleted
  · next hdigest =>
      rw [if_pos hdigest]
      cases l with
      | completed t w => exact ⟨w, h.state, h.result, rfl⟩
      | preparing token => simp [Lifecycle.reply, Lifecycle.result] at hcompleted
      | started token t => simp [Lifecycle.reply, Lifecycle.result] at hcompleted
      | retryable reason =>
          simp [Lifecycle.reply, Lifecycle.result, settledResult] at hcompleted
      | unknown t reason =>
          simp [Lifecycle.reply, Lifecycle.result, settledResult] at hcompleted
  · simp [conflictReply] at hcompleted

/-- Only a retryable row answers its own command that the write may be retried
or was not executed. -/
theorem CommandRow.Shows.retryable_of_reply [DecidableEq δ] {row : CommandRow δ}
    {l : Lifecycle} (h : row.Shows l) {digest : δ} {r : WriteResult}
    (hr : resultOf row digest = .ok r)
    (hretry : r.retryable = true ∨ r.outcome = .notExecuted) :
    row.state = .retryable ∧ row.digest = digest := by
  rw [h.resultOf_eq] at hr
  obtain rfl := Except.ok.inj hr
  by_cases hdigest : row.digest = digest
  · rw [if_pos hdigest] at hretry
    refine ⟨?_, hdigest⟩
    rw [h.state]
    cases l <;> simp_all [Lifecycle.reply, Lifecycle.result, completedResult,
      settledResult, Lifecycle.state]
  · rw [if_neg hdigest] at hretry
    simp [conflictReply] at hretry

/-! ## Calls -/

/-- One call with the clock readings it takes and the exception SQLite raises
in it, if any. -/
inductive LedgerCall (δ : Type) where
  | lookup (fault : Option PyError) (now : ℚ) (commandId : String) (digest : δ)
  | claim (fault : Option PyError) (pruneAt now : ℚ) (token commandId : String)
      (digest : δ) (deadline : ℚ)
  | markStarted (fault : Option PyError) (now : ℚ) (commandId token : String)
  | complete (fault : Option PyError) (now : ℚ) (commandId token : String)
      (writtenAt : AwareDatetime)
  | fail (fault : Option PyError) (now : ℚ) (commandId token reason : String)
  | recover (fault : Option PyError) (now : String → ℚ) (pruneAt : ℚ)

/-- What a call returns. -/
inductive LedgerReply where
  | found (result : Option WriteResult)
  | claimed (claim : Claim)
  | settled (result : WriteResult)
  | done
deriving DecidableEq, Repr

/-- The reading `_prune` takes in the call. -/
def LedgerCall.pruneReading : LedgerCall δ → Option ℚ
  | .lookup _ now .. => some now
  | .claim _ pruneAt .. => some pruneAt
  | .recover _ _ pruneAt => some pruneAt
  | .markStarted .. | .complete .. | .fail .. => none

/-- The calls of `CommandLedger` on a table. -/
def LedgerCall.run [DecidableEq δ] (cfg : LedgerConfig) (db : Commands δ) :
    LedgerCall δ → Except PyError LedgerReply × Commands δ
  | .lookup fault now commandId digest =>
      let (r, db) := Writer.lookup fault now db commandId digest
      (r.map .found, db)
  | .claim fault pruneAt now token commandId digest deadline =>
      let (r, db) :=
        Writer.claim cfg fault pruneAt now token db commandId digest deadline
      (r.map .claimed, db)
  | .markStarted fault now commandId token =>
      let (r, db) := Writer.markStarted fault now db commandId token
      (r.map fun _ => .done, db)
  | .complete fault now commandId token writtenAt =>
      let (r, db) := Writer.complete cfg fault now db commandId token writtenAt
      (r.map .settled, db)
  | .fail fault now commandId token reason =>
      let (r, db) := Writer.fail cfg fault now db commandId token reason
      (r.map .settled, db)
  | .recover fault now pruneAt =>
      let (r, db) := Writer.recover cfg fault now pruneAt db
      (r.map fun _ => .done, db)

/-! ## What a call does to one row -/

/-- What each call can make of a row it keeps. -/
inductive RowStep (cfg : LedgerConfig) (r : CommandRow δ) :
    LedgerCall δ → CommandRow δ → Prop
  | keep (call : LedgerCall δ) : RowStep cfg r call r
  | reclaim (fault : Option PyError) (pruneAt now : ℚ) (token : String)
      (deadline : ℚ) (h : r.state = .retryable) :
      RowStep cfg r (.claim fault pruneAt now token r.commandId r.digest deadline)
        (r.reclaimed token (cfg.keepFrom (max now deadline)))
  | start (fault : Option PyError) (now : ℚ) (token : String)
      (htoken : r.token = some token) (h : r.state.active = true) :
      RowStep cfg r (.markStarted fault now r.commandId token) (r.startedRow now)
  | complete (fault : Option PyError) (now : ℚ) (token : String)
      (writtenAt : AwareDatetime) (htoken : r.token = some token)
      (h : r.state = .started) :
      RowStep cfg r (.complete fault now r.commandId token writtenAt)
        (r.completedRow cfg now writtenAt)
  | fail (fault : Option PyError) (now : ℚ) (token reason : String)
      (htoken : r.token = some token) (h : r.state.active = true) :
      RowStep cfg r (.fail fault now r.commandId token reason)
        (r.settledAs r.state reason (cfg.keepFrom now))
  | recover (fault : Option PyError) (now : String → ℚ) (pruneAt : ℚ)
      (h : r.state.active = true) :
      RowStep cfg r (.recover fault now pruneAt) (r.recovered cfg now r)

/-- Starting a claimed row leads to the started point of its life. -/
theorem CommandRow.Shows.startedRow {r : CommandRow δ} {l : Lifecycle}
    (hl : r.Shows l) (h : r.state.active = true) (now : ℚ) :
    ∃ l', (r.startedRow now).Shows l' := by
  have hstate := hl.state
  cases l with
  | preparing token =>
      refine ⟨.started token now, rfl, hl.token, ?_, hl.result⟩
      simp [CommandRow.startedRow, hl.startedAt, Lifecycle.startedAt]
  | started token t =>
      refine ⟨.started token t, rfl, hl.token, ?_, hl.result⟩
      simp [CommandRow.startedRow, hl.startedAt, Lifecycle.startedAt]
  | completed t w => simp [hstate, Lifecycle.state, CommandState.active] at h
  | retryable reason => simp [hstate, Lifecycle.state, CommandState.active] at h
  | unknown t reason => simp [hstate, Lifecycle.state, CommandState.active] at h

/-- Completing a started row. -/
theorem CommandRow.Shows.completedRow {r : CommandRow δ} {l : Lifecycle}
    (hl : r.Shows l) (h : r.state = .started) (cfg : LedgerConfig) (now : ℚ)
    (writtenAt : AwareDatetime) : ∃ l', (r.completedRow cfg now writtenAt).Shows l' := by
  have hstate := hl.state
  rw [h] at hstate
  cases l with
  | started token t => exact ⟨.completed t writtenAt, rfl, rfl, hl.startedAt, rfl⟩
  | preparing token => simp [Lifecycle.state] at hstate
  | completed t w => simp [Lifecycle.state] at hstate
  | retryable reason => simp [Lifecycle.state] at hstate
  | unknown t reason => simp [Lifecycle.state] at hstate

/-- Giving up a claimed row: retryable before the start, unknown after it. -/
theorem CommandRow.Shows.settledAs {r : CommandRow δ} {l : Lifecycle}
    (hl : r.Shows l) (h : r.state.active = true) (reason : String) (keepUntil : ℚ) :
    ∃ l', (r.settledAs r.state reason keepUntil).Shows l' := by
  have hstate := hl.state
  cases l with
  | preparing token =>
      refine ⟨.retryable reason, ?_, rfl, hl.startedAt, ?_⟩ <;>
        simp [CommandRow.settledAs, hstate, Lifecycle.state, settledState,
          Lifecycle.result]
  | started token t =>
      refine ⟨.unknown t reason, ?_, rfl, hl.startedAt, ?_⟩ <;>
        simp [CommandRow.settledAs, hstate, Lifecycle.state, settledState,
          Lifecycle.result]
  | completed t w => simp [hstate, Lifecycle.state, CommandState.active] at h
  | retryable reason => simp [hstate, Lifecycle.state, CommandState.active] at h
  | unknown t reason => simp [hstate, Lifecycle.state, CommandState.active] at h

namespace RowStep

variable {cfg : LedgerConfig} {r r' : CommandRow δ} {call : LedgerCall δ}

theorem digest (h : RowStep cfg r call r') : r'.digest = r.digest := by
  cases h <;> rfl

/-- Retention is only ever extended. -/
theorem keepUntil_le (h : RowStep cfg r call r') : r.keepUntil ≤ r'.keepUntil := by
  cases h with
  | keep => exact le_rfl
  | reclaim => exact le_max_left _ _
  | start => exact le_rfl
  | complete => exact le_max_left _ _
  | fail => exact le_max_left _ _
  | recover => exact le_max_left _ _

/-- A completed or unknown row stays as it is. -/
theorem eq_of_final (h : RowStep cfg r call r')
    (hfinal : r.state = .completed ∨ r.state = .unknown) : r' = r := by
  have hactive : ¬ r.state.active = true := by
    rcases hfinal with hs | hs <;> simp [hs, CommandState.active]
  cases h with
  | keep => rfl
  | reclaim _ _ _ _ _ h => simp [h] at hfinal
  | start _ _ _ _ h => exact absurd h hactive
  | complete _ _ _ _ _ h => simp [h] at hfinal
  | fail _ _ _ _ _ h => exact absurd h hactive
  | recover _ _ _ h => exact absurd h hactive

/-- Every step leads from one point of a life to another. -/
theorem shows (h : RowStep cfg r call r') {l : Lifecycle} (hl : r.Shows l) :
    ∃ l', r'.Shows l' := by
  cases h with
  | keep => exact ⟨l, hl⟩
  | reclaim _ _ _ token => exact ⟨.preparing token, rfl, rfl, rfl, rfl⟩
  | start _ now _ _ h => exact hl.startedRow h now
  | complete _ now _ writtenAt _ h => exact hl.completedRow h cfg now writtenAt
  | fail _ _ _ reason _ h => exact hl.settledAs h reason _
  | recover _ _ _ h => exact hl.settledAs h _ _

end RowStep

/-- What a call can do under one key. -/
inductive RowChange (cfg : LedgerConfig) (call : LedgerCall δ) :
    Option (CommandRow δ) → Option (CommandRow δ) → Prop
  | absent : RowChange cfg call none none
  | step {r r' : CommandRow δ} (h : RowStep cfg r call r') :
      RowChange cfg call (some r) (some r')
  | expire {r r' : CommandRow δ} {t : ℚ} (h : RowStep cfg r call r')
      (ht : call.pruneReading = some t) (hexpired : expired t r' = true) :
      RowChange cfg call (some r) none
  | create {o : Option (CommandRow δ)} (fault : Option PyError) (pruneAt now : ℚ)
      (token commandId : String) (digest : δ) (deadline : ℚ)
      (hcall : call = .claim fault pruneAt now token commandId digest deadline)
      (h : ∀ r, o = some r → expired pruneAt r = true) :
      RowChange cfg call o (some (preparedRow commandId digest token
        (cfg.keepFrom (max now deadline))))

theorem RowChange.refl (cfg : LedgerConfig) (call : LedgerCall δ)
    (o : Option (CommandRow δ)) : RowChange cfg call o o := by
  cases o with
  | none => exact .absent
  | some r => exact .step (.keep call)

/-- Pruning after a step of a row. -/
theorem RowChange.of_prune {cfg : LedgerConfig} {call : LedgerCall δ} {t : ℚ}
    {db : Commands δ} {k : String} {o : Option (CommandRow δ)}
    (ht : call.pruneReading = some t)
    (h : ∀ r', db.lookup k = some r' → ∃ r, o = some r ∧ RowStep cfg r call r')
    (hnone : db.lookup k = none → o = none) :
    RowChange cfg call o ((prune t db).lookup k) := by
  cases hr : db.lookup k with
  | none =>
      have hprune : (prune t db).lookup k = none := by
        rw [prune, Table.lookup_deleteWhere, hr]
        rfl
      rw [hprune, hnone hr]
      exact .absent
  | some r' =>
      obtain ⟨r, rfl, hstep⟩ := h r' hr
      cases he : expired t r' with
      | false =>
          rw [prune_lookup_eq_some.2 ⟨hr, he⟩]
          exact .step hstep
      | true =>
          have hprune : (prune t db).lookup k = none := by
            rw [prune, Table.lookup_deleteWhere, hr]
            simp [he]
          rw [hprune]
          exact .expire hstep ht he

/-- Pruning alone. -/
theorem RowChange.prune {cfg : LedgerConfig} {call : LedgerCall δ} {t : ℚ}
    (ht : call.pruneReading = some t) (db : Commands δ) (k : String) :
    RowChange cfg call (db.lookup k) ((prune t db).lookup k) :=
  RowChange.of_prune ht (fun r' h => ⟨r', h, .keep call⟩) id

/-- A call that rewrites the row of its command. -/
theorem RowChange.of_rewritten {cfg : LedgerConfig} {call : LedgerCall δ}
    {db db' : Commands δ} {commandId k : String} {row new : CommandRow δ}
    (hrow : db.lookup commandId = some row) (hnew : db'.lookup commandId = some new)
    (hother : ∀ k, commandId ≠ k → db'.lookup k = db.lookup k)
    (hstep : row.commandId = commandId → RowStep cfg row call new) :
    RowChange cfg call (db.lookup k) (db'.lookup k) := by
  by_cases hk : commandId = k
  · subst hk
    rw [hrow, hnew]
    exact .step (hstep (Table.key_of_lookup hrow))
  · rw [hother k hk]
    exact .refl ..

namespace LedgerCall

variable [DecidableEq δ]

/-- A call does to every row one step, or deletes an expired one, or inserts a
claimed one where none is left. -/
theorem effect (cfg : LedgerConfig) (db : Commands δ) (call : LedgerCall δ)
    (k : String) :
    RowChange cfg call (db.lookup k) ((call.run cfg db).2.lookup k) := by
  cases call with
  | lookup fault now commandId digest =>
      simp only [run]
      cases hc : Writer.lookup fault now db commandId digest with
      | mk r db' =>
          cases r with
          | error e =>
              rw [transaction_error hc]
              exact .refl ..
          | ok res =>
              rw [(lookup_ok hc).1]
              exact .prune rfl ..
  | claim fault pruneAt now token commandId digest deadline =>
      simp only [run]
      cases hc : Writer.claim cfg fault pruneAt now token db commandId digest
          deadline with
      | mk r db' =>
          cases r with
          | error e =>
              rw [transaction_error hc]
              exact .refl ..
          | ok c =>
              rcases claim_ok hc with ⟨-, hother, hself⟩ | ⟨-, hdb, -⟩
              · by_cases hk : commandId = k
                · subst hk
                  rcases hself with ⟨hnone, hnew⟩ | ⟨row, hrow, hdigest, hstate, hnew⟩
                  · simp only [hnew]
                    refine .create fault pruneAt now token _ _ _ rfl fun r hr => ?_
                    rcases prune_lookup_or pruneAt hr with h | ⟨-, h⟩
                    · rw [hnone] at h
                      cases h
                    · simpa [expired] using h
                  · have hold := (prune_lookup_eq_some.1 hrow).1
                    have hid := Table.key_of_lookup hold
                    simp only [hnew, hold]
                    subst hdigest hid
                    exact .step (.reclaim _ _ _ _ _ hstate)
                · simp only [hother k hk]
                  exact .prune rfl ..
              · rw [hdb]
                exact .prune rfl ..
  | markStarted fault now commandId token =>
      simp only [run]
      cases hc : Writer.markStarted fault now db commandId token with
      | mk r db' =>
          cases r with
          | error e =>
              rw [transaction_error hc]
              exact .refl ..
          | ok u =>
              obtain ⟨row, hrow, htoken, hactive, hnew, hother⟩ := markStarted_ok hc
              refine .of_rewritten hrow hnew hother fun hid => ?_
              subst hid
              exact .start _ _ _ htoken hactive
  | complete fault now commandId token writtenAt =>
      simp only [run]
      cases hc : Writer.complete cfg fault now db commandId token writtenAt with
      | mk r db' =>
          cases r with
          | error e =>
              rw [transaction_error hc]
              exact .refl ..
          | ok result =>
              obtain ⟨-, row, hrow, htoken, hstate, hnew, hother⟩ := complete_ok hc
              refine .of_rewritten hrow hnew hother fun hid => ?_
              subst hid
              exact .complete _ _ _ _ htoken hstate
  | fail fault now commandId token reason =>
      simp only [run]
      cases hc : Writer.fail cfg fault now db commandId token reason with
      | mk r db' =>
          cases r with
          | error e =>
              rw [transaction_error hc]
              exact .refl ..
          | ok result =>
              obtain ⟨row, hrow, htoken, hactive, -, hnew, hother⟩ := fail_ok hc
              refine .of_rewritten hrow hnew hother fun hid => ?_
              subst hid
              exact .fail _ _ _ _ htoken hactive
  | recover fault now pruneAt =>
      simp only [run]
      cases hc : Writer.recover cfg fault now pruneAt db with
      | mk r db' =>
          cases r with
          | error e =>
              rw [transaction_error hc]
              exact .refl ..
          | ok u =>
              obtain ⟨db'', hdb, hlook⟩ := recover_lookup hc
              rw [hdb]
              refine .of_prune rfl (fun r' hr' => ?_) (fun hnone => ?_)
              · rw [hlook] at hr'
                obtain ⟨r, hr, rfl⟩ := Option.map_eq_some_iff.1 hr'
                refine ⟨r, hr, ?_⟩
                unfold CommandRow.afterCrash
                split
                · next hactive => exact .recover _ _ _ hactive
                · exact .keep _
              · rw [hlook] at hnone
                simpa using hnone

/-- A call that raised changed nothing. -/
theorem run_error {cfg : LedgerConfig} {db : Commands δ} {call : LedgerCall δ}
    {e : PyError} (h : (call.run cfg db).1 = .error e) :
    (call.run cfg db).2 = db := by
  have herr {α : Type} {r : Except PyError α} {f : α → LedgerReply}
      (h : r.map f = .error e) : r = .error e := by
    cases r with
    | error e' => simpa [Except.map] using h
    | ok a => simp [Except.map] at h
  cases call with
  | lookup fault now commandId digest =>
      have hc : (Writer.lookup fault now db commandId digest).1 = .error e := herr h
      exact transaction_error (Prod.ext hc rfl)
  | claim fault pruneAt now token commandId digest deadline =>
      have hc : (Writer.claim cfg fault pruneAt now token db commandId digest
        deadline).1 = .error e := herr h
      exact transaction_error (Prod.ext hc rfl)
  | markStarted fault now commandId token =>
      have hc : (Writer.markStarted fault now db commandId token).1 = .error e :=
        herr h
      exact transaction_error (Prod.ext hc rfl)
  | complete fault now commandId token writtenAt =>
      have hc : (Writer.complete cfg fault now db commandId token writtenAt).1 =
        .error e := herr h
      exact transaction_error (Prod.ext hc rfl)
  | fail fault now commandId token reason =>
      have hc : (Writer.fail cfg fault now db commandId token reason).1 = .error e :=
        herr h
      exact transaction_error (Prod.ext hc rfl)
  | recover fault now pruneAt =>
      have hc : (Writer.recover cfg fault now pruneAt db).1 = .error e := herr h
      exact transaction_error (Prod.ext hc rfl)

end LedgerCall

/-! ## Runs, with what happened to each row so far -/

/-- What happened to a row since it was inserted: the deadlines it was claimed
for, newest first, when it was settled last and when its write completed. -/
structure RowHistory where
  deadlines : List ℚ
  settledAt : Option ℚ
  writtenAt : Option AwareDatetime
deriving DecidableEq, Repr

/-- The table between two calls and the history of its rows. -/
structure LedgerRun (δ : Type) where
  db : Commands δ
  history : String → RowHistory

/-- A new database. -/
def LedgerRun.fresh : LedgerRun δ := ⟨Table.empty, fun _ => ⟨[], none, none⟩⟩

section Runs

variable [DecidableEq δ]

/-- The histories after a call. -/
def nextHistory (cfg : LedgerConfig) (s : LedgerRun δ) (call : LedgerCall δ) :
    String → RowHistory :=
  match call, (call.run cfg s.db).1 with
  | .claim _ pruneAt _ _ commandId _ deadline, .ok (.claimed ⟨some _, _⟩) =>
      Function.update s.history commandId
        (match (prune pruneAt s.db).lookup commandId with
        | none => ⟨[deadline], none, none⟩
        | some _ =>
            { s.history commandId with
              deadlines := deadline :: (s.history commandId).deadlines })
  | .complete _ now commandId _ writtenAt, .ok _ =>
      Function.update s.history commandId
        { s.history commandId with settledAt := some now, writtenAt := some writtenAt }
  | .fail _ now commandId .., .ok _ =>
      Function.update s.history commandId
        { s.history commandId with settledAt := some now }
  | .recover _ now _, .ok _ => fun k =>
      match s.db.lookup k with
      | some r =>
          if r.state.active then { s.history k with settledAt := some (now k) }
          else s.history k
      | none => s.history k
  | _, _ => s.history

/-- One call. -/
def ledgerStep (cfg : LedgerConfig) (s : LedgerRun δ) (call : LedgerCall δ) :
    LedgerRun δ :=
  ⟨(call.run cfg s.db).2, nextHistory cfg s call⟩

/-- A history of calls, first call first. -/
def ledgerRun (cfg : LedgerConfig) (s : LedgerRun δ) (calls : List (LedgerCall δ)) :
    LedgerRun δ :=
  calls.foldl (ledgerStep cfg) s

end Runs

/-- What a row owes to its history. -/
structure Kept (cfg : LedgerConfig) (h : RowHistory) (row : CommandRow δ) : Prop where
  shows : ∃ l, row.Shows l
  claimed : h.deadlines ≠ []
  deadlines : ∀ d ∈ h.deadlines, cfg.keepFrom d ≤ row.keepUntil
  settled : row.state.settled = true →
    ∃ t, h.settledAt = some t ∧ cfg.keepFrom t ≤ row.keepUntil
  written : row.state = .completed →
    ∃ w, h.writtenAt = some w ∧ row.result = some (completedResult w)

namespace Kept

variable {cfg : LedgerConfig} {h : RowHistory} {row : CommandRow δ}

theorem prepared (cfg : LedgerConfig) (commandId : String) (digest : δ)
    (token : String) (now deadline : ℚ) :
    Kept cfg ⟨[deadline], none, none⟩
      (preparedRow commandId digest token (cfg.keepFrom (max now deadline))) where
  shows := ⟨.preparing token, rfl, rfl, rfl, rfl⟩
  claimed := by simp
  deadlines := by
    intro d hd
    rw [List.mem_singleton.1 hd]
    exact cfg.keepFrom_mono (le_max_right now deadline)
  settled := by simp [preparedRow, CommandState.settled]
  written := by simp [preparedRow]

theorem reclaimed (hrow : Kept cfg h row) (token : String) (now deadline : ℚ) :
    Kept cfg { h with deadlines := deadline :: h.deadlines }
      (row.reclaimed token (cfg.keepFrom (max now deadline))) where
  shows := by
    exact ⟨.preparing token, rfl, rfl, rfl, rfl⟩
  claimed := by simp
  deadlines := by
    intro d hd
    rcases List.mem_cons.1 hd with rfl | hd
    · exact (cfg.keepFrom_mono (le_max_right now d)).trans (le_max_right _ _)
    · exact (hrow.deadlines d hd).trans (le_max_left _ _)
  settled := by simp [CommandRow.reclaimed, CommandState.settled]
  written := by simp [CommandRow.reclaimed]

theorem started (hrow : Kept cfg h row) (hactive : row.state.active = true)
    (now : ℚ) : Kept cfg h (row.startedRow now) where
  shows := by
    obtain ⟨l, hl⟩ := hrow.shows
    exact hl.startedRow hactive now
  claimed := hrow.claimed
  deadlines := hrow.deadlines
  settled := by simp [CommandRow.startedRow, CommandState.settled]
  written := by simp [CommandRow.startedRow]

theorem completed (hrow : Kept cfg h row) (hstate : row.state = .started)
    (now : ℚ) (writtenAt : AwareDatetime) :
    Kept cfg { h with settledAt := some now, writtenAt := some writtenAt }
      (row.completedRow cfg now writtenAt) where
  shows := by
    obtain ⟨l, hl⟩ := hrow.shows
    exact hl.completedRow hstate cfg now writtenAt
  claimed := hrow.claimed
  deadlines := fun d hd => (hrow.deadlines d hd).trans (le_max_left _ _)
  settled := fun _ => ⟨now, rfl, le_max_right _ _⟩
  written := fun _ => ⟨writtenAt, rfl, rfl⟩

theorem settledAs (hrow : Kept cfg h row) (hactive : row.state.active = true)
    (now : ℚ) (reason : String) :
    Kept cfg { h with settledAt := some now }
      (row.settledAs row.state reason (cfg.keepFrom now)) where
  shows := by
    obtain ⟨l, hl⟩ := hrow.shows
    exact hl.settledAs hactive reason _
  claimed := hrow.claimed
  deadlines := fun d hd => (hrow.deadlines d hd).trans (le_max_left _ _)
  settled := fun _ => ⟨now, rfl, le_max_right _ _⟩
  written := by
    intro hstate
    cases hs : row.state <;> simp_all [CommandRow.settledAs, settledState]

end Kept

/-- Every row is kept as its history demands. -/
def LedgerInv (cfg : LedgerConfig) (s : LedgerRun δ) : Prop :=
  ∀ k row, s.db.lookup k = some row → Kept cfg (s.history k) row

section Preservation

variable [DecidableEq δ] {cfg : LedgerConfig} {s : LedgerRun δ}

omit [DecidableEq δ] in
/-- A row that pruning left is still owed what it was. -/
theorem LedgerInv.pruned (hI : LedgerInv cfg s) {t : ℚ} {k : String}
    {row : CommandRow δ} (h : (prune t s.db).lookup k = some row) :
    Kept cfg (s.history k) row :=
  hI k row (prune_lookup_eq_some.1 h).1

omit [DecidableEq δ] in
/-- A call that rewrites one row and notes it in the history of its command. -/
theorem LedgerInv.rewritten (hI : LedgerInv cfg s) {db' : Commands δ} {commandId k : String}
    {new row : CommandRow δ} (hnew : db'.lookup commandId = some new)
    (hother : ∀ k, commandId ≠ k → db'.lookup k = s.db.lookup k)
    {past : RowHistory} (hkept : Kept cfg past new) (hrow : db'.lookup k = some row) :
    Kept cfg (Function.update s.history commandId past k) row := by
  by_cases hk : commandId = k
  · subst hk
    rw [Function.update_self]
    obtain rfl := Option.some.inj (hnew.symm.trans hrow)
    exact hkept
  · rw [Function.update_of_ne (Ne.symm hk)]
    exact hI k row (by rw [← hother k hk]; exact hrow)

theorem LedgerInv.step (hI : LedgerInv cfg s) (call : LedgerCall δ) :
    LedgerInv cfg (ledgerStep cfg s call) := by
  intro k row hrow
  cases call with
  | lookup fault now commandId digest =>
      simp only [ledgerStep, nextHistory, LedgerCall.run] at hrow ⊢
      cases hc : Writer.lookup fault now s.db commandId digest with
      | mk r db' =>
          simp only [hc] at hrow
          cases r with
          | error e =>
              rw [transaction_error hc] at hrow
              exact hI k row hrow
          | ok res =>
              rw [(lookup_ok hc).1] at hrow
              exact hI.pruned hrow
  | claim fault pruneAt now token commandId digest deadline =>
      simp only [ledgerStep, nextHistory, LedgerCall.run] at hrow ⊢
      cases hc : Writer.claim cfg fault pruneAt now token s.db commandId digest
          deadline with
      | mk r db' =>
          simp only [hc] at hrow ⊢
          cases r with
          | error e =>
              rw [transaction_error hc] at hrow
              exact hI k row hrow
          | ok c =>
              rcases claim_ok hc with ⟨rfl, hother, hself⟩ | ⟨hnone, hdb, -⟩
              · simp only [Except.map]
                by_cases hk : commandId = k
                · subst hk
                  rw [Function.update_self]
                  rcases hself with ⟨hnone, hnew⟩ | ⟨old, hold, -, -, hnew⟩
                  · rw [hnone]
                    obtain rfl := Option.some.inj (hnew.symm.trans hrow)
                    exact .prepared ..
                  · rw [hold]
                    obtain rfl := Option.some.inj (hnew.symm.trans hrow)
                    exact (hI.pruned hold).reclaimed ..
                · rw [Function.update_of_ne (Ne.symm hk)]
                  exact hI.pruned (by rw [← hother k hk]; exact hrow)
              · obtain ⟨ctoken, cresult⟩ := c
                obtain rfl : ctoken = none := hnone
                rw [hdb] at hrow
                exact hI.pruned hrow
  | markStarted fault now commandId token =>
      simp only [ledgerStep, nextHistory, LedgerCall.run] at hrow ⊢
      cases hc : Writer.markStarted fault now s.db commandId token with
      | mk r db' =>
          simp only [hc] at hrow
          cases r with
          | error e =>
              rw [transaction_error hc] at hrow
              exact hI k row hrow
          | ok u =>
              obtain ⟨old, hold, -, hactive, hnew, hother⟩ := markStarted_ok hc
              by_cases hk : commandId = k
              · subst hk
                obtain rfl := Option.some.inj (hnew.symm.trans hrow)
                exact (hI _ old hold).started hactive now
              · exact hI k row (by rw [← hother k hk]; exact hrow)
  | complete fault now commandId token writtenAt =>
      simp only [ledgerStep, nextHistory, LedgerCall.run] at hrow ⊢
      cases hc : Writer.complete cfg fault now s.db commandId token writtenAt with
      | mk r db' =>
          simp only [hc] at hrow ⊢
          cases r with
          | error e =>
              rw [transaction_error hc] at hrow
              exact hI k row hrow
          | ok result =>
              obtain ⟨-, old, hold, -, hstate, hnew, hother⟩ := complete_ok hc
              exact LedgerInv.rewritten hI hnew hother
                ((hI _ old hold).completed hstate now writtenAt) hrow
  | fail fault now commandId token reason =>
      simp only [ledgerStep, nextHistory, LedgerCall.run] at hrow ⊢
      cases hc : Writer.fail cfg fault now s.db commandId token reason with
      | mk r db' =>
          simp only [hc] at hrow ⊢
          cases r with
          | error e =>
              rw [transaction_error hc] at hrow
              exact hI k row hrow
          | ok result =>
              obtain ⟨old, hold, -, hactive, -, hnew, hother⟩ := fail_ok hc
              exact LedgerInv.rewritten hI hnew hother
                ((hI _ old hold).settledAs hactive now reason) hrow
  | recover fault now pruneAt =>
      simp only [ledgerStep, nextHistory, LedgerCall.run] at hrow ⊢
      cases hc : Writer.recover cfg fault now pruneAt s.db with
      | mk r db' =>
          simp only [hc] at hrow ⊢
          cases r with
          | error e =>
              rw [transaction_error hc] at hrow
              exact hI k row hrow
          | ok u =>
              obtain ⟨db'', hdb, hlook⟩ := recover_lookup hc
              rw [hdb] at hrow
              have hafter := (prune_lookup_eq_some.1 hrow).1
              rw [hlook] at hafter
              obtain ⟨old, hold, rfl⟩ := Option.map_eq_some_iff.1 hafter
              have hkept := hI k old hold
              have hid : old.commandId = k := Table.key_of_lookup hold
              simp only [Except.map, hold]
              unfold CommandRow.afterCrash
              split
              · next hactive =>
                  have hsettled := hkept.settledAs hactive (now k)
                    (recoveredReason old.state)
                  simpa [CommandRow.recovered, hid] using hsettled
              · exact hkept

theorem LedgerInv.run (hI : LedgerInv cfg s) (calls : List (LedgerCall δ)) :
    LedgerInv cfg (ledgerRun cfg s calls) := by
  induction calls generalizing s with
  | nil => exact hI
  | cons call calls ih => exact ih (hI.step call)

omit [DecidableEq δ] in
theorem LedgerInv.fresh (cfg : LedgerConfig) :
    LedgerInv cfg (LedgerRun.fresh : LedgerRun δ) := by
  intro k row h
  simp [LedgerRun.fresh] at h

end Preservation

/-! ## The representation invariant -/

/-- What a call answers from a retained row. -/
def LedgerReply.replay? : LedgerReply → Option WriteResult
  | .found result => result
  | .claimed claim => claim.result
  | .settled _ | .done => none

/-- The command a call is about. -/
def LedgerCall.commandId? : LedgerCall δ → Option String
  | .lookup _ _ commandId _ | .claim _ _ _ _ commandId _ _
  | .markStarted _ _ commandId _ | .complete _ _ commandId _ _
  | .fail _ _ commandId _ _ => some commandId
  | .recover .. => none

section Representation

variable [DecidableEq δ] {cfg : LedgerConfig} {s : LedgerRun δ}

/-- An answer that the write completed carries the time it completed at. -/
theorem LedgerInv.replay (hI : LedgerInv cfg s) {call : LedgerCall δ}
    {reply : LedgerReply} (hreply : (call.run cfg s.db).1 = .ok reply)
    {r : WriteResult} (hr : reply.replay? = some r)
    (hcompleted : r.outcome = .completed) :
    ∃ commandId w, call.commandId? = some commandId ∧
      (s.history commandId).writtenAt = some w ∧ r.writtenAt = some w := by
  -- the answer was read off a row that the call's own prune left
  have hrow : ∀ {t : ℚ} {commandId : String} {digest : δ} {row : CommandRow δ},
      (prune t s.db).lookup commandId = some row → resultOf row digest = .ok r →
      ∃ w, (s.history commandId).writtenAt = some w ∧ r.writtenAt = some w := by
    intro t commandId digest row hlook hres
    have hkept := hI.pruned hlook
    obtain ⟨l, hl⟩ := hkept.shows
    obtain ⟨w, hstate, hresult, hw⟩ := hl.completed_of_reply hres hcompleted
    obtain ⟨w', hw', hresult'⟩ := hkept.written hstate
    have hsame : w = w' := by
      have := hresult.symm.trans hresult'
      simpa [completedResult] using this
    exact ⟨w, by rw [hsame]; exact hw', hw⟩
  have hok {α : Type} {x : Except PyError α} {f : α → LedgerReply}
      (h : x.map f = .ok reply) : ∃ a, x = .ok a ∧ f a = reply := by
    cases x with
    | error e => simp [Except.map] at h
    | ok a => exact ⟨a, rfl, by simpa [Except.map] using h⟩
  cases call with
  | lookup fault now commandId digest =>
      have hmap : (Writer.lookup fault now s.db commandId digest).1.map .found =
        .ok reply := hreply
      obtain ⟨res, hres, rfl⟩ := hok hmap
      obtain ⟨hdb, ⟨-, hnone⟩ | ⟨row, r', hlook, hr', hsome⟩⟩ :=
        lookup_ok (Prod.ext hres rfl)
      · simp [LedgerReply.replay?, hnone] at hr
      · obtain rfl : r' = r := by simpa [LedgerReply.replay?, hsome] using hr
        rw [hdb] at hlook
        obtain ⟨w, hw⟩ := hrow hlook hr'
        exact ⟨commandId, w, rfl, hw⟩
  | claim fault pruneAt now token commandId digest deadline =>
      have hmap : (Writer.claim cfg fault pruneAt now token s.db commandId digest
        deadline).1.map .claimed = .ok reply := hreply
      obtain ⟨c, hc, rfl⟩ := hok hmap
      rcases claim_ok (Prod.ext hc rfl) with
        ⟨hgranted, -⟩ | ⟨-, hdb, row, r', hlook, -, hr', hsome⟩
      · simp [LedgerReply.replay?, hgranted] at hr
      · obtain rfl : r' = r := by simpa [LedgerReply.replay?, hsome] using hr
        rw [hdb] at hlook
        obtain ⟨w, hw⟩ := hrow hlook hr'
        exact ⟨commandId, w, rfl, hw⟩
  | markStarted fault now commandId token =>
      have hmap : (Writer.markStarted fault now s.db commandId token).1.map
        (fun _ => LedgerReply.done) = .ok reply := hreply
      obtain ⟨u, -, rfl⟩ := hok hmap
      simp [LedgerReply.replay?] at hr
  | complete fault now commandId token writtenAt =>
      have hmap : (Writer.complete cfg fault now s.db commandId token
        writtenAt).1.map .settled = .ok reply := hreply
      obtain ⟨u, -, rfl⟩ := hok hmap
      simp [LedgerReply.replay?] at hr
  | fail fault now commandId token reason =>
      have hmap : (Writer.fail cfg fault now s.db commandId token reason).1.map
        .settled = .ok reply := hreply
      obtain ⟨u, -, rfl⟩ := hok hmap
      simp [LedgerReply.replay?] at hr
  | recover fault now pruneAt =>
      have hmap : (Writer.recover cfg fault now pruneAt s.db).1.map
        (fun _ => LedgerReply.done) = .ok reply := hreply
      obtain ⟨u, -, rfl⟩ := hok hmap
      simp [LedgerReply.replay?] at hr

end Representation

/-- **Representation invariant of the ledger.**  After every history of calls,
whatever their tokens, digests, deadlines, clock readings and exceptions: the
columns of a row agree with its state; a row is kept for the retention after
every deadline it was claimed for and, once settled, after its settlement; it
answers every delivery, and no prune deletes it while its claim is out.  The
next call changes nothing if it raises; it keeps completed and unknown rows as
they are unless their retention has run out; it takes a claimed row one step
on, and deletes it only after settling it; and whenever it replays a completed
write it returns the time that write completed at. -/
theorem ledger_representation [DecidableEq δ] (cfg : LedgerConfig)
    (calls : List (LedgerCall δ)) :
    let s := ledgerRun cfg .fresh calls
    (∀ row ∈ s.db.rows,
      row.WellFormed ∧
      (s.history row.commandId).deadlines ≠ [] ∧
      (∀ d ∈ (s.history row.commandId).deadlines, cfg.keepFrom d ≤ row.keepUntil) ∧
      (row.state.settled = true → ∃ t, (s.history row.commandId).settledAt = some t ∧
        cfg.keepFrom t ≤ row.keepUntil) ∧
      (∀ digest, ∃ r, resultOf row digest = .ok r) ∧
      (row.state.active = true → ∀ t,
        (prune t s.db).lookup row.commandId = some row)) ∧
    ∀ call : LedgerCall δ,
      (∀ e, (call.run cfg s.db).1 = .error e → (call.run cfg s.db).2 = s.db) ∧
      (∀ row ∈ s.db.rows, row.state = .completed ∨ row.state = .unknown →
        (call.run cfg s.db).2.lookup row.commandId = some row ∨
          ∃ t, call.pruneReading = some t ∧ row.keepUntil < t) ∧
      (∀ row ∈ s.db.rows, row.state.active = true →
        ∃ row', RowStep cfg row call row' ∧
          ((call.run cfg s.db).2.lookup row.commandId = some row' ∨
            (row'.state.settled = true ∧
              ∃ t, call.pruneReading = some t ∧ row'.keepUntil < t))) ∧
      (∀ reply r, (call.run cfg s.db).1 = .ok reply → reply.replay? = some r →
        r.outcome = .completed → ∃ commandId w, call.commandId? = some commandId ∧
          (s.history commandId).writtenAt = some w ∧ r.writtenAt = some w) := by
  intro s
  have hI : LedgerInv cfg s := (LedgerInv.fresh cfg).run calls
  refine ⟨fun row hmem => ?_, fun call => ⟨?_, ?_, ?_, ?_⟩⟩
  · have hrow := Table.lookup_key hmem
    have hkept := hI _ row hrow
    obtain ⟨l, hl⟩ := hkept.shows
    exact ⟨hl.wellFormed, hkept.claimed, hkept.deadlines, hkept.settled,
      fun digest => ⟨_, hl.resultOf_eq digest⟩,
      fun hactive t => prune_lookup_eq_some.2 ⟨hrow, expired_of_active hactive⟩⟩
  · exact fun e he => LedgerCall.run_error he
  · intro row hmem hfinal
    have heffect := call.effect cfg s.db row.commandId
    rw [Table.lookup_key hmem] at heffect
    generalize (call.run cfg s.db).2.lookup row.commandId = after at heffect ⊢
    cases heffect with
    | step h => exact Or.inl (by rw [h.eq_of_final hfinal])
    | expire h ht he =>
        rw [h.eq_of_final hfinal] at he
        exact Or.inr ⟨_, ht, (settled_of_expired he).2⟩
    | create fault pruneAt now token commandId digest deadline hcall h =>
        exact Or.inr ⟨pruneAt, by rw [hcall]; rfl, (settled_of_expired (h row rfl)).2⟩
  · intro row hmem hactive
    have heffect := call.effect cfg s.db row.commandId
    rw [Table.lookup_key hmem] at heffect
    generalize (call.run cfg s.db).2.lookup row.commandId = after at heffect ⊢
    cases heffect with
    | step h => exact ⟨_, h, Or.inl rfl⟩
    | expire h ht he =>
        exact ⟨_, h, Or.inr ⟨(settled_of_expired he).1, _, ht, (settled_of_expired he).2⟩⟩
    | create fault pruneAt now token commandId digest deadline hcall h =>
        have he := h row rfl
        rw [expired_of_active hactive] at he
        cases he
  · exact fun reply r hreply hr hcompleted => hI.replay hreply hr hcompleted

/-- A retried command that completed, and is then replayed. -/
example :
    let cfg : LedgerConfig := ⟨.exact, 60, by norm_num⟩
    let s := ledgerRun (δ := ℕ) cfg .fresh
      [.claim none 0 0 "a" "cmd" 7 10, .fail none 1 "cmd" "a" "TimeoutError",
        .claim none 2 2 "b" "cmd" 7 10, .markStarted none 3 "cmd" "b",
        .fail none 3 "cmd" "a" "late", .complete none 4 "cmd" "b" (.ofMicros 4)]
    ((LedgerCall.lookup none 9 "cmd" 7).run cfg s.db).1 =
      .ok (.found (some { completedResult (.ofMicros 4) with replayed := true })) := by
  decide +kernel

end EirvahEdge.Writer
