import EirvahEdge.Contracts.Actuation
import EirvahEdge.Lib.PyFloat
import EirvahEdge.Lib.Table

/-!
# The command ledger

`CommandLedger`: one row per command, rewritten by the five calls of a delivery
and by `recover` at startup.  Every call is one transaction (`transaction`):
whatever raises inside it, a refused update or SQLite itself, rolls the table
back.

Clock readings are arguments, one for each `self.clock()` of the call, and so is
the token that `secrets.token_hex` draws.  Sums of times go through the
rounding of the configuration.

Each call has one lemma that says what it did when it returned: `lookup_ok`,
`claim_ok`, `markStarted_ok`, `complete_ok`, `fail_ok`, `recover_lookup`.  They
describe the table row by row, so nothing later unfolds a call.
-/

namespace EirvahEdge.Writer

open EirvahEdge.Lib
open EirvahEdge.Contracts

/-! ## Rows -/

/-- The `CHECK` constraint on the column `state`. -/
inductive CommandState where
  | preparing
  | started
  | completed
  | retryable
  | unknown
deriving DecidableEq, Repr

/-- The states of a claimed row: a token is out. -/
def CommandState.active : CommandState → Bool
  | .preparing | .started => true
  | .completed | .retryable | .unknown => false

/-- The states `_prune` may delete. -/
def CommandState.settled : CommandState → Bool
  | .completed | .retryable | .unknown => true
  | .preparing | .started => false

/-- A row of `commands(command_id PRIMARY KEY, digest, state, token, result,
started_at, keep_until)`. -/
structure CommandRow (δ : Type) where
  commandId : String
  digest : δ
  state : CommandState
  token : Option String
  result : Option WriteResult
  startedAt : Option ℚ
  keepUntil : ℚ
deriving DecidableEq, Repr

abbrev Commands (δ : Type) := Table (CommandRow.commandId (δ := δ))

/-- The constructor arguments; a retention that is not positive is refused. -/
structure LedgerConfig where
  arith : Rounding
  retention : ℚ
  retention_pos : 0 < retention

/-- `t + self.retention_s`. -/
def LedgerConfig.keepFrom (cfg : LedgerConfig) (t : ℚ) : ℚ :=
  cfg.arith.add t cfg.retention

theorem LedgerConfig.keepFrom_mono (cfg : LedgerConfig) : Monotone cfg.keepFrom :=
  fun _ _ h => Rounding.add_mono h le_rfl

/-- `Claim`. -/
structure Claim where
  token : Option String
  result : Option WriteResult
deriving DecidableEq, Repr

/-! ## Transactions -/

section Ledger

variable {δ : Type}

/-- `_transaction`: what the body raises, or SQLite in its place (`fault`),
leaves the table as it was. -/
def transaction {α : Type} (fault : Option PyError) (db : Commands δ)
    (body : Commands δ → Except PyError α × Commands δ) :
    Except PyError α × Commands δ :=
  match fault with
  | some e => (.error e, db)
  | none =>
      match body db with
      | (.ok a, db') => (.ok a, db')
      | (.error e, _) => (.error e, db)

/-- A raised call changed nothing. -/
theorem transaction_error {α : Type} {fault : Option PyError} {db db' : Commands δ}
    {body : Commands δ → Except PyError α × Commands δ} {e : PyError}
    (h : transaction fault db body = (.error e, db')) : db' = db := by
  unfold transaction at h
  cases fault with
  | some e' => exact (Prod.mk.inj h).2.symm
  | none =>
      cases hbody : body db with
      | mk r db'' =>
          cases r with
          | ok a => simp [hbody] at h
          | error e' =>
              simp only [hbody] at h
              exact (Prod.mk.inj h).2.symm

/-- A call that returned ran its body to the end. -/
theorem transaction_ok {α : Type} {fault : Option PyError} {db db' : Commands δ}
    {body : Commands δ → Except PyError α × Commands δ} {a : α}
    (h : transaction fault db body = (.ok a, db')) : body db = (.ok a, db') := by
  unfold transaction at h
  cases fault with
  | some e' => simp at h
  | none =>
      cases hbody : body db with
      | mk r db'' =>
          cases r with
          | ok a' => simpa [hbody] using h
          | error e' => simp [hbody] at h

/-! ## The calls -/

/-- The rows `_prune` deletes at a clock reading. -/
def expired (now : ℚ) (r : CommandRow δ) : Bool :=
  r.state.settled && decide (r.keepUntil < now)

/-- `_prune`. -/
def prune (now : ℚ) (db : Commands δ) : Commands δ := db.deleteWhere (expired now)

/-- `_result`: what a retained row answers to a delivery; a missing result
cannot be decoded. -/
def resultOf [DecidableEq δ] (row : CommandRow δ) (digest : δ) :
    Except PyError WriteResult :=
  if row.digest ≠ digest then
    .ok { outcome := .conflict, reason := some "command_id_reused", replayed := true }
  else if row.state.active then
    .ok { outcome := .pending, reason := some "execution_in_progress", replayed := true }
  else
    match row.result with
    | some result => .ok { result with replayed := true }
    | none => .error (valueError "JSON input should be string, bytes or bytearray")

/-- `lookup`. -/
def lookup [DecidableEq δ] (fault : Option PyError) (now : ℚ) (db : Commands δ)
    (commandId : String) (digest : δ) :
    Except PyError (Option WriteResult) × Commands δ :=
  transaction fault db fun db =>
    let db := prune now db
    match db.lookup commandId with
    | none => (.ok none, db)
    | some row => ((resultOf row digest).map some, db)

/-- The row `claim` inserts. -/
def preparedRow (commandId : String) (digest : δ) (token : String)
    (keepUntil : ℚ) : CommandRow δ where
  commandId := commandId
  digest := digest
  state := .preparing
  token := some token
  result := none
  startedAt := none
  keepUntil := keepUntil

/-- The row after `claim` took it again. -/
def CommandRow.reclaimed (token : String) (keepUntil : ℚ) (r : CommandRow δ) :
    CommandRow δ :=
  { r with state := .preparing, token := some token, result := none,
           startedAt := none, keepUntil := max r.keepUntil keepUntil }

/-- `claim` with the clock readings of `_prune` and of `keep_until`. -/
def claim [DecidableEq δ] (cfg : LedgerConfig) (fault : Option PyError)
    (pruneAt now : ℚ) (token : String) (db : Commands δ) (commandId : String)
    (digest : δ) (deadline : ℚ) : Except PyError Claim × Commands δ :=
  transaction fault db fun db =>
    let db := prune pruneAt db
    let keepUntil := cfg.keepFrom (max now deadline)
    match db.lookup commandId with
    | some row =>
        if row.digest ≠ digest ∨ row.state ≠ .retryable then
          ((resultOf row digest).map fun result => ⟨none, some result⟩, db)
        else
          (.ok ⟨some token, none⟩,
            db.updateWhere (fun r => decide (r.commandId = commandId))
              (.reclaimed token keepUntil))
    | none =>
        match db.insert (preparedRow commandId digest token keepUntil) with
        | some db => (.ok ⟨some token, none⟩, db)
        | none =>
            (.error ⟨.sqliteError, "UNIQUE constraint failed: commands.command_id"⟩, db)

/-- The rows `mark_started` updates. -/
def claimedBy (commandId token : String) (r : CommandRow δ) : Bool :=
  decide (r.commandId = commandId) && decide (r.token = some token) &&
    r.state.active

/-- `mark_started`. -/
def markStarted (fault : Option PyError) (now : ℚ) (db : Commands δ)
    (commandId token : String) : Except PyError Unit × Commands δ :=
  transaction fault db fun db =>
    let p := claimedBy commandId token
    let updated := db.updateWhere p fun r =>
      { r with state := .started, startedAt := r.startedAt.or (some now) }
    if db.count p ≠ 1 then
      (.error (valueError "command claim is no longer active"), updated)
    else (.ok (), updated)

/-- The rows `complete` updates. -/
def startedBy (commandId token : String) (r : CommandRow δ) : Bool :=
  decide (r.commandId = commandId) && decide (r.token = some token) &&
    decide (r.state = .started)

/-- `WriteResult(outcome="completed", written_at=...)`. -/
def completedResult (writtenAt : AwareDatetime) : WriteResult :=
  { outcome := .completed, writtenAt := some writtenAt }

/-- `complete`. -/
def complete (cfg : LedgerConfig) (fault : Option PyError) (now : ℚ)
    (db : Commands δ) (commandId token : String) (writtenAt : AwareDatetime) :
    Except PyError WriteResult × Commands δ :=
  transaction fault db fun db =>
    let p := startedBy commandId token
    let updated := db.updateWhere p fun r =>
      { r with state := .completed, token := none,
               result := some (completedResult writtenAt),
               keepUntil := max r.keepUntil (cfg.keepFrom now) }
    if db.count p ≠ 1 then
      (.error (valueError "command completion has no active initiation record"),
        updated)
    else (.ok (completedResult writtenAt), updated)

/-- The state and the result a claimed row settles in when its write is given
up: unknown once started, else retryable. -/
def settledState : CommandState → CommandState
  | .started => .unknown
  | _ => .retryable

def settledResult (state : CommandState) (reason : String) : WriteResult :=
  if state = .started then { outcome := .unknown, reason := some reason }
  else { outcome := .notExecuted, reason := some reason, retryable := true }

/-- The row after such a settlement. -/
def CommandRow.settledAs (state : CommandState) (reason : String) (keepUntil : ℚ)
    (r : CommandRow δ) : CommandRow δ :=
  { r with state := settledState state, token := none,
           result := some (settledResult state reason),
           keepUntil := max r.keepUntil keepUntil }

/-- `fail`. -/
def fail (cfg : LedgerConfig) (fault : Option PyError) (now : ℚ)
    (db : Commands δ) (commandId token : String) (reason : String) :
    Except PyError WriteResult × Commands δ :=
  transaction fault db fun db =>
    match db.lookup commandId with
    | some row =>
        if row.token = some token ∧ row.state.active then
          (.ok (settledResult row.state reason),
            db.updateWhere (fun r => decide (r.commandId = commandId))
              (.settledAs row.state reason (cfg.keepFrom now)))
        else (.error (valueError "command claim is no longer active"), db)
    | none => (.error (valueError "command claim is no longer active"), db)

/-- The reason `recover` records. -/
def recoveredReason (state : CommandState) : String :=
  if state = .started then "recovered_after_start" else "recovered_before_write"

/-- What `recover` makes of a claimed row at its clock reading. -/
def CommandRow.recovered (cfg : LedgerConfig) (now : String → ℚ)
    (x r : CommandRow δ) : CommandRow δ :=
  r.settledAs x.state (recoveredReason x.state) (cfg.keepFrom (now x.commandId))

theorem CommandRow.recovered_commandId (cfg : LedgerConfig) (now : String → ℚ)
    (x r : CommandRow δ) : (x.recovered cfg now r).commandId = r.commandId := rfl

/-- `recover`, with one clock reading for each settled row and one for
`_prune`. -/
def recover (cfg : LedgerConfig) (fault : Option PyError) (now : String → ℚ)
    (pruneAt : ℚ) (db : Commands δ) : Except PyError Unit × Commands δ :=
  transaction fault db fun db =>
    let rows := db.rows.filter fun r => r.state.active
    let db := db.updateEach rows (.recovered cfg now)
      (CommandRow.recovered_commandId cfg now)
    (.ok (), prune pruneAt db)

/-! ## What a call that returned did -/

theorem prune_lookup_eq_some {now : ℚ} {db : Commands δ} {k : String}
    {r : CommandRow δ} : (prune now db).lookup k = some r ↔
      db.lookup k = some r ∧ expired now r = false := by
  rw [prune, Table.lookup_deleteWhere, Option.filter_eq_some_iff]
  simp

/-- A row under a claim is never pruned. -/
theorem expired_of_active {now : ℚ} {r : CommandRow δ} (h : r.state.active = true) :
    expired now r = false := by
  cases hs : r.state <;> simp_all [expired, CommandState.active, CommandState.settled]

/-- Only a settled row whose retention has run out is pruned. -/
theorem settled_of_expired {now : ℚ} {r : CommandRow δ} (h : expired now r = true) :
    r.state.settled = true ∧ r.keepUntil < now := by
  simpa [expired] using h

/-- The row under an id is kept by a prune, or its retention has run out. -/
theorem prune_lookup_or (now : ℚ) {db : Commands δ} {k : String} {r : CommandRow δ}
    (h : db.lookup k = some r) :
    (prune now db).lookup k = some r ∨
      ((prune now db).lookup k = none ∧ r.state.settled = true ∧ r.keepUntil < now) := by
  cases he : expired now r with
  | false => exact Or.inl (prune_lookup_eq_some.2 ⟨h, he⟩)
  | true =>
      refine Or.inr ⟨?_, settled_of_expired he⟩
      cases hp : (prune now db).lookup k with
      | none => rfl
      | some r' =>
          have hr' := prune_lookup_eq_some.1 hp
          have hsame : r' = r := Option.some.inj (hr'.1.symm.trans h)
          rw [hsame, he] at hr'
          exact absurd hr'.2 (by simp)

section Lookup

variable [DecidableEq δ]

theorem lookup_ok {fault : Option PyError} {now : ℚ} {db db' : Commands δ}
    {commandId : String} {digest : δ} {res : Option WriteResult}
    (h : lookup fault now db commandId digest = (.ok res, db')) :
    db' = prune now db ∧
      ((db'.lookup commandId = none ∧ res = none) ∨
        ∃ row r, db'.lookup commandId = some row ∧
          resultOf row digest = .ok r ∧ res = some r) := by
  have hbody := transaction_ok h
  dsimp only at hbody
  cases hrow : (prune now db).lookup commandId with
  | none =>
      rw [hrow] at hbody
      have hres := Except.ok.inj (Prod.mk.inj hbody).1
      have hdb := (Prod.mk.inj hbody).2
      exact ⟨hdb.symm, Or.inl ⟨by rw [← hdb, hrow], hres.symm⟩⟩
  | some row =>
      rw [hrow] at hbody
      have hdb := (Prod.mk.inj hbody).2
      have hres := (Prod.mk.inj hbody).1
      cases hr : resultOf row digest with
      | error e => simp [hr, Except.map] at hres
      | ok r =>
          rw [hr] at hres
          exact ⟨hdb.symm,
            Or.inr ⟨row, r, by rw [← hdb, hrow], hr, (Except.ok.inj hres).symm⟩⟩

/-- A claim that returned a token found no row, or a retryable one with the
same digest; one that returned none answered from the row it found. -/
theorem claim_ok {cfg : LedgerConfig} {fault : Option PyError} {pruneAt now : ℚ}
    {token : String} {db db' : Commands δ} {commandId : String} {digest : δ}
    {deadline : ℚ} {c : Claim}
    (h : claim cfg fault pruneAt now token db commandId digest deadline = (.ok c, db')) :
    (c = ⟨some token, none⟩ ∧
      (∀ k, commandId ≠ k → db'.lookup k = (prune pruneAt db).lookup k) ∧
      (((prune pruneAt db).lookup commandId = none ∧
          db'.lookup commandId = some (preparedRow commandId digest token
            (cfg.keepFrom (max now deadline)))) ∨
        ∃ row, (prune pruneAt db).lookup commandId = some row ∧
          row.digest = digest ∧ row.state = .retryable ∧
          db'.lookup commandId = some (row.reclaimed token
            (cfg.keepFrom (max now deadline))))) ∨
    (c.token = none ∧ db' = prune pruneAt db ∧
      ∃ row r, db'.lookup commandId = some row ∧
        (row.digest ≠ digest ∨ row.state ≠ .retryable) ∧
        resultOf row digest = .ok r ∧ c.result = some r) := by
  have hbody := transaction_ok h
  dsimp only at hbody
  cases hrow : (prune pruneAt db).lookup commandId with
  | none =>
      rw [hrow] at hbody
      cases hins : (prune pruneAt db).insert
          (preparedRow commandId digest token (cfg.keepFrom (max now deadline))) with
      | none => simp [hins] at hbody
      | some db'' =>
          simp only [hins] at hbody
          have hc := Except.ok.inj (Prod.mk.inj hbody).1
          have hdb := (Prod.mk.inj hbody).2
          have hlook := Table.lookup_insert hins
          rw [hdb] at hlook
          refine Or.inl ⟨hc.symm, fun k hk => ?_, Or.inl ⟨rfl, ?_⟩⟩
          · rw [hlook k]
            exact if_neg hk
          · rw [hlook commandId]
            exact if_pos rfl
  | some row =>
      simp only [hrow] at hbody
      by_cases hrefuse : row.digest ≠ digest ∨ row.state ≠ .retryable
      · rw [if_pos hrefuse] at hbody
        have hdb := (Prod.mk.inj hbody).2
        have hres := (Prod.mk.inj hbody).1
        cases hr : resultOf row digest with
        | error e => simp [hr, Except.map] at hres
        | ok r =>
            rw [hr] at hres
            have hc : c = ⟨none, some r⟩ := (Except.ok.inj hres).symm
            refine Or.inr ⟨by rw [hc], hdb.symm, row, r, ?_, hrefuse, hr, by rw [hc]⟩
            rw [← hdb, hrow]
      · rw [if_neg hrefuse] at hbody
        have hc := Except.ok.inj (Prod.mk.inj hbody).1
        have hdb := (Prod.mk.inj hbody).2
        push Not at hrefuse
        refine Or.inl ⟨hc.symm, fun k hk => ?_,
          Or.inr ⟨row, rfl, hrefuse.1, hrefuse.2, ?_⟩⟩
        · rw [← hdb]
          exact Table.lookup_updateWhere_other (by simp) hk
        · rw [← hdb]
          exact Table.lookup_updateWhere_self hrow (by simp [Table.key_of_lookup hrow])

end Lookup

/-- The row of a command is under this claim. -/
def HoldsClaim (db : Commands δ) (commandId token : String) : Prop :=
  ∃ row, db.lookup commandId = some row ∧ row.token = some token ∧
    row.state.active = true

/-- Starting a write keeps the first time it started. -/
def CommandRow.startedRow (now : ℚ) (r : CommandRow δ) : CommandRow δ :=
  { r with state := .started, startedAt := r.startedAt.or (some now) }

theorem claimedBy_eq_true {commandId token : String} {r : CommandRow δ} :
    claimedBy commandId token r = true ↔
      (r.commandId = commandId ∧ r.token = some token) ∧ r.state.active = true := by
  simp [claimedBy]

theorem startedBy_eq_true {commandId token : String} {r : CommandRow δ} :
    startedBy commandId token r = true ↔
      (r.commandId = commandId ∧ r.token = some token) ∧ r.state = .started := by
  simp [startedBy]

theorem markStarted_ok {fault : Option PyError} {now : ℚ} {db db' : Commands δ}
    {commandId token : String}
    (h : markStarted fault now db commandId token = (.ok (), db')) :
    ∃ row, db.lookup commandId = some row ∧ row.token = some token ∧
      row.state.active = true ∧ db'.lookup commandId = some (row.startedRow now) ∧
      ∀ k, commandId ≠ k → db'.lookup k = db.lookup k := by
  have hbody := transaction_ok h
  dsimp only at hbody
  split at hbody
  · cases hbody
  · next hcount =>
      rw [← (Prod.mk.inj hbody).2]
      obtain ⟨row, hrow, hclaimed, hself, hother⟩ :=
        Table.updateWhere_of_count_pos (CommandRow.startedRow now) (fun _ => rfl)
          (fun _ hr => (claimedBy_eq_true.1 hr).1.1)
          (show 0 < db.count (claimedBy commandId token) by omega)
      obtain ⟨⟨-, htoken⟩, hactive⟩ := claimedBy_eq_true.1 hclaimed
      exact ⟨row, hrow, htoken, hactive, hself, hother⟩

/-- The row after `complete`. -/
def CommandRow.completedRow (cfg : LedgerConfig) (now : ℚ)
    (writtenAt : AwareDatetime) (r : CommandRow δ) : CommandRow δ :=
  { r with state := .completed, token := none,
           result := some (completedResult writtenAt),
           keepUntil := max r.keepUntil (cfg.keepFrom now) }

theorem complete_ok {cfg : LedgerConfig} {fault : Option PyError} {now : ℚ}
    {db db' : Commands δ} {commandId token : String} {writtenAt : AwareDatetime}
    {result : WriteResult}
    (h : complete cfg fault now db commandId token writtenAt = (.ok result, db')) :
    result = completedResult writtenAt ∧
    ∃ row, db.lookup commandId = some row ∧ row.token = some token ∧
      row.state = .started ∧
      db'.lookup commandId = some (row.completedRow cfg now writtenAt) ∧
      ∀ k, commandId ≠ k → db'.lookup k = db.lookup k := by
  have hbody := transaction_ok h
  dsimp only at hbody
  split at hbody
  · cases hbody
  · next hcount =>
      rw [← (Prod.mk.inj hbody).2]
      obtain ⟨row, hrow, hstarted, hself, hother⟩ :=
        Table.updateWhere_of_count_pos (CommandRow.completedRow cfg now writtenAt)
          (fun _ => rfl) (fun _ hr => (startedBy_eq_true.1 hr).1.1)
          (show 0 < db.count (startedBy commandId token) by omega)
      obtain ⟨⟨-, htoken⟩, hstate⟩ := startedBy_eq_true.1 hstarted
      exact ⟨(Except.ok.inj (Prod.mk.inj hbody).1).symm, row, hrow, htoken, hstate, hself,
        hother⟩

theorem fail_ok {cfg : LedgerConfig} {fault : Option PyError} {now : ℚ}
    {db db' : Commands δ} {commandId token reason : String} {result : WriteResult}
    (h : fail cfg fault now db commandId token reason = (.ok result, db')) :
    ∃ row, db.lookup commandId = some row ∧ row.token = some token ∧
      row.state.active = true ∧ result = settledResult row.state reason ∧
      db'.lookup commandId =
        some (row.settledAs row.state reason (cfg.keepFrom now)) ∧
      ∀ k, commandId ≠ k → db'.lookup k = db.lookup k := by
  have hbody := transaction_ok h
  cases hrow : db.lookup commandId with
  | none => simp [hrow] at hbody
  | some row =>
      simp only [hrow] at hbody
      split at hbody
      · next hactive =>
          have hdb := (Prod.mk.inj hbody).2
          have hres := Except.ok.inj (Prod.mk.inj hbody).1
          refine ⟨row, rfl, hactive.1, hactive.2, hres.symm, ?_, fun k hk => ?_⟩
          · rw [← hdb]
            exact Table.lookup_updateWhere_self hrow
              (by simp [Table.key_of_lookup hrow])
          · rw [← hdb]
            exact Table.lookup_updateWhere_other (by simp) hk
      · cases hbody

/-- What `recover` leaves of a row, before it prunes. -/
def CommandRow.afterCrash (cfg : LedgerConfig) (now : String → ℚ)
    (r : CommandRow δ) : CommandRow δ :=
  if r.state.active then r.recovered cfg now r else r

/-- `recover` settles every claimed row and keeps the others. -/
theorem recover_lookup {cfg : LedgerConfig} {fault : Option PyError}
    {now : String → ℚ} {pruneAt : ℚ} {db db' : Commands δ}
    (h : recover cfg fault now pruneAt db = (.ok (), db')) :
    ∃ db'', db' = prune pruneAt db'' ∧
      ∀ k, db''.lookup k = (db.lookup k).map (.afterCrash cfg now) := by
  have hbody := transaction_ok h
  have hdb := (Prod.mk.inj hbody).2
  refine ⟨_, hdb.symm, fun k => ?_⟩
  have hnodup : ((db.rows.filter fun r => r.state.active).map
      CommandRow.commandId).Nodup :=
    db.keys_nodup.sublist (List.filter_sublist.map _)
  rw [Table.lookup_updateEach _ _ _ _ hnodup]
  cases hr : db.lookup k with
  | none => rfl
  | some r =>
      have hk : r.commandId = k := Table.key_of_lookup hr
      simp only [Option.map_some, Option.some.injEq]
      by_cases ha : r.state.active = true
      · have hfind : (db.rows.filter fun r => r.state.active).find?
            (fun x => decide (x.commandId = k)) = some r := by
          have hsel : (⟨db.rows.filter fun r => r.state.active, hnodup⟩ :
              Commands δ).lookup k = some r :=
            Table.lookup_eq_some_iff.2
              ⟨List.mem_filter.2 ⟨Table.lookup_mem hr, ha⟩, hk⟩
          exact hsel
        rw [hfind]
        simp [CommandRow.afterCrash, ha]
      · have hfind : (db.rows.filter fun r => r.state.active).find?
            (fun x => decide (x.commandId = k)) = none := by
          rw [List.find?_eq_none]
          intro x hx hxk
          have hx' := List.mem_filter.1 hx
          have hlook : db.lookup k = some x :=
            Table.lookup_eq_some_iff.2 ⟨hx'.1, of_decide_eq_true hxk⟩
          have hsame : r = x := Option.some.inj (hr.symm.trans hlook)
          exact ha (by rw [hsame]; exact hx'.2)
        rw [hfind]
        simp [CommandRow.afterCrash, ha]

end Ledger

end EirvahEdge.Writer
