import EirvahEdge.Writer.LedgerInvariant

/-!
# Claim tokens as fences

What the ledger guarantees about the tokens it gave out and about the started
commits made under them, across pruning.  `Fenced` relates the table to the two
logs and to the clock.

Its two halves meet in `starts_inj`: while a started row is retained it admits
no second claim of its command, and once it is pruned the deadline of the
command is past, because a row is kept beyond the deadline it was claimed for.
So a caller that claims only commands which have not expired never starts one
command under two tokens (`Fenced.claim_granted`, `Fenced.started`).

The deadline of a digest is a relation `expires`, given by whoever computes
digests.
-/

namespace EirvahEdge.Writer

open EirvahEdge.Lib
open EirvahEdge.Contracts

variable {δ : Type}

/-- A token given out for a command. -/
structure Fact (δ : Type) where
  commandId : String
  digest : δ
  token : String
deriving DecidableEq, Repr

/-- The table, the clock, the claims granted so far and the started commits
made so far fit together. -/
structure Fenced (expires : δ → ℚ → Prop) (db : Commands δ) (clock : ℚ)
    (claims starts : List (Fact δ)) : Prop where
  shows : ∀ k row, db.lookup k = some row → ∃ l, row.Shows l
  token_claimed : ∀ k row token, db.lookup k = some row →
    row.token = some token → ⟨k, row.digest, token⟩ ∈ claims
  claims_inj : ∀ x ∈ claims, ∀ y ∈ claims, x.token = y.token → x = y
  starts_claimed : ∀ x ∈ starts, x ∈ claims
  retained : ∀ k row D, db.lookup k = some row → expires row.digest D →
    D < row.keepUntil
  start_row : ∀ x ∈ starts, ∀ D, expires x.digest D →
    D < clock ∨ ∃ row, db.lookup x.commandId = some row ∧ row.digest = x.digest
  start_state : ∀ x ∈ starts, ∀ row, db.lookup x.commandId = some row →
    row.digest = x.digest →
      (row.state = .started ∧ row.token = some x.token) ∨
        row.state = .completed ∨ row.state = .unknown
  starts_inj : ∀ x ∈ starts, ∀ y ∈ starts, x.commandId = y.commandId →
    x.digest = y.digest → x = y

theorem Fenced.initial (expires : δ → ℚ → Prop) (clock : ℚ) :
    Fenced expires (Table.empty : Commands δ) clock [] [] := by
  constructor <;> simp

/-- A row was left alone, or it left its claim for a settled state. -/
def Settles (r r' : CommandRow δ) : Prop :=
  r' = r ∨ (r'.digest = r.digest ∧ r.keepUntil ≤ r'.keepUntil ∧ r'.token = none ∧
    (r.state = .started → r'.state = .completed ∨ r'.state = .unknown) ∧
    r.state.active = true)

/-- The calls that neither claim nor start. -/
def LedgerCall.quiet : LedgerCall δ → Bool
  | .claim .. | .markStarted .. => false
  | .lookup .. | .complete .. | .fail .. | .recover .. => true

theorem RowStep.settles {cfg : LedgerConfig} {r r' : CommandRow δ}
    {call : LedgerCall δ} (h : RowStep cfg r call r') (hquiet : call.quiet = true) :
    Settles r r' := by
  cases h with
  | keep => exact Or.inl rfl
  | reclaim => simp [LedgerCall.quiet] at hquiet
  | start => simp [LedgerCall.quiet] at hquiet
  | complete _ now token writtenAt _ h =>
      exact Or.inr ⟨rfl, le_max_left _ _, rfl, fun _ => Or.inl rfl,
        by rw [h]; rfl⟩
  | fail _ now token reason _ h =>
      refine Or.inr ⟨rfl, le_max_left _ _, rfl, fun hs => Or.inr ?_, h⟩
      simp [CommandRow.settledAs, hs, settledState]
  | recover _ now pruneAt h =>
      refine Or.inr ⟨rfl, le_max_left _ _, rfl, fun hs => Or.inr ?_, h⟩
      simp [CommandRow.recovered, CommandRow.settledAs, hs, settledState]

namespace Fenced

variable {expires : δ → ℚ → Prop} {db db' : Commands δ} {clock clock' : ℚ}
  {claims starts : List (Fact δ)}

/-- The clock may go on. -/
theorem tick (h : Fenced expires db clock claims starts) (hclock : clock ≤ clock') :
    Fenced expires db clock' claims starts where
  shows := h.shows
  token_claimed := h.token_claimed
  claims_inj := h.claims_inj
  starts_claimed := h.starts_claimed
  retained := h.retained
  start_row := by
    intro x hx D hD
    rcases h.start_row x hx D hD with hlt | hrow
    · exact Or.inl (lt_of_lt_of_le hlt hclock)
    · exact Or.inr hrow
  start_state := h.start_state
  starts_inj := h.starts_inj

/-- Rows may settle, and rows whose retention has run out may go. -/
theorem of_settles (h : Fenced expires db clock claims starts)
    (hclock : clock ≤ clock') (hshows : ∀ k row, db'.lookup k = some row → ∃ l, row.Shows l)
    (hrow : ∀ k row', db'.lookup k = some row' →
      ∃ row, db.lookup k = some row ∧ Settles row row')
    (hgone : ∀ k row, db.lookup k = some row → db'.lookup k = none →
      row.keepUntil < clock') :
    Fenced expires db' clock' claims starts where
  shows := hshows
  token_claimed := by
    intro k row' token hk htoken
    obtain ⟨row, hold, rfl | ⟨-, -, hnone, -⟩⟩ := hrow k row' hk
    · exact h.token_claimed k row' token hold htoken
    · rw [hnone] at htoken
      cases htoken
  claims_inj := h.claims_inj
  starts_claimed := h.starts_claimed
  retained := by
    intro k row' D hk hD
    obtain ⟨row, hold, rfl | ⟨hdigest, hkeep, -⟩⟩ := hrow k row' hk
    · exact h.retained k row' D hold hD
    · rw [hdigest] at hD
      exact lt_of_lt_of_le (h.retained k row D hold hD) hkeep
  start_row := by
    intro x hx D hD
    rcases h.start_row x hx D hD with hlt | ⟨row, hold, hdigest⟩
    · exact Or.inl (lt_of_lt_of_le hlt hclock)
    · cases hnew : db'.lookup x.commandId with
      | none =>
          have hkeep := h.retained _ row D hold (by rw [hdigest]; exact hD)
          exact Or.inl (hkeep.trans (hgone _ row hold hnew))
      | some row' =>
          obtain ⟨row₀, hold₀, hsettles⟩ := hrow _ row' hnew
          obtain rfl := Option.some.inj (hold.symm.trans hold₀)
          rcases hsettles with rfl | ⟨hdigest', -⟩
          · exact Or.inr ⟨row', rfl, hdigest⟩
          · exact Or.inr ⟨row', rfl, hdigest'.trans hdigest⟩
  start_state := by
    intro x hx row' hk hdigest
    obtain ⟨row, hold, rfl | ⟨hdigest', -, -, hstarted, hactive⟩⟩ := hrow _ row' hk
    · exact h.start_state x hx row' hold hdigest
    · rcases h.start_state x hx row hold (hdigest'.symm.trans hdigest) with
        hs | hs | hs
      · exact Or.inr (hstarted hs.1)
      · simp [hs, CommandState.active] at hactive
      · simp [hs, CommandState.active] at hactive
  starts_inj := h.starts_inj

/-- Every call that neither claims nor starts keeps the fences. -/
theorem call [DecidableEq δ] {cfg : LedgerConfig} {call : LedgerCall δ}
    (h : Fenced expires db clock claims starts) (hquiet : call.quiet = true)
    (hclock : clock ≤ clock') (hprune : ∀ t, call.pruneReading = some t → t ≤ clock') :
    Fenced expires (call.run cfg db).2 clock' claims starts := by
  have hrow : ∀ k row', (call.run cfg db).2.lookup k = some row' →
      ∃ row, db.lookup k = some row ∧ RowStep cfg row call row' := by
    intro k row' hk
    have heffect := call.effect cfg db k
    rw [hk] at heffect
    generalize db.lookup k = o at heffect ⊢
    cases heffect with
    | step hstep => exact ⟨_, rfl, hstep⟩
    | create _ _ _ _ _ _ _ hcall => rw [hcall] at hquiet; cases hquiet
  refine h.of_settles hclock (fun k row' hk => ?_) (fun k row' hk => ?_)
    fun k row hold hnone => ?_
  · obtain ⟨row, hold, hstep⟩ := hrow k row' hk
    obtain ⟨l, hl⟩ := h.shows k row hold
    exact hstep.shows hl
  · obtain ⟨row, hold, hstep⟩ := hrow k row' hk
    exact ⟨row, hold, hstep.settles hquiet⟩
  · have heffect := call.effect cfg db k
    rw [hold, hnone] at heffect
    cases heffect with
    | expire hstep ht hexpired =>
        have hlt := (settled_of_expired hexpired).2
        exact lt_of_le_of_lt hstep.keepUntil_le (hlt.trans_le (hprune _ ht))

/-- Pruning keeps the fences. -/
theorem prune (h : Fenced expires db clock claims starts) (hclock : clock ≤ clock')
    {t : ℚ} (ht : t ≤ clock') :
    Fenced expires (prune t db) clock' claims starts := by
  refine h.of_settles hclock (fun k row hk => h.shows k row (prune_lookup_eq_some.1 hk).1)
    (fun k row hk => ⟨row, (prune_lookup_eq_some.1 hk).1, Or.inl rfl⟩)
    fun k row hold hnone => ?_
  rcases prune_lookup_or t hold with hkept | ⟨-, -, hlt⟩
  · rw [hnone] at hkept
    cases hkept
  · exact hlt.trans_le ht

/-- A started commit under the token of the row: the first of its command, or
another of the same token. -/
theorem started (h : Fenced expires db clock claims starts) (hclock : clock ≤ clock')
    {fault : Option PyError} {now : ℚ} {commandId token : String} {digest : δ}
    (hclaim : ⟨commandId, digest, token⟩ ∈ claims)
    (hmark : markStarted fault now db commandId token = (.ok (), db')) :
    Fenced expires db' clock' claims (⟨commandId, digest, token⟩ :: starts) := by
  obtain ⟨row, hrow, htoken, hactive, hnew, hother⟩ := markStarted_ok hmark
  -- the row is the one this token was given out for
  have hdigest : row.digest = digest := by
    have hsame := h.claims_inj _ (h.token_claimed _ row token hrow htoken) _ hclaim rfl
    exact congrArg Fact.digest hsame
  have hlook : ∀ k row', db'.lookup k = some row' →
      (k = commandId ∧ row' = row.startedRow now) ∨
        (k ≠ commandId ∧ db.lookup k = some row') := by
    intro k row' hk
    by_cases hkey : commandId = k
    · subst hkey
      exact Or.inl ⟨rfl, Option.some.inj (hk.symm.trans hnew)⟩
    · exact Or.inr ⟨Ne.symm hkey, by rw [← hother k hkey]; exact hk⟩
  have hfirst : ∀ x ∈ starts, x.commandId = commandId → x.digest = digest →
      x.token = token := by
    intro x hx hid hd
    rcases h.start_state x hx row (by rw [hid]; exact hrow) (hdigest.trans hd.symm) with
      hs | hs | hs
    · exact (Option.some.inj (htoken.symm.trans hs.2)).symm
    · simp [hs, CommandState.active] at hactive
    · simp [hs, CommandState.active] at hactive
  refine ⟨?_, ?_, h.claims_inj, ?_, ?_, ?_, ?_, ?_⟩
  · intro k row' hk
    rcases hlook k row' hk with ⟨-, rfl⟩ | ⟨-, hold⟩
    · obtain ⟨l, hl⟩ := h.shows _ row hrow
      exact hl.startedRow hactive now
    · exact h.shows k row' hold
  · intro k row' token' hk htoken'
    rcases hlook k row' hk with ⟨rfl, rfl⟩ | ⟨-, hold⟩
    · exact h.token_claimed _ row token' hrow htoken'
    · exact h.token_claimed k row' token' hold htoken'
  · intro x hx
    rcases List.mem_cons.1 hx with rfl | hx
    · exact hclaim
    · exact h.starts_claimed x hx
  · intro k row' D hk hD
    rcases hlook k row' hk with ⟨rfl, rfl⟩ | ⟨-, hold⟩
    · exact h.retained _ row D hrow hD
    · exact h.retained k row' D hold hD
  · intro x hx D hD
    by_cases hid : commandId = x.commandId
    · rcases List.mem_cons.1 hx with rfl | hx
      · exact Or.inr ⟨_, hnew, hdigest⟩
      · rcases h.start_row x hx D hD with hlt | ⟨row', hold, hd⟩
        · exact Or.inl (hlt.trans_le hclock)
        · rw [← hid] at hold ⊢
          obtain rfl := Option.some.inj (hrow.symm.trans hold)
          exact Or.inr ⟨_, hnew, hd⟩
    · rcases List.mem_cons.1 hx with rfl | hx
      · exact absurd rfl hid
      · rcases h.start_row x hx D hD with hlt | ⟨row', hold, hd⟩
        · exact Or.inl (hlt.trans_le hclock)
        · exact Or.inr ⟨row', by rw [hother _ hid]; exact hold, hd⟩
  · intro x hx row' hk hd
    rcases hlook _ row' hk with ⟨hid, rfl⟩ | ⟨hid, hold⟩
    · refine Or.inl ⟨rfl, ?_⟩
      rcases List.mem_cons.1 hx with rfl | hx
      · exact htoken
      · rw [hfirst x hx hid (hd.symm.trans hdigest)]
        exact htoken
    · rcases List.mem_cons.1 hx with rfl | hx
      · exact absurd rfl hid
      · exact h.start_state x hx row' hold hd
  · have hnewold : ∀ y ∈ starts, commandId = y.commandId → digest = y.digest →
        (⟨commandId, digest, token⟩ : Fact δ) = y := by
      intro y hy hid hd
      have htok := hfirst y hy hid.symm hd.symm
      cases y
      simp_all
    intro x hx y hy hid hd
    rcases List.mem_cons.1 hx with rfl | hx <;> rcases List.mem_cons.1 hy with rfl | hy
    · rfl
    · exact hnewold y hy hid hd
    · exact (hnewold x hx hid.symm hd.symm).symm
    · exact h.starts_inj x hx y hy hid hd

/-- A claim that is granted a fresh token for a command that was not started
and whose row will outlive its deadline. -/
theorem claim_granted [DecidableEq δ] {cfg : LedgerConfig}
    (h : Fenced expires db clock claims starts)
    {fault : Option PyError} {pruneAt now deadline : ℚ} {commandId token : String}
    {digest : δ} {c : Claim}
    (hprune : clock ≤ pruneAt) (hclock : pruneAt ≤ clock')
    (hfresh : ∀ x ∈ claims, x.token ≠ token)
    (hunstarted : ∀ x ∈ starts, x.commandId = commandId → x.digest ≠ digest)
    (hdeadline : ∀ D, expires digest D → D < cfg.keepFrom deadline)
    (hclaim : claim cfg fault pruneAt now token db commandId digest deadline = (.ok c, db'))
    (hgranted : c.token = some token) :
    Fenced expires db' clock' (⟨commandId, digest, token⟩ :: claims) starts := by
  have hpruned := h.prune (hprune.trans hclock) hclock
  obtain ⟨hother, hself⟩ :
      (∀ k, commandId ≠ k → db'.lookup k = (Writer.prune pruneAt db).lookup k) ∧
      ∃ row, db'.lookup commandId = some row ∧ row.digest = digest ∧
        row.state = .preparing ∧ row.token = some token ∧ (∃ l, row.Shows l) ∧
        cfg.keepFrom deadline ≤ row.keepUntil ∧
        ∀ old, (Writer.prune pruneAt db).lookup commandId = some old →
          old.digest = digest := by
    have hkeep : cfg.keepFrom deadline ≤ cfg.keepFrom (max now deadline) :=
      cfg.keepFrom_mono (le_max_right _ _)
    rcases claim_ok hclaim with ⟨-, hother, hself⟩ | ⟨hnone, -⟩
    · refine ⟨hother, ?_⟩
      rcases hself with ⟨hnone, hnew⟩ | ⟨old, hold, hdigest, -, hnew⟩
      · exact ⟨_, hnew, rfl, rfl, rfl, ⟨.preparing token, rfl, rfl, rfl, rfl⟩, hkeep,
          by simp [hnone]⟩
      · refine ⟨_, hnew, hdigest, rfl, rfl, ⟨.preparing token, rfl, rfl, rfl, rfl⟩,
          hkeep.trans (le_max_right _ _), fun old' hold' => ?_⟩
        obtain rfl := Option.some.inj (hold.symm.trans hold')
        exact hdigest
    · rw [hgranted] at hnone
      cases hnone
  obtain ⟨row, hrow, hdigest, hstate, htoken, hshows, hkeep, hold⟩ := hself
  have hlook : ∀ k row', db'.lookup k = some row' → (k = commandId ∧ row' = row) ∨
      (k ≠ commandId ∧ (Writer.prune pruneAt db).lookup k = some row') := by
    intro k row' hk
    by_cases hkey : commandId = k
    · subst hkey
      exact Or.inl ⟨rfl, Option.some.inj (hk.symm.trans hrow)⟩
    · exact Or.inr ⟨Ne.symm hkey, by rw [← hother k hkey]; exact hk⟩
  refine ⟨?_, ?_, ?_, ?_, ?_, ?_, ?_, h.starts_inj⟩
  · intro k row' hk
    rcases hlook k row' hk with ⟨-, rfl⟩ | ⟨-, hk'⟩
    · exact hshows
    · exact hpruned.shows k row' hk'
  · intro k row' token' hk htoken'
    rcases hlook k row' hk with ⟨rfl, rfl⟩ | ⟨-, hk'⟩
    · obtain rfl := Option.some.inj (htoken.symm.trans htoken')
      rw [hdigest]
      exact List.mem_cons_self
    · exact List.mem_cons_of_mem _ (hpruned.token_claimed k row' token' hk' htoken')
  · intro x hx y hy hxy
    rcases List.mem_cons.1 hx with rfl | hx <;> rcases List.mem_cons.1 hy with rfl | hy
    · rfl
    · exact absurd hxy.symm (hfresh y hy)
    · exact absurd hxy (hfresh x hx)
    · exact h.claims_inj x hx y hy hxy
  · exact fun x hx => List.mem_cons_of_mem _ (h.starts_claimed x hx)
  · intro k row' D hk hD
    rcases hlook k row' hk with ⟨-, rfl⟩ | ⟨-, hk'⟩
    · rw [hdigest] at hD
      exact lt_of_lt_of_le (hdeadline D hD) hkeep
    · exact hpruned.retained k row' D hk' hD
  · intro x hx D hD
    rcases hpruned.start_row x hx D hD with hlt | ⟨row', hk', hd⟩
    · exact Or.inl hlt
    · by_cases hid : commandId = x.commandId
      · rw [← hid] at hk'
        exact absurd (hd.symm.trans (hold row' hk')) (hunstarted x hx hid.symm)
      · exact Or.inr ⟨row', by rw [hother _ hid]; exact hk', hd⟩
  · intro x hx row' hk hd
    rcases hlook _ row' hk with ⟨hid, rfl⟩ | ⟨-, hk'⟩
    · exact absurd (hd.symm.trans hdigest) (hunstarted x hx hid)
    · exact hpruned.start_state x hx row' hk' hd

end Fenced

end EirvahEdge.Writer
