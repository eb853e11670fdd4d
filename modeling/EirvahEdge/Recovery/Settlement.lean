import EirvahEdge.Recovery.OneCommand

/-!
# Settlement of commands

Results of a command may be repeated, late or contradictory.  `settle` refuses what
does not fit the stored command, ignores what only reports progress, and otherwise
assigns the outcome columns of the one row that has the command.  A row never goes
back to pending, and a completed row stays completed.

What a completed row does not keep by itself is the acknowledgement time of its
retained result: a second approval is written over the first.  `SameAcknowledgement`
is the condition on one call under which it is kept, and `settlementSound_iff` says
that this is the only thing that can go wrong.

A row is told from others by its serial, which is never used again.
-/

namespace EirvahEdge.Recovery

open EirvahEdge.Lib
open EirvahEdge.Contracts

variable {δ : Type}

/-! ## Rows and the results about them -/

/-- The result is about the command of the row. -/
def Addresses (cfg : InboxConfig δ) (result : List (String × Json)) (row : InspectionRow δ) :
    Prop :=
  ∃ identity, sqlText cfg (getMember result "correlation_id") = .ok (some identity) ∧
    row.commandId = some identity

/-- The result names the stored command in its four members. -/
def BindsTo (result : List (String × Json)) (row : InspectionRow δ) : Prop :=
  ∃ command, row.command = some command ∧ bindsTo result command = true

/-- `written_at` of the retained result. -/
def InspectionRow.writtenAt (r : InspectionRow δ) : Option Json :=
  match r.result with
  | some (.obj fields) => getMember fields "written_at"
  | _ => none

/-- `written_at` of the text a result is retained as. -/
def retainedWrittenAt (result : List (String × Json)) : Option Json :=
  match (Json.obj result).sortKeys with
  | .obj fields => getMember fields "written_at"
  | _ => none

/-- An approval that `settle` can retain. -/
structure Approval (result : List (String × Json)) (row : InspectionRow δ) : Prop where
  binds : BindsTo result row
  approves : getMember result "decision" = some (.str "approve")
  acknowledged : truthy (getMember result "written_at") = true
  finite : (Json.obj result).allFinite = true

/-- Commands are stored with their ids, no two rows have one command, and serials
increase. -/
structure SettleInv (cfg : InboxConfig δ) (s : InboxState δ) : Prop extends
    InboxRows cfg s where
  named : ∀ r ∈ s.inbox.rows.rows, r.commandId = r.command.map ActuationRequest.correlationId
  unique : ∀ r ∈ s.inbox.rows.rows, ∀ r' ∈ s.inbox.rows.rows, ∀ c,
    r.commandId = some c → r'.commandId = some c → r = r'

theorem SettleInv.initial (cfg : InboxConfig δ) (clock : ℚ) :
    SettleInv cfg (InboxState.initial clock) where
  toInboxRows := .initial cfg clock
  named := by simp [InboxState.initial, Table.empty]
  unique := by simp [InboxState.initial, Table.empty]

/-- A new row has a command id of its own. -/
theorem commandId_of_receiveNew {cfg : InboxConfig δ} {inbox inbox' : Inbox δ}
    {event : BottleInspection} {now : ℚ} {factory : Except PyError ActuationRequest}
    {baselineCount : Option ℕ} {row : InspectionRow δ}
    (h : receiveNew cfg inbox event now factory baselineCount = .ok (row, inbox')) :
    ∀ r ∈ inbox.rows.rows, ∀ c, r.commandId = some c → row.commandId ≠ some c := by
  unfold receiveNew at h
  obtain ⟨⟨disposition, command⟩, -, h⟩ := bind_eq_ok.1 h
  dsimp only at h
  split at h
  · cases h
  · obtain ⟨inserted, hinsert, h⟩ := bind_eq_ok.1 h
    obtain ⟨rfl, -⟩ := Prod.mk.inj (Except.ok.inj h)
    unfold Inbox.insert at hinsert
    split at hinsert
    · cases hinsert
    · next hnone =>
        intro r hr c hc hrow
        apply hnone
        rw [List.any_eq_true]
        exact ⟨r, hr, by rw [hc, hrow]; simp⟩

theorem SettleInv.step [DecidableEq δ] {cfg : InboxConfig δ} {s t : InboxState δ}
    {e : InboxEvent} (h : SettleInv cfg s) (hs : inboxStep cfg s e = some t) :
    SettleInv cfg t := by
  have hrows := h.toInboxRows.step hs
  cases inboxStep_change hs with
  | same clock => exact ⟨hrows, h.named, h.unique⟩
  | assign clock p f hf hkept hpending =>
      refine ⟨hrows, ?_, ?_⟩
      · intro r hr
        obtain ⟨x, hx, rfl⟩ := List.mem_map.1 hr
        have hx' := kept_updateRow (p := p) hkept x
        rw [hx'.commandId, hx'.command]
        exact h.named x hx
      · intro r hr r' hr' c hc hc'
        obtain ⟨x, hx, rfl⟩ := List.mem_map.1 hr
        obtain ⟨x', hx', rfl⟩ := List.mem_map.1 hr'
        rw [(kept_updateRow (p := p) hkept x).commandId] at hc
        rw [(kept_updateRow (p := p) hkept x').commandId] at hc'
        rw [h.unique x hx x' hx' c hc hc']
  | insert event now factory baselineCount row inbox hnew hok =>
      have hown := commandId_of_receiveNew hok
      obtain ⟨disposition, command, rows, -, hrow, hinsert, rfl⟩ := receiveNew_ok hok
      have hmem := mem_of_insert now hinsert
      refine ⟨hrows, ?_, ?_⟩
      · intro r hr
        cases hmem r hr with
        | inl hr => exact h.named r hr
        | inr hr =>
            rw [hr, hrow]
            rfl
      · intro r hr r' hr' c hc hc'
        cases hmem r hr with
        | inl hold =>
            cases hmem r' hr' with
            | inl hold' => exact h.unique r hold r' hold' c hc hc'
            | inr hnew' => exact absurd (hnew' ▸ hc') (hown r hold c hc)
        | inr hnew =>
            cases hmem r' hr' with
            | inl hold' => exact absurd (hnew ▸ hc) (hown r' hold' c hc')
            | inr hnew' => rw [hnew, hnew']

/-! ## One call of `settle` -/

section Settle

variable {cfg : InboxConfig δ} {s : InboxState δ} {result : List (String × Json)}

/-- The row a result is about decides what becomes of the result. -/
theorem settle_of_addresses (hI : SettleInv cfg s) {row : InspectionRow δ}
    (hrow : row ∈ s.inbox.rows.rows) (haddresses : Addresses cfg result row) :
    ∃ identity, row.commandId = some identity ∧ settle cfg s.inbox result =
      match settleRow result row with
      | .error e => (.error e, s.inbox)
      | .ok none => (.ok (), s.inbox)
      | .ok (some disposition) =>
          (.ok (), s.inbox.update (fun r => r.commandId == some identity)
            (InspectionRow.settledBy disposition (Json.obj result).sortKeys) fun _ => rfl) := by
  obtain ⟨identity, htext, hid⟩ := haddresses
  refine ⟨identity, hid, ?_⟩
  have hfind : s.inbox.rows.rows.find? (fun r => r.commandId == some identity) = some row := by
    have hsome : (s.inbox.rows.rows.find? fun r => r.commandId == some identity).isSome :=
      List.find?_isSome.2 ⟨row, hrow, by simp [hid]⟩
    obtain ⟨x, hx⟩ := Option.isSome_iff_exists.1 hsome
    have hxid : x.commandId = some identity := by simpa using List.find?_some hx
    rw [hx, hI.unique x (List.mem_of_find?_eq_some hx) row hrow identity hxid hid]
  cases hrow : settleRow result row with
  | error e => simp only [settle, htext, hfind, hrow]
  | ok disposition =>
      cases disposition with
      | none => simp only [settle, htext, hfind, hrow]
      | some disposition => simp only [settle, htext, hfind, hrow]

/-- Every row afterwards is a row from before, or the row the result is about with its
outcome. -/
theorem settle_rows (hI : SettleInv cfg s) {r' : InspectionRow δ}
    (hr' : r' ∈ (settle cfg s.inbox result).2.rows.rows) :
    ∃ r ∈ s.inbox.rows.rows, r' = r ∨ (Addresses cfg result r ∧ ∃ disposition,
      settleRow result r = .ok (some disposition) ∧
      r' = r.settledBy disposition (Json.obj result).sortKeys) := by
  unfold settle at hr'
  split at hr'
  · exact ⟨r', hr', Or.inl rfl⟩
  · exact ⟨r', hr', Or.inl rfl⟩
  · next identity htext =>
      split at hr'
      · exact ⟨r', hr', Or.inl rfl⟩
      · next row hrow =>
          split at hr'
          · exact ⟨r', hr', Or.inl rfl⟩
          · exact ⟨r', hr', Or.inl rfl⟩
          · next disposition hsettle =>
              obtain ⟨r, hr, rfl⟩ := List.mem_map.1 hr'
              refine ⟨r, hr, ?_⟩
              by_cases hid : r.commandId = some identity
              · have hrowid : row.commandId = some identity := by
                  simpa using List.find?_some hrow
                have hsame : r = row :=
                  hI.unique r hr row (List.mem_of_find?_eq_some hrow) identity hid hrowid
                refine Or.inr ⟨⟨identity, htext, hid⟩, disposition, hsame ▸ hsettle, ?_⟩
                rw [Table.updateRow, if_pos (by simpa using hid)]
              · exact Or.inl (if_neg (by simpa using hid))

/-- When a result is retained and what it says about the row. -/
theorem settleRow_eq_some {row : InspectionRow δ} {disposition : Disposition} :
    settleRow result row = .ok (some disposition) ↔
      BindsTo result row ∧ settledAs result = .ok (some disposition) ∧
        ¬ (row.disposition = .completed ∧ disposition ≠ .completed) ∧
        (Json.obj result).allFinite = true := by
  unfold settleRow BindsTo
  cases hcommand : row.command with
  | none => simp
  | some command =>
      by_cases hbinds : bindsTo result command = true
      · simp only [hbinds, Bool.not_true, Bool.false_eq_true, if_false, Option.some.injEq,
          exists_eq_left', true_and]
        cases hsettled : settledAs result with
        | error e => simp
        | ok d =>
            cases d with
            | none => simp
            | some d =>
                by_cases hfinal : row.disposition = .completed ∧ d ≠ .completed
                · simp only [if_pos hfinal, reduceCtorEq, Except.ok.injEq, Option.some.injEq,
                    false_iff]
                  rintro ⟨rfl, hnot, -⟩
                  exact hnot hfinal
                · by_cases hfinite : (Json.obj result).allFinite = true
                  · simp only [if_neg hfinal, hfinite, Bool.not_true, Bool.false_eq_true,
                      if_false, Except.ok.injEq, Option.some.injEq, and_true]
                    exact ⟨fun h => ⟨h, h ▸ hfinal⟩, And.left⟩
                  · simp [hfinal, hfinite]
      · simp [hbinds]

theorem settledAs_completed : settledAs result = .ok (some .completed) ↔
    getMember result "decision" = some (.str "approve") ∧
      truthy (getMember result "written_at") = true := by
  unfold settledAs
  split
  · next h => simp [h]
  · next h =>
      split
      · next htruthy => simp [h, htruthy]
      · next htruthy => simp [h, htruthy]
  · next h => simp [h]
  · next h => simp [h]
  · next hpending happrove hreject hunknown =>
      simp only [reduceCtorEq, false_iff]
      exact fun hand => happrove hand.1

/-- A completed row is written again by approvals only. -/
theorem settleRow_completed {row : InspectionRow δ} (hcompleted : row.disposition = .completed)
    {disposition : Disposition} :
    settleRow result row = .ok (some disposition) ↔
      disposition = .completed ∧ Approval result row := by
  rw [settleRow_eq_some]
  constructor
  · rintro ⟨hbinds, hsettled, hfinal, hfinite⟩
    have hd : disposition = .completed := by
      by_contra hne
      exact hfinal ⟨hcompleted, hne⟩
    subst hd
    obtain ⟨happroves, hacknowledged⟩ := settledAs_completed.1 hsettled
    exact ⟨rfl, hbinds, happroves, hacknowledged, hfinite⟩
  · rintro ⟨rfl, h⟩
    exact ⟨h.binds, settledAs_completed.2 ⟨h.approves, h.acknowledged⟩, fun hand => hand.2 rfl,
      h.finite⟩

end Settle

section Table

variable {cfg : InboxConfig δ} {s : InboxState δ}

/-- Two rows of one table with one serial are one row. -/
theorem SettleInv.eq_of_serial (h : SettleInv cfg s) {r r' : InspectionRow δ}
    (hr : r ∈ s.inbox.rows.rows) (hr' : r' ∈ s.inbox.rows.rows)
    (hserial : r.serial = r'.serial) : r = r' := by
  have hnodup : (s.inbox.rows.rows.map InspectionRow.serial).Nodup :=
    h.serials.imp fun hlt => ne_of_lt hlt
  exact List.inj_on_of_nodup_map hnodup hr hr' hserial

/-- What is assigned to the row a result is about is in the table afterwards. -/
theorem settledBy_mem (hI : SettleInv cfg s) {result : List (String × Json)}
    {row : InspectionRow δ} (hrow : row ∈ s.inbox.rows.rows)
    (haddresses : Addresses cfg result row) {disposition : Disposition}
    (hsettled : settleRow result row = .ok (some disposition)) :
    row.settledBy disposition (Json.obj result).sortKeys ∈
      (settle cfg s.inbox result).2.rows.rows := by
  obtain ⟨identity, hid, hsettle⟩ := settle_of_addresses hI hrow haddresses
  rw [hsettle, hsettled]
  refine List.mem_map.2 ⟨row, hrow, ?_⟩
  rw [Table.updateRow, if_pos (by simpa using hid)]

/-- Only pending rows are offered, as they are in the table. -/
theorem mem_ready {inbox : Inbox δ} {now : ℚ} {r : InspectionRow δ}
    (h : r ∈ (ready inbox now).1) : r ∈ inbox.rows.rows ∧ r.disposition = .pending := by
  have hmem := List.mem_of_mem_take h
  obtain ⟨hr, hfilter⟩ := List.mem_filter.1 hmem
  have hpending : r.disposition = .pending := by
    simpa [InspectionRow.isPending] using (Bool.and_eq_true_iff.1 hfilter).1
  refine ⟨?_, hpending⟩
  obtain ⟨x, hx, rfl⟩ := List.mem_map.1 hr
  unfold Table.updateRow at hpending ⊢
  split
  · next hwaiting =>
      rw [if_pos hwaiting] at hpending
      cases hpending
  · exact hx

/-- A decision that is none of the four. -/
def UnknownDecision (result : List (String × Json)) : Prop :=
  ∀ d ∈ ["approve", "reject", "pending", "unknown"], getMember result "decision" ≠ some (.str d)

/-- A result that does not fit the row it is about. -/
def Misfit (result : List (String × Json)) (row : InspectionRow δ) : Prop :=
  ¬ BindsTo result row ∨ UnknownDecision result ∨
    (getMember result "decision" = some (.str "approve") ∧
      truthy (getMember result "written_at") = false)

theorem settledAs_error {result : List (String × Json)}
    (h : UnknownDecision result ∨ (getMember result "decision" = some (.str "approve") ∧
      truthy (getMember result "written_at") = false)) :
    ∃ e, settledAs result = .error e := by
  cases h with
  | inl hunknown =>
      unfold settledAs
      split
      · next h => exact absurd h (hunknown "pending" (by simp))
      · next h => exact absurd h (hunknown "approve" (by simp))
      · next h => exact absurd h (hunknown "reject" (by simp))
      · next h => exact absurd h (hunknown "unknown" (by simp))
      · exact ⟨_, rfl⟩
  | inr happrove =>
      obtain ⟨hdecision, hnot⟩ := happrove
      rw [settledAs, hdecision]
      exact ⟨valueError "completion acknowledgement missing", if_neg (by simp [hnot])⟩

theorem settleRow_misfit {result : List (String × Json)} {row : InspectionRow δ}
    (h : Misfit result row) : ∃ e, settleRow result row = .error e := by
  unfold settleRow
  cases hcommand : row.command with
  | none => exact ⟨_, rfl⟩
  | some command =>
      dsimp only
      by_cases hbinds : bindsTo result command = true
      · obtain ⟨e, he⟩ := settledAs_error
          (h.resolve_left (not_not.2 ⟨command, hcommand, hbinds⟩))
        rw [hbinds, he]
        exact ⟨e, rfl⟩
      · rw [Bool.eq_false_iff.2 hbinds]
        exact ⟨_, rfl⟩

theorem settledAs_pending {result : List (String × Json)}
    (h : getMember result "decision" = some (.str "pending")) : settledAs result = .ok none := by
  rw [settledAs, h]
  rfl

/-- A progress report is refused or ignored. -/
theorem settleRow_pending {result : List (String × Json)} {row : InspectionRow δ}
    (h : getMember result "decision" = some (.str "pending")) :
    settleRow result row = .ok none ∨ ∃ e, settleRow result row = .error e := by
  unfold settleRow
  split
  · exact Or.inr ⟨_, rfl⟩
  · split
    · exact Or.inr ⟨_, rfl⟩
    · rw [settledAs_pending h]
      exact Or.inl rfl

end Table

/-! ## What stays over a run -/

/-- What a later state of a row keeps of it. -/
structure InspectionRow.Later (r r' : InspectionRow δ) : Prop where
  leaves : r.disposition ≠ .pending → r'.disposition ≠ .pending
  final : r.disposition = .completed →
    r'.disposition = .completed ∧ r'.writtenAt = r.writtenAt

theorem InspectionRow.Later.refl (r : InspectionRow δ) : r.Later r := ⟨fun h => h, fun h => ⟨h, rfl⟩⟩

theorem InspectionRow.Later.trans {r r' r'' : InspectionRow δ} (h : r.Later r')
    (h' : r'.Later r'') : r.Later r'' where
  leaves hne := h'.leaves (h.leaves hne)
  final hcompleted := by
    obtain ⟨hd, hw⟩ := h.final hcompleted
    obtain ⟨hd', hw'⟩ := h'.final hd
    exact ⟨hd', hw'.trans hw⟩

/-- Every row that was there before is there as something later of itself, or gone. -/
structure RowsLater (s t : InboxState δ) : Prop where
  counter : s.inbox.nextSerial ≤ t.inbox.nextSerial
  rows : ∀ r' ∈ t.inbox.rows.rows, r'.serial < s.inbox.nextSerial →
    ∃ r ∈ s.inbox.rows.rows, r.serial = r'.serial ∧ r.Later r'

theorem RowsLater.refl (s : InboxState δ) : RowsLater s s :=
  ⟨le_refl _, fun r hr _ => ⟨r, hr, rfl, .refl r⟩⟩

theorem RowsLater.trans {s t u : InboxState δ} (h : RowsLater s t) (h' : RowsLater t u) :
    RowsLater s u where
  counter := le_trans h.counter h'.counter
  rows r'' hr'' hlt := by
    obtain ⟨r', hr', hserial', hlater'⟩ := h'.rows r'' hr'' (lt_of_lt_of_le hlt h.counter)
    obtain ⟨r, hr, hserial, hlater⟩ := h.rows r' hr' (hserial' ▸ hlt)
    exact ⟨r, hr, hserial.trans hserial', hlater.trans hlater'⟩

/-- An approval of a completed row carries the acknowledgement time that is retained. -/
def SameAcknowledgement (cfg : InboxConfig δ) (s : InboxState δ) : InboxEvent → Prop
  | .settle result => ∀ row ∈ s.inbox.rows.rows, row.disposition = .completed →
      Addresses cfg result row → Approval result row → retainedWrittenAt result = row.writtenAt
  | _ => True

section Run

variable [DecidableEq δ] {cfg : InboxConfig δ} {s t : InboxState δ}

omit [DecidableEq δ] in
/-- Assigning columns to some of the rows leads to later rows, if it does so for each. -/
theorem later_of_mem_updateRow {rows : List (InspectionRow δ)} {p : InspectionRow δ → Bool}
    {f : InspectionRow δ → InspectionRow δ}
    (hf : ∀ r, p r = true → (f r).serial = r.serial ∧ r.Later (f r)) {r' : InspectionRow δ}
    (hr' : r' ∈ rows.map (Table.updateRow p f)) :
    ∃ r ∈ rows, r.serial = r'.serial ∧ r.Later r' := by
  obtain ⟨r, hr, rfl⟩ := List.mem_map.1 hr'
  refine ⟨r, hr, ?_⟩
  unfold Table.updateRow
  split
  · next hp => exact ⟨(hf r hp).1.symm, (hf r hp).2⟩
  · exact ⟨rfl, .refl r⟩

/-- One call under the condition. -/
theorem rowsLater_step {e : InboxEvent} (hI : SettleInv cfg s)
    (hG : SameAcknowledgement cfg s e) (h : inboxStep cfg s e = some t) : RowsLater s t := by
  have hsame : t.inbox = s.inbox → RowsLater s t := fun heq =>
    ⟨by rw [heq], fun r hr _ => ⟨r, heq ▸ hr, rfl, .refl r⟩⟩
  cases e with
  | receive event now factory baselineCount =>
      cases inboxStep_change h with
      | same clock => exact hsame rfl
      | assign clock p f hf hkept hpending =>
          -- a reception assigns no columns: its result is the table it found or an insertion
          rw [inboxStep, Option.some.injEq] at h
          have hinbox := congrArg InboxState.inbox h
          simp only [receive] at hinbox
          cases hold : s.inbox.rows.lookup event.inspectionId with
          | some old =>
              apply hsame
              rw [hold] at hinbox
              dsimp only at hinbox
              split at hinbox <;> exact hinbox.symm
          | none =>
              rw [hold] at hinbox
              dsimp only at hinbox
              cases hnew : receiveNew cfg s.inbox event now factory baselineCount with
              | error e =>
                  rw [hnew] at hinbox
                  exact hsame hinbox.symm
              | ok a =>
                  obtain ⟨row, inbox'⟩ := a
                  rw [hnew] at hinbox
                  obtain ⟨_, _, _, -, -, -, hafter⟩ := receiveNew_ok hnew
                  have hcounter := congrArg Inbox.nextSerial (hinbox.symm.trans hafter)
                  simp [Inbox.update] at hcounter
      | insert event' now' factory' baselineCount' row inbox hnew hok =>
          obtain ⟨_, _, rows, -, hrow, hinsert, rfl⟩ := receiveNew_ok hok
          refine ⟨Nat.le_succ _, fun r hr hlt => ?_⟩
          cases mem_of_insert now' hinsert r hr with
          | inl hold => exact ⟨r, hold, rfl, .refl r⟩
          | inr hnew =>
              have hserial : r.serial = s.inbox.nextSerial := by
                rw [hnew, hrow]
                rfl
              omega
  | ready now =>
      rw [← Option.some.inj h]
      refine ⟨le_refl _, fun r' hr' _ => later_of_mem_updateRow (fun r hwaiting => ?_) hr'⟩
      have hpending : r.disposition = .pending := by
        simpa [InspectionRow.isPending] using (Bool.and_eq_true_iff.1 hwaiting).1
      exact ⟨rfl, fun hne => absurd hpending hne, fun hc => by rw [hpending] at hc; cases hc⟩
  | sent identity now =>
      rw [← Option.some.inj h]
      refine ⟨le_refl _, fun r' hr' _ => later_of_mem_updateRow ?_ hr'⟩
      exact fun r _ => ⟨rfl, fun hne => hne, fun hc => ⟨hc, rfl⟩⟩
  | settle result =>
      rw [← Option.some.inj h]
      have hcounter : (settle cfg s.inbox result).2.nextSerial = s.inbox.nextSerial := by
        rcases settle_cases cfg s.inbox result with heq | ⟨_, _, -, heq⟩
        · rw [heq]
        · rw [heq]
          rfl
      refine ⟨le_of_eq hcounter.symm, fun r' hr' _ => ?_⟩
      obtain ⟨r, hr, hr'⟩ := settle_rows hI hr'
      rcases hr' with rfl | ⟨haddresses, disposition, hsettled, rfl⟩
      · exact ⟨r', hr, rfl, .refl r'⟩
      · refine ⟨r, hr, rfl, fun _ => settleRow_ne_pending hsettled, fun hcompleted => ?_⟩
        obtain ⟨rfl, happroval⟩ := (settleRow_completed hcompleted).1 hsettled
        exact ⟨rfl, hG r hr hcompleted haddresses happroval⟩
  | restart => exact hsame (by rw [← Option.some.inj h])

/-! ## Settlement over a run -/

/-- Settlement in every state of a run, and between any two of them. -/
structure SettlementSound (cfg : InboxConfig δ) (clock : ℚ) (es : List InboxEvent) : Prop where
  /-- A result that does not fit its command raises and changes nothing. -/
  misfits : ∀ s t, Run.Through (inboxStep cfg) (.initial clock) es s t →
    ∀ result, ∀ row ∈ s.inbox.rows.rows, row.command.isSome = true →
      Addresses cfg result row → Misfit result row →
        ∃ e, settle cfg s.inbox result = (.error e, s.inbox)
  /-- A progress report changes nothing. -/
  progress : ∀ s t, Run.Through (inboxStep cfg) (.initial clock) es s t →
    ∀ result, ∀ row ∈ s.inbox.rows.rows, row.command.isSome = true →
      Addresses cfg result row → getMember result "decision" = some (.str "pending") →
        (settle cfg s.inbox result).2 = s.inbox
  /-- What left pending never comes back, and what is completed stays as it is. -/
  later : ∀ s t, Run.Through (inboxStep cfg) (.initial clock) es s t →
    ∀ r ∈ s.inbox.rows.rows, ∀ r' ∈ t.inbox.rows.rows, r.serial = r'.serial → r.Later r'
  /-- What left pending is never offered for sending. -/
  offered : ∀ s t, Run.Through (inboxStep cfg) (.initial clock) es s t →
    ∀ r ∈ s.inbox.rows.rows, r.disposition ≠ .pending →
      ∀ now, ∀ r' ∈ (ready t.inbox now).1, r'.serial ≠ r.serial

variable {clock : ℚ} {es : List InboxEvent}

theorem SettleInv.of_through (h : Run.Through (inboxStep cfg) (.initial clock) es s t) :
    SettleInv cfg s := by
  obtain ⟨es₁, es₂, es₃, -, hs, -⟩ := h
  exact Run.exec_invariant (fun _ _ _ hI h => hI.step h) (SettleInv.initial cfg clock) hs

/-- **Settlement is monotone and completion final, exactly when a repeated approval
carries the retained acknowledgement time.**  Over every run of the store. -/
theorem settlementSound_iff : SettlementSound cfg clock es ↔
    Run.Guarded (inboxStep cfg) (SameAcknowledgement cfg) (.initial clock) es := by
  constructor
  · intro hsound
    rw [Run.guarded_iff_forall]
    intro es₁ e es₂ s heq hs
    cases e with
    | settle result =>
        intro row hrow hcompleted haddresses happroval
        have hthrough : Run.Through (inboxStep cfg) (.initial clock) es s
            ⟨(settle cfg s.inbox result).2, s.clock, s.inserted⟩ :=
          ⟨es₁, [.settle result], es₂, by rw [heq]; simp, hs, rfl⟩
        have hI := SettleInv.of_through hthrough
        have hmem := settledBy_mem hI hrow haddresses
          ((settleRow_completed hcompleted).2 ⟨rfl, happroval⟩)
        exact ((hsound.later _ _ hthrough row hrow _ hmem rfl).final hcompleted).2
    | receive | ready | sent | restart => exact trivial
  · intro hG
    have hlater : ∀ s t, Run.Through (inboxStep cfg) (.initial clock) es s t →
        ∀ r ∈ s.inbox.rows.rows, ∀ r' ∈ t.inbox.rows.rows, r.serial = r'.serial → r.Later r' := by
      intro s t hthrough r hr r' hr' hserial
      have hI := SettleInv.of_through hthrough
      have hrows : RowsLater s t := Run.rel_of_through (I := SettleInv cfg) RowsLater.refl
        (fun _ _ _ h h' => h.trans h') (fun _ _ _ hI h => hI.step h)
        (fun _ _ _ hI hG h => rowsLater_step hI hG h) (SettleInv.initial cfg clock) hG hthrough
      obtain ⟨x, hx, hxserial, hxlater⟩ := hrows.rows r' hr' (hserial ▸ hI.serial_lt r hr)
      rw [hI.eq_of_serial hr hx (hserial.trans hxserial.symm)]
      exact hxlater
    constructor
    · intro s t hthrough result row hrow _ haddresses hmisfit
      obtain ⟨identity, -, hsettle⟩ :=
        settle_of_addresses (SettleInv.of_through hthrough) hrow haddresses
      obtain ⟨e, he⟩ := settleRow_misfit hmisfit
      exact ⟨e, by rw [hsettle, he]⟩
    · intro s t hthrough result row hrow _ haddresses hpending
      obtain ⟨identity, -, hsettle⟩ :=
        settle_of_addresses (SettleInv.of_through hthrough) hrow haddresses
      have hsettled : settleRow result row = .ok none ∨ ∃ e, settleRow result row = .error e :=
        settleRow_pending hpending
      rcases hsettled with hok | ⟨e, he⟩
      · rw [hsettle, hok]
      · rw [hsettle, he]
    · exact hlater
    · intro s t hthrough r hr hleft now r' hr' hserial
      obtain ⟨hmem, hpending⟩ := mem_ready hr'
      exact (hlater s t hthrough r hr r' hmem hserial.symm).leaves hleft hpending

end Run

namespace Inspected

/-- The same approval with another acknowledgement time. -/
def laterResult : List (String × Json) :=
  [("correlation_id", .str "original-command"), ("requester", .str "decision-agent-stub"),
    ("target_uns_topic", .str "reject"), ("requested_value", .int 10),
    ("value_type", .str "int64"), ("decision", .str "approve"),
    ("written_at", .str "1970-01-01T00:16:43Z")]

/-- What the rows of a store retain. -/
def retained (s : InboxState BottleInspection) : List (Disposition × Option Json) :=
  s.inbox.rows.rows.map fun r => (r.disposition, r.writtenAt)

end Inspected

/-- A second approval replaces the acknowledgement time of a completed row. -/
theorem second_approval_overwrites :
    ∃ s t, Run.exec (inboxStep Inspected.config) (.initial 0)
        [.receive Inspected.event 1001 (.ok Inspected.command) none, .settle Inspected.result] =
          some s ∧
      Run.exec (inboxStep Inspected.config) s [.settle Inspected.laterResult] = some t ∧
      Inspected.retained s = [(.completed, some (.str "1970-01-01T00:16:42Z"))] ∧
      Inspected.retained t = [(.completed, some (.str "1970-01-01T00:16:43Z"))] ∧
      ¬ SettlementSound Inspected.config 0
        [.receive Inspected.event 1001 (.ok Inspected.command) none, .settle Inspected.result,
          .settle Inspected.laterResult] := by
  have hfirst : (Run.exec (inboxStep Inspected.config) (.initial 0)
      [.receive Inspected.event 1001 (.ok Inspected.command) none,
        .settle Inspected.result]).map (fun s => (Inspected.retained s,
          s.inbox.rows.rows.map InspectionRow.serial)) =
      some ([(.completed, some (.str "1970-01-01T00:16:42Z"))], [1]) := by decide +kernel
  have hboth : (Run.exec (inboxStep Inspected.config) (.initial 0)
      ([.receive Inspected.event 1001 (.ok Inspected.command) none,
        .settle Inspected.result] ++ [.settle Inspected.laterResult])).map
          (fun t => (Inspected.retained t, t.inbox.rows.rows.map InspectionRow.serial)) =
      some ([(.completed, some (.str "1970-01-01T00:16:43Z"))], [1]) := by decide +kernel
  obtain ⟨s, hs, hretained⟩ := Option.map_eq_some_iff.1 hfirst
  obtain ⟨t, ht, hretained'⟩ := Option.map_eq_some_iff.1 hboth
  obtain ⟨s', hs', ht⟩ := Run.exec_append_eq_some.1 ht
  obtain rfl : s = s' := Option.some.inj (hs.symm.trans hs')
  obtain ⟨hbefore, hserial⟩ := Prod.mk.inj hretained
  obtain ⟨hafter, hserial'⟩ := Prod.mk.inj hretained'
  refine ⟨s, t, hs, ht, hbefore, hafter, fun hsound => ?_⟩
  obtain ⟨r, hr⟩ := List.map_eq_singleton_iff.1 hbefore
  obtain ⟨r', hr'⟩ := List.map_eq_singleton_iff.1 hafter
  have hsame : r.serial = r'.serial := by
    rw [hr.1] at hserial
    rw [hr'.1] at hserial'
    simp only [List.map_cons, List.map_nil, List.cons.injEq, and_true] at hserial hserial'
    exact hserial.trans hserial'.symm
  have hlater := hsound.later s t ⟨_, _, [], by simp, hs, ht⟩ r (by rw [hr.1]; simp) r'
    (by rw [hr'.1]; simp) hsame
  have hkept := (hlater.final (Prod.mk.inj hr.2).1).2
  rw [(Prod.mk.inj hr.2).2, (Prod.mk.inj hr'.2).2] at hkept
  exact absurd hkept (by decide)

end EirvahEdge.Recovery
