import EirvahEdge.Contracts.Authorization
import EirvahEdge.Recovery.Inbox

/-!
# One command for one inspection event

However often an event is redelivered, restarted over or settled, the inbox
stores a command for it at most once.  While the row is there the redelivery
finds it; the row goes a day after it was received, and an event that had a
command was received before it was `max_age` old, so it can only come back
expired.  Neither rounding nor the sum of two of them spans a day, so this holds
in exact arithmetic and in that of doubles; the window of a bottle is a matter
of the last microsecond and is stated for exact arithmetic.

The argument runs over the log of inserted rows: each of them is still in the
table with the columns it was inserted with, or more than a day old.
-/

namespace EirvahEdge.Recovery

open EirvahEdge.Lib
open EirvahEdge.Contracts

variable {δ : Type}

/-! ## What one call does to the rows -/

/-- The columns that no statement assigns. -/
structure InspectionRow.Kept (r r' : InspectionRow δ) : Prop where
  serial : r'.serial = r.serial
  payload : r'.payload = r.payload
  digest : r'.digest = r.digest
  received : r'.received = r.received
  commandId : r'.commandId = r.commandId
  command : r'.command = r.command

theorem InspectionRow.Kept.refl (r : InspectionRow δ) : r.Kept r :=
  ⟨rfl, rfl, rfl, rfl, rfl, rfl⟩

theorem InspectionRow.Kept.trans {r r' r'' : InspectionRow δ} (h : r.Kept r')
    (h' : r'.Kept r'') : r.Kept r'' :=
  ⟨h'.serial.trans h.serial, h'.payload.trans h.payload, h'.digest.trans h.digest,
    h'.received.trans h.received, h'.commandId.trans h.commandId,
    h'.command.trans h.command⟩

/-- An event is given a command only inside its age limit, while no row of the
same bottle is recent and there is room. -/
theorem dispose_ok {cfg : InboxConfig δ} {inbox : Inbox δ} {event : BottleInspection}
    {now : ℚ} {factory : Except PyError ActuationRequest} {disposition : Disposition}
    {command : Option ActuationRequest}
    (h : dispose cfg inbox event now factory = .ok (disposition, command)) :
    (disposition ≠ .pending ∧ command = none) ∨
      (disposition = .pending ∧ dispositionAt cfg event now = .pending ∧
        inbox.rows.rows.any (isBottleDuplicate cfg event now) = false ∧
        inbox.rows.count InspectionRow.isPending < 128) := by
  unfold dispose at h
  split at h
  · next hat =>
      split at h
      · cases h
        exact Or.inl ⟨by simp, rfl⟩
      · next hdup =>
          split at h
          · cases h
          · next hroom =>
              obtain ⟨c, -, hc⟩ := map_eq_ok.1 h
              obtain ⟨rfl, -⟩ := Prod.mk.inj hc
              exact Or.inr ⟨rfl, hat, by simpa using hdup, Nat.lt_of_not_le hroom⟩
  · next hother =>
      cases h
      exact Or.inl ⟨hother, rfl⟩

/-- What an insertion leaves: the new row behind the rows that are not
outdated. -/
theorem receiveNew_ok {cfg : InboxConfig δ} {inbox inbox' : Inbox δ}
    {event : BottleInspection} {now : ℚ} {factory : Except PyError ActuationRequest}
    {baselineCount : Option ℕ} {row : InspectionRow δ}
    (h : receiveNew cfg inbox event now factory baselineCount = .ok (row, inbox')) :
    ∃ disposition command rows,
      dispose cfg inbox event now factory = .ok (disposition, command) ∧
      row = .new cfg inbox.nextSerial event now disposition command baselineCount ∧
      inbox.rows.insert row = some rows ∧
      inbox' = ⟨rows.deleteWhere (outdated now), inbox.nextSerial + 1⟩ := by
  unfold receiveNew at h
  obtain ⟨⟨disposition, command⟩, hdispose, h⟩ := bind_eq_ok.1 h
  dsimp only at h
  split at h
  · cases h
  · obtain ⟨inserted, hinsert, h⟩ := bind_eq_ok.1 h
    obtain ⟨hrow, hinbox⟩ := Prod.mk.inj (Except.ok.inj h)
    unfold Inbox.insert at hinsert
    split at hinsert
    · cases hinsert
    · split at hinsert
      · next rows hrows =>
          cases hinsert
          exact ⟨disposition, command, rows, hdispose, hrow.symm, hrow ▸ hrows, hinbox.symm⟩
      · cases hinsert

/-- What a call does: nothing, an assignment to columns of single rows, or the
insertion of a row for an event that had none. -/
inductive InboxChange (cfg : InboxConfig δ) (s : InboxState δ) :
    InboxState δ → Prop where
  | same (clock : ℚ) : InboxChange cfg s ⟨s.inbox, clock, s.inserted⟩
  | assign (clock : ℚ) (p : InspectionRow δ → Bool)
      (f : InspectionRow δ → InspectionRow δ) (hf : ∀ r, (f r).id = r.id)
      (hkept : ∀ r : InspectionRow δ, r.Kept (f r))
      (hpending : ∀ r, (f r).isPending = true → r.isPending = true) :
      InboxChange cfg s ⟨s.inbox.update p f hf, clock, s.inserted⟩
  | insert (event : BottleInspection) (now : ℚ)
      (factory : Except PyError ActuationRequest) (baselineCount : Option ℕ)
      (row : InspectionRow δ) (inbox : Inbox δ)
      (hnew : s.inbox.rows.lookup event.inspectionId = none)
      (hok : receiveNew cfg s.inbox event now factory baselineCount = .ok (row, inbox)) :
      InboxChange cfg s ⟨inbox, now, row :: s.inserted⟩

theorem settledAs_ne_pending {result : List (String × Json)} {disposition : Disposition}
    (h : settledAs result = .ok (some disposition)) : disposition ≠ .pending := by
  unfold settledAs at h
  split at h
  · cases h
  · split at h
    · cases h
      simp
    · cases h
  · cases h
    simp
  · cases h
    simp
  · cases h

theorem settleRow_ne_pending {result : List (String × Json)} {row : InspectionRow δ}
    {disposition : Disposition} (h : settleRow result row = .ok (some disposition)) :
    disposition ≠ .pending := by
  unfold settleRow at h
  split at h
  · cases h
  · split at h
    · cases h
    · split at h
      · cases h
      · cases h
      · next hs =>
          split at h
          · cases h
          · split at h
            · cases h
            · cases h
              exact settledAs_ne_pending hs

/-- Settling assigns the outcome columns of one command, never back to
pending. -/
theorem settle_cases (cfg : InboxConfig δ) (inbox : Inbox δ)
    (result : List (String × Json)) :
    (settle cfg inbox result).2 = inbox ∨
      ∃ identity disposition, disposition ≠ Disposition.pending ∧
        (settle cfg inbox result).2 =
          inbox.update (fun r => r.commandId == some identity)
            (InspectionRow.settledBy disposition (Json.obj result).sortKeys)
            fun _ => rfl := by
  unfold settle
  split
  · exact Or.inl rfl
  · exact Or.inl rfl
  · next identity _ =>
      split
      · exact Or.inl rfl
      · split
        · exact Or.inl rfl
        · exact Or.inl rfl
        · next disposition h =>
            exact Or.inr ⟨identity, disposition, settleRow_ne_pending h, rfl⟩

theorem inboxStep_change [DecidableEq δ] {cfg : InboxConfig δ} {s s' : InboxState δ}
    {e : InboxEvent} (hs : inboxStep cfg s e = some s') : InboxChange cfg s s' := by
  rw [← Option.some.inj hs]
  cases e with
  | receive event now factory baselineCount =>
      simp only [receive, InboxEvent.now?, Option.getD_some]
      cases hold : s.inbox.rows.lookup event.inspectionId with
      | some old =>
          dsimp only
          split
          · exact .same now
          · simp only [newRows]
            exact .same now
      | none =>
          dsimp only
          cases hnew : receiveNew cfg s.inbox event now factory baselineCount with
          | error e => exact .same now
          | ok a =>
              obtain ⟨disposition, command, rows, -, -, -, hinbox⟩ := receiveNew_ok hnew
              have hserial : s.inbox.nextSerial ≠ a.2.nextSerial := by
                rw [hinbox]
                exact (Nat.lt_succ_self _).ne
              simp only [newRows, if_neg hserial]
              exact .insert event now factory baselineCount a.1 a.2 hold hnew
  | ready now =>
      apply InboxChange.assign now _ InspectionRow.elapsed (fun _ => rfl)
        (fun r => ⟨rfl, rfl, rfl, rfl, rfl, rfl⟩)
      intro r hr
      simp [InspectionRow.isPending, InspectionRow.elapsed] at hr
  | sent identity now =>
      exact .assign now _ (InspectionRow.sentAt now) (fun _ => rfl)
        (fun r => ⟨rfl, rfl, rfl, rfl, rfl, rfl⟩) fun r hr => hr
  | settle result =>
      dsimp only
      rcases settle_cases cfg s.inbox result with h | ⟨identity, disposition, hne, h⟩
      · rw [h]
        exact .same _
      · rw [h]
        apply InboxChange.assign _ _
          (InspectionRow.settledBy disposition (Json.obj result).sortKeys) (fun _ => rfl)
          (fun r => ⟨rfl, rfl, rfl, rfl, rfl, rfl⟩)
        intro r hr
        exact absurd (by simpa [InspectionRow.isPending, InspectionRow.settledBy] using hr) hne
  | restart => exact .same _

/-- The clock goes to the reading of the call. -/
theorem clock_le_of_step [DecidableEq δ] {cfg : InboxConfig δ} {s s' : InboxState δ}
    {e : InboxEvent} (hclock : InboxClock s e) (hs : inboxStep cfg s e = some s') :
    s.clock ≤ s'.clock := by
  rw [← Option.some.inj hs]
  cases e with
  | receive event now factory baselineCount => exact hclock now rfl
  | ready now => exact hclock now rfl
  | sent identity now => exact hclock now rfl
  | settle result => exact le_rfl
  | restart => exact le_rfl

/-! ## The invariant -/

/-- The columns a statement leaves alone are kept by the whole assignment. -/
theorem kept_updateRow {p : InspectionRow δ → Bool}
    {f : InspectionRow δ → InspectionRow δ} (hkept : ∀ r : InspectionRow δ, r.Kept (f r))
    (r : InspectionRow δ) : r.Kept (Table.updateRow p f r) := by
  unfold Table.updateRow
  split
  · exact hkept r
  · exact .refl r

/-- A row that came later does not repeat the earlier one's command. -/
def OtherEvent (r earlier : InspectionRow δ) : Prop :=
  r.command.isSome = true → earlier.command.isSome = true → r.payload ≠ earlier.payload

/-- A row with a command came late enough after the earlier one, when both are
for one bottle of one session. -/
def Apart (cfg : InboxConfig δ) (r earlier : InspectionRow δ) : Prop :=
  r.command.isSome = true → r.payload.session = earlier.payload.session →
    r.payload.bottleId = earlier.payload.bottleId →
      earlier.received + (cfg.maxAge + 10) < r.received

/-- What holds of the rows at any clock: they carry increasing serials below the
counter and the digest of their event, and each was inserted at some time. -/
structure InboxRows (cfg : InboxConfig δ) (s : InboxState δ) : Prop where
  serial_lt : ∀ r ∈ s.inbox.rows.rows, r.serial < s.inbox.nextSerial
  serials : (s.inbox.rows.rows.map InspectionRow.serial).Pairwise (· < ·)
  digest_eq : ∀ r ∈ s.inbox.rows.rows, r.digest = cfg.digest r.payload
  sourced : ∀ r' ∈ s.inbox.rows.rows, ∃ r ∈ s.inserted, r.Kept r'
  capacity : s.inbox.rows.count InspectionRow.isPending ≤ 128

/-- What holds under a clock that never goes back: what was inserted is in the
table or a day old, and it keeps the rules on commands. -/
structure InboxInv (cfg : InboxConfig δ) (s : InboxState δ) : Prop extends
    InboxRows cfg s where
  logged : ∀ r ∈ s.inserted, (∃ r' ∈ s.inbox.rows.rows, r.Kept r') ∨
    r.received + 86400 < s.clock
  fresh : ∀ r ∈ s.inserted, r.command.isSome = true →
    r.payload.inspectedAt.roundedTimestamp cfg.rounding < r.received + 1
  once : s.inserted.Pairwise OtherEvent
  apart : cfg.rounding = .exact → s.inserted.Pairwise (Apart cfg)

theorem InboxRows.initial (cfg : InboxConfig δ) (clock : ℚ) :
    InboxRows cfg (InboxState.initial clock) where
  serial_lt := by simp [InboxState.initial, Table.empty]
  serials := by simp [InboxState.initial, Table.empty]
  digest_eq := by simp [InboxState.initial, Table.empty]
  sourced := by simp [InboxState.initial, Table.empty]
  capacity := by simp [InboxState.initial, Table.empty, Table.count]

theorem InboxInv.initial (cfg : InboxConfig δ) (clock : ℚ) :
    InboxInv cfg (InboxState.initial clock) where
  toInboxRows := .initial cfg clock
  logged := by simp [InboxState.initial]
  fresh := by simp [InboxState.initial]
  once := by simp [InboxState.initial]
  apart := by simp [InboxState.initial]

theorem InboxRows.assign {cfg : InboxConfig δ} {s : InboxState δ} (h : InboxRows cfg s)
    (clock : ℚ) {p : InspectionRow δ → Bool} {f : InspectionRow δ → InspectionRow δ}
    (hf : ∀ r, (f r).id = r.id) (hkept : ∀ r : InspectionRow δ, r.Kept (f r))
    (hpending : ∀ r, (f r).isPending = true → r.isPending = true) :
    InboxRows cfg ⟨s.inbox.update p f hf, clock, s.inserted⟩ where
  serial_lt := by
    intro r hr
    obtain ⟨x, hx, rfl⟩ := List.mem_map.1 hr
    rw [(kept_updateRow hkept x).serial]
    exact h.serial_lt x hx
  serials := by
    have hmap : (s.inbox.update p f hf).rows.rows.map InspectionRow.serial =
        s.inbox.rows.rows.map InspectionRow.serial := by
      simp only [Inbox.update, Table.updateWhere, List.map_map]
      exact List.map_congr_left fun r _ => (kept_updateRow hkept r).serial
    rw [hmap]
    exact h.serials
  digest_eq := by
    intro r hr
    obtain ⟨x, hx, rfl⟩ := List.mem_map.1 hr
    have hx' := kept_updateRow (p := p) hkept x
    rw [hx'.digest, hx'.payload]
    exact h.digest_eq x hx
  sourced := by
    intro r hr
    obtain ⟨x, hx, rfl⟩ := List.mem_map.1 hr
    obtain ⟨r₀, hr₀, hk⟩ := h.sourced x hx
    exact ⟨r₀, hr₀, hk.trans (kept_updateRow hkept x)⟩
  capacity :=
    (Table.count_updateWhere_le _ InspectionRow.isPending p f hf hpending).trans h.capacity

/-- The new row stands behind the rows that stay. -/
theorem mem_of_insert {inbox : Inbox δ} (now : ℚ) {row : InspectionRow δ}
    {rows : Table (InspectionRow.id (δ := δ))} (hinsert : inbox.rows.insert row = some rows) :
    ∀ r ∈ (rows.deleteWhere (outdated now)).rows, r ∈ inbox.rows.rows ∨ r = row := by
  intro r hr
  have hr' := (List.mem_filter.1 hr).1
  rw [(Table.insert_eq_some hinsert).2, List.mem_append, List.mem_singleton] at hr'
  exact hr'

theorem InboxRows.insert {cfg : InboxConfig δ} {s : InboxState δ} (h : InboxRows cfg s)
    {event : BottleInspection} {now : ℚ} {factory : Except PyError ActuationRequest}
    {baselineCount : Option ℕ} {row : InspectionRow δ} {inbox : Inbox δ}
    (hok : receiveNew cfg s.inbox event now factory baselineCount = .ok (row, inbox)) :
    InboxRows cfg ⟨inbox, now, row :: s.inserted⟩ := by
  obtain ⟨disposition, command, rows, hdispose, hrow, hinsert, rfl⟩ := receiveNew_ok hok
  have hmem := mem_of_insert now hinsert
  have hserial : row.serial = s.inbox.nextSerial := by rw [hrow]; rfl
  have hdigest : row.digest = cfg.digest row.payload := by rw [hrow]; rfl
  constructor
  · intro r hr
    show r.serial < s.inbox.nextSerial + 1
    rcases hmem r hr with hr | rfl
    · exact Nat.lt_succ_of_lt (h.serial_lt r hr)
    · omega
  · have hsorted : (rows.rows.map InspectionRow.serial).Pairwise (· < ·) := by
      rw [(Table.insert_eq_some hinsert).2, List.map_append, List.pairwise_append]
      refine ⟨h.serials, List.pairwise_singleton _ _, ?_⟩
      intro a ha b hb
      obtain ⟨x, hx, rfl⟩ := List.mem_map.1 ha
      have hb' : b = row.serial := by simpa using hb
      rw [hb', hserial]
      exact h.serial_lt x hx
    exact hsorted.sublist (List.filter_sublist.map _)
  · intro r hr
    rcases hmem r hr with hr | rfl
    · exact h.digest_eq r hr
    · exact hdigest
  · intro r hr
    rcases hmem r hr with hr | rfl
    · obtain ⟨r₀, hr₀, hk⟩ := h.sourced r hr
      exact ⟨r₀, List.mem_cons_of_mem _ hr₀, hk⟩
    · exact ⟨r, List.mem_cons_self, .refl r⟩
  · have hdelete := Table.count_deleteWhere_le rows InspectionRow.isPending (outdated now)
    have hcount := Table.count_insert hinsert InspectionRow.isPending
    have hroom : s.inbox.rows.count InspectionRow.isPending +
        (if row.isPending then 1 else 0) ≤ 128 := by
      rcases dispose_ok hdispose with ⟨hne, -⟩ | ⟨-, -, -, hlt⟩
      · have hfalse : row.isPending = false := by
          rw [hrow]
          simpa [InspectionRow.isPending, InspectionRow.new] using hne
        simpa [hfalse] using h.capacity
      · split <;> omega
    exact hdelete.trans (hcount ▸ hroom)

theorem InboxRows.step [DecidableEq δ] {cfg : InboxConfig δ} {s s' : InboxState δ}
    {e : InboxEvent} (h : InboxRows cfg s) (hs : inboxStep cfg s e = some s') :
    InboxRows cfg s' := by
  cases inboxStep_change hs with
  | same clock => exact ⟨h.serial_lt, h.serials, h.digest_eq, h.sourced, h.capacity⟩
  | assign clock p f hf hkept hpending => exact h.assign clock hf hkept hpending
  | insert event now factory baselineCount row inbox hnew hok => exact h.insert hok

/-- A due event was inspected less than a second after the clock, whatever the
roundings made of its age. -/
theorem timestamp_lt_of_pending {cfg : InboxConfig δ} {event : BottleInspection} {now : ℚ}
    (h : dispositionAt cfg event now = .pending) :
    event.inspectedAt.roundedTimestamp cfg.rounding < now + 1 := by
  have hage := (dispositionAt_eq_pending.1 h).1
  by_contra hlate
  have hle : now - event.inspectedAt.roundedTimestamp cfg.rounding ≤ ((-1 : ℤ) : ℚ) := by
    push_cast
    linarith
  have hround := cfg.rounding.round_le_of_le (by norm_num) hle
  unfold storedAge at hage
  push_cast at hround
  linarith

/-- A due event was inspected within the last five seconds, the greatest age
limit. -/
theorem age_lt_of_pending {cfg : InboxConfig δ} {event : BottleInspection} {now : ℚ}
    (h : dispositionAt cfg event now = .pending) :
    now - event.inspectedAt.roundedTimestamp cfg.rounding < 5 := by
  have hage := (dispositionAt_eq_pending.1 h).2.1
  have hmax := cfg.maxAge_le
  by_contra hold
  have hle : ((5 : ℤ) : ℚ) ≤ now - event.inspectedAt.roundedTimestamp cfg.rounding := by
    push_cast
    linarith
  have hround := cfg.rounding.le_round_of_le (by norm_num) hle
  unfold storedAge at hage
  push_cast at hround
  linarith

/-- **A deleted event comes back expired.**  An event inside its age limit that
has no row was never given a command. -/
theorem InboxInv.never_stored {cfg : InboxConfig δ} {s : InboxState δ} (h : InboxInv cfg s)
    {event : BottleInspection} {now : ℚ} (hclock : s.clock ≤ now)
    (hnew : s.inbox.rows.lookup event.inspectionId = none)
    (hat : dispositionAt cfg event now = .pending) :
    ∀ r ∈ s.inserted, r.command.isSome = true → event ≠ r.payload := by
  intro r hr hcommand heq
  rcases h.logged r hr with ⟨r', hr', hkept⟩ | hold
  · -- still in the table: the lookup would have found it
    have hne := Table.lookup_eq_none_iff.1 hnew r' hr'
    apply hne
    rw [InspectionRow.id, hkept.payload, heq]
  · -- deleted: more than a day has passed since it was young enough
    have hfresh := h.fresh r hr hcommand
    have hage := age_lt_of_pending hat
    rw [heq] at hage
    linarith

/-- No recent row of the bottle: every row ever inserted for it is older than the
window. -/
theorem InboxInv.bottle_apart {cfg : InboxConfig δ} {s : InboxState δ} (h : InboxInv cfg s)
    {event : BottleInspection} {now : ℚ} (hclock : s.clock ≤ now)
    (hexact : cfg.rounding = .exact)
    (hdup : s.inbox.rows.rows.any (isBottleDuplicate cfg event now) = false) :
    ∀ r ∈ s.inserted, event.session = r.payload.session →
      event.bottleId = r.payload.bottleId → r.received + (cfg.maxAge + 10) < now := by
  intro r hr hsession hbottle
  rcases h.logged r hr with ⟨r', hr', hkept⟩ | hold
  · have hfalse := List.any_eq_false.1 hdup r' hr'
    by_contra hlate
    apply hfalse
    have hreceived : now - cfg.maxAge - 10 ≤ r'.received := by
      rw [hkept.received]
      linarith
    simp [isBottleDuplicate, hexact, hreceived, hkept.payload, hsession, hbottle]
  · have hle := cfg.maxAge_le
    linarith

/-- The dispositions that go with a command. -/
theorem pending_of_command {cfg : InboxConfig δ} {inbox : Inbox δ}
    {event : BottleInspection} {now : ℚ} {factory : Except PyError ActuationRequest}
    {disposition : Disposition} {command : Option ActuationRequest}
    (h : dispose cfg inbox event now factory = .ok (disposition, command))
    (hcommand : command.isSome = true) :
    dispositionAt cfg event now = .pending ∧
      inbox.rows.rows.any (isBottleDuplicate cfg event now) = false := by
  rcases dispose_ok h with ⟨-, hnone⟩ | ⟨-, hat, hdup, -⟩
  · rw [hnone] at hcommand
    cases hcommand
  · exact ⟨hat, hdup⟩

theorem InboxInv.insert {cfg : InboxConfig δ} {s : InboxState δ} (h : InboxInv cfg s)
    {event : BottleInspection} {now : ℚ} {factory : Except PyError ActuationRequest}
    {baselineCount : Option ℕ} {row : InspectionRow δ} {inbox : Inbox δ}
    (hnew : s.inbox.rows.lookup event.inspectionId = none)
    (hok : receiveNew cfg s.inbox event now factory baselineCount = .ok (row, inbox))
    (hclock : s.clock ≤ now) : InboxInv cfg ⟨inbox, now, row :: s.inserted⟩ := by
  have hinner := h.toInboxRows.insert hok
  obtain ⟨disposition, command, rows, hdispose, hrow, hinsert, rfl⟩ := receiveNew_ok hok
  have hrows : rows.rows = s.inbox.rows.rows ++ [row] := (Table.insert_eq_some hinsert).2
  have hreceived : row.received = now := by rw [hrow]; rfl
  have hpayload : row.payload = event := by rw [hrow]; rfl
  have hcommand : row.command.isSome = true → dispositionAt cfg event now = .pending ∧
      s.inbox.rows.rows.any (isBottleDuplicate cfg event now) = false := by
    intro hc
    rw [hrow] at hc
    exact pending_of_command hdispose hc
  refine { hinner with logged := ?_, fresh := ?_, once := ?_, apart := ?_ }
  · -- what the deletion takes is a day old
    have hkeep : ∀ r ∈ rows.rows, r.received + 86400 < now ∨
        r ∈ (rows.deleteWhere (outdated now)).rows := by
      intro r hr
      cases hout : outdated now r with
      | true =>
          simp only [outdated, Bool.and_eq_true, decide_eq_true_eq] at hout
          exact Or.inl (by linarith [hout.2])
      | false => exact Or.inr (List.mem_filter.2 ⟨hr, by simp [hout]⟩)
    intro r hr
    rcases List.mem_cons.1 hr with rfl | hr
    · rcases hkeep r (by simp [hrows]) with hold | hin
      · exact Or.inr hold
      · exact Or.inl ⟨r, hin, .refl r⟩
    · rcases h.logged r hr with ⟨r', hr', hkept⟩ | hold
      · rcases hkeep r' (by simp [hrows, hr']) with hold | hin
        · exact Or.inr (hkept.received ▸ hold)
        · exact Or.inl ⟨r', hin, hkept⟩
      · exact Or.inr (hold.trans_le hclock)
  · intro r hr hc
    rcases List.mem_cons.1 hr with rfl | hr
    · rw [hpayload, hreceived]
      exact timestamp_lt_of_pending (hcommand hc).1
    · exact h.fresh r hr hc
  · refine List.pairwise_cons.2 ⟨fun r hr hc hc' => ?_, h.once⟩
    rw [hpayload]
    exact h.never_stored hclock hnew (hcommand hc).1 r hr hc'
  · intro hexact
    refine List.pairwise_cons.2 ⟨fun r hr hc hsession hbottle => ?_, h.apart hexact⟩
    rw [hreceived]
    rw [hpayload] at hsession hbottle
    exact h.bottle_apart hclock hexact (hcommand hc).2 r hr hsession hbottle

theorem InboxInv.step [DecidableEq δ] {cfg : InboxConfig δ} {s s' : InboxState δ}
    {e : InboxEvent} (h : InboxInv cfg s) (hclock : InboxClock s e)
    (hs : inboxStep cfg s e = some s') : InboxInv cfg s' := by
  have hinner := h.toInboxRows.step hs
  have hle := clock_le_of_step hclock hs
  cases inboxStep_change hs with
  | same clock =>
      exact { hinner with
        logged := fun r hr => (h.logged r hr).imp_right fun hold => hold.trans_le hle
        fresh := h.fresh
        once := h.once
        apart := h.apart }
  | assign clock p f hf hkept hpending =>
      refine { hinner with logged := ?_, fresh := h.fresh, once := h.once, apart := h.apart }
      intro r hr
      rcases h.logged r hr with ⟨r', hr', hk⟩ | hold
      · exact Or.inl ⟨_, List.mem_map_of_mem hr', hk.trans (kept_updateRow hkept r')⟩
      · exact Or.inr (hold.trans_le hle)
  | insert event now factory baselineCount row inbox hnew hok => exact h.insert hnew hok hle

theorem InboxInv.of_run [DecidableEq δ] {cfg : InboxConfig δ} {clock : ℚ}
    {s : InboxState δ} {es : List InboxEvent}
    (h : Run.exec (inboxStep cfg) (.initial clock) es = some s)
    (hclock : Run.Guarded (inboxStep cfg) InboxClock (.initial clock) es) :
    InboxInv cfg s :=
  Run.exec_invariant_of_guarded (fun _ _ _ h hG hs => h.step hG hs) (.initial cfg clock)
    hclock h

/-! ## A row never changes its command -/

/-- Rows of one serial, now and later, agree in the columns nothing assigns. -/
structure SameRows (s t : InboxState δ) : Prop where
  kept : ∀ r ∈ s.inbox.rows.rows, ∀ r' ∈ t.inbox.rows.rows,
    r'.serial = r.serial → r.Kept r'
  counter : s.inbox.nextSerial ≤ t.inbox.nextSerial

theorem SameRows.refl {cfg : InboxConfig δ} {s : InboxState δ} (h : InboxRows cfg s) :
    SameRows s s := by
  refine ⟨fun r hr r' hr' hserial => ?_, le_rfl⟩
  have hnodup : (s.inbox.rows.rows.map InspectionRow.serial).Nodup :=
    h.serials.imp fun hlt => hlt.ne
  rw [List.inj_on_of_nodup_map hnodup hr' hr hserial]
  exact .refl r

theorem SameRows.step [DecidableEq δ] {cfg : InboxConfig δ} {s t t' : InboxState δ}
    {e : InboxEvent} (h : SameRows s t) (hs : InboxRows cfg s)
    (ht : inboxStep cfg t e = some t') : SameRows s t' := by
  cases inboxStep_change ht with
  | same clock => exact ⟨h.kept, h.counter⟩
  | assign clock p f hf hkept hpending =>
      refine ⟨fun r hr r' hr' hserial => ?_, h.counter⟩
      obtain ⟨x, hx, rfl⟩ := List.mem_map.1 hr'
      have hx' := kept_updateRow (p := p) hkept x
      exact (h.kept r hr x hx (hx'.serial.symm.trans hserial)).trans hx'
  | insert event now factory baselineCount row inbox hnew hok =>
      obtain ⟨disposition, command, rows, -, hrow, hinsert, rfl⟩ := receiveNew_ok hok
      refine ⟨fun r hr r' hr' hserial => ?_, Nat.le_succ_of_le h.counter⟩
      rcases mem_of_insert _ hinsert r' hr' with hold | rfl
      · exact h.kept r hr r' hold hserial
      · -- a new serial is above all earlier ones
        have hlt := hs.serial_lt r hr
        have hcounter := h.counter
        have hfresh : r'.serial = t.inbox.nextSerial := by rw [hrow]; rfl
        omega

theorem SameRows.of_run [DecidableEq δ] {cfg : InboxConfig δ} {s t : InboxState δ}
    {es : List InboxEvent} (hs : InboxRows cfg s)
    (h : Run.exec (inboxStep cfg) s es = some t) : SameRows s t :=
  Run.exec_invariant (I := SameRows s) (fun _ _ _ h ht => h.step hs ht) (.refl hs) h

/-! ## The law -/

/-- A receive of an event that has a row returns the row, and one of another
event under its id raises; neither changes the table. -/
theorem InboxRows.receive_retained [DecidableEq δ] {cfg : InboxConfig δ}
    {s : InboxState δ} (h : InboxRows cfg s) {event : BottleInspection}
    {r : InspectionRow δ} (hr : s.inbox.rows.lookup event.inspectionId = some r)
    (hdigest : cfg.digest r.payload = cfg.digest event → r.payload = event) (now : ℚ)
    (factory : Except PyError ActuationRequest) (baselineCount : Option ℕ) :
    receive cfg s.inbox event now factory baselineCount =
      (if r.payload = event then .ok r
        else .error (valueError "inspection identity conflict"), s.inbox) := by
  have hrow := h.digest_eq r (Table.lookup_mem hr)
  unfold receive
  rw [hr]
  dsimp only
  by_cases hsame : r.payload = event
  · rw [if_neg (by simp [hrow, hsame]), if_pos hsame]
  · have hne : r.digest ≠ cfg.digest event := by
      rw [hrow]
      exact fun he => hsame (hdigest he)
    rw [if_pos hne, if_neg hsame]

/-- In every run of the store: an event gets at most one command, whatever became
of its row; in exact arithmetic a bottle of a session gets no second command
within the window; at most 128 commands wait; a redelivery is answered by the row that is there, and
another event under its id is refused unless the two hashes collide; and a row keeps its event and its command
for as long as it stays. -/
theorem one_command_per_event [DecidableEq δ] (cfg : InboxConfig δ) (clock : ℚ)
    (es : List InboxEvent) (s : InboxState δ)
    (hrun : Run.exec (inboxStep cfg) (.initial clock) es = some s)
    (hclock : Run.Guarded (inboxStep cfg) InboxClock (.initial clock) es) :
    (∀ r' ∈ s.inbox.rows.rows, ∃ r ∈ s.inserted, r.Kept r') ∧
      s.inserted.Pairwise OtherEvent ∧
      (cfg.rounding = .exact → s.inserted.Pairwise (Apart cfg)) ∧
      s.inbox.rows.count InspectionRow.isPending ≤ 128 ∧
      (∀ event r now factory baselineCount,
        s.inbox.rows.lookup event.inspectionId = some r →
        (cfg.digest r.payload = cfg.digest event → r.payload = event) →
          receive cfg s.inbox event now factory baselineCount =
            (if r.payload = event then .ok r
              else .error (valueError "inspection identity conflict"), s.inbox)) ∧
      ∀ fs t, Run.exec (inboxStep cfg) s fs = some t →
          ∀ r ∈ s.inbox.rows.rows, ∀ r' ∈ t.inbox.rows.rows,
            r'.serial = r.serial → r.Kept r' := by
  have h := InboxInv.of_run hrun hclock
  refine ⟨h.sourced, h.once, h.apart, h.capacity, ?_, ?_⟩
  · intro event r now factory baselineCount hr hdigest
    exact h.toInboxRows.receive_retained hr hdigest now factory baselineCount
  · intro fs t hfs
    exact (SameRows.of_run h.toInboxRows hfs).kept

namespace Inspected

/-! A store that keeps the events themselves in place of their hashes, and one
failed bottle. -/

def config : InboxConfig BottleInspection where
  digest := id
  rounding := .exact
  maxAge := 2
  maxAge_pos := by norm_num
  maxAge_le := by norm_num
  realText := fun _ => ""

def event : BottleInspection := ⟨"00000000000000aa:0001", 10, false, .ofMicros 1000000000⟩

def nextEvent : BottleInspection :=
  ⟨"00000000000000aa:0002", 11, true, .ofMicros 90000000000⟩

def command : ActuationRequest where
  correlationId := "original-command"
  requester := "decision-agent-stub"
  targetUnsTopic := "reject"
  requestedValue := .int 10
  valueType := .int64
  reason := "failed bottle inspection"
  requestedAt := .aware (.ofMicros 1000000000)
  deadline := none
  extra := []
  names_nodup := declaredNames_nodup

def result : List (String × Json) :=
  [("correlation_id", .str "original-command"), ("requester", .str "decision-agent-stub"),
    ("target_uns_topic", .str "reject"), ("requested_value", .int 10),
    ("value_type", .str "int64"), ("decision", .str "approve"),
    ("written_at", .str "1970-01-01T00:16:42Z")]

/-- Delivered twice, settled, deleted by a later event, and delivered again. -/
def events : List InboxEvent :=
  [.receive event 1001 (.ok command) none, .ready 1001, .sent event.inspectionId 1001,
    .receive event 1002 (.ok command) none, .settle result, .restart,
    .receive nextEvent 90001 (.ok command) none, .receive event 90002 (.ok command) none]

end Inspected

/-- The event comes back after its row is gone, and only the first of its two
rows has a command. -/
theorem one_command_per_event_example :
    ∃ s, Run.exec (inboxStep Inspected.config) (.initial 0) Inspected.events = some s ∧
      s.inserted.map (fun r => (r.serial, r.command.isSome)) =
        [(3, false), (2, false), (1, true)] ∧
      s.inserted.Pairwise OtherEvent := by
  obtain ⟨s, hs, hend⟩ : ∃ s,
      Run.exec (inboxStep Inspected.config) (.initial 0) Inspected.events = some s ∧
        s.inserted.map (fun r => (r.serial, r.command.isSome)) =
          [(3, false), (2, false), (1, true)] :=
    Run.exists_exec (by decide +kernel)
  have hlaw := one_command_per_event Inspected.config 0 Inspected.events s hs
    (by decide +kernel)
  exact ⟨s, hs, hend, hlaw.2.1⟩

end EirvahEdge.Recovery
