import EirvahEdge.Agent.Rejections
import EirvahEdge.Agent.Switch

/-!
# The baseline of a rejection

A rejection is confirmed by a count above the one known when it was requested.
The agent takes that baseline from the rejection counts it has accepted since it
was started, keeps it in the row of the inspection, and hands it to the tracker
when the row is answered, which may be after a restart.

`baseline_of_command`: every row with a command, and every entry of the tracker,
has the count that was the latest when the row was created.  It is stated for exact
times: in doubles the store can take an inspection for due that the gate has let
through as stale, and gives it a command without a count.
-/

namespace EirvahEdge.Agent

open EirvahEdge.Lib
open EirvahEdge.Contracts
open EirvahEdge.Recovery
open EirvahEdge.Devices

variable {δ : Type}

/-! ## Accepted counts -/

/-- The rejection count that the branch of an observation accepts. -/
def feedbackCount (cfg : AgentConfig δ) (agent : DecisionAgent δ) (topic : String)
    (payload : List (String × Json)) (value : Json) (observedAt now : AwareDatetime) :
    Option FeedbackSample :=
  if topic ≠ cfg.settings.rejectCountTopic ∨
      (topic = cfg.settings.subscribeTopic ∧ hasUnit payload "m/s") then none
  else
    match readFeedback payload value with
    | none => none
    | some n =>
        match (stateUpdate cfg agent topic (.int n) observedAt now payload).2 with
        | .ok true => some ⟨n, observedAt⟩
        | _ => none

/-- The rejection count that an observation is accepted with. -/
def acceptedCount (cfg : AgentConfig δ) (agent : DecisionAgent δ) (topic : String)
    (payload : List (String × Json)) (now : AwareDatetime) : Option FeedbackSample :=
  match cfg.validateObservation topic payload, (agent.runtime.rejections.expire (.aware now)).2,
    readObservation cfg agent.store.isSome topic payload now with
  | .ok (), .ok _, .ok (some (value, observedAt)) =>
      feedbackCount cfg (arrived cfg agent topic now) topic payload value observedAt now
  | _, _, _ => none

/-- The counts after one more event: a process that is started has accepted none. -/
def countsAfter (cfg : AgentConfig δ) (agent : DecisionAgent δ) (counts : List FeedbackSample) :
    AgentEvent → List FeedbackSample
  | .observation topic payload now _ =>
      counts ++ (acceptedCount cfg agent topic payload now).toList
  | .restart => []
  | _ => counts

/-- The counts accepted in a run since the last restart, the latest accepted last. -/
def acceptedCounts [DecidableEq δ] (cfg : AgentConfig δ) (s : AgentRun δ)
    (counts : List FeedbackSample) : List AgentEvent → List FeedbackSample
  | [] => counts
  | e :: es =>
      match agentStep cfg s e with
      | some t => acceptedCounts cfg t (countsAfter cfg s.agent counts e) es
      | none => counts

/-- No count was observed later, and none as late was accepted later. -/
def IsLatest (counts : List FeedbackSample) (count : FeedbackSample) : Prop :=
  ∃ earlier later, counts = earlier ++ count :: later ∧
    (∀ c ∈ earlier, c.observedAt.timestamp ≤ count.observedAt.timestamp) ∧
    ∀ c ∈ later, c.observedAt.timestamp < count.observedAt.timestamp

/-- A baseline of some time in a run: an observation came at that time, and the latest count
accepted before it was this one, could still grow and was not stale. -/
def CountedAt [DecidableEq δ] (cfg : AgentConfig δ) (es : List AgentEvent) (created : ℚ)
    (baseline : ℕ) : Prop :=
  ∃ before topic payload now freshId after count,
    es = before ++ .observation topic payload now freshId :: after ∧
    created = now.timestamp ∧
    IsLatest (acceptedCounts cfg (.initial cfg) [] before) count ∧
    count.value = baseline ∧ baseline < 65535 ∧
    ageAt now count.observedAt ≤ cfg.settings.maxObservationAgeS

theorem CountedAt.append [DecidableEq δ] {cfg : AgentConfig δ} {es : List AgentEvent}
    {created : ℚ} {baseline : ℕ} (h : CountedAt cfg es created baseline) (e : AgentEvent) :
    CountedAt cfg (es ++ [e]) created baseline := by
  obtain ⟨before, topic, payload, now, freshId, after, count, rfl, hcount⟩ := h
  exact ⟨before, topic, payload, now, freshId, after ++ [e], count, by simp, hcount⟩

/-- The agent keeps the latest count. -/
theorem isLatest_append {counts : List FeedbackSample} {previous : Option FeedbackSample}
    (h : ∀ count ∈ previous, IsLatest counts count) (hnone : previous = none → counts = [])
    (sample : FeedbackSample) :
    IsLatest (counts ++ [sample]) (newerSample previous sample) := by
  cases previous with
  | none =>
      rw [hnone rfl]
      exact ⟨[], [], rfl, fun _ hc => absurd hc List.not_mem_nil,
        fun _ hc => absurd hc List.not_mem_nil⟩
  | some count =>
      obtain ⟨earlier, later, rfl, hearlier, hlater⟩ := h count rfl
      by_cases hle : count.observedAt.timestamp ≤ sample.observedAt.timestamp
      · have hnewer : newerSample (some count) sample = sample := if_pos hle
        rw [hnewer]
        refine ⟨earlier ++ count :: later, [], rfl, ?_, fun _ hc => absurd hc List.not_mem_nil⟩
        intro c hc
        rcases List.mem_append.1 hc with hc | hc
        · exact (hearlier c hc).trans hle
        · rcases List.mem_cons.1 hc with rfl | hc
          · exact hle
          · exact (hlater c hc).le.trans hle
      · have hkept : newerSample (some count) sample = count := if_neg hle
        rw [hkept]
        refine ⟨earlier, later ++ [sample], by simp, hearlier, ?_⟩
        intro c hc
        rcases List.mem_append.1 hc with hc | hc
        · exact hlater c hc
        · rw [List.mem_singleton.1 hc]
          exact not_le.1 hle

/-! ## What the parts of an observation keep -/

/-- The rows with a command and the entries of the tracker have baselines that are good for
the time the row was created. -/
structure HasBaselines (P : ℚ → ℕ → Prop) (agent : DecisionAgent δ) : Prop where
  rows : ∀ row ∈ agent.rows, row.command.isSome → ∃ baseline,
    row.baselineCount = some baseline ∧ P row.received baseline
  pending : ∀ e ∈ agent.runtime.rejections.pending.rows, ∃ created baseline,
    e.baselineCount = some ((baseline : ℕ) : ℤ) ∧ P created baseline

/-- What every continuation keeps of a state, the whole call keeps. -/
theorem andThen_inv {σ α β : Type} {r : σ × Except PyError α}
    {f : σ → α → σ × Except PyError β} {I : σ → Prop} (h : I r.1)
    (hf : ∀ s a, r = (s, .ok a) → I s → I (f s a).1) : I (andThen r f).1 := by
  obtain ⟨s, _ | a⟩ := r
  · exact h
  · exact hf s a rfl h

section Parts

variable {cfg : AgentConfig δ} {agent agent' : DecisionAgent δ} {topic freshId : String}
  {payload : List (String × Json)} {value : Json} {observedAt now : AwareDatetime}
  {P : ℚ → ℕ → Prop}

theorem HasBaselines.mono {Q : ℚ → ℕ → Prop} (h : HasBaselines P agent)
    (himp : ∀ created baseline, P created baseline → Q created baseline) :
    HasBaselines Q agent where
  rows := by
    intro row hrow hcommand
    obtain ⟨baseline, hbaseline, hP⟩ := h.rows row hrow hcommand
    exact ⟨baseline, hbaseline, himp _ _ hP⟩
  pending := by
    intro e he
    obtain ⟨created, baseline, hbaseline, hP⟩ := h.pending e he
    exact ⟨created, baseline, hbaseline, himp _ _ hP⟩

/-- The same rows, and entries that were there. -/
theorem HasBaselines.of_kept (h : HasBaselines P agent) (hrows : agent'.rows = agent.rows)
    (hpending : ∀ e' ∈ agent'.runtime.rejections.pending.rows,
      ∃ e ∈ agent.runtime.rejections.pending.rows, e.asAdded = e'.asAdded) :
    HasBaselines P agent' where
  rows := by
    rw [hrows]
    exact h.rows
  pending := by
    intro e' he'
    obtain ⟨e, he, hsame⟩ := hpending e' he'
    have hbaseline : e.asAdded.baselineCount = e'.asAdded.baselineCount := by rw [hsame]
    rw [show e'.baselineCount = e.baselineCount from hbaseline.symm]
    exact h.pending e he

theorem HasBaselines.of_eq (h : HasBaselines P agent) (hrows : agent'.rows = agent.rows)
    (hrejections : agent'.runtime.rejections = agent.runtime.rejections) :
    HasBaselines P agent' := by
  refine h.of_kept hrows ?_
  rw [hrejections]
  exact fun e he => ⟨e, he, rfl⟩

/-- A call of the tracker with a time. -/
theorem HasBaselines.call (h : HasBaselines P agent) {call : RejectionCall} {now : Datetime}
    (htime : call.time = some now) :
    HasBaselines P (agent.withRejections (agent.runtime.rejections.call call).1) :=
  h.of_kept rfl fun _ he' => call_kept htime _ he'

theorem rejections_stateUpdate (signal : SignalValue) :
    (stateUpdate cfg agent topic signal observedAt now payload).1.runtime.rejections =
      agent.runtime.rejections := by
  unfold stateUpdate
  split
  · rfl
  · exact andThen_fst (fun a : DecisionAgent δ => a.runtime.rejections) fun _ _ => rfl

theorem count_stateUpdate (signal : SignalValue) :
    (stateUpdate cfg agent topic signal observedAt now payload).1.runtime.count =
      agent.runtime.count := by
  unfold stateUpdate
  split
  · rfl
  · exact andThen_fst (fun a : DecisionAgent δ => a.runtime.count) fun _ _ => rfl

theorem rejections_observeSpeed :
    (observeSpeed cfg agent topic payload value observedAt now freshId).1.runtime.rejections =
      agent.runtime.rejections := by
  unfold observeSpeed
  split
  · rfl
  · rfl
  · refine (andThen_fst (fun a : DecisionAgent δ => a.runtime.rejections) ?_).trans
      (rejections_stateUpdate _)
    intro s accepted
    cases accepted <;> rfl

theorem count_observeSpeed :
    (observeSpeed cfg agent topic payload value observedAt now freshId).1.runtime.count =
      agent.runtime.count := by
  unfold observeSpeed
  split
  · rfl
  · rfl
  · refine (andThen_fst (fun a : DecisionAgent δ => a.runtime.count) ?_).trans
      (count_stateUpdate _)
    intro s accepted
    cases accepted <;> rfl

theorem HasBaselines.observeFeedback (h : HasBaselines P agent) :
    HasBaselines P (observeFeedback cfg agent topic payload value observedAt now).1 := by
  unfold Agent.observeFeedback
  split
  · exact h
  · next n hn =>
      refine andThen_inv (h.of_eq (rows_stateUpdate _) (rejections_stateUpdate _)) ?_
      intro s accepted _ hs
      cases accepted with
      | false => exact hs
      | true =>
          have hnoted : HasBaselines P
              (noteCount s (feedbackKind cfg.settings topic) ⟨n, observedAt⟩) := by
            cases feedbackKind cfg.settings topic with
            | bottle => exact hs
            | count => exact hs.of_eq rfl rfl
          exact hnoted.call (show (RejectionCall.feedback (feedbackKind cfg.settings topic).name n
            (.aware observedAt) (.aware now)).time = some (.aware now) from rfl)

/-! ### Inspections -/

/-- A row that a `receive` inserted with a command. -/
structure InsertedRow (cfg : InboxConfig δ) (inbox : Inbox δ) (event : BottleInspection) (now : ℚ)
    (factory : Except PyError ActuationRequest) (baselineCount : Option ℕ)
    (row : InspectionRow δ) : Prop where
  received : row.received = now
  baselineCount : row.baselineCount = baselineCount
  stores : ∀ command, row.command = some command →
    StoresCommand cfg inbox event now factory command

section Receive

variable [DecidableEq δ] {inboxCfg : InboxConfig δ} {inbox : Inbox δ} {event : BottleInspection}
  {at' : ℚ} {factory : Except PyError ActuationRequest} {baselineCount : Option ℕ}
  {row : InspectionRow δ}

/-- The row a `receive` answers with and the rows it leaves were there, or it inserted
them. -/
theorem rows_of_receive
    (h : (receive inboxCfg inbox event at' factory baselineCount).1 = .ok row ∨
      row ∈ (receive inboxCfg inbox event at' factory baselineCount).2.rows.rows) :
    row ∈ inbox.rows.rows ∨
      InsertedRow inboxCfg inbox event at' factory baselineCount row := by
  unfold receive at h
  split at h
  · next old hold =>
      split at h
      · exact Or.inl (h.resolve_left (by simp))
      · rcases h with h | h
        · rw [← Except.ok.inj h]
          exact Or.inl (Table.lookup_mem hold)
        · exact Or.inl h
  · next hnew =>
      split at h
      · exact Or.inl (h.resolve_left (by simp))
      · next inserted inbox' hok =>
          obtain ⟨disposition, command, rows, -, hinserted, hinsert, rfl⟩ := receiveNew_ok hok
          have hrow : row ∈ inbox.rows.rows ∨ row = inserted := by
            rcases h with h | h
            · exact Or.inr (Except.ok.inj h).symm
            · exact mem_of_insert at' hinsert row h
          refine hrow.imp_right ?_
          rintro rfl
          have hstores : ∀ command, row.command = some command →
              StoresCommand inboxCfg inbox event at' factory command :=
            fun command hcommand => commands_of_receiveNew hnew hok hcommand
          subst hinserted
          exact ⟨rfl, rfl, hstores⟩

end Receive

/-- An entry is added with the baseline of its row. -/
theorem HasBaselines.track (h : HasBaselines P agent) {entry : PendingRejection} {created : ℚ}
    {baseline : ℕ} (hentry : entry.baselineCount = some (baseline : ℤ))
    (hP : P created baseline) : HasBaselines P (track agent entry).1 where
  rows := h.rows
  pending := by
    intro e he
    unfold Agent.track RejectionTracker.add at he
    split at he
    · exact h.pending e he
    · rcases List.mem_append.1 he with hold | hlast
      · exact h.pending e (List.mem_filter.1 hold).1
      · rw [List.mem_singleton.1 hlast]
        exact ⟨created, baseline, hentry, hP⟩

theorem HasBaselines.trackRow (h : HasBaselines P agent) {row : InspectionRow δ}
    {event : BottleInspection}
    (hrow : row.command.isSome → ∃ baseline, row.baselineCount = some baseline ∧
      P row.received baseline) :
    HasBaselines P (trackRow cfg agent row event now).1 := by
  unfold Agent.trackRow
  split
  · exact h
  · next command hcommand =>
      split
      · obtain ⟨baseline, hbaseline, hP⟩ := hrow (by rw [hcommand]; rfl)
        refine h.track ?_ hP
        rw [hbaseline]
        rfl
      · exact h

theorem HasBaselines.decideInMemory (h : HasBaselines P agent) {event : BottleInspection}
    (hcount : ∀ count, agent.runtime.count = some count →
      isUsableBaseline cfg.settings count now = true →
      ∃ baseline : ℕ, count.value = baseline ∧
        P (now.roundedTimestamp cfg.settings.rounding) baseline) :
    HasBaselines P (decideInMemory cfg agent event now freshId).1 := by
  unfold Agent.decideInMemory
  split
  · exact h
  · next count hsome =>
      split
      · exact h
      · next husable =>
          split
          · exact h
          · obtain ⟨baseline, hvalue, hP⟩ := hcount count hsome (by simpa using husable)
            refine andThen_inv (h.of_eq rfl rfl) ?_
            intro s request _ hs
            cases request with
            | none => exact hs
            | some request =>
                refine andThen_inv (hs.track ?_ hP) fun _ _ _ hadded => hadded
                show some count.value = some (baseline : ℤ)
                rw [hvalue]

theorem rejections_markInvalid (cfg : AgentConfig δ) (agent : DecisionAgent δ) (topic : String) :
    (markInvalid cfg agent topic).runtime.rejections = agent.runtime.rejections ∧
      (markInvalid cfg agent topic).runtime.count = agent.runtime.count := by
  unfold markInvalid
  split
  · exact ⟨rfl, rfl⟩
  · exact ⟨rfl, rfl⟩

theorem HasBaselines.arrived (h : HasBaselines P agent) :
    HasBaselines P (arrived cfg agent topic now) := by
  have hexpired : HasBaselines P (agent.withRejections
      (agent.runtime.rejections.expire (.aware now)).1) :=
    h.call (show (RejectionCall.expire (.aware now)).time = some (.aware now) from rfl)
  exact hexpired.of_eq (rows_of_store (store_markInvalid cfg _ topic))
    (rejections_markInvalid cfg _ topic).1

/-- In exact arithmetic the store and the gate see one age. -/
theorem isFresh_of_due (hexact : cfg.settings.rounding = .exact) {event : BottleInspection}
    (h : dispositionAt cfg.inbox event (now.roundedTimestamp cfg.settings.rounding) =
      .pending) : isFresh cfg.settings event now = true := by
  have hage : storedAge cfg.inbox event (now.roundedTimestamp cfg.settings.rounding) =
      cfg.settings.ageSeconds now event.inspectedAt := by
    simp [storedAge, AgentConfig.inbox, AwareDatetime.roundedTimestamp,
      DecisionAgentSettings.ageSeconds, AwareDatetime.totalSeconds, hexact]
  obtain ⟨hpast, hlt, -⟩ := dispositionAt_eq_pending.1 h
  rw [hage] at hpast hlt
  exact decide_eq_true ⟨hpast, hlt⟩

variable [DecidableEq δ]

/-- A row is created with the count the agent has, when that is usable. -/
theorem HasBaselines.receiveDurable (h : HasBaselines P agent)
    (hexact : cfg.settings.rounding = .exact) {store : ConsumerStore δ}
    (hstore : agent.store = some store) {event : BottleInspection}
    (hcount : ∀ count, agent.runtime.count = some count →
      isUsableBaseline cfg.settings count now = true →
      ∃ baseline : ℕ, count.value = baseline ∧
        P (now.roundedTimestamp cfg.settings.rounding) baseline) :
    HasBaselines P (receiveDurable cfg agent store event now freshId).1 := by
  have hrows : agent.rows = store.inbox.rows.rows := by simp [DecisionAgent.rows, hstore]
  by_cases hlacks : lacksBaseline cfg agent store event now = true
  · rw [Agent.receiveDurable, if_pos hlacks]
    exact h
  · rw [Bool.not_eq_true] at hlacks
    have hgood : ∀ row, row ∈ store.inbox.rows.rows ∨
        InsertedRow cfg.inbox store.inbox event (now.roundedTimestamp cfg.settings.rounding)
          (rejectRequest cfg.settings event now freshId)
          (agent.runtime.count.map fun count => count.value.toNat) row →
        row.command.isSome →
        ∃ baseline, row.baselineCount = some baseline ∧ P row.received baseline := by
      intro row hrow hcommand
      rcases hrow with hold | hinserted
      · exact h.rows row (by rw [hrows]; exact hold) hcommand
      · obtain ⟨command, hcommand⟩ := Option.isSome_iff_exists.1 hcommand
        have hstores := hinserted.stores command hcommand
        have hgate := (lacksBaseline_of_stores hstores).1 hlacks
        obtain ⟨count, hsome, husable⟩ :=
          (Option.any_eq_true _ _).1 (hgate (isFresh_of_due hexact hstores.due))
        obtain ⟨baseline, hvalue, hP⟩ := hcount count hsome husable
        refine ⟨baseline, ?_, ?_⟩
        · rw [hinserted.baselineCount, hsome, Option.map_some, hvalue, Int.toNat_natCast]
        · rw [hinserted.received]
          exact hP
    unfold Agent.receiveDurable
    rw [hlacks, if_neg Bool.false_ne_true]
    dsimp only
    have hreceived : HasBaselines P (agent.withInbox (receive cfg.inbox store.inbox event
        (now.roundedTimestamp cfg.settings.rounding)
        (rejectRequest cfg.settings event now freshId)
        (agent.runtime.count.map fun count => count.value.toNat)).2) := by
      refine ⟨?_, h.pending⟩
      rw [rows_withInbox hstore]
      intro row hrow
      exact hgood row (rows_of_receive (Or.inr hrow))
    refine andThen_inv hreceived ?_
    intro s row hanswer hs
    have hreceipt : HasBaselines P (s.withReceiptEvent (some event)) := hs.of_eq rfl rfl
    exact hreceipt.trackRow (hgood row (rows_of_receive (Or.inl (Prod.mk.inj hanswer).2)))

theorem HasBaselines.observeInspection (h : HasBaselines P agent)
    (hexact : cfg.settings.rounding = .exact)
    (hcount : ∀ count, agent.runtime.count = some count →
      isUsableBaseline cfg.settings count now = true →
      ∃ baseline : ℕ, count.value = baseline ∧
        P (now.roundedTimestamp cfg.settings.rounding) baseline) :
    HasBaselines P (observeInspection cfg agent value observedAt now freshId).1 := by
  unfold Agent.observeInspection
  split
  · split
    · exact h
    · split
      · exact h
      · split
        · next store hstore =>
            exact andThen_inv (h.receiveDurable hexact hstore hcount) fun _ _ _ hs => hs
        · exact h.decideInMemory hcount
  · exact h

theorem HasBaselines.dispatch (h : HasBaselines P agent)
    (hexact : cfg.settings.rounding = .exact)
    (hcount : ∀ count, agent.runtime.count = some count →
      isUsableBaseline cfg.settings count now = true →
      ∃ baseline : ℕ, count.value = baseline ∧
        P (now.roundedTimestamp cfg.settings.rounding) baseline) :
    HasBaselines P (dispatch cfg agent topic payload value observedAt now freshId).1 := by
  unfold Agent.dispatch
  split
  · exact h.of_eq rows_observeSpeed rejections_observeSpeed
  · split
    · exact h.observeFeedback
    · split
      · exact h
      · exact h.observeInspection hexact hcount

end Parts

/-! ## What changes the count -/

section Count

variable {cfg : AgentConfig δ} {agent : DecisionAgent δ} {topic freshId : String}
  {payload : List (String × Json)} {value : Json} {observedAt now : AwareDatetime}

theorem count_trackRow (row : InspectionRow δ) (event : BottleInspection) :
    (trackRow cfg agent row event now).1.runtime.count = agent.runtime.count :=
  trackRow_fst (fun agent => agent.runtime.count) (fun _ _ => rfl) row event

theorem count_decideInMemory (event : BottleInspection) :
    (decideInMemory cfg agent event now freshId).1.runtime.count = agent.runtime.count :=
  decideInMemory_fst (fun agent => agent.runtime.count) (fun _ _ => rfl) (fun _ _ => rfl) event

theorem count_observeInspection [DecidableEq δ] :
    (observeInspection cfg agent value observedAt now freshId).1.runtime.count =
      agent.runtime.count := by
  unfold observeInspection
  split
  · split
    · rfl
    · split
      · rfl
      · split
        · refine (andThen_fst (fun a : DecisionAgent δ => a.runtime.count) fun _ _ => rfl).trans ?_
          unfold receiveDurable
          split
          · rfl
          · exact andThen_fst (fun a : DecisionAgent δ => a.runtime.count)
              fun s row => count_trackRow row _
        · exact count_decideInMemory _
  · rfl

/-- The count known after a sample was or was not accepted. -/
def countOr (previous : Option FeedbackSample) : Option FeedbackSample → Option FeedbackSample
  | none => previous
  | some sample => some (newerSample previous sample)

/-- Accepted feedback of the count's topic is the count, other feedback leaves it. -/
theorem count_observeFeedback :
    (observeFeedback cfg agent topic payload value observedAt now).1.runtime.count =
      if topic = cfg.settings.rejectCountTopic then
        match readFeedback payload value with
        | none => agent.runtime.count
        | some n =>
            match (stateUpdate cfg agent topic (.int n) observedAt now payload).2 with
            | .ok true => some (newerSample agent.runtime.count ⟨n, observedAt⟩)
            | _ => agent.runtime.count
      else agent.runtime.count := by
  unfold observeFeedback
  cases hread : readFeedback payload value with
  | none =>
      dsimp only
      split <;> rfl
  | some n =>
      have hcount : (stateUpdate cfg agent topic (.int n) observedAt now payload).1.runtime.count =
          agent.runtime.count := count_stateUpdate _
      dsimp only
      generalize stateUpdate cfg agent topic (.int n) observedAt now payload = r at hcount ⊢
      obtain ⟨s, answer⟩ := r
      cases answer with
      | error e =>
          dsimp only [andThen]
          split
          · exact hcount
          · exact hcount
      | ok accepted =>
          cases accepted with
          | false =>
              simp only [andThen, Bool.not_false, if_true, ite_self]
              exact hcount
          | true =>
              by_cases htopic : topic = cfg.settings.rejectCountTopic
              · rw [if_pos htopic]
                have hkind : feedbackKind cfg.settings topic = .count := if_pos htopic
                simp only [andThen, hkind, noteCount]
                rw [← hcount]
                rfl
              · rw [if_neg htopic]
                have hkind : feedbackKind cfg.settings topic = .bottle := if_neg htopic
                simp only [andThen, hkind, noteCount]
                exact hcount

theorem count_dispatch [DecidableEq δ] :
    (dispatch cfg agent topic payload value observedAt now freshId).1.runtime.count =
      countOr agent.runtime.count
        (feedbackCount cfg agent topic payload value observedAt now) := by
  unfold dispatch feedbackCount
  by_cases hspeed : topic = cfg.settings.subscribeTopic ∧ hasUnit payload "m/s" = true
  · rw [if_pos hspeed, if_pos (Or.inr hspeed)]
    exact count_observeSpeed
  · rw [if_neg hspeed]
    by_cases htopic : topic = cfg.settings.rejectCountTopic
    · have hcounted : ¬ (topic ≠ cfg.settings.rejectCountTopic ∨
          (topic = cfg.settings.subscribeTopic ∧ hasUnit payload "m/s" = true)) :=
        not_or.2 ⟨not_not_intro htopic, hspeed⟩
      rw [if_pos (Or.inl htopic), if_neg hcounted, count_observeFeedback, if_pos htopic]
      cases readFeedback payload value with
      | none => rfl
      | some n =>
          dsimp only
          cases (stateUpdate cfg agent topic (.int n) observedAt now payload).2 with
          | error e => rfl
          | ok accepted => cases accepted <;> rfl
    · rw [if_pos (show topic ≠ cfg.settings.rejectCountTopic ∨ _ from Or.inl htopic)]
      split
      · rw [count_observeFeedback, if_neg htopic]
        rfl
      · split
        · rfl
        · exact count_observeInspection

/-- The agent knows the counts it accepted, and no observation changes that otherwise. -/
theorem count_observation [DecidableEq δ] :
    (observation cfg agent topic payload now freshId).1.runtime.count =
      countOr agent.runtime.count (acceptedCount cfg agent topic payload now) := by
  unfold observation acceptedCount
  cases hvalid : cfg.validateObservation topic payload with
  | error e => rfl
  | ok u =>
      dsimp only
      have hexpire : (agent.withReceiptEvent none).runtime.rejections = agent.runtime.rejections :=
        rfl
      rw [hexpire]
      generalize hr : agent.runtime.rejections.expire (.aware now) = r
      obtain ⟨t, answer⟩ := r
      cases answer with
      | error e => rfl
      | ok outcomes =>
          dsimp only [andThen]
          rw [store_markInvalid]
          have hstore : ((agent.withReceiptEvent none).withRejections t).store = agent.store := rfl
          rw [hstore]
          cases hread : readObservation cfg agent.store.isSome topic payload now with
          | error e => exact (rejections_markInvalid cfg _ topic).2
          | ok seen =>
              cases seen with
              | none => exact (rejections_markInvalid cfg _ topic).2
              | some seen =>
                  obtain ⟨value, observedAt⟩ := seen
                  dsimp only
                  rw [count_dispatch, (rejections_markInvalid cfg _ topic).2]
                  unfold arrived
                  rw [hr]
                  rfl

end Count

/-! ## Runs -/

section Runs

variable {cfg : AgentConfig δ}

/-- An assignment to other columns leaves the baselines. -/
theorem HasBaselines.update {P : ℚ → ℕ → Prop} {agent agent' : DecisionAgent δ}
    (h : HasBaselines P agent) (p : InspectionRow δ → Bool)
    (f : InspectionRow δ → InspectionRow δ)
    (hf : ∀ r, (f r).command = r.command ∧ (f r).received = r.received ∧
      (f r).baselineCount = r.baselineCount)
    (hrows : agent'.rows = agent.rows.map (Table.updateRow p f))
    (hrejections : agent'.runtime.rejections = agent.runtime.rejections) :
    HasBaselines P agent' where
  rows := by
    rw [hrows]
    intro row hrow hcommand
    obtain ⟨r, hr, rfl⟩ := List.mem_map.1 hrow
    unfold Table.updateRow at hcommand ⊢
    split
    · next hp =>
        obtain ⟨hsame, hreceived, hbaseline⟩ := hf r
        rw [if_pos hp, hsame] at hcommand
        rw [hreceived, hbaseline]
        exact h.rows r hr hcommand
    · next hp =>
        rw [if_neg hp] at hcommand
        exact h.rows r hr hcommand
  pending := by
    rw [hrejections]
    exact h.pending

/-- The rows after a statement on the inbox. -/
theorem rows_update (agent : DecisionAgent δ) {store : ConsumerStore δ}
    (hstore : agent.store = some store) (p : InspectionRow δ → Bool)
    (f : InspectionRow δ → InspectionRow δ) (hf : ∀ r, (f r).id = r.id) :
    (agent.withInbox (store.inbox.update p f hf)).rows = agent.rows.map (Table.updateRow p f) := by
  rw [rows_withInbox hstore]
  simp [DecisionAgent.rows, hstore, Inbox.update, Table.updateWhere]

theorem commandResult_hasBaselines {P : ℚ → ℕ → Prop} {agent : DecisionAgent δ}
    (h : HasBaselines P agent) (result : List (String × Json)) (now : AwareDatetime) :
    HasBaselines P (commandResult cfg agent result now).1 := by
  unfold commandResult
  dsimp only
  refine andThen_inv ?_ ?_
  · split
    · exact h
    · next store hstore =>
        rcases settle_cases cfg.inbox store.inbox result with
          hsame | ⟨identity, disposition, -, hset⟩
        · refine h.of_eq ?_ rfl
          show (agent.withInbox (settle cfg.inbox store.inbox result).2).rows = agent.rows
          rw [hsame, rows_withInbox hstore]
          simp [DecisionAgent.rows, hstore]
        · refine h.update (fun r => r.commandId == some identity)
            (InspectionRow.settledBy disposition (Json.obj result).sortKeys)
            (fun _ => ⟨rfl, rfl, rfl⟩) ?_ rfl
          show (agent.withInbox (settle cfg.inbox store.inbox result).2).rows = _
          rw [hset]
          exact rows_update agent hstore _ _ _
  · intro s _ _ hs
    exact hs.call
      (show (RejectionCall.result result (.aware now)).time = some (.aware now) from rfl)

theorem agentAfterReady_hasBaselines {P : ℚ → ℕ → Prop} {agent : DecisionAgent δ}
    (h : HasBaselines P agent) (now : ℚ) : HasBaselines P (agentAfterReady agent now) := by
  cases hstore : agent.store with
  | none =>
      have hsame : agentAfterReady agent now = agent := by
        unfold agentAfterReady
        rw [hstore, Option.map_none, ← hstore]
      rw [hsame]
      exact h
  | some store =>
      refine h.update (fun r => r.isPending && decide (r.received < now - 86400))
        InspectionRow.elapsed (fun _ => ⟨rfl, rfl, rfl⟩) ?_ rfl
      simp [agentAfterReady, DecisionAgent.rows, hstore, ready, Inbox.update, Table.updateWhere]

theorem agentAfterSent_hasBaselines {P : ℚ → ℕ → Prop} {agent : DecisionAgent δ}
    (h : HasBaselines P agent) (identity : String) (now : ℚ) :
    HasBaselines P (agentAfterSent agent identity now) := by
  cases hstore : agent.store with
  | none =>
      have hsame : agentAfterSent agent identity now = agent := by
        unfold agentAfterSent
        rw [hstore, Option.map_none, ← hstore]
      rw [hsame]
      exact h
  | some store =>
      refine h.update (fun r => r.id == identity) (InspectionRow.sentAt now)
        (fun _ => ⟨rfl, rfl, rfl⟩) ?_ rfl
      simp [agentAfterSent, DecisionAgent.rows, hstore, sent, Inbox.update, Table.updateWhere]

theorem bounds_of_acceptedCount {agent : DecisionAgent δ} {topic : String}
    {payload : List (String × Json)} {now : AwareDatetime} {c : FeedbackSample}
    (h : acceptedCount cfg agent topic payload now = some c) : 0 ≤ c.value ∧ c.value ≤ 65535 := by
  have hread : ∀ {value : Json} {n : ℤ}, readFeedback payload value = some n →
      0 ≤ n ∧ n ≤ 65535 := by
    intro value n hn
    unfold readFeedback at hn
    split at hn
    · split at hn
      · next hrange =>
          obtain rfl := Option.some.inj hn
          exact ⟨hrange.1, hrange.2.1⟩
      · cases hn
    · cases hn
  unfold acceptedCount at h
  split at h
  · unfold feedbackCount at h
    split at h
    · cases h
    · split at h
      · cases h
      · next n hn =>
          split at h
          · obtain rfl := Option.some.inj h
            exact hread hn
          · cases h
  · cases h

variable [DecidableEq δ]

theorem observation_hasBaselines {agent : DecisionAgent δ} {P : ℚ → ℕ → Prop}
    (h : HasBaselines P agent) (hexact : cfg.settings.rounding = .exact) (topic : String)
    (payload : List (String × Json)) {now : AwareDatetime} (freshId : String)
    (hcount : ∀ count, agent.runtime.count = some count →
      isUsableBaseline cfg.settings count now = true →
      ∃ baseline : ℕ, count.value = baseline ∧
        P (now.roundedTimestamp cfg.settings.rounding) baseline) :
    HasBaselines P (observation cfg agent topic payload now freshId).1 := by
  unfold observation
  dsimp only
  have hcleared : HasBaselines P (agent.withReceiptEvent none) := h.of_eq rfl rfl
  split
  · exact hcleared
  · refine andThen_inv (hcleared.call
      (show (RejectionCall.expire (.aware now)).time = some (.aware now) from rfl)) ?_
    intro s outcomes hexpired hs
    have hmarked : HasBaselines P (markInvalid cfg s topic) :=
      hs.of_eq (rows_of_store (store_markInvalid cfg s topic))
        (rejections_markInvalid cfg s topic).1
    split
    · exact hmarked
    · exact hmarked
    · refine hmarked.dispatch hexact fun count hsome => hcount count ?_
      rw [(rejections_markInvalid cfg s topic).2, ← (Prod.mk.inj hexpired).1] at hsome
      exact hsome

/-- The counts of a run with one more event. -/
theorem acceptedCounts_append {s t : AgentRun δ} {counts : List FeedbackSample}
    {es : List AgentEvent} (h : Run.exec (agentStep cfg) s es = some t) (e : AgentEvent) :
    acceptedCounts cfg s counts (es ++ [e]) =
      match agentStep cfg t e with
      | some _ => countsAfter cfg t.agent (acceptedCounts cfg s counts es) e
      | none => acceptedCounts cfg s counts es := by
  induction es generalizing s counts with
  | nil =>
      obtain rfl : s = t := by simpa using h
      rfl
  | cons e' es ih =>
      obtain ⟨u, hu, hrest⟩ := Run.exec_cons_eq_some.1 h
      simp only [List.cons_append, acceptedCounts, hu]
      exact ih hrest

/-- What every event keeps. -/
structure BaselineInv (cfg : AgentConfig δ) (es : List AgentEvent) (s : AgentRun δ) : Prop where
  known : ∀ count ∈ s.agent.runtime.count,
    IsLatest (acceptedCounts cfg (.initial cfg) [] es) count
  unknown : s.agent.runtime.count = none → acceptedCounts cfg (.initial cfg) [] es = []
  bounded : ∀ c ∈ acceptedCounts cfg (.initial cfg) [] es, 0 ≤ c.value ∧ c.value ≤ 65535
  baselines : HasBaselines (CountedAt cfg es) s.agent

/-- A usable count is a baseline for what is created now. -/
theorem BaselineInv.countedAt {es : List AgentEvent} {s : AgentRun δ} (h : BaselineInv cfg es s)
    {topic freshId : String} {payload : List (String × Json)} {now : AwareDatetime}
    {count : FeedbackSample} (hexact : cfg.settings.rounding = .exact)
    (hcount : s.agent.runtime.count = some count)
    (husable : isUsableBaseline cfg.settings count now = true) :
    ∃ baseline : ℕ, count.value = baseline ∧
      CountedAt cfg (es ++ [.observation topic payload now freshId])
        (now.roundedTimestamp cfg.settings.rounding) baseline := by
  have hlatest := h.known count hcount
  have hbounds : 0 ≤ count.value ∧ count.value ≤ 65535 := by
    obtain ⟨earlier, later, hcounts, -⟩ := hlatest
    exact h.bounded count (by rw [hcounts]; exact List.mem_append_right _ List.mem_cons_self)
  have husable' : count.value ≠ 65535 ∧
      ageAt now count.observedAt ≤ cfg.settings.maxObservationAgeS := by
    simpa [isUsableBaseline, DecisionAgentSettings.ageSeconds, AwareDatetime.totalSeconds,
      hexact, ageAt] using husable
  have hvalue : count.value = (count.value.toNat : ℤ) := (Int.toNat_of_nonneg hbounds.1).symm
  have hcreated : now.roundedTimestamp cfg.settings.rounding = now.timestamp := by
    simp [AwareDatetime.roundedTimestamp, hexact]
  refine ⟨count.value.toNat, hvalue, es, topic, payload, now, freshId, [], count, rfl, hcreated,
    hlatest, hvalue, ?_, husable'.2⟩
  have hne := husable'.1
  omega

theorem baselineInv_step {es : List AgentEvent} {s s' : AgentRun δ} {e : AgentEvent}
    (hexact : cfg.settings.rounding = .exact)
    (h : BaselineInv cfg es s) (hrun : Run.exec (agentStep cfg) (.initial cfg) es = some s)
    (hstep : agentStep cfg s e = some s') : BaselineInv cfg (es ++ [e]) s' := by
  have hcounts : acceptedCounts cfg (.initial cfg) [] (es ++ [e]) =
      countsAfter cfg s.agent (acceptedCounts cfg (.initial cfg) [] es) e := by
    rw [acceptedCounts_append hrun, hstep]
  have hold : HasBaselines (CountedAt cfg (es ++ [e])) s.agent :=
    h.baselines.mono fun _ _ hcounted => hcounted.append e
  cases e with
  | observation topic payload now freshId =>
      obtain rfl := Option.some.inj hstep
      have hcount : (observation cfg s.agent topic payload now freshId).1.runtime.count =
          countOr s.agent.runtime.count (acceptedCount cfg s.agent topic payload now) :=
        count_observation
      have hbaselines := observation_hasBaselines hold hexact topic payload freshId
        fun count hsome husable => h.countedAt hexact hsome husable
      cases haccepted : acceptedCount cfg s.agent topic payload now with
      | none =>
          have hsame : countsAfter cfg s.agent (acceptedCounts cfg (.initial cfg) [] es)
              (.observation topic payload now freshId) =
              acceptedCounts cfg (.initial cfg) [] es := by
            simp [countsAfter, haccepted]
          rw [haccepted] at hcount
          refine ⟨?_, ?_, ?_, hbaselines⟩
          · rw [hcounts, hsame, hcount]
            exact h.known
          · rw [hcounts, hsame, hcount]
            exact h.unknown
          · rw [hcounts, hsame]
            exact h.bounded
      | some sample =>
          have hmore : countsAfter cfg s.agent (acceptedCounts cfg (.initial cfg) [] es)
              (.observation topic payload now freshId) =
              acceptedCounts cfg (.initial cfg) [] es ++ [sample] := by
            simp [countsAfter, haccepted]
          rw [haccepted] at hcount
          refine ⟨?_, ?_, ?_, hbaselines⟩
          · rw [hcounts, hmore, hcount]
            intro count hcount'
            rw [← Option.some.inj hcount']
            exact isLatest_append h.known h.unknown sample
          · rw [hcount]
            intro hnone
            cases hnone
          · rw [hcounts, hmore]
            intro c hc
            rcases List.mem_append.1 hc with hc | hc
            · exact h.bounded c hc
            · rw [List.mem_singleton.1 hc]
              exact bounds_of_acceptedCount haccepted
  | result result now =>
      obtain rfl := Option.some.inj hstep
      have hcount : (commandResult cfg s.agent result now).1.runtime.count =
          s.agent.runtime.count := by
        unfold commandResult
        refine (andThen_fst (fun a : DecisionAgent δ => a.runtime.count) fun _ _ => rfl).trans ?_
        split <;> rfl
      exact
        { known := by rw [hcounts, hcount]; exact h.known
          unknown := by rw [hcounts, hcount]; exact h.unknown
          bounded := by rw [hcounts]; exact h.bounded
          baselines := commandResult_hasBaselines hold result now }
  | ready now =>
      obtain rfl := Option.some.inj hstep
      exact
        { known := by rw [hcounts]; exact h.known
          unknown := by rw [hcounts]; exact h.unknown
          bounded := by rw [hcounts]; exact h.bounded
          baselines := agentAfterReady_hasBaselines hold now }
  | sent identity now =>
      obtain rfl := Option.some.inj hstep
      exact
        { known := by rw [hcounts]; exact h.known
          unknown := by rw [hcounts]; exact h.unknown
          bounded := by rw [hcounts]; exact h.bounded
          baselines := agentAfterSent_hasBaselines hold identity now }
  | restart =>
      obtain rfl := Option.some.inj hstep
      exact
        { known := fun count hcount => by cases hcount
          unknown := fun _ => hcounts
          bounded := by
            rw [hcounts]
            exact fun c hc => absurd hc List.not_mem_nil
          baselines := ⟨hold.rows, fun e he => absurd he List.not_mem_nil⟩ }

theorem baselineInv_of_run {es : List AgentEvent} {s : AgentRun δ}
    (hexact : cfg.settings.rounding = .exact)
    (hrun : Run.exec (agentStep cfg) (.initial cfg) es = some s) : BaselineInv cfg es s := by
  induction es using List.reverseRecOn generalizing s with
  | nil =>
      obtain rfl : AgentRun.initial cfg = s := by simpa using hrun
      have hrows : (AgentRun.initial cfg).agent.rows = [] := by
        unfold AgentRun.initial DecisionAgent.rows
        cases cfg.settings.inboxPath <;> rfl
      exact
        { known := fun count hcount => by cases hcount
          unknown := fun _ => rfl
          bounded := fun c hc => absurd hc List.not_mem_nil
          baselines :=
            ⟨by rw [hrows]; exact fun _ hrow => absurd hrow List.not_mem_nil,
              fun _ he => absurd he List.not_mem_nil⟩ }
  | append_singleton es e ih =>
      obtain ⟨t, ht, hlast⟩ := Run.exec_append_eq_some.1 hrun
      have hstep : agentStep cfg t e = some s := by
        obtain ⟨u, hu, hnil⟩ := Run.exec_cons_eq_some.1 hlast
        rw [hu]
        exact hnil
      exact baselineInv_step hexact (ih ht) ht hstep

/-- In every run in exact times each row with a command, and each entry of the tracker, has
an integer baseline below 65535 that was the latest accepted rejection count when the row was
created, and not stale then; so the tracker compares every count with a number. -/
theorem baseline_of_command (cfg : AgentConfig δ) (hexact : cfg.settings.rounding = .exact)
    (es : List AgentEvent) (s : AgentRun δ)
    (hrun : Run.exec (agentStep cfg) (.initial cfg) es = some s) :
    (∀ row ∈ s.agent.rows, row.command.isSome →
      ∃ baseline, row.baselineCount = some baseline ∧ CountedAt cfg es row.received baseline) ∧
    ∀ entry ∈ s.agent.runtime.rejections.pending.rows,
      (∃ created baseline, entry.baselineCount = some ((baseline : ℕ) : ℤ) ∧
        CountedAt cfg es created baseline) ∧
      ∀ count, ∃ above, entry.isAboveBaseline count = .ok above := by
  have hinv := (baselineInv_of_run hexact hrun).baselines
  refine ⟨hinv.rows, ?_⟩
  intro entry hentry
  refine ⟨hinv.pending entry hentry, ?_⟩
  intro count
  obtain ⟨created, baseline, hbaseline, -⟩ := hinv.pending entry hentry
  unfold PendingRejection.isAboveBaseline
  rw [hbaseline]
  exact ⟨_, rfl⟩

end Runs

/-- A count, a failed inspection, and its redelivery to the restarted agent. -/
def redelivered : List AgentEvent :=
  [Disabled.counted, Disabled.inspected "failed", .restart, Disabled.inspected "failed"]

/-- The agent of the switch, in exact times. -/
def exactAgent : AgentConfig BottleInspection :=
  { Disabled.config with
    settings := { Disabled.config.settings with rounding := .exact } }

/-- The entry added after the restart has the baseline of its row, 3. -/
theorem baseline_of_command_example :
    ∃ t, Run.exec (agentStep exactAgent) (.initial exactAgent) redelivered = some t ∧
      (t.agent.rows.map fun r => (r.command.isSome, r.baselineCount)) = [(true, some 3)] ∧
      (t.agent.runtime.rejections.pending.rows.map fun e => e.baselineCount) = [some 3] ∧
      ∀ entry ∈ t.agent.runtime.rejections.pending.rows, ∃ created baseline,
        entry.baselineCount = some ((baseline : ℕ) : ℤ) ∧
          CountedAt exactAgent redelivered created baseline := by
  obtain ⟨t, ht, hend⟩ : ∃ t,
      Run.exec (agentStep exactAgent) (.initial exactAgent) redelivered = some t ∧
        (t.agent.rows.map fun r => (r.command.isSome, r.baselineCount)) =
          [(true, some 3)] ∧
        (t.agent.runtime.rejections.pending.rows.map fun e => e.baselineCount) = [some 3] :=
    Run.exists_exec (by decide +kernel)
  have hlaw := baseline_of_command exactAgent rfl redelivered t ht
  exact ⟨t, ht, hend.1, hend.2, fun entry hentry => (hlaw.2 entry hentry).1⟩

end EirvahEdge.Agent
