import EirvahEdge.Agent.Runtime
import EirvahEdge.Recovery.OneCommand

/-!
# The inspection switch

`inspection_enabled = False` is to disable automatic rejection.  The in-memory
rule asks the switch first.  The durable path does not: `_receive_durable`
builds the command and `ready` offers it whatever the switch says.

`leavesRejectStation_iff_guarded` says for every run with the switch off when the reject
station is left alone, step by step: no observation hands a failure that the store
takes for due to an inbox with room, unless the gate holds it back for want of a count
to compare with, and the warmer's recipe does not go to the reject topic.
-/

namespace EirvahEdge.Agent

open EirvahEdge.Lib
open EirvahEdge.Contracts
open EirvahEdge.Recovery
open EirvahEdge.Devices

variable {δ : Type}

/-! ## What reaches the branches of an observation -/

/-- The agent that the branches find: the receipt is cleared and overdue
rejections are closed. -/
def arrived (cfg : AgentConfig δ) (agent : DecisionAgent δ) (topic : String)
    (now : AwareDatetime) : DecisionAgent δ :=
  markInvalid cfg
    ((agent.withReceiptEvent none).withRejections
      (agent.runtime.rejections.expire (.aware now)).1) topic

/-- An observation passes the checks that come before its branch. -/
structure Arrives (cfg : AgentConfig δ) (agent : DecisionAgent δ) (topic : String)
    (payload : List (String × Json)) (now : AwareDatetime) (value : Json)
    (observedAt : AwareDatetime) : Prop where
  valid : cfg.validateObservation topic payload = .ok ()
  expired : ∃ outcomes, (agent.runtime.rejections.expire (.aware now)).2 = .ok outcomes
  read : readObservation cfg agent.store.isSome topic payload now = .ok (some (value, observedAt))

@[simp] theorem store_markInvalid (cfg : AgentConfig δ) (agent : DecisionAgent δ)
    (topic : String) : (markInvalid cfg agent topic).store = agent.store := by
  unfold markInvalid
  split <;> rfl

@[simp] theorem store_arrived (cfg : AgentConfig δ) (agent : DecisionAgent δ) (topic : String)
    (now : AwareDatetime) : (arrived cfg agent topic now).store = agent.store :=
  store_markInvalid cfg _ topic

/-- An observation that arrives is dispatched. -/
theorem observation_of_arrives [DecidableEq δ] {cfg : AgentConfig δ} {agent : DecisionAgent δ}
    {topic : String} {payload : List (String × Json)} {now observedAt : AwareDatetime}
    {value : Json} (h : Arrives cfg agent topic payload now value observedAt)
    (freshId : String) :
    observation cfg agent topic payload now freshId =
      dispatch cfg (arrived cfg agent topic now) topic payload value observedAt now freshId := by
  obtain ⟨outcomes, hexpired⟩ := h.expired
  have hread : readObservation cfg (arrived cfg agent topic now).store.isSome topic payload now =
      .ok (some (value, observedAt)) := by
    rw [store_arrived]
    exact h.read
  unfold arrived at hread ⊢
  unfold observation
  simp only [h.valid, andThen]
  simp only [show (agent.withReceiptEvent none).runtime.rejections = agent.runtime.rejections
    from rfl, hexpired, hread]

/-- Any other observation leaves the store alone and returns nothing. -/
theorem observation_of_not_arrives [DecidableEq δ] {cfg : AgentConfig δ}
    {agent : DecisionAgent δ} {topic : String} {payload : List (String × Json)}
    {now : AwareDatetime}
    (h : ∀ value observedAt, ¬ Arrives cfg agent topic payload now value observedAt)
    (freshId : String) :
    (observation cfg agent topic payload now freshId).1.store = agent.store ∧
      requestOf (observation cfg agent topic payload now freshId).2 = [] := by
  unfold observation
  dsimp only
  split
  · exact ⟨rfl, rfl⟩
  · next hvalid =>
      cases hexpire : ((agent.withReceiptEvent none).runtime.rejections.expire (.aware now)).2 with
      | error e => exact ⟨rfl, rfl⟩
      | ok outcomes =>
          simp only [andThen]
          split
          · exact ⟨store_markInvalid cfg _ topic, rfl⟩
          · exact ⟨store_markInvalid cfg _ topic, rfl⟩
          · next value observedAt hread =>
              rw [store_markInvalid] at hread
              exact absurd ⟨hvalid, ⟨outcomes, hexpire⟩, hread⟩ (h value observedAt)

/-! ## What the store is given -/

/-- A row with a command is inserted for an event. -/
structure StoresCommand (cfg : InboxConfig δ) (inbox : Inbox δ) (event : BottleInspection)
    (now : ℚ) (factory : Except PyError ActuationRequest) (command : ActuationRequest) :
    Prop where
  new : inbox.rows.lookup event.inspectionId = none
  due : dispositionAt cfg event now = .pending
  single : inbox.rows.rows.any (isBottleDuplicate cfg event now) = false
  room : inbox.rows.count InspectionRow.isPending < 128
  built : factory = .ok command
  storable : storable command = true
  unused : ∀ r ∈ inbox.rows.rows, r.commandId ≠ some command.correlationId

theorem mem_commandsOf {rows : List (InspectionRow δ)} {c : ActuationRequest} :
    c ∈ commandsOf rows ↔ ∃ r ∈ rows, r.command = some c := by
  simp [commandsOf]

/-- An inserted row has no command or the one the event is given. -/
theorem commands_of_receiveNew {cfg : InboxConfig δ} {inbox inbox' : Inbox δ}
    {event : BottleInspection} {now : ℚ} {factory : Except PyError ActuationRequest}
    {baselineCount : Option ℕ} {row : InspectionRow δ} {c : ActuationRequest}
    (hnew : inbox.rows.lookup event.inspectionId = none)
    (h : receiveNew cfg inbox event now factory baselineCount = .ok (row, inbox'))
    (hc : row.command = some c) : StoresCommand cfg inbox event now factory c := by
  unfold receiveNew at h
  obtain ⟨⟨disposition, command⟩, hdispose, h⟩ := bind_eq_ok.1 h
  dsimp only at h
  split at h
  · cases h
  · next hstorable =>
      obtain ⟨inserted, hinsert, h⟩ := bind_eq_ok.1 h
      obtain ⟨rfl, -⟩ := Prod.mk.inj (Except.ok.inj h)
      have hcommand : command = some c := hc
      subst hcommand
      unfold Inbox.insert at hinsert
      split at hinsert
      · cases hinsert
      · next hunused =>
          rcases dispose_ok hdispose with ⟨-, hnone⟩ | ⟨-, hdue, hsingle, hroom⟩
          · cases hnone
          · unfold dispose at hdispose
            rw [hdue] at hdispose
            simp only [hsingle, Bool.false_eq_true, if_false, Nat.not_le.2 hroom] at hdispose
            obtain ⟨built, hbuilt, heq⟩ := map_eq_ok.1 hdispose
            cases heq
            constructor
            · exact hnew
            · exact hdue
            · exact hsingle
            · exact hroom
            · exact hbuilt
            · simpa using hstorable
            · intro r hr hid
              apply hunused
              rw [List.any_eq_true]
              exact ⟨r, hr, by simp [hid, InspectionRow.new]⟩

/-- The commands the rows hold after a `receive`. -/
theorem commands_of_receive [DecidableEq δ] {cfg : InboxConfig δ} {inbox : Inbox δ}
    {event : BottleInspection} {now : ℚ} {factory : Except PyError ActuationRequest}
    {baselineCount : Option ℕ} {c : ActuationRequest}
    (h : c ∈ commandsOf (receive cfg inbox event now factory baselineCount).2.rows.rows) :
    c ∈ commandsOf inbox.rows.rows ∨ StoresCommand cfg inbox event now factory c := by
  unfold receive at h
  split at h
  · split at h <;> exact Or.inl h
  · next hnew =>
      split at h
      · exact Or.inl h
      · next row inbox' hok =>
          obtain ⟨r, hr, hc⟩ := mem_commandsOf.1 h
          obtain ⟨disposition, command, rows, -, -, hinsert, rfl⟩ := receiveNew_ok hok
          have hr' := (List.mem_filter.1 hr).1
          rw [(Table.insert_eq_some hinsert).2, List.mem_append, List.mem_singleton] at hr'
          rcases hr' with hold | rfl
          · exact Or.inl (mem_commandsOf.2 ⟨r, hold, hc⟩)
          · exact Or.inr (commands_of_receiveNew hnew hok hc)

/-- The command an event is given is kept. -/
theorem StoresCommand.mem [DecidableEq δ] {cfg : InboxConfig δ} {inbox : Inbox δ}
    {event : BottleInspection} {now : ℚ} {factory : Except PyError ActuationRequest}
    {c : ActuationRequest} (h : StoresCommand cfg inbox event now factory c)
    (baselineCount : Option ℕ) :
    c ∈ commandsOf (receive cfg inbox event now factory baselineCount).2.rows.rows := by
  have hdispose : dispose cfg inbox event now factory = .ok (.pending, some c) := by
    unfold dispose
    rw [h.due]
    simp [h.single, Nat.not_le.2 h.room, h.built, Except.map]
  have hunused : (inbox.rows.rows.any fun x => x.commandId.isSome && x.commandId ==
      (InspectionRow.new cfg inbox.nextSerial event now .pending (some c)
        baselineCount).commandId) = false := by
    rw [List.any_eq_false]
    intro r hr
    have hne := h.unused r hr
    simp [InspectionRow.new, hne]
  obtain ⟨rows, hrows⟩ := Option.isSome_iff_exists.1
    (Table.insert_isSome (t := inbox.rows)
      (r := InspectionRow.new cfg inbox.nextSerial event now .pending (some c) baselineCount)
      h.new)
  have hok : receiveNew cfg inbox event now factory baselineCount =
      .ok (.new cfg inbox.nextSerial event now .pending (some c) baselineCount,
        ⟨rows.deleteWhere (outdated now), inbox.nextSerial + 1⟩) := by
    unfold receiveNew Inbox.insert
    simp [hdispose, h.storable, hunused, hrows, bind, Except.bind, pure, Except.pure]
  unfold receive
  rw [h.new]
  simp only [hok]
  refine mem_commandsOf.2
    ⟨.new cfg inbox.nextSerial event now .pending (some c) baselineCount,
      List.mem_filter.2 ⟨?_, ?_⟩, rfl⟩
  · rw [(Table.insert_eq_some hrows).2]
    exact List.mem_append_right _ (List.mem_singleton_self _)
  · simp [outdated, InspectionRow.isPending, InspectionRow.new]

/-! ## The branches -/

section Branches

variable {cfg : AgentConfig δ} {agent : DecisionAgent δ} {topic freshId : String}
  {payload : List (String × Json)} {value : Json} {observedAt now : AwareDatetime}
  {c : ActuationRequest}

theorem mem_requestOf {answer : Except PyError (Option ActuationRequest)} :
    c ∈ requestOf answer ↔ answer = .ok (some c) := by
  unfold requestOf
  split
  · next request =>
      rw [List.mem_singleton, Except.ok.injEq, Option.some.injEq]
      exact eq_comm
  · next hnot =>
      simp only [List.not_mem_nil, false_iff]
      exact hnot c

@[simp] theorem rows_withState (state : StateTracker) (positions : Option PositionTable) :
    (agent.withState state positions).rows = agent.rows := by
  unfold DecisionAgent.rows DecisionAgent.withState
  cases agent.store <;> rfl

theorem rows_of_store {agent' : DecisionAgent δ} (h : agent'.store = agent.store) :
    agent'.rows = agent.rows := by
  unfold DecisionAgent.rows
  rw [h]

theorem rows_withInbox {store : ConsumerStore δ} (h : agent.store = some store)
    (inbox : Inbox δ) : (agent.withInbox inbox).rows = inbox.rows.rows := by
  simp [DecisionAgent.rows, DecisionAgent.withInbox, h]

theorem rows_stateUpdate (signal : SignalValue) :
    (stateUpdate cfg agent topic signal observedAt now payload).1.rows = agent.rows := by
  unfold stateUpdate
  split
  · rfl
  · exact (andThen_fst DecisionAgent.rows fun _ _ => rfl).trans (rows_withState _ _)

theorem rule_stateUpdate (signal : SignalValue) :
    (stateUpdate cfg agent topic signal observedAt now payload).1.runtime.rule =
      agent.runtime.rule := by
  unfold stateUpdate
  split
  · rfl
  · exact andThen_fst (fun a : DecisionAgent δ => a.runtime.rule) fun _ _ => rfl

/-- The rule answers with a request when it admits the speed and moves to
another mode. -/
theorem update_eq_some {settings : DecisionAgentSettings} {rule : ProductionModeRule}
    {shown : Json → String} {quality : String} {at' now' : Datetime} :
    (rule.update settings shown value at' now' quality freshId).2 = .ok (some c) ↔
      ∃ q observedAt now mode,
        rule.admits settings value at' now' quality = .ok (some (q, observedAt, now)) ∧
        rule.selects settings q = some mode ∧
        ProductionModeRule.request settings shown value now freshId mode = .ok c := by
  unfold ProductionModeRule.update
  cases hadmits : rule.admits settings value at' now' quality with
  | error e => simp
  | ok admitted =>
      cases admitted with
      | none => simp
      | some seen =>
          obtain ⟨q, observedAt, now⟩ := seen
          dsimp only
          cases hselects : rule.selects settings q with
          | none =>
              constructor
              · intro h
                cases h
              · rintro ⟨_, _, _, mode, hsame, hmode, -⟩
                cases hsame
                rw [hselects] at hmode
                cases hmode
          | some mode =>
              constructor
              · intro h
                obtain ⟨request, hrequest, heq⟩ := map_eq_ok.1 h
                cases heq
                exact ⟨q, observedAt, now, mode, rfl, hselects, hrequest⟩
              · rintro ⟨_, _, _, mode', hsame, hmode, hrequest⟩
                cases hsame
                rw [hselects] at hmode
                cases hmode
                simp [hrequest, Except.map]

theorem admissible_of_admits {settings : DecisionAgentSettings} {rule : ProductionModeRule}
    {quality : String} {at' now' : Datetime} {seen : ℚ × AwareDatetime × AwareDatetime}
    (h : rule.admits settings value at' now' quality = .ok (some seen)) :
    ∃ q, admissibleSpeed value = .ok (some q) := by
  unfold ProductionModeRule.admits at h
  split at h
  · cases h
  · split at h
    · cases h
    · cases h
    · next q hq => exact ⟨q, hq⟩

theorem rows_observeSpeed :
    (observeSpeed cfg agent topic payload value observedAt now freshId).1.rows =
      agent.rows := by
  unfold observeSpeed
  split
  · rfl
  · rfl
  · rw [andThen_fst DecisionAgent.rows, rows_stateUpdate]
    intro s accepted
    split <;> rfl

/-- When an observation of the speed is answered with a request. -/
theorem observeSpeed_eq_some :
    (observeSpeed cfg agent topic payload value observedAt now freshId).2 = .ok (some c) ↔
      (stateUpdate cfg agent topic (speedValue value) observedAt now payload).2 = .ok true ∧
      (agent.runtime.rule.update cfg.settings cfg.shown value (.aware observedAt) (.aware now)
        "good" freshId).2 = .ok (some c) := by
  have hadmissible (h : (agent.runtime.rule.update cfg.settings cfg.shown value
      (.aware observedAt) (.aware now) "good" freshId).2 = .ok (some c)) :
      ∃ q, admissibleSpeed value = .ok (some q) := by
    obtain ⟨q, _, _, mode, hadmits, -⟩ := update_eq_some.1 h
    exact admissible_of_admits hadmits
  unfold observeSpeed
  cases hspeed : admissibleSpeed value with
  | error e =>
      constructor
      · intro h
        cases h
      · rintro ⟨-, h⟩
        obtain ⟨q, hq⟩ := hadmissible h
        rw [hspeed] at hq
        cases hq
  | ok speed =>
      cases speed with
      | none =>
          constructor
          · intro h
            cases h
          · rintro ⟨-, h⟩
            obtain ⟨q, hq⟩ := hadmissible h
            rw [hspeed] at hq
            cases hq
      | some q =>
          have hrule : (stateUpdate cfg agent topic (speedValue value) observedAt now
              payload).1.runtime.rule = agent.runtime.rule := rule_stateUpdate _
          dsimp only
          rw [andThen_eq_ok]
          constructor
          · rintro ⟨accepted, haccepted, h⟩
            cases accepted with
            | false => cases h
            | true =>
                rw [hrule] at h
                exact ⟨haccepted, h⟩
          · rintro ⟨haccepted, h⟩
            refine ⟨true, haccepted, ?_⟩
            rw [hrule]
            exact h

theorem store_noteCount (agent : DecisionAgent δ) (kind : FeedbackKind)
    (sample : FeedbackSample) : (noteCount agent kind sample).store = agent.store := by
  cases kind <;> rfl

theorem rows_observeFeedback :
    (observeFeedback cfg agent topic payload value observedAt now).1.rows = agent.rows := by
  unfold observeFeedback
  split
  · rfl
  · rw [andThen_fst DecisionAgent.rows, rows_stateUpdate]
    intro s accepted
    cases accepted with
    | false => rfl
    | true => exact rows_of_store (store_noteCount s _ _)

theorem observeFeedback_ne_some :
    (observeFeedback cfg agent topic payload value observedAt now).2 ≠ .ok (some c) := by
  unfold observeFeedback
  split
  · simp
  · intro h
    obtain ⟨accepted, -, h⟩ := andThen_eq_ok.1 h
    cases accepted with
    | false => cases h
    | true =>
        obtain ⟨outcomes, -, hnone⟩ := map_eq_ok.1 h
        cases hnone

/-! ### Inspections -/

theorem rows_trackRow (row : InspectionRow δ) (event : BottleInspection) :
    (trackRow cfg agent row event now).1.rows = agent.rows :=
  trackRow_fst DecisionAgent.rows (fun _ _ => rfl) row event

/-- The gate of a failed inspection that is fresh by the clock of the gate: a count to
compare with.  One that only the store takes for fresh passes without. -/
def PassesGate (cfg : AgentConfig δ) (agent : DecisionAgent δ) (event : BottleInspection)
    (now : AwareDatetime) : Prop :=
  isFresh cfg.settings event now = true →
    (agent.runtime.count.any fun count => isUsableBaseline cfg.settings count now) = true

/-- A due event without a row has failed, so only the gate can hold it back. -/
theorem lacksBaseline_of_stores {store : ConsumerStore δ} {event : BottleInspection} {seconds : ℚ}
    {factory : Except PyError ActuationRequest}
    (h : StoresCommand cfg.inbox store.inbox event seconds factory c) :
    lacksBaseline cfg agent store event now = false ↔ PassesGate cfg agent event now := by
  have hfailed := (dispositionAt_eq_pending.1 h.due).2.2
  simp only [lacksBaseline, PassesGate, hfailed, h.new]
  cases isFresh cfg.settings event now <;> simp

theorem rows_receiveDurable [DecidableEq δ] {store : ConsumerStore δ}
    (hstore : agent.store = some store) {event : BottleInspection}
    (hlacks : lacksBaseline cfg agent store event now = false) :
    (receiveDurable cfg agent store event now freshId).1.rows =
      (receive cfg.inbox store.inbox event (now.roundedTimestamp cfg.settings.rounding)
        (rejectRequest cfg.settings event now freshId)
        (agent.runtime.count.map fun count => count.value.toNat)).2.rows.rows := by
  unfold receiveDurable
  rw [hlacks, if_neg Bool.false_ne_true]
  dsimp only
  rw [andThen_fst DecisionAgent.rows, rows_withInbox hstore]
  exact fun s row => rows_trackRow row event

theorem commands_of_receiveDurable [DecidableEq δ] {store : ConsumerStore δ}
    (hstore : agent.store = some store) {event : BottleInspection}
    (h : c ∈ commandsOf (receiveDurable cfg agent store event now freshId).1.rows) :
    c ∈ commandsOf agent.rows ∨
      (PassesGate cfg agent event now ∧
        StoresCommand cfg.inbox store.inbox event (now.roundedTimestamp cfg.settings.rounding)
          (rejectRequest cfg.settings event now freshId) c) := by
  have hrows : agent.rows = store.inbox.rows.rows := by simp [DecisionAgent.rows, hstore]
  by_cases hlacks : lacksBaseline cfg agent store event now = true
  · rw [receiveDurable, if_pos hlacks] at h
    exact Or.inl h
  · rw [Bool.not_eq_true] at hlacks
    rw [rows_receiveDurable hstore hlacks] at h
    rw [hrows]
    exact (commands_of_receive h).imp_right fun hstores =>
      ⟨(lacksBaseline_of_stores hstores).1 hlacks, hstores⟩

theorem mem_receiveDurable [DecidableEq δ] {store : ConsumerStore δ}
    (hstore : agent.store = some store) {event : BottleInspection}
    (hgate : PassesGate cfg agent event now)
    (h : StoresCommand cfg.inbox store.inbox event (now.roundedTimestamp cfg.settings.rounding)
      (rejectRequest cfg.settings event now freshId) c) :
    c ∈ commandsOf (receiveDurable cfg agent store event now freshId).1.rows := by
  have hlacks : lacksBaseline cfg agent store event now = false :=
    (lacksBaseline_of_stores h).2 hgate
  rw [rows_receiveDurable hstore hlacks]
  exact h.mem _

/-- With the switch off the rule in memory decides nothing. -/
theorem update_of_disabled {settings : DecisionAgentSettings}
    (hoff : settings.inspectionEnabled = false) (rule : InspectionRule)
    (event : BottleInspection) :
    rule.update settings event now freshId =
      (rule.decided { reason := .disabled }, .ok none) := by
  simp [InspectionRule.update, hoff]

theorem store_decideInMemory (event : BottleInspection) :
    (decideInMemory cfg agent event now freshId).1.store = agent.store :=
  decideInMemory_fst DecisionAgent.store (fun _ _ => rfl) (fun _ _ => rfl) event

theorem decideInMemory_ne_some (hoff : cfg.settings.inspectionEnabled = false)
    (event : BottleInspection) :
    (decideInMemory cfg agent event now freshId).2 ≠ .ok (some c) := by
  unfold decideInMemory
  split
  · simp
  · split
    · simp
    · split
      · simp
      · rw [update_of_disabled hoff]
        simp [andThen]

/-- A branch that stores a command has a store, a readable event of its time that
passes the gate, and a row to insert. -/
theorem commands_of_observeInspection [DecidableEq δ]
    (h : c ∈ commandsOf (observeInspection cfg agent value observedAt now freshId).1.rows) :
    c ∈ commandsOf agent.rows ∨ ∃ store text event, value = .str text ∧
      agent.store = some store ∧ readInspection cfg text = .ok event ∧
      event.inspectedAt.timestamp = observedAt.timestamp ∧
      PassesGate cfg agent event now ∧
      StoresCommand cfg.inbox store.inbox event (now.roundedTimestamp cfg.settings.rounding)
        (rejectRequest cfg.settings event now freshId) c := by
  unfold observeInspection at h
  split at h
  · next text =>
      split at h
      · exact Or.inl h
      · next event hevent =>
          split at h
          · exact Or.inl h
          · next htime =>
              split at h
              · next store hstore =>
                  rw [andThen_fst DecisionAgent.rows fun _ _ => rfl] at h
                  refine (commands_of_receiveDurable hstore h).imp_right ?_
                  rintro ⟨hgate, hstores⟩
                  exact ⟨store, text, event, rfl, hstore, hevent, not_not.1 htime, hgate,
                    hstores⟩
              · rw [rows_of_store (store_decideInMemory event)] at h
                exact Or.inl h
  · exact Or.inl h

/-- Such a branch does store it. -/
theorem mem_observeInspection [DecidableEq δ] {store : ConsumerStore δ} {text : String}
    {event : BottleInspection} (hstore : agent.store = some store)
    (hread : readInspection cfg text = .ok event)
    (htime : event.inspectedAt.timestamp = observedAt.timestamp)
    (hgate : PassesGate cfg agent event now)
    (h : StoresCommand cfg.inbox store.inbox event (now.roundedTimestamp cfg.settings.rounding)
      (rejectRequest cfg.settings event now freshId) c) :
    c ∈ commandsOf
      (observeInspection cfg agent (.str text) observedAt now freshId).1.rows := by
  unfold observeInspection
  simp only [hread, htime, ne_eq, not_true_eq_false, if_false]
  split
  · next store' hstore' =>
      obtain rfl : store = store' := Option.some.inj (hstore.symm.trans hstore')
      rw [andThen_fst DecisionAgent.rows fun _ _ => rfl]
      exact mem_receiveDurable hstore hgate h
  · next hnone =>
      rw [hstore] at hnone
      cases hnone

end Branches

/-! ## The two ways a command comes about -/

section Observation

variable (cfg : AgentConfig δ) (agent : DecisionAgent δ) (topic : String)
  (payload : List (String × Json)) (now : AwareDatetime) (freshId : String)

/-- An observation of the speed moves the warmer's rule to another mode. -/
inductive SendsRecipe (c : ActuationRequest) : Prop where
  | intro (value : Json) (observedAt observed current : AwareDatetime) (q : ℚ) (mode : Mode)
      (arrives : Arrives cfg agent topic payload now value observedAt)
      (speed : topic = cfg.settings.subscribeTopic ∧ hasUnit payload "m/s" = true)
      (accepted : (stateUpdate cfg (arrived cfg agent topic now) topic (speedValue value)
        observedAt now payload).2 = .ok true)
      (admitted : agent.runtime.rule.admits cfg.settings value (.aware observedAt) (.aware now)
        "good" = .ok (some (q, observed, current)))
      (selected : agent.runtime.rule.selects cfg.settings q = some mode)
      (built : ProductionModeRule.request cfg.settings cfg.shown value current freshId mode =
        .ok c)

/-- An observation of the inspection topic hands a due failure, which passes the gate, to
an inbox that has room for it. -/
inductive StoresRejection (c : ActuationRequest) : Prop where
  | intro (store : ConsumerStore δ) (text : String) (observedAt : AwareDatetime)
      (event : BottleInspection)
      (arrives : Arrives cfg agent topic payload now (.str text) observedAt)
      (durable : agent.store = some store)
      (inspection : topic = cfg.settings.inspectionTopic ∧ hasUnit payload "json" = true)
      (noFeedback : topic ≠ cfg.settings.rejectCountTopic ∧
        topic ≠ cfg.settings.rejectedBottleTopic)
      (read : readInspection cfg text = .ok event)
      (time : event.inspectedAt.timestamp = observedAt.timestamp)
      (gate : PassesGate cfg agent event now)
      (stores : StoresCommand cfg.inbox store.inbox event
        (now.roundedTimestamp cfg.settings.rounding)
        (rejectRequest cfg.settings event now freshId) c)

end Observation

section Cases

variable {cfg : AgentConfig δ} {agent : DecisionAgent δ} {topic freshId : String}
  {payload : List (String × Json)} {value : Json} {observedAt now : AwareDatetime}
  {c : ActuationRequest}

theorem runtime_arrived :
    (arrived cfg agent topic now).runtime.rule = agent.runtime.rule ∧
      (arrived cfg agent topic now).runtime.count = agent.runtime.count := by
  unfold arrived markInvalid
  split <;> exact ⟨rfl, rfl⟩

theorem rows_arrived (cfg : AgentConfig δ) (agent : DecisionAgent δ) (topic : String)
    (now : AwareDatetime) : (arrived cfg agent topic now).rows = agent.rows :=
  rows_of_store (store_arrived cfg agent topic now)

/-- What `observation` returns with the switch off is a recipe. -/
theorem mem_requestOf_observation [DecidableEq δ]
    (hoff : cfg.settings.inspectionEnabled = false) :
    c ∈ requestOf (observation cfg agent topic payload now freshId).2 ↔
      SendsRecipe cfg agent topic payload now freshId c := by
  rw [mem_requestOf]
  constructor
  · intro h
    by_cases harrives : ∃ value observedAt, Arrives cfg agent topic payload now value observedAt
    · obtain ⟨value, observedAt, harrives⟩ := harrives
      rw [observation_of_arrives harrives, dispatch] at h
      split at h
      · next hspeed =>
          obtain ⟨haccepted, hupdate⟩ := observeSpeed_eq_some.1 h
          rw [runtime_arrived.1] at hupdate
          obtain ⟨q, observed, current, mode, hadmits, hselects, hbuilt⟩ :=
            update_eq_some.1 hupdate
          exact ⟨value, observedAt, observed, current, q, mode, harrives, hspeed, haccepted,
            hadmits, hselects, hbuilt⟩
      · split at h
        · exact absurd h observeFeedback_ne_some
        · split at h
          · cases h
          · unfold observeInspection at h
            split at h
            · split at h
              · cases h
              · split at h
                · cases h
                · split at h
                  · obtain ⟨-, -, hnone⟩ := andThen_eq_ok.1 h
                    cases hnone
                  · exact absurd h (decideInMemory_ne_some hoff _)
            · cases h
    · have hnothing := (observation_of_not_arrives
        (fun value observedAt h => harrives ⟨value, observedAt, h⟩) freshId).2
      rw [← mem_requestOf, hnothing] at h
      cases h
  · rintro ⟨value, observedAt, observed, current, q, mode, harrives, hspeed, haccepted, hadmits,
      hselects, hbuilt⟩
    rw [observation_of_arrives harrives, dispatch, if_pos hspeed, observeSpeed_eq_some,
      runtime_arrived.1]
    exact ⟨haccepted, update_eq_some.2 ⟨q, observed, current, mode, hadmits, hselects, hbuilt⟩⟩

theorem hasUnit_ne {unit unit' : String} (hne : unit ≠ unit')
    (h : hasUnit payload unit = true) : hasUnit payload unit' = false := by
  have hunit : Json.member payload "eirvah:unit" = some (.str unit) := by
    simpa [hasUnit] using h
  simp [hasUnit, hunit, hne]

/-- The commands in the inbox after an observation are those before it and the
one the observation has stored. -/
theorem commands_of_observation [DecidableEq δ]
    (h : c ∈ commandsOf (observation cfg agent topic payload now freshId).1.rows) :
    c ∈ commandsOf agent.rows ∨ StoresRejection cfg agent topic payload now freshId c := by
  by_cases harrives : ∃ value observedAt, Arrives cfg agent topic payload now value observedAt
  · obtain ⟨value, observedAt, harrives⟩ := harrives
    rw [observation_of_arrives harrives, dispatch] at h
    split at h
    · rw [rows_observeSpeed, rows_arrived] at h
      exact Or.inl h
    · split at h
      · rw [rows_observeFeedback, rows_arrived] at h
        exact Or.inl h
      · next hfeedback =>
          split at h
          · rw [rows_arrived] at h
            exact Or.inl h
          · next hinspection =>
              rw [← rows_arrived cfg agent topic now]
              refine (commands_of_observeInspection h).imp_right ?_
              rintro ⟨store, text, event, rfl, hstore, hread, htime, hgate, hstores⟩
              rw [store_arrived] at hstore
              rw [PassesGate, runtime_arrived.2] at hgate
              rw [not_or, not_not, Bool.not_eq_true, Bool.not_eq_false'] at hinspection
              exact ⟨store, text, observedAt, event, harrives, hstore, hinspection,
                not_or.1 hfeedback, hread, htime, hgate, hstores⟩
  · have hnothing := (observation_of_not_arrives
      (fun value observedAt h => harrives ⟨value, observedAt, h⟩) freshId).1
    rw [rows_of_store hnothing] at h
    exact Or.inl h

theorem StoresRejection.mem [DecidableEq δ]
    (h : StoresRejection cfg agent topic payload now freshId c) :
    c ∈ commandsOf (observation cfg agent topic payload now freshId).1.rows := by
  obtain ⟨store, text, observedAt, event, harrives, hstore, hinspection, hfeedback, hread, htime,
    hgate, hstores⟩ := h
  have hspeed : ¬ (topic = cfg.settings.subscribeTopic ∧ hasUnit payload "m/s" = true) := by
    rintro ⟨-, hunit⟩
    rw [hasUnit_ne (by decide) hinspection.2] at hunit
    cases hunit
  rw [observation_of_arrives harrives, dispatch, if_neg hspeed, if_neg (not_or.2 hfeedback),
    if_neg (by simp [hinspection.1, hinspection.2])]
  refine mem_observeInspection ?_ hread htime ?_ hstores
  · rw [store_arrived]
    exact hstore
  · rw [PassesGate, runtime_arrived.2]
    exact hgate

end Cases

/-! ## Runs -/

theorem targetUnsTopic_of_newRequest {freshId topic reason : String} {value : SignalValue}
    {valueType : SignalValueType} {requestedAt deadline : AwareDatetime} {c : ActuationRequest}
    (h : newRequest freshId topic value valueType reason requestedAt deadline = .ok c) :
    c.targetUnsTopic = topic := by
  unfold newRequest at h
  obtain ⟨-, h⟩ := ite_error_eq_ok.1 h
  obtain ⟨-, h⟩ := ite_error_eq_ok.1 h
  cases h
  rfl

theorem SendsRecipe.targetUnsTopic {cfg : AgentConfig δ} {agent : DecisionAgent δ}
    {topic freshId : String} {payload : List (String × Json)} {now : AwareDatetime}
    {c : ActuationRequest} (h : SendsRecipe cfg agent topic payload now freshId c) :
    c.targetUnsTopic = cfg.settings.targetUnsTopic := by
  obtain ⟨_, _, _, _, _, _, -, -, -, -, -, hbuilt⟩ := h
  obtain ⟨deadline, -, hnew⟩ := bind_eq_ok.1 hbuilt
  exact targetUnsTopic_of_newRequest hnew

theorem StoresRejection.targetUnsTopic {cfg : AgentConfig δ} {agent : DecisionAgent δ}
    {topic freshId : String} {payload : List (String × Json)} {now : AwareDatetime}
    {c : ActuationRequest} (h : StoresRejection cfg agent topic payload now freshId c) :
    c.targetUnsTopic = cfg.settings.rejectTargetUnsTopic := by
  obtain ⟨_, _, _, _, -, -, -, -, -, -, -, hstores⟩ := h
  obtain ⟨deadline, -, hnew⟩ := bind_eq_ok.1 hstores.built
  exact targetUnsTopic_of_newRequest hnew

/-- No command for the reject station was returned, stored or offered. -/
def LeavesRejectStation (cfg : AgentConfig δ) (s : AgentRun δ) : Prop :=
  ∀ c ∈ s.returned ++ s.stored ++ s.offered,
    c.targetUnsTopic ≠ cfg.settings.rejectTargetUnsTopic

/-- The observation makes the warmer's recipe a command for the reject station,
or the store keep a rejection. -/
def Breaches (cfg : AgentConfig δ) (agent : DecisionAgent δ) : AgentEvent → Prop
  | .observation topic payload now freshId =>
      (cfg.settings.targetUnsTopic = cfg.settings.rejectTargetUnsTopic ∧
        ∃ c, SendsRecipe cfg agent topic payload now freshId c) ∨
      ∃ c, StoresRejection cfg agent topic payload now freshId c
  | _ => False

/-- Every command in the inbox has been logged. -/
def Logged (s : AgentRun δ) : Prop := ∀ c ∈ commandsOf s.agent.rows, c ∈ s.stored

/-- An assignment that leaves the command column alone keeps the commands. -/
theorem commandsOf_update (inbox : Inbox δ) (p : InspectionRow δ → Bool)
    (f : InspectionRow δ → InspectionRow δ) (hf : ∀ r, (f r).id = r.id)
    (hcommand : ∀ r, (f r).command = r.command) :
    commandsOf (inbox.update p f hf).rows.rows = commandsOf inbox.rows.rows := by
  show List.filterMap _ (List.map _ _) = List.filterMap _ _
  rw [List.filterMap_map]
  congr 1
  funext r
  show (Table.updateRow p f r).command = r.command
  unfold Table.updateRow
  split
  · exact hcommand r
  · rfl

theorem commandsOf_settle (cfg : InboxConfig δ) (inbox : Inbox δ)
    (result : List (String × Json)) :
    commandsOf (settle cfg inbox result).2.rows.rows = commandsOf inbox.rows.rows := by
  unfold settle
  split
  · rfl
  · rfl
  · split
    · rfl
    · split
      · rfl
      · rfl
      · exact commandsOf_update inbox _ _ _ fun _ => rfl

theorem commandsOf_commandResult (cfg : AgentConfig δ) (agent : DecisionAgent δ)
    (result : List (String × Json)) (now : AwareDatetime) :
    commandsOf (commandResult cfg agent result now).1.rows = commandsOf agent.rows := by
  unfold commandResult
  dsimp only
  rw [andThen_fst DecisionAgent.rows fun _ _ => rfl]
  split
  · rfl
  · next store hstore =>
      rw [rows_withInbox hstore, commandsOf_settle]
      simp [DecisionAgent.rows, hstore]

theorem commandsOf_afterReady (agent : DecisionAgent δ) (now : ℚ) :
    commandsOf (agentAfterReady agent now).rows = commandsOf agent.rows := by
  unfold DecisionAgent.rows agentAfterReady
  cases agent.store with
  | none => rfl
  | some store => exact commandsOf_update store.inbox _ _ _ fun _ => rfl

theorem commandsOf_afterSent (agent : DecisionAgent δ) (identity : String) (now : ℚ) :
    commandsOf (agentAfterSent agent identity now).rows = commandsOf agent.rows := by
  unfold DecisionAgent.rows agentAfterSent
  cases agent.store with
  | none => rfl
  | some store => exact commandsOf_update store.inbox _ _ _ fun _ => rfl

/-- What is offered is in the inbox. -/
theorem commandsOf_readyRows {agent : DecisionAgent δ} {now : ℚ} {c : ActuationRequest}
    (h : c ∈ commandsOf (readyRows agent now)) : c ∈ commandsOf agent.rows := by
  rw [← commandsOf_afterReady agent now]
  unfold readyRows at h
  unfold DecisionAgent.rows agentAfterReady
  cases hstore : agent.store with
  | none =>
      rw [hstore] at h
      cases h
  | some store =>
      rw [hstore] at h
      obtain ⟨r, hr, hc⟩ := mem_commandsOf.1 h
      exact mem_commandsOf.2 ⟨r, (List.mem_filter.1 (List.mem_of_mem_take hr)).1, hc⟩

theorem leaves_iff {cfg : AgentConfig δ} {s : AgentRun δ} :
    LeavesRejectStation cfg s ↔
      (∀ c ∈ s.returned, c.targetUnsTopic ≠ cfg.settings.rejectTargetUnsTopic) ∧
      (∀ c ∈ s.stored, c.targetUnsTopic ≠ cfg.settings.rejectTargetUnsTopic) ∧
      ∀ c ∈ s.offered, c.targetUnsTopic ≠ cfg.settings.rejectTargetUnsTopic := by
  simp only [LeavesRejectStation, List.mem_append, or_imp, forall_and, and_assoc]

/-- An observation leaves the reject station alone unless it breaches. -/
theorem observation_leaves_iff [DecidableEq δ] {cfg : AgentConfig δ}
    (hoff : cfg.settings.inspectionEnabled = false) {s t : AgentRun δ} {topic freshId : String}
    {payload : List (String × Json)} {now : AwareDatetime} (hlogged : Logged s)
    (h : agentStep cfg s (.observation topic payload now freshId) = some t) :
    LeavesRejectStation cfg t ↔
      LeavesRejectStation cfg s ∧
        ¬ Breaches cfg s.agent (.observation topic payload now freshId) := by
  cases h
  rw [leaves_iff, leaves_iff]
  simp only [List.mem_append, or_imp, forall_and, mem_requestOf_observation hoff]
  constructor
  · rintro ⟨⟨hsends, hreturned⟩, ⟨hcommands, hstored⟩, hoffered⟩
    refine ⟨⟨hreturned, hstored, hoffered⟩, ?_⟩
    rintro (⟨hsame, c, hc⟩ | ⟨c, hc⟩)
    · exact hsends c hc (hc.targetUnsTopic.trans hsame)
    · exact hcommands c hc.mem hc.targetUnsTopic
  · rintro ⟨⟨hreturned, hstored, hoffered⟩, hnot⟩
    refine ⟨⟨?_, hreturned⟩, ⟨?_, hstored⟩, hoffered⟩
    · intro c hc htarget
      exact hnot (Or.inl ⟨hc.targetUnsTopic.symm.trans htarget, c, hc⟩)
    · intro c hc
      rcases commands_of_observation hc with hold | hnew
      · exact hstored c (hlogged c hold)
      · exact absurd (Or.inr ⟨c, hnew⟩) hnot

/-- One event with the switch off. -/
theorem agentStep_leaves_iff [DecidableEq δ] {cfg : AgentConfig δ}
    (hoff : cfg.settings.inspectionEnabled = false) (s : AgentRun δ) (e : AgentEvent)
    (t : AgentRun δ) (hlogged : Logged s) (h : agentStep cfg s e = some t) :
    Logged t ∧ (LeavesRejectStation cfg t ↔
      LeavesRejectStation cfg s ∧ ¬ Breaches cfg s.agent e) := by
  cases e with
  | observation topic payload now freshId =>
      refine ⟨?_, observation_leaves_iff hoff hlogged h⟩
      cases h
      exact fun c hc => List.mem_append_left _ hc
  | result result now =>
      cases h
      refine ⟨?_, by simp [LeavesRejectStation, Breaches]⟩
      intro c hc
      rw [commandsOf_commandResult] at hc
      exact hlogged c hc
  | ready now =>
      cases h
      constructor
      · intro c hc
        rw [commandsOf_afterReady] at hc
        exact hlogged c hc
      · rw [leaves_iff, leaves_iff]
        simp only [List.mem_append, or_imp, forall_and, Breaches, not_false_eq_true, and_true]
        constructor
        · rintro ⟨hreturned, hstored, -, hoffered⟩
          exact ⟨hreturned, hstored, hoffered⟩
        · rintro ⟨hreturned, hstored, hoffered⟩
          have hready : ∀ c ∈ commandsOf (readyRows s.agent now),
              c.targetUnsTopic ≠ cfg.settings.rejectTargetUnsTopic :=
            fun c hc => hstored c (hlogged c (commandsOf_readyRows hc))
          exact ⟨hreturned, hstored, hready, hoffered⟩
  | sent identity now =>
      cases h
      refine ⟨?_, by simp [LeavesRejectStation, Breaches]⟩
      intro c hc
      rw [commandsOf_afterSent] at hc
      exact hlogged c hc
  | restart =>
      cases h
      exact ⟨hlogged, by simp [LeavesRejectStation, Breaches]⟩

namespace Disabled

/-! An agent with an inbox and its inspection switch off, and bottle 7 inspected
a quarter past a second. -/

def now : AwareDatetime := ⟨1782900000250000, 0⟩

def text : String := "2026-07-01T10:00:00.250000+00:00"

def event (passed : Bool) : BottleInspection := ⟨"0123456789abcdef:0001", 7, passed, now⟩

def config : AgentConfig BottleInspection where
  settings :=
    { defaultSettings with
      inboxPath := some "/data/consumer.sqlite", inspectionEnabled := false }
  validateObservation := fun _ _ => .ok ()
  fromisoformat := fun s =>
    if s = text then .ok (.aware now) else .error (valueError "Invalid isoformat string")
  loads := fun s =>
    if s = "passed" then .ok (dumpInspection (.ofTable [(now, text)]) (event true))
    else if s = "failed" then .ok (dumpInspection (.ofTable [(now, text)]) (event false))
    else .error (valueError "Expecting value")
  datetimeText := .ofTable [(now, text)]
  bindingText := fun _ _ => ""
  shown := fun _ => ""
  digest := id
  realText := fun _ => ""

def packet (value : Json) (unit : String) : List (String × Json) :=
  [("sosa:resultTime", .str text), ("sosa:hasSimpleResult", value), ("eirvah:unit", .str unit),
    ("eirvah:quality", .str "good")]

def counted : AgentEvent :=
  .observation config.settings.rejectCountTopic (packet (.int 3) "dimensionless") now ""

def inspected (verdict : String) : AgentEvent :=
  .observation config.settings.inspectionTopic (packet (.str verdict) "json") now
    "01ARZ3NDEKTSV4RRFFQ69G5FAV"

/-- A count, an inspection, and the sender a quarter of a second later. -/
def events (verdict : String) : List AgentEvent :=
  [counted, inspected verdict, .ready 1782900001]

def rejection : ActuationRequest where
  correlationId := "01ARZ3NDEKTSV4RRFFQ69G5FAV"
  requester := "decision-agent-stub"
  targetUnsTopic := "uniza/zilina/factory1/line_a/reject_station/rejector_01/reject_bottle"
  requestedValue := .int 7
  valueType := .int64
  reason := "failed bottle inspection 0123456789abcdef:0001"
  requestedAt := .aware now
  deadline := some (.aware ⟨1782900002250000, 0⟩)
  extra := []
  names_nodup := declaredNames_nodup

/-- The same agent with a tenth of a second for inspections, and the end of it. -/
def hasty : AgentConfig BottleInspection :=
  { config with
    settings :=
      { config.settings with
        inspectionMaxAgeS := PyFloat.nearest (1 / 10)
        inspectionMaxAgeS_pos := by decide +kernel
        inspectionMaxAgeS_le := by decide +kernel } }

def later : AwareDatetime := ⟨1782900000350000, 0⟩

/-- At the limit of a tenth the gate takes the failure for stale and the store for due,
so its command is stored without a count. -/
example : isFresh hasty.settings (event false) later = false ∧
    dispositionAt hasty.inbox (event false) (later.roundedTimestamp hasty.settings.rounding) =
      .pending := by
  decide +kernel

end Disabled

/-- A failed inspection is stored as a command and offered for sending although
the switch is off. -/
theorem rejects_while_disabled :
    Disabled.config.settings.inspectionEnabled = false ∧
      Disabled.config.settings.targetUnsTopic ≠ Disabled.config.settings.rejectTargetUnsTopic ∧
      ∃ t, Run.exec (agentStep Disabled.config) (AgentRun.initial Disabled.config)
          (Disabled.events "failed") = some t ∧
        t.stored = [Disabled.rejection] ∧ t.offered = [Disabled.rejection] ∧
        ¬ LeavesRejectStation Disabled.config t := by
  refine ⟨rfl, by decide +kernel, ?_⟩
  obtain ⟨t, ht, hend⟩ : ∃ t, Run.exec (agentStep Disabled.config)
      (AgentRun.initial Disabled.config) (Disabled.events "failed") = some t ∧
        t.stored = [Disabled.rejection] ∧ t.offered = [Disabled.rejection] :=
    Run.exists_exec (by decide +kernel)
  refine ⟨t, ht, hend.1, hend.2, fun hleaves => ?_⟩
  have hmem : Disabled.rejection ∈ t.returned ++ t.stored ++ t.offered := by simp [hend.2]
  exact hleaves _ hmem (by decide +kernel)

/-- **The switch.**  With the inspection switch off, and with or without an inbox,
a run leaves the reject station alone exactly when none of its events breaches. -/
theorem leavesRejectStation_iff_guarded [DecidableEq δ] (cfg : AgentConfig δ)
    (hoff : cfg.settings.inspectionEnabled = false) {events : List AgentEvent}
    {t : AgentRun δ}
    (h : Run.exec (agentStep cfg) (AgentRun.initial cfg) events = some t) :
    LeavesRejectStation cfg t ↔
      Run.Guarded (agentStep cfg) (fun s e => ¬ Breaches cfg s.agent e)
        (AgentRun.initial cfg) events := by
  have hlogged : Logged (AgentRun.initial cfg) := by
    intro c hc
    unfold AgentRun.initial DecisionAgent.rows at hc
    cases hpath : cfg.settings.inboxPath <;> rw [hpath] at hc <;> cases hc
  have hinitial : LeavesRejectStation cfg (AgentRun.initial cfg) := by
    intro c hc
    cases hc
  rw [Run.exec_iff_guarded (agentStep_leaves_iff hoff) hlogged h]
  exact and_iff_right hinitial

/-- A passed inspection breaches nothing. -/
theorem leavesRejectStation_iff_guarded_example :
    ∃ t, Run.exec (agentStep Disabled.config) (AgentRun.initial Disabled.config)
        (Disabled.events "passed") = some t ∧
      Run.Guarded (agentStep Disabled.config)
        (fun s e => ¬ Breaches Disabled.config s.agent e) (AgentRun.initial Disabled.config)
        (Disabled.events "passed") ∧
      (t.agent.rows.map fun r => r.disposition) = [Disposition.passed] := by
  obtain ⟨t, ht, hend⟩ : ∃ t, Run.exec (agentStep Disabled.config)
      (AgentRun.initial Disabled.config) (Disabled.events "passed") = some t ∧
        t.returned ++ t.stored ++ t.offered = [] ∧
        (t.agent.rows.map fun r => r.disposition) = [Disposition.passed] :=
    Run.exists_exec (by decide +kernel)
  refine ⟨t, ht, (leavesRejectStation_iff_guarded Disabled.config rfl ht).1 ?_, hend.2⟩
  intro c hc
  rw [hend.1] at hc
  cases hc

end EirvahEdge.Agent
