import EirvahEdge.Agent.Switch

/-!
# Recipes and production modes

`ProductionModeRule` sends the recipe of a mode when an admitted speed enters the band
of the other mode.  Between the bands nothing changes, so the recipe that was sent last
is the one of the last band that was entered.

The rule remembers the mode before it builds the request.  When building raises, for a
target topic that is not a UNS topic or a deadline that is no `datetime`, the recipe of
that mode is not sent and will not be: the next speed in the band finds the mode
remembered.  Otherwise the recipes follow the modes, and `follows_iff_requestable` says
that this is the only exception.

## Main results

* `admits_iff`: which observations are admitted;
* `modeStep_follows_iff`: one call keeps the recipes in step with the modes exactly when
  a request that is due can be built;
* `follows_iff_requestable`: the same for every run.
-/

namespace EirvahEdge.Agent

open EirvahEdge.Lib
open EirvahEdge.Contracts
open EirvahEdge.Recovery

/-! ## Calls -/

/-- The arguments of one `ProductionModeRule.update`, and the id that
`generate_correlation_id` returns in it. -/
structure SpeedCall where
  speed : Json
  observedAt : Datetime
  now : Datetime
  quality : String
  freshId : String
  freshId_valid : isValidCorrelationId freshId = true

/-- Good quality, a speed between 0 and 0.8, aware times, neither future nor stale, and
not older than the latest admitted observation. -/
structure Admissible (settings : DecisionAgentSettings) (rule : ProductionModeRule)
    (call : SpeedCall) (q : ℚ) (at' now : AwareDatetime) : Prop where
  enabled : settings.enabled = true
  quality : call.quality = "good"
  speed : admissibleSpeed call.speed = .ok (some q)
  fresh : at'.timestamp ≤ now.timestamp ∧
    settings.ageSeconds now at' ≤ settings.maxObservationAgeS
  order : ∀ latestAt, rule.latestAt = some latestAt → latestAt.timestamp ≤ at'.timestamp
  observedAt : call.observedAt = .aware at'
  now : call.now = .aware now

section Call

variable {settings : DecisionAgentSettings} {rule : ProductionModeRule} {call : SpeedCall}
  {q : ℚ} {at' now : AwareDatetime}

theorem isCurrent_iff : rule.isCurrent settings at' now = true ↔
    (at'.timestamp ≤ now.timestamp ∧
      settings.ageSeconds now at' ≤ settings.maxObservationAgeS) ∧
      ∀ latestAt, rule.latestAt = some latestAt → latestAt.timestamp ≤ at'.timestamp := by
  unfold ProductionModeRule.isCurrent
  rw [Bool.and_eq_true, decide_eq_true_eq, DecisionAgentSettings.ageSeconds,
    AwareDatetime.totalSeconds_nonneg_iff]
  cases rule.latestAt <;> simp

theorem admits_iff :
    rule.admits settings call.speed call.observedAt call.now call.quality =
        .ok (some (q, at', now)) ↔ Admissible settings rule call q at' now := by
  constructor
  · intro h
    unfold ProductionModeRule.admits at h
    split at h
    · cases h
    · next hgood =>
        simp only [Bool.or_eq_true, Bool.not_eq_true', bne_iff_ne, ne_eq, not_or,
          Bool.not_eq_false, not_not] at hgood
        split at h
        · cases h
        · cases h
        · next q' hspeed =>
            split at h
            · next at'' now' hat hnow =>
                by_cases hcurrent : rule.isCurrent settings at'' now' = true
                · rw [if_pos hcurrent] at h
                  cases h
                  obtain ⟨hfresh, horder⟩ := isCurrent_iff.1 hcurrent
                  exact ⟨hgood.1, hgood.2, hspeed, hfresh, horder, hat, hnow⟩
                · rw [if_neg hcurrent] at h
                  cases h
            · cases h
  · intro h
    have hcurrent : rule.isCurrent settings at' now = true := isCurrent_iff.2 ⟨h.fresh, h.order⟩
    simp [ProductionModeRule.admits, h.enabled, h.quality, h.speed, h.observedAt, h.now, hcurrent]

/-- The answer to a call that is not admitted, -/
theorem update_of_not_admissible (shown : Json → String)
    (h : ∀ q at' now, ¬Admissible settings rule call q at' now) :
    (rule.update settings shown call.speed call.observedAt call.now call.quality
        call.freshId).1 = rule ∧
      requestOf (rule.update settings shown call.speed call.observedAt call.now call.quality
        call.freshId).2 = [] := by
  unfold ProductionModeRule.update
  cases hadmits : rule.admits settings call.speed call.observedAt call.now call.quality with
  | error e => exact ⟨rfl, rfl⟩
  | ok admitted =>
      cases admitted with
      | none => exact ⟨rfl, rfl⟩
      | some seen => exact absurd (admits_iff.1 hadmits) (h seen.1 seen.2.1 seen.2.2)

/-- and to one that is. -/
theorem update_of_admissible (shown : Json → String)
    (h : Admissible settings rule call q at' now) :
    rule.update settings shown call.speed call.observedAt call.now call.quality call.freshId =
      match rule.selects settings q with
      | none => ({ rule with latestAt := some at' }, .ok none)
      | some mode =>
          (⟨some mode, some at'⟩,
            (ProductionModeRule.request settings shown call.speed now call.freshId mode).map
              some) := by
  cases hselects : rule.selects settings q with
  | none => simp only [ProductionModeRule.update, admits_iff.2 h, hselects]
  | some mode => simp only [ProductionModeRule.update, admits_iff.2 h, hselects]

theorem selects_eq_some {mode : Mode} :
    rule.selects settings q = some mode ↔
      settings.band q = some mode ∧ rule.lastMode ≠ some mode := by
  rw [ProductionModeRule.selects, Option.filter_eq_some_iff, decide_eq_true_eq]

/-- Between the bands there is none. -/
theorem band_eq_none : settings.band q = none ↔
    settings.normalSpeedMax < q ∧ q < settings.highSpeedMin := by
  unfold DecisionAgentSettings.band
  by_cases hhigh : settings.highSpeedMin ≤ q
  · simp [hhigh]
  · by_cases hnormal : q ≤ settings.normalSpeedMax
    · simp [hhigh, hnormal]
    · simp [hhigh, hnormal, not_le.1 hhigh, not_le.1 hnormal]

end Call

/-! ## Recipes -/

/-- The command sends the recipe of a mode. -/
structure IsRecipe (settings : DecisionAgentSettings) (mode : Mode) (c : ActuationRequest) :
    Prop where
  target : c.targetUnsTopic = settings.targetUnsTopic
  value : c.requestedValue = .float (.finite (settings.setpoint mode))
  reason : ∃ rest, c.reason = "warmer recipe: " ++ mode.name ++ rest

/-- A command sends one recipe. -/
theorem IsRecipe.unique {settings : DecisionAgentSettings} {mode mode' : Mode}
    {c : ActuationRequest} (h : IsRecipe settings mode c) (h' : IsRecipe settings mode' c) :
    mode = mode' := by
  obtain ⟨rest, hrest⟩ := h.reason
  obtain ⟨rest', hrest'⟩ := h'.reason
  have htext : mode.name.toList ++ rest.toList = mode'.name.toList ++ rest'.toList := by
    have hsame := congrArg String.toList (hrest.symm.trans hrest')
    simp only [String.toList_append, List.append_assoc] at hsame
    exact List.append_cancel_left hsame
  cases mode <;> cases mode' <;> simp_all [Mode.name]

/-- Whether a request can be built for a call at `now`. -/
def Buildable (settings : DecisionAgentSettings) (now : AwareDatetime) : Prop :=
  isUnsTopic settings.targetUnsTopic = true ∧ ∃ deadline, addSeconds now 10 = .ok deadline

/-- The request of a mode is its recipe, or building raises. -/
theorem request_cases (settings : DecisionAgentSettings) (shown : Json → String)
    (call : SpeedCall) (now : AwareDatetime) (mode : Mode) :
    (Buildable settings now ∧ ∃ c, IsRecipe settings mode c ∧
      ProductionModeRule.request settings shown call.speed now call.freshId mode = .ok c) ∨
    (¬Buildable settings now ∧ ∃ e,
      ProductionModeRule.request settings shown call.speed now call.freshId mode = .error e) := by
  unfold ProductionModeRule.request
  cases hdeadline : addSeconds now 10 with
  | error e =>
      refine Or.inr ⟨?_, e, rfl⟩
      rintro ⟨-, deadline, hok⟩
      rw [hdeadline] at hok
      cases hok
  | ok deadline =>
      by_cases htopic : isUnsTopic settings.targetUnsTopic = true
      · refine Or.inl ⟨⟨htopic, deadline, hdeadline⟩, ?_⟩
        simp only [bind, Except.bind, newRequest, call.freshId_valid, htopic, Bool.not_true,
          Bool.false_eq_true, if_false]
        refine ⟨_, ⟨rfl, rfl, ?_⟩, rfl⟩
        exact ⟨" production mode, conveyor speed setpoint " ++ shown call.speed ++ " m/s",
          by simp only [String.append_assoc]⟩
      · refine Or.inr ⟨fun h => htopic h.1, ?_⟩
        simp only [bind, Except.bind, newRequest, call.freshId_valid, htopic, Bool.not_true,
          Bool.not_false, Bool.false_eq_true, if_false, if_true]
        exact ⟨_, rfl⟩

/-! ## Runs -/

/-- The rule, the commands it has sent, latest first, and the band that the last admitted
observation outside the open band between the thresholds lay in. -/
structure ModeRun where
  rule : ProductionModeRule
  emitted : List ActuationRequest
  outOfBand : Option Mode
deriving DecidableEq

/-- A new rule. -/
def ModeRun.initial : ModeRun := ⟨{}, [], none⟩

section Runs

variable (settings : DecisionAgentSettings) (shown : Json → String)

/-- The band of an observation, when it is admitted and lies in one. -/
def bandOf (rule : ProductionModeRule) (call : SpeedCall) : Option Mode :=
  match rule.admits settings call.speed call.observedAt call.now call.quality with
  | .ok (some (q, _, _)) => settings.band q
  | _ => none

/-- One call. -/
def modeStep (run : ModeRun) (call : SpeedCall) : Option ModeRun :=
  let r := run.rule.update settings shown call.speed call.observedAt call.now call.quality
    call.freshId
  some
    { rule := r.1
      emitted := requestOf r.2 ++ run.emitted
      outOfBand := (bandOf settings run.rule call).or run.outOfBand }

/-- The recipes that were sent alternate, and the last one is that of the last band. -/
structure Follows (run : ModeRun) : Prop where
  alternates : ∃ modes, List.Forall₂ (IsRecipe settings) modes run.emitted ∧
    modes.IsChain (· ≠ ·)
  latest : ∀ mode, run.outOfBand = some mode →
    ∃ c, run.emitted.head? = some c ∧ IsRecipe settings mode c

/-- When the call moves the rule to another mode, its request can be built. -/
def Requestable (run : ModeRun) (call : SpeedCall) : Prop :=
  ∀ q at' now mode, Admissible settings run.rule call q at' now →
    run.rule.selects settings q = some mode → Buildable settings now

/-- Observations that are not admitted change nothing and send nothing, and those between
the bands send nothing. -/
def Quiet : Prop :=
  ∀ (rule : ProductionModeRule) (call : SpeedCall),
    ((∀ q at' now, ¬Admissible settings rule call q at' now) →
      (rule.update settings shown call.speed call.observedAt call.now call.quality
          call.freshId).1 = rule ∧
        requestOf (rule.update settings shown call.speed call.observedAt call.now call.quality
          call.freshId).2 = []) ∧
    ∀ q at' now, Admissible settings rule call q at' now → settings.normalSpeedMax < q →
      q < settings.highSpeedMin →
      requestOf (rule.update settings shown call.speed call.observedAt call.now call.quality
        call.freshId).2 = []

/-- The rule remembers the last band, and nothing was sent before the first. -/
structure Remembers (run : ModeRun) : Prop where
  lastMode : run.rule.lastMode = run.outOfBand
  first : run.outOfBand = none → run.emitted = []

end Runs

section Step

variable {settings : DecisionAgentSettings} {shown : Json → String} {run t : ModeRun}
  {call : SpeedCall}

theorem quiet : Quiet settings shown := by
  intro rule call
  refine ⟨update_of_not_admissible shown, ?_⟩
  intro q at' now h hlow hhigh
  have hselects : rule.selects settings q = none := by
    rw [ProductionModeRule.selects, band_eq_none.2 ⟨hlow, hhigh⟩]
    rfl
  rw [update_of_admissible shown h, hselects]
  rfl

/-- The last command is not the recipe of another band. -/
theorem Follows.head_ne (hremembers : Remembers run) (h : Follows settings run) {mode : Mode}
    (hmode : run.outOfBand ≠ some mode) {c : ActuationRequest}
    (hhead : run.emitted.head? = some c) : ¬IsRecipe settings mode c := by
  intro hc
  cases hband : run.outOfBand with
  | none =>
      rw [hremembers.first hband] at hhead
      cases hhead
  | some last =>
      obtain ⟨c', hhead', hlast⟩ := h.latest last hband
      obtain rfl : c = c' := Option.some.inj (hhead.symm.trans hhead')
      exact hmode (hband.trans (congrArg some (hlast.unique hc)))

/-- A recipe goes in front of alternating ones when the last one is not of its mode. -/
theorem alternates_cons {emitted : List ActuationRequest} {modes : List Mode} {mode : Mode}
    {c : ActuationRequest} (hmodes : List.Forall₂ (IsRecipe settings) modes emitted)
    (hchain : modes.IsChain (· ≠ ·)) (hc : IsRecipe settings mode c)
    (hhead : ∀ c', emitted.head? = some c' → ¬IsRecipe settings mode c') :
    List.Forall₂ (IsRecipe settings) (mode :: modes) (c :: emitted) ∧
      (mode :: modes).IsChain (· ≠ ·) := by
  refine ⟨.cons hc hmodes, ?_⟩
  cases hmodes with
  | nil => exact List.isChain_singleton mode
  | cons hfirst hrest =>
      refine List.isChain_cons_cons.2 ⟨?_, hchain⟩
      intro heq
      exact hhead _ rfl (heq ▸ hfirst)

/-- What a call does when it is not admitted, stays in its band or between the bands, and
when it moves to another band. -/
theorem modeStep_cases (hremembers : Remembers run) (hs : modeStep settings shown run call = some t) :
    (t.emitted = run.emitted ∧ t.outOfBand = run.outOfBand ∧
      t.rule.lastMode = run.rule.lastMode ∧ Requestable settings run call) ∨
    ∃ mode, run.outOfBand ≠ some mode ∧ t.outOfBand = some mode ∧ t.rule.lastMode = some mode ∧
      ((Requestable settings run call ∧
        ∃ c, IsRecipe settings mode c ∧ t.emitted = c :: run.emitted) ∨
      (¬Requestable settings run call ∧ t.emitted = run.emitted)) := by
  obtain rfl := Option.some.inj hs
  by_cases hadmissible : ∃ q at' now, Admissible settings run.rule call q at' now
  · obtain ⟨q, at', now, h⟩ := hadmissible
    have hband : bandOf settings run.rule call = settings.band q := by
      rw [bandOf, admits_iff.2 h]
    have hsame {q' : ℚ} {at'' now' : AwareDatetime}
        (h' : Admissible settings run.rule call q' at'' now') : q' = q ∧ now' = now := by
      have heq := (admits_iff.2 h').symm.trans (admits_iff.2 h)
      simp only [Except.ok.injEq, Option.some.injEq, Prod.mk.injEq] at heq
      exact ⟨heq.1, heq.2.2⟩
    rw [update_of_admissible shown h, hband]
    cases hselects : run.rule.selects settings q with
    | none =>
        refine Or.inl ⟨rfl, ?_, rfl, ?_⟩
        · cases hq : settings.band q with
          | none => rfl
          | some mode =>
              have hlast : run.rule.lastMode = some mode := by
                by_contra hne
                have hmoves := selects_eq_some.2 ⟨hq, hne⟩
                rw [hselects] at hmoves
                cases hmoves
              rw [← hremembers.lastMode, hlast]
              rfl
        · intro q' at'' now' mode h' hmode
          rw [(hsame h').1, hselects] at hmode
          cases hmode
    | some mode =>
        obtain ⟨hq, hne⟩ := selects_eq_some.1 hselects
        rw [hremembers.lastMode] at hne
        have hrequestable : Requestable settings run call ↔ Buildable settings now := by
          constructor
          · exact fun hr => hr q at' now mode h hselects
          · intro hb q' at'' now' mode' h' _
            rw [(hsame h').2]
            exact hb
        refine Or.inr ⟨mode, hne, by rw [hq]; rfl, rfl, ?_⟩
        rcases request_cases settings shown call now mode with
          ⟨hbuild, c, hc, hrequest⟩ | ⟨hbuild, e, hrequest⟩
        · exact Or.inl ⟨hrequestable.2 hbuild, c, hc, by simp [hrequest, requestOf, Except.map]⟩
        · exact Or.inr ⟨fun hr => hbuild (hrequestable.1 hr),
            by simp [hrequest, requestOf, Except.map]⟩
  · push Not at hadmissible
    obtain ⟨hrule, hrequest⟩ := update_of_not_admissible shown hadmissible
    have hband : bandOf settings run.rule call = none := by
      unfold bandOf
      split
      · next hadmits => exact absurd (admits_iff.1 hadmits) (hadmissible _ _ _)
      · rfl
    refine Or.inl ⟨?_, ?_, congrArg ProductionModeRule.lastMode hrule, ?_⟩
    · rw [hrequest]
      rfl
    · rw [hband]
      rfl
    · exact fun q at' now mode h => absurd h (hadmissible q at' now)

/-- **One call.**  The recipes stay in step with the modes exactly when the request that is
due can be built. -/
theorem modeStep_follows_iff (run : ModeRun) (call : SpeedCall) (t : ModeRun)
    (hremembers : Remembers run) (h : Follows settings run)
    (hs : modeStep settings shown run call = some t) :
    Remembers t ∧ (Follows settings t ↔ Requestable settings run call) := by
  rcases modeStep_cases hremembers hs with
    ⟨hemitted, hband, hmode, hrequestable⟩ | ⟨mode, hne, hband, hmode, hcase⟩
  · refine ⟨⟨?_, ?_⟩, iff_of_true ⟨?_, ?_⟩ hrequestable⟩
    · rw [hmode, hband, hremembers.lastMode]
    · rw [hband, hemitted]
      exact hremembers.first
    · rw [hemitted]
      exact h.alternates
    · rw [hband, hemitted]
      exact h.latest
  · refine ⟨⟨hmode.trans hband.symm, fun hnone => ?_⟩, ?_⟩
    · rw [hband] at hnone
      cases hnone
    · rcases hcase with ⟨hrequestable, c, hc, hemitted⟩ | ⟨hnot, hemitted⟩
      · refine iff_of_true ⟨?_, ?_⟩ hrequestable
        · obtain ⟨modes, hmodes, hchain⟩ := h.alternates
          rw [hemitted]
          exact ⟨mode :: modes, alternates_cons hmodes hchain hc
            fun c' hhead => h.head_ne hremembers hne hhead⟩
        · intro mode' hmode'
          obtain rfl : mode = mode' := Option.some.inj (hband.symm.trans hmode')
          exact ⟨c, by rw [hemitted]; rfl, hc⟩
      · refine iff_of_false (fun hfollows => ?_) hnot
        obtain ⟨c, hhead, hc⟩ := hfollows.latest mode hband
        rw [hemitted] at hhead
        exact h.head_ne hremembers hne hhead hc

end Step

/-- For every settings, whose bands are separate, and every sequence of calls: the recipes
that are sent alternate, and after every call the last one is that of the last admitted
observation that lay in a band; an observation that is not admitted changes nothing; and
neither such an observation nor one between the bands sends anything: exactly when, each
time a call moves the rule to another mode, the target topic is a UNS topic and ten
seconds after the call is a `datetime`. -/
theorem follows_iff_requestable (settings : DecisionAgentSettings) (shown : Json → String)
    (calls : List SpeedCall) :
    (Run.Always (modeStep settings shown) (Follows settings) ModeRun.initial calls ∧
      Quiet settings shown) ↔
    Run.Guarded (modeStep settings shown) (Requestable settings) ModeRun.initial calls := by
  have hremembers : Remembers ModeRun.initial := ⟨rfl, fun _ => rfl⟩
  have hfollows : Follows settings ModeRun.initial :=
    ⟨⟨[], .nil, List.isChain_nil⟩, fun mode h => by cases h⟩
  rw [and_iff_left quiet]
  refine Run.always_iff_guarded modeStep_follows_iff ?_ hremembers hfollows
  intro run call _ hnone
  cases hnone

namespace LostRecipe

/-! A target topic without the levels of a UNS topic, and a speed in the high band. -/

def settings : DecisionAgentSettings :=
  { defaultSettings with targetUnsTopic := "setpoint_temperature" }

def now : AwareDatetime := ⟨1782900000000000, 0⟩

def call : SpeedCall where
  speed := .float (.finite (3 / 4))
  observedAt := .aware now
  now := .aware now
  quality := "good"
  freshId := "01ARZ3NDEKTSV4RRFFQ69G5FAV"
  freshId_valid := by decide +kernel

/-- The rule has remembered the mode and sent nothing. -/
def after : ModeRun := ⟨⟨some .high, some now⟩, [], some .high⟩

end LostRecipe

/-- The recipe of the high mode is never sent. -/
theorem recipe_lost :
    modeStep LostRecipe.settings (fun _ => "0.75") .initial LostRecipe.call =
      some LostRecipe.after ∧
    ¬(Run.Always (modeStep LostRecipe.settings fun _ => "0.75") (Follows LostRecipe.settings)
        .initial [LostRecipe.call] ∧
      Quiet LostRecipe.settings fun _ => "0.75") := by
  have hstep : modeStep LostRecipe.settings (fun _ => "0.75") .initial LostRecipe.call =
      some LostRecipe.after := by decide +kernel
  refine ⟨hstep, ?_⟩
  rintro ⟨halways, -⟩
  have hfollows : Follows LostRecipe.settings LostRecipe.after := by
    have hrest := halways.2
    rw [hstep] at hrest
    exact hrest
  obtain ⟨c, hhead, -⟩ := hfollows.latest .high rfl
  cases hhead

end EirvahEdge.Agent
