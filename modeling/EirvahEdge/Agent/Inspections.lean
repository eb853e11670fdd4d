import EirvahEdge.Agent.Rules
import EirvahEdge.Lib.Run

/-!
# Inspections in memory

`InspectionRule` keeps three tables: the identities it has admitted, the bottles of each
session, and the greatest sequence of each session.  Every call that looks at them first
drops the entries that were last touched more than `inspection_max_age_s + 10` seconds
ago, and none of them grows past the capacity.

`UpdateCase` says once what a call can do to the tables.  An entry survives every call of
its own window (`cutoff_le`), so within the window an identity and a bottle are admitted
once; and an event is fresh for less than the window, so outside of it the same event is
stale.  A bottle's entry stands beside the entry of the identity it was admitted with, of
the same age (`RuleInv.beside`), which is why a bound on the identities is one on the
bottles.

## Main results

* `update_case`: what one call does;
* `RuleInv.inspectAll`: the bounds of the tables;
* `inspection_rule_once`: the decisions of a whole run.
-/

namespace EirvahEdge.Agent

open EirvahEdge.Lib
open EirvahEdge.Contracts

/-! ## Calls -/

/-- The arguments of one `InspectionRule.update`, and the id that
`generate_correlation_id` returns in it. -/
structure InspectionCall where
  event : BottleInspection
  now : AwareDatetime
  freshId : String

/-- `InspectionRule(settings, capacity)`. -/
def InspectionRule.withCapacity (capacity : ℕ) (capacity_pos : 1 ≤ capacity) :
    InspectionRule where
  capacity := capacity
  capacity_pos := capacity_pos
  seen := .empty
  bottles := .empty
  heads := .empty
  lastDecision := { reason := .notObserved }

/-- The window of an entry, in seconds. -/
def DecisionAgentSettings.window (settings : DecisionAgentSettings) : ℚ :=
  settings.inspectionMaxAgeS + 10

variable (settings : DecisionAgentSettings)

/-- The rule after a call. -/
def inspect (rule : InspectionRule) (c : InspectionCall) : InspectionRule :=
  (rule.update settings c.event c.now c.freshId).1

/-- The rule after a sequence of calls. -/
def inspectAll (rule : InspectionRule) (calls : List InspectionCall) : InspectionRule :=
  calls.foldl (inspect settings) rule

/-- `last_decision["accepted"]` after a call. -/
def Admits (rule : InspectionRule) (c : InspectionCall) : Prop :=
  (inspect settings rule c).lastDecision.accepted = true

/-- The event is fresh at the call, and the tables are looked at after entries older than
the cutoff were dropped. -/
structure LooksUp (c : InspectionCall) (cutoff : AwareDatetime) : Prop where
  enabled : settings.inspectionEnabled = true
  fresh : 0 ≤ settings.ageSeconds c.now c.event.inspectedAt ∧
    settings.ageSeconds c.now c.event.inspectedAt < settings.inspectionMaxAgeS
  cutoff_eq : addSeconds c.now (-settings.window) = .ok cutoff

/-- The call does not drop the entry of a session. -/
def Retains (c : InspectionCall) (head : HeadEntry) : Prop :=
  ∀ cutoff, LooksUp settings c cutoff → cutoff.timestamp ≤ head.heardAt.timestamp

/-! ## What a call does -/

/-- The entry that a call gives its session: of the call's time, and with a sequence that
is not below the one before. -/
structure MovesHead (before : InspectionRule) (c : InspectionCall) (head : HeadEntry) : Prop where
  session : head.session = c.event.session
  above : ∀ old, before.heads.lookup c.event.session = some old → old.sequence ≤ head.sequence
  room : before.heads.lookup c.event.session = none → before.heads.rows.length < before.capacity

/-- What a call can do to the tables: nothing; drop old entries; move the head of the
session as well; or admit the event. -/
inductive UpdateCase (rule : InspectionRule) (c : InspectionCall) : InspectionRule → Prop
  | idle (decision : InspectionDecision) (refused : decision.accepted = false)
      (blind : ∀ cutoff, ¬LooksUp settings c cutoff) :
      UpdateCase rule c (rule.decided decision)
  | dropped (cutoff : AwareDatetime) (looks : LooksUp settings c cutoff)
      (decision : InspectionDecision) (refused : decision.accepted = false) :
      UpdateCase rule c ((rule.prune cutoff).decided decision)
  | heard (cutoff : AwareDatetime) (looks : LooksUp settings c cutoff)
      (decision : InspectionDecision) (refused : decision.accepted = false) (head : HeadEntry)
      (moves : MovesHead (rule.prune cutoff) c head) :
      UpdateCase rule c
        ({ rule.prune cutoff with heads := (rule.prune cutoff).heads.replace head }.decided
          decision)
  | admitted (cutoff : AwareDatetime) (looks : LooksUp settings c cutoff)
      (decision : InspectionDecision) (accepted : decision.accepted = true) (head : HeadEntry)
      (moves : MovesHead (rule.prune cutoff) c head)
      (sequence : sequenceNumber c.event.inspectionId ≠ 0)
      (unseen : (rule.prune cutoff).seen.lookup c.event.inspectionId = none)
      (unlisted : (rule.prune cutoff).bottles.lookup (c.event.session, c.event.bottleId) = none)
      (room : (rule.prune cutoff).seen.rows.length < rule.capacity) :
      UpdateCase rule c
        ({ rule.prune cutoff with
            seen := (rule.prune cutoff).seen.replace ⟨c.event.inspectionId, c.now, c.event⟩
            bottles := (rule.prune cutoff).bottles.replace
              ⟨(c.event.session, c.event.bottleId), c.now⟩
            heads := (rule.prune cutoff).heads.replace head }.decided decision)

section Cases

variable {settings} {rule : InspectionRule} {c : InspectionCall} {cutoff : AwareDatetime}

/-- The head of the session after an event that is no regression. -/
theorem movesHead_headAfter {rule : InspectionRule}
    (hroom : (rule.heads.lookup c.event.session).isNone = true →
      rule.heads.rows.length < rule.capacity) :
    MovesHead rule c
      (InspectionRule.headAfter (rule.heads.lookup c.event.session)
        ((rule.heads.lookup c.event.session).any fun head =>
          decide (sequenceNumber c.event.inspectionId ≤ head.sequence)) c.event c.now) := by
  cases hhead : rule.heads.lookup c.event.session with
  | none =>
      refine ⟨rfl, fun old hold => ?_, fun _ => hroom (by rw [hhead]; rfl)⟩
      rw [hhead] at hold
      cases hold
  | some head =>
      have hsession : head.session = c.event.session := Table.key_of_lookup hhead
      by_cases hlate : sequenceNumber c.event.inspectionId ≤ head.sequence
      · simp only [Option.any_some, hlate, decide_true, InspectionRule.headAfter]
        refine ⟨hsession, fun old hold => ?_, fun hnone => ?_⟩
        · obtain rfl : head = old := Option.some.inj (hhead.symm.trans hold)
          exact le_refl _
        · rw [hhead] at hnone
          cases hnone
      · simp only [Option.any_some, hlate, decide_false, InspectionRule.headAfter]
        refine ⟨rfl, fun old hold => ?_, fun hnone => ?_⟩
        · obtain rfl : head = old := Option.some.inj (hhead.symm.trans hold)
          exact (not_le.1 hlate).le
        · rw [hhead] at hnone
          cases hnone

/-- Before the tables are looked at, nothing but the decision changes. -/
theorem inspect_of_blind (h : ∀ cutoff, ¬LooksUp settings c cutoff) :
    ∃ decision, decision.accepted = false ∧ inspect settings rule c = rule.decided decision := by
  unfold inspect InspectionRule.update
  by_cases henabled : settings.inspectionEnabled = true
  · simp only [henabled, Bool.not_true, Bool.false_eq_true, if_false]
    by_cases hfuture : settings.ageSeconds c.now c.event.inspectedAt < 0
    · rw [if_pos hfuture]
      exact ⟨{ reason := .future }, rfl, rfl⟩
    · rw [if_neg hfuture]
      by_cases hstale : settings.inspectionMaxAgeS ≤ settings.ageSeconds c.now c.event.inspectedAt
      · rw [if_pos hstale]
        exact ⟨{ reason := .stale }, rfl, rfl⟩
      · rw [if_neg hstale]
        cases hcutoff : addSeconds c.now (-(settings.inspectionMaxAgeS + 10)) with
        | error e => exact ⟨{ reason := .disabled }, rfl, rfl⟩
        | ok cutoff =>
            exact absurd ⟨henabled, ⟨not_lt.1 hfuture, not_le.1 hstale⟩, hcutoff⟩ (h cutoff)
  · simp only [henabled, Bool.not_false, if_true]
    exact ⟨{ reason := .disabled }, rfl, rfl⟩

/-- Then the event is considered on the tables without old entries. -/
theorem inspect_of_looksUp (h : LooksUp settings c cutoff) :
    inspect settings rule c =
      ((rule.decided { reason := .disabled }).prune cutoff |>.consider settings c.event c.now
        c.freshId).1 := by
  have hcutoff : addSeconds c.now (-(settings.inspectionMaxAgeS + 10)) = .ok cutoff :=
    h.cutoff_eq
  simp only [inspect, InspectionRule.update, h.enabled, Bool.not_true, Bool.false_eq_true,
    if_false, not_lt.2 h.fresh.1, not_le.2 h.fresh.2, hcutoff]

/-- A known identity is answered with what it is known by. -/
theorem inspect_of_seen (h : LooksUp settings c cutoff)
    (hsequence : sequenceNumber c.event.inspectionId ≠ 0) {previous : SeenEntry}
    (hseen : (rule.prune cutoff).seen.lookup c.event.inspectionId = some previous) :
    inspect settings rule c = (rule.prune cutoff).decided
      { reason :=
          if inspectionEq previous.event c.event then .duplicate else .identityConflict } := by
  have hseen' : ((rule.decided { reason := .disabled }).prune cutoff).seen.lookup
      c.event.inspectionId = some previous := hseen
  rw [inspect_of_looksUp h]
  simp only [InspectionRule.consider, hsequence, if_false, hseen']
  rfl

/-- **One call.** -/
theorem update_case : UpdateCase settings rule c (inspect settings rule c) := by
  by_cases hlooks : ∃ cutoff, LooksUp settings c cutoff
  · obtain ⟨cutoff, hlooks⟩ := hlooks
    by_cases hsequence : sequenceNumber c.event.inspectionId = 0
    · have hrule : inspect settings rule c =
          (rule.prune cutoff).decided { reason := .invalidIdentity } := by
        rw [inspect_of_looksUp hlooks]
        simp only [InspectionRule.consider, hsequence, if_true]
        rfl
      rw [hrule]
      exact .dropped cutoff hlooks _ rfl
    · cases hseen : (rule.prune cutoff).seen.lookup c.event.inspectionId with
      | some previous =>
          rw [inspect_of_seen hlooks hsequence hseen]
          exact .dropped cutoff hlooks _ rfl
      | none =>
          have hseen' : ((rule.decided { reason := .disabled }).prune cutoff).seen.lookup
              c.event.inspectionId = none := hseen
          have hpruned : (rule.decided { reason := .disabled }).prune cutoff =
              (rule.prune cutoff).decided { reason := .disabled } := rfl
          rw [inspect_of_looksUp hlooks]
          simp only [InspectionRule.consider, hsequence, if_false, hseen']
          split
          · exact .dropped cutoff hlooks _ rfl
          · split
            · exact .dropped cutoff hlooks _ rfl
            · next hroom =>
                have hmoves : MovesHead (rule.prune cutoff) c _ :=
                  movesHead_headAfter fun hnone => by
                    simp only [Bool.and_eq_true, decide_eq_true_eq, not_and, not_le] at hroom
                    exact hroom hnone
                unfold InspectionRule.admitEvent
                dsimp only
                split
                · exact .heard cutoff hlooks _ rfl _ hmoves
                · next hunlisted =>
                    split
                    · exact .heard cutoff hlooks _ rfl _ hmoves
                    · next hcapacity =>
                        have hbottle : (rule.prune cutoff).bottles.lookup
                            (c.event.session, c.event.bottleId) = none :=
                          Option.not_isSome_iff_eq_none.1 hunlisted
                        split
                        · exact .admitted cutoff hlooks _ rfl _ hmoves hsequence hseen hbottle
                            (not_le.1 hcapacity)
                        · exact .admitted cutoff hlooks _ rfl _ hmoves hsequence hseen hbottle
                            (not_le.1 hcapacity)
  · push Not at hlooks
    obtain ⟨decision, hrefused, hrule⟩ : ∃ decision : InspectionDecision,
        decision.accepted = false ∧ inspect settings rule c = rule.decided decision :=
      inspect_of_blind hlooks
    rw [hrule]
    exact .idle decision hrefused hlooks

end Cases

/-! ## The window -/

section Window

variable {settings} {rule : InspectionRule} {c : InspectionCall} {cutoff : AwareDatetime}

theorem capacity_inspect : (inspect settings rule c).capacity = rule.capacity := by
  have hcase : UpdateCase settings rule c (inspect settings rule c) := update_case
  generalize inspect settings rule c = t at hcase ⊢
  cases hcase <;> rfl

/-- The cutoff of a call does not lie above a time of its window: both are whole
microseconds, so rounding the window to one does not matter. -/
theorem cutoff_le {now a : AwareDatetime} (hcutoff : addSeconds now (-settings.window) = .ok cutoff)
    (hage : ageAt now a ≤ settings.window) : cutoff.timestamp ≤ a.timestamp := by
  unfold addSeconds at hcutoff
  dsimp only at hcutoff
  split at hcutoff
  · obtain rfl := Except.ok.inj hcutoff
    have hwindow : -settings.window * 1000000 ≤
        ((a.instantMicros - now.instantMicros : ℤ) : ℚ) := by
      unfold ageAt AwareDatetime.timestamp at hage
      push_cast
      linarith
    have hround := PyFloat.roundHalfEven_mono hwindow
    rw [PyFloat.roundHalfEven_intCast] at hround
    have hmicros : (⟨now.localMicros + PyFloat.roundHalfEven (-settings.window * 1000000),
        now.utcoffset⟩ : AwareDatetime).instantMicros ≤ a.instantMicros := by
      simp only [AwareDatetime.instantMicros] at hround ⊢
      omega
    unfold AwareDatetime.timestamp
    have hcast := Int.cast_le (R := ℚ).2 hmicros
    linarith
  · cases hcutoff

theorem mem_prune_seen {s : SeenEntry} :
    s ∈ (rule.prune cutoff).seen.rows ↔
      s ∈ rule.seen.rows ∧ cutoff.timestamp ≤ s.admittedAt.timestamp := by
  simp [InspectionRule.prune, Table.deleteWhere, List.mem_filter]

theorem mem_prune_bottles {b : BottleEntry} :
    b ∈ (rule.prune cutoff).bottles.rows ↔
      b ∈ rule.bottles.rows ∧ cutoff.timestamp ≤ b.admittedAt.timestamp := by
  simp [InspectionRule.prune, Table.deleteWhere, List.mem_filter]

/-- The other rows of a table stay when one is added. -/
theorem mem_replace_of_unlisted {κ ρ : Type} [DecidableEq κ] {key : ρ → κ} {t : Table key}
    {r x : ρ} (hx : x ∈ t.rows) (hnone : t.lookup (key r) = none) : x ∈ (t.replace r).rows := by
  have hne : key x ≠ key r := Table.lookup_eq_none_iff.1 hnone x hx
  simp [Table.replace, hx, hne]

/-- **An identity outlives every call of its window**, -/
theorem seen_inspect {s : SeenEntry} (hs : s ∈ rule.seen.rows)
    (hage : ageAt c.now s.admittedAt ≤ settings.window) :
    s ∈ (inspect settings rule c).seen.rows := by
  have hcase : UpdateCase settings rule c (inspect settings rule c) := update_case
  have hkept {cutoff : AwareDatetime} (hlooks : LooksUp settings c cutoff) :
      s ∈ (rule.prune cutoff).seen.rows :=
    mem_prune_seen.2 ⟨hs, cutoff_le hlooks.cutoff_eq hage⟩
  generalize inspect settings rule c = t at hcase ⊢
  cases hcase with
  | idle decision refused blind => exact hs
  | dropped cutoff looks decision refused => exact hkept looks
  | heard cutoff looks decision refused head moves => exact hkept looks
  | admitted cutoff looks decision accepted head moves sequence unseen unlisted room =>
      exact mem_replace_of_unlisted (hkept looks) unseen

/-- and so does a bottle. -/
theorem bottles_inspect {b : BottleEntry} (hb : b ∈ rule.bottles.rows)
    (hage : ageAt c.now b.admittedAt ≤ settings.window) :
    b ∈ (inspect settings rule c).bottles.rows := by
  have hcase : UpdateCase settings rule c (inspect settings rule c) := update_case
  have hkept {cutoff : AwareDatetime} (hlooks : LooksUp settings c cutoff) :
      b ∈ (rule.prune cutoff).bottles.rows :=
    mem_prune_bottles.2 ⟨hb, cutoff_le hlooks.cutoff_eq hage⟩
  generalize inspect settings rule c = t at hcase ⊢
  cases hcase with
  | idle decision refused blind => exact hb
  | dropped cutoff looks decision refused => exact hkept looks
  | heard cutoff looks decision refused head moves => exact hkept looks
  | admitted cutoff looks decision accepted head moves sequence unseen unlisted room =>
      exact mem_replace_of_unlisted (hkept looks) unlisted

/-- What an admission finds and leaves behind. -/
theorem admits_case (h : Admits settings rule c) :
    ∃ cutoff, LooksUp settings c cutoff ∧ sequenceNumber c.event.inspectionId ≠ 0 ∧
      (rule.prune cutoff).seen.lookup c.event.inspectionId = none ∧
      (rule.prune cutoff).bottles.lookup (c.event.session, c.event.bottleId) = none ∧
      ⟨c.event.inspectionId, c.now, c.event⟩ ∈ (inspect settings rule c).seen.rows ∧
      ⟨(c.event.session, c.event.bottleId), c.now⟩ ∈
        (inspect settings rule c).bottles.rows := by
  unfold Admits at h
  have hcase : UpdateCase settings rule c (inspect settings rule c) := update_case
  generalize inspect settings rule c = t at h hcase ⊢
  cases hcase with
  | idle decision refused blind => exact absurd (refused.symm.trans h) (by decide)
  | dropped cutoff looks decision refused => exact absurd (refused.symm.trans h) (by decide)
  | heard cutoff looks decision refused head moves =>
      exact absurd (refused.symm.trans h) (by decide)
  | admitted cutoff looks decision accepted head moves sequence unseen unlisted room =>
      refine ⟨cutoff, looks, sequence, unseen, unlisted, ?_, ?_⟩
      · exact List.mem_append_right _ (List.mem_singleton.2 rfl)
      · exact List.mem_append_right _ (List.mem_singleton.2 rfl)

end Window

/-! ## The bounds of the tables -/

/-- No table exceeds the capacity, and a bottle stands beside an identity of its age. -/
structure RuleInv (rule : InspectionRule) : Prop where
  seen_le : rule.seen.rows.length ≤ rule.capacity
  heads_le : rule.heads.rows.length ≤ rule.capacity
  beside : ∀ b ∈ rule.bottles.rows, ∃ s ∈ rule.seen.rows,
    (s.event.session, s.event.bottleId) = b.key ∧ s.admittedAt = b.admittedAt

namespace RuleInv

variable {settings} {rule : InspectionRule} {c : InspectionCall} {cutoff : AwareDatetime}

/-- There are no more bottles than identities. -/
theorem bottles_le (h : RuleInv rule) : rule.bottles.rows.length ≤ rule.capacity := by
  have hsubset : rule.bottles.rows.map BottleEntry.key ⊆
      rule.seen.rows.map fun s => (s.event.session, s.event.bottleId) := by
    intro k hk
    obtain ⟨b, hb, rfl⟩ := List.mem_map.1 hk
    obtain ⟨s, hs, hkey, -⟩ := h.beside b hb
    exact List.mem_map.2 ⟨s, hs, hkey⟩
  have hlength := (List.subperm_of_subset rule.bottles.keys_nodup hsubset).length_le
  rw [List.length_map, List.length_map] at hlength
  exact hlength.trans h.seen_le

theorem initial (capacity : ℕ) (capacity_pos : 1 ≤ capacity) :
    RuleInv (.withCapacity capacity capacity_pos) where
  seen_le := Nat.zero_le _
  heads_le := Nat.zero_le _
  beside b hb := by cases hb

theorem prune (h : RuleInv rule) (cutoff : AwareDatetime) : RuleInv (rule.prune cutoff) where
  seen_le := (List.length_filter_le _ _).trans h.seen_le
  heads_le := (List.length_filter_le _ _).trans h.heads_le
  beside b hb := by
    obtain ⟨hb, hcutoff⟩ := mem_prune_bottles.1 hb
    obtain ⟨s, hs, hkey, hage⟩ := h.beside b hb
    exact ⟨s, mem_prune_seen.2 ⟨hs, hage ▸ hcutoff⟩, hkey, hage⟩

/-- A row that is replaced makes room for itself. -/
theorem length_replace {κ ρ : Type} [DecidableEq κ] {key : ρ → κ} {t : Table key} {r : ρ}
    {capacity : ℕ} (hle : t.rows.length ≤ capacity)
    (hroom : t.lookup (key r) = none → t.rows.length < capacity) :
    (t.replace r).rows.length ≤ capacity := by
  simp only [Table.replace, List.length_append, List.length_singleton]
  cases hr : t.lookup (key r) with
  | none =>
      have hfilter := List.length_filter_le (fun x => !decide (key x = key r)) t.rows
      have hlt := hroom hr
      omega
  | some old =>
      have hmem := Table.lookup_mem hr
      have hkey := Table.key_of_lookup hr
      have hlt := (List.length_filter_lt_length_iff_exists
        (p := fun x => !decide (key x = key r))).2 ⟨old, hmem, by simp [hkey]⟩
      omega

theorem head (h : RuleInv rule) {head : HeadEntry} (hmoves : MovesHead rule c head) :
    RuleInv { rule with heads := rule.heads.replace head } where
  seen_le := h.seen_le
  heads_le := length_replace h.heads_le fun hnone => hmoves.room (hmoves.session ▸ hnone)
  beside := h.beside

/-- A call keeps the bounds. -/
theorem inspect (h : RuleInv rule) : RuleInv (inspect settings rule c) := by
  have hcase : UpdateCase settings rule c (Agent.inspect settings rule c) := update_case
  generalize Agent.inspect settings rule c = t at hcase ⊢
  cases hcase with
  | idle decision refused blind => exact ⟨h.seen_le, h.heads_le, h.beside⟩
  | dropped cutoff looks decision refused =>
      have hpruned := h.prune cutoff
      exact ⟨hpruned.seen_le, hpruned.heads_le, hpruned.beside⟩
  | heard cutoff looks decision refused head moves =>
      have hmoved := (h.prune cutoff).head moves
      exact ⟨hmoved.seen_le, hmoved.heads_le, hmoved.beside⟩
  | admitted cutoff looks decision accepted head moves sequence unseen unlisted room =>
      have hpruned := h.prune cutoff
      refine ⟨?_, ((h.prune cutoff).head moves).heads_le, ?_⟩
      · exact length_replace hpruned.seen_le fun _ => room
      · intro b hb
        rcases List.mem_append.1 hb with hb | hb
        · obtain ⟨s, hs, hkey, hage⟩ := hpruned.beside b (List.mem_filter.1 hb).1
          exact ⟨s, mem_replace_of_unlisted hs unseen, hkey, hage⟩
        · obtain rfl := List.mem_singleton.1 hb
          exact ⟨⟨c.event.inspectionId, c.now, c.event⟩,
            List.mem_append_right _ (List.mem_singleton.2 rfl), rfl, rfl⟩

/-- And so does a run. -/
theorem inspectAll (h : RuleInv rule) (calls : List InspectionCall) :
    RuleInv (inspectAll settings rule calls) := by
  induction calls generalizing rule with
  | nil => exact h
  | cons c calls ih => exact ih h.inspect

end RuleInv

/-! ## Runs -/

section Runs

variable {settings} {rule : InspectionRule} {c : InspectionCall}

/-- An identity outlives a run in its window, -/
theorem seen_inspectAll {s : SeenEntry} (hs : s ∈ rule.seen.rows) {calls : List InspectionCall}
    (hage : ∀ c ∈ calls, ageAt c.now s.admittedAt ≤ settings.window) :
    s ∈ (inspectAll settings rule calls).seen.rows := by
  induction calls generalizing rule with
  | nil => exact hs
  | cons c calls ih =>
      have hstep := seen_inspect hs (hage c List.mem_cons_self)
      exact ih hstep fun d hd => hage d (List.mem_cons_of_mem c hd)

/-- and so does a bottle. -/
theorem bottles_inspectAll {b : BottleEntry} (hb : b ∈ rule.bottles.rows)
    {calls : List InspectionCall}
    (hage : ∀ c ∈ calls, ageAt c.now b.admittedAt ≤ settings.window) :
    b ∈ (inspectAll settings rule calls).bottles.rows := by
  induction calls generalizing rule with
  | nil => exact hb
  | cons c calls ih =>
      have hstep := bottles_inspect hb (hage c List.mem_cons_self)
      exact ih hstep fun d hd => hage d (List.mem_cons_of_mem c hd)

theorem capacity_inspectAll (calls : List InspectionCall) :
    (inspectAll settings rule calls).capacity = rule.capacity := by
  induction calls generalizing rule with
  | nil => rfl
  | cons c calls ih =>
      have hrest : (inspectAll settings (inspect settings rule c) calls).capacity = _ := ih
      exact hrest.trans capacity_inspect

/-- A call that retains a session does not lower its head. -/
theorem head_inspect {session : String} {head : HeadEntry}
    (hhead : rule.heads.lookup session = some head) (hretains : Retains settings c head) :
    ∃ head', (inspect settings rule c).heads.lookup session = some head' ∧
      head.sequence ≤ head'.sequence := by
  have hcase : UpdateCase settings rule c (inspect settings rule c) := update_case
  have hkept {cutoff : AwareDatetime} (hlooks : LooksUp settings c cutoff) :
      (rule.prune cutoff).heads.lookup session = some head := by
    have hcutoff := hretains cutoff hlooks
    simp [InspectionRule.prune, Table.lookup_deleteWhere, hhead, Option.filter, hcutoff]
  have hmoved {cutoff : AwareDatetime} (hlooks : LooksUp settings c cutoff) {new : HeadEntry}
      (hmoves : MovesHead (rule.prune cutoff) c new) :
      ∃ head', ((rule.prune cutoff).heads.replace new).lookup session = some head' ∧
        head.sequence ≤ head'.sequence := by
    rw [Table.lookup_replace]
    by_cases hsession : new.session = session
    · have habove := hmoves.above head (by rw [← hmoves.session, hsession, hkept hlooks])
      exact ⟨new, if_pos hsession, habove⟩
    · exact ⟨head, (if_neg hsession).trans (hkept hlooks), le_refl _⟩
  generalize inspect settings rule c = t at hcase ⊢
  cases hcase with
  | idle decision refused blind => exact ⟨head, hhead, le_refl _⟩
  | dropped cutoff looks decision refused => exact ⟨head, hkept looks, le_refl _⟩
  | heard cutoff looks decision refused new moves => exact hmoved looks moves
  | admitted cutoff looks decision accepted new moves sequence unseen unlisted room =>
      exact hmoved looks moves

/-- And while its session is retained, no run does. -/
theorem head_inspectAll {session : String} {head : HeadEntry}
    (hhead : rule.heads.lookup session = some head) {calls : List InspectionCall}
    (hretains : ∀ before c after head, calls = before ++ c :: after →
      (inspectAll settings rule before).heads.lookup session = some head →
      Retains settings c head) :
    ∃ head', (inspectAll settings rule calls).heads.lookup session = some head' ∧
      head.sequence ≤ head'.sequence := by
  induction calls generalizing rule head with
  | nil => exact ⟨head, hhead, le_refl _⟩
  | cons c calls ih =>
      have hfirst := hretains [] c calls head rfl hhead
      obtain ⟨next, hnext, hle⟩ := head_inspect hhead hfirst
      have hrest : ∃ head', (inspectAll settings (inspect settings rule c) calls).heads.lookup
          session = some head' ∧ next.sequence ≤ head'.sequence :=
        ih hnext fun before d after head' heq hlookup =>
          hretains (c :: before) d after head' (by rw [heq]; rfl) hlookup
      obtain ⟨last, hlast, hle'⟩ := hrest
      exact ⟨last, hlast, hle.trans hle'⟩

theorem inspectAll_append (calls calls' : List InspectionCall) :
    inspectAll settings rule (calls ++ calls') =
      inspectAll settings (inspectAll settings rule calls) calls' :=
  List.foldl_append

end Runs

/-- A new rule after some calls. -/
def ruleAfter (capacity : ℕ) (capacity_pos : 1 ≤ capacity) (calls : List InspectionCall) :
    InspectionRule :=
  inspectAll settings (.withCapacity capacity capacity_pos) calls

section Decisions

variable {settings} {capacity : ℕ} {capacity_pos : 1 ≤ capacity} {calls before between after :
  List InspectionCall} {c c' : InspectionCall}
  (hmono : calls.Pairwise fun c c' => c.now.timestamp ≤ c'.now.timestamp)
  (hcalls : calls = before ++ c :: between ++ c' :: after)
  (hage : ageAt c'.now c.now ≤ settings.window)
include hmono hcalls hage

/-- The calls up to the end of a window lie in it. -/
theorem between_in_window (d : InspectionCall) (hd : d ∈ between) :
    ageAt d.now c.now ≤ settings.window := by
  rw [hcalls] at hmono
  have hle := (List.pairwise_append.1 hmono).2.2 d
    (List.mem_append_right _ (List.mem_cons_of_mem c hd)) c' List.mem_cons_self
  have hrest : ageAt d.now c.now ≤ ageAt c'.now c.now := by
    unfold ageAt
    linarith
  exact hrest.trans hage

/-- What was admitted is still there at the end of its window. -/
theorem admitted_in_window
    (hadmits : Admits settings (ruleAfter settings capacity capacity_pos before) c) :
    ⟨c.event.inspectionId, c.now, c.event⟩ ∈
        (ruleAfter settings capacity capacity_pos (before ++ c :: between)).seen.rows ∧
      ⟨(c.event.session, c.event.bottleId), c.now⟩ ∈
        (ruleAfter settings capacity capacity_pos (before ++ c :: between)).bottles.rows := by
  obtain ⟨-, -, -, -, -, hseen, hbottles⟩ := admits_case hadmits
  have hwindow := between_in_window hmono hcalls hage
  rw [ruleAfter, inspectAll_append]
  exact ⟨seen_inspectAll hseen hwindow, bottles_inspectAll hbottles hwindow⟩

end Decisions

/-- Two admissions are of different events, and of one bottle of a session only when they
are more than the window apart. -/
def AdmitsOnce (capacity : ℕ) (capacity_pos : 1 ≤ capacity) (calls : List InspectionCall) : Prop :=
  ∀ before c between c' after, calls = before ++ c :: between ++ c' :: after →
    Admits settings (ruleAfter settings capacity capacity_pos before) c →
    Admits settings (ruleAfter settings capacity capacity_pos (before ++ c :: between)) c' →
    inspectionEq c.event c'.event = false ∧
      (c.event.session = c'.event.session → c.event.bottleId = c'.event.bottleId →
        settings.window < ageAt c'.now c.now)

/-- An identity is known to every call of its window: it stays in the table, and a call
that looks it up is answered with what it is known by. -/
def Recognises (capacity : ℕ) (capacity_pos : 1 ≤ capacity) (calls : List InspectionCall) : Prop :=
  ∀ before c between c' after, calls = before ++ c :: between ++ c' :: after →
    Admits settings (ruleAfter settings capacity capacity_pos before) c →
    ageAt c'.now c.now ≤ settings.window →
    (ruleAfter settings capacity capacity_pos (before ++ c :: between ++ [c'])).seen.lookup
        c.event.inspectionId = some ⟨c.event.inspectionId, c.now, c.event⟩ ∧
      ∀ cutoff, LooksUp settings c' cutoff → c'.event.inspectionId = c.event.inspectionId →
        (ruleAfter settings capacity capacity_pos
            (before ++ c :: between ++ [c'])).lastDecision.reason =
          if inspectionEq c.event c'.event then .duplicate else .identityConflict

/-- While a session is retained its greatest sequence does not decrease. -/
def HeadsRise (capacity : ℕ) (capacity_pos : 1 ≤ capacity) (calls : List InspectionCall) : Prop :=
  ∀ before between after session head, calls = before ++ between ++ after →
    (ruleAfter settings capacity capacity_pos before).heads.lookup session = some head →
    (∀ between' c after' head', between = between' ++ c :: after' →
      (ruleAfter settings capacity capacity_pos (before ++ between')).heads.lookup session =
        some head' → Retains settings c head') →
    ∃ head', (ruleAfter settings capacity capacity_pos (before ++ between)).heads.lookup session =
      some head' ∧ head.sequence ≤ head'.sequence

/-- For every capacity of at least one and every sequence of calls whose clock does not go
back: an event is admitted once, and a bottle of a session once a window; no table ever
exceeds the capacity; an admitted identity is recognised throughout its window, and a
retained session never goes back. -/
theorem inspection_rule_once (capacity : ℕ) (capacity_pos : 1 ≤ capacity)
    (calls : List InspectionCall)
    (hmono : calls.Pairwise fun c c' => c.now.timestamp ≤ c'.now.timestamp) :
    AdmitsOnce settings capacity capacity_pos calls ∧
    (∀ before after, calls = before ++ after →
      (ruleAfter settings capacity capacity_pos before).seen.rows.length ≤ capacity ∧
      (ruleAfter settings capacity capacity_pos before).bottles.rows.length ≤ capacity ∧
      (ruleAfter settings capacity capacity_pos before).heads.rows.length ≤ capacity) ∧
    Recognises settings capacity capacity_pos calls ∧
    HeadsRise settings capacity capacity_pos calls := by
  refine ⟨?_, ?_, ?_, ?_⟩
  · intro before c between c' after hcalls hc hc'
    obtain ⟨cutoff, hlooks, -, hunseen, hunlisted, -⟩ := admits_case hc'
    have hlate (hage : ageAt c'.now c.now ≤ settings.window) :
        c'.event.inspectionId ≠ c.event.inspectionId ∧
          (c'.event.session, c'.event.bottleId) ≠ (c.event.session, c.event.bottleId) := by
      obtain ⟨hseen, hbottle⟩ := admitted_in_window hmono hcalls hage hc
      have hcutoff := cutoff_le hlooks.cutoff_eq hage
      exact ⟨fun heq => Table.lookup_eq_none_iff.1 hunseen _ (mem_prune_seen.2 ⟨hseen, hcutoff⟩)
          heq.symm,
        fun heq => Table.lookup_eq_none_iff.1 hunlisted _
          (mem_prune_bottles.2 ⟨hbottle, hcutoff⟩) heq.symm⟩
    refine ⟨?_, fun hsession hbottle => ?_⟩
    · by_contra hsame
      simp only [Bool.not_eq_false, inspectionEq, Bool.and_eq_true, beq_iff_eq] at hsame
      obtain ⟨⟨⟨hid, -⟩, -⟩, hinstant⟩ := hsame
      obtain ⟨_, hfirst, -⟩ := admits_case hc
      have hage : ageAt c'.now c.now ≤ settings.window := by
        have htime := AwareDatetime.timestamp_eq_iff.2 hinstant
        have hold := AwareDatetime.totalSeconds_nonneg_iff.1 hfirst.fresh.1
        have hnew := ageAt_lt_five hlooks.fresh.2
        have hpos := settings.inspectionMaxAgeS_pos
        unfold ageAt at hnew ⊢
        unfold DecisionAgentSettings.window
        linarith
      exact (hlate hage).1 hid.symm
    · by_contra hage
      exact (hlate (not_lt.1 hage)).2 (by rw [hsession, hbottle])
  · intro before after _
    have hinv : RuleInv (ruleAfter settings capacity capacity_pos before) :=
      (RuleInv.initial capacity capacity_pos).inspectAll before
    have hcapacity : (ruleAfter settings capacity capacity_pos before).capacity = capacity :=
      capacity_inspectAll before
    exact ⟨hinv.seen_le.trans_eq hcapacity, hinv.bottles_le.trans_eq hcapacity,
      hinv.heads_le.trans_eq hcapacity⟩
  · intro before c between c' after hcalls hc hage
    obtain ⟨hseen, -⟩ := admitted_in_window hmono hcalls hage hc
    have hlast : ruleAfter settings capacity capacity_pos (before ++ c :: between ++ [c']) =
        inspect settings (ruleAfter settings capacity capacity_pos (before ++ c :: between)) c' :=
      inspectAll_append _ [c']
    rw [hlast]
    refine ⟨Table.lookup_eq_some_iff.2 ⟨seen_inspect hseen hage, rfl⟩, ?_⟩
    intro cutoff hlooks hid
    obtain ⟨_, -, hsequence, -⟩ := admits_case hc
    have hpruned := mem_prune_seen.2 ⟨hseen, cutoff_le hlooks.cutoff_eq hage⟩
    have hlookup := Table.lookup_eq_some_iff.2 ⟨hpruned, hid.symm⟩
    rw [inspect_of_seen hlooks (hid ▸ hsequence) hlookup]
    rfl
  · intro before between after session head _ hhead hretains
    rw [ruleAfter, inspectAll_append]
    refine head_inspectAll hhead fun between' c after' head' heq hlookup => ?_
    refine hretains between' c after' head' heq ?_
    rw [ruleAfter, inspectAll_append]
    exact hlookup

namespace TwoDeliveries

/-! One inspection, delivered twice within a second, to a rule with room for one. -/

def inspectedAt : AwareDatetime := ⟨1782900000000000, 0⟩

def delivered (second : ℤ) : InspectionCall where
  event := ⟨"0123456789abcdef:0001", 7, false, inspectedAt⟩
  now := ⟨1782900000000000 + 1000000 * second, 0⟩
  freshId := "01ARZ3NDEKTSV4RRFFQ69G5FAV"

end TwoDeliveries

/-- The second delivery is a duplicate. -/
theorem inspection_rule_once_example :
    (ruleAfter defaultSettings 1 (le_refl 1)
      [TwoDeliveries.delivered 0, TwoDeliveries.delivered 1]).lastDecision.reason = .duplicate := by
  have hmono : [TwoDeliveries.delivered 0, TwoDeliveries.delivered 1].Pairwise
      fun c c' => c.now.timestamp ≤ c'.now.timestamp := by decide +kernel
  have hadmits : Admits defaultSettings (ruleAfter defaultSettings 1 (le_refl 1) [])
      (TwoDeliveries.delivered 0) := by
    unfold Admits
    decide +kernel
  have hlooks : LooksUp defaultSettings (TwoDeliveries.delivered 1)
      ⟨1782900001000000 - 12000000, 0⟩ :=
    ⟨rfl, by decide +kernel, by decide +kernel⟩
  exact ((inspection_rule_once defaultSettings 1 (le_refl 1) _ hmono).2.2.1 []
    (TwoDeliveries.delivered 0) [] (TwoDeliveries.delivered 1) [] rfl hadmits
    (by decide +kernel)).2 _ hlooks rfl

end EirvahEdge.Agent
