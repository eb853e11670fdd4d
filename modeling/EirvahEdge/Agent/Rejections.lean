import EirvahEdge.Agent.Tracking
import EirvahEdge.Lib.Run

/-!
# What becomes of a rejection

`RejectionTracker` waits for an acknowledgement and for two feedback streams,
which come in any order, and gives up ten seconds after the deadline.  Several
pending rejections share the feedback cells.

Every rejection is reported at most once, and reported as confirmed only on the
evidence for it.  A loop over the pending entries ends where one of them raises,
so an overdue entry can stay behind such an entry: `accounted_iff_guarded` says
in which runs none does.
-/

namespace EirvahEdge.Agent

open EirvahEdge.Lib
open EirvahEdge.Contracts
open EirvahEdge.Recovery

/-! ## Calls -/

/-- A call of the tracker. -/
inductive RejectionCall where
  | add (request : ActuationRequest) (inspection : BottleInspection) (baselineCount : Option ℤ)
  | result (result : List (String × Json)) (now : Datetime)
  | feedback (kind : String) (value : ℤ) (observedAt now : Datetime)
  | expire (now : Datetime)
deriving DecidableEq

/-- The time a call is given. -/
def RejectionCall.time : RejectionCall → Option Datetime
  | .add _ _ _ => none
  | .result _ now => some now
  | .feedback _ _ _ now => some now
  | .expire now => some now

/-- What a call does. -/
def RejectionTracker.call (tracker : RejectionTracker) :
    RejectionCall → RejectionTracker × Except PyError (List Outcome)
  | .add request inspection baselineCount =>
      let r := tracker.add ⟨request, inspection, baselineCount, false⟩
      (r.1, r.2.map fun _ => [])
  | .result result now => tracker.result result now
  | .feedback kind value observedAt now => tracker.feedback kind value observedAt now
  | .expire now => tracker.expire now

theorem RejectionTracker.call_add_full {t : RejectionTracker} {request : ActuationRequest}
    {inspection : BottleInspection} {baselineCount : Option ℤ}
    (h : t.capacity ≤ t.pending.rows.length) :
    t.call (.add request inspection baselineCount) =
      (t, .error (valueError "rejection tracker at capacity")) := by
  simp only [call, add, if_pos h]
  rfl

theorem RejectionTracker.call_add_room {t : RejectionTracker} {request : ActuationRequest}
    {inspection : BottleInspection} {baselineCount : Option ℤ}
    (h : ¬ t.capacity ≤ t.pending.rows.length) :
    t.call (.add request inspection baselineCount) =
      ({ t with
          pending := t.pending.replace (.mk request inspection baselineCount false) },
        .ok []) := by
  simp only [call, add, if_neg h]
  rfl

/-- The outcomes a call returns. -/
def outcomesOf : Except PyError (List Outcome) → List Outcome
  | .ok outcomes => outcomes
  | .error _ => []

/-- The entry a call adds, unless it is refused. -/
def addedBy (call : RejectionCall) (answer : Except PyError (List Outcome)) :
    List PendingRejection :=
  match call, answer with
  | .add request inspection baselineCount, .ok _ =>
      [⟨request, inspection, baselineCount, false⟩]
  | _, _ => []

/-- A tracker with the entries that were added to it, the calls made, the latest
first, and every outcome returned beside the calls made until then. -/
structure RejectionRun where
  tracker : RejectionTracker
  added : List PendingRejection
  calls : List RejectionCall
  outcomes : List (Outcome × List RejectionCall)

def RejectionRun.initial (capacity : ℕ) : RejectionRun := ⟨.new capacity, [], [], []⟩

/-- A call adds an id that was added before. -/
def isReused (s : RejectionRun) : RejectionCall → Bool
  | .add request _ _ => s.added.any fun e => e.key == request.correlationId
  | _ => false

/-- One call; ids are added once. -/
def rejectionStep (s : RejectionRun) (call : RejectionCall) : Option RejectionRun :=
  if isReused s call then none
  else
    let r := s.tracker.call call
    some
      { tracker := r.1
        added := addedBy call r.2 ++ s.added
        calls := call :: s.calls
        outcomes := s.outcomes ++ (outcomesOf r.2).map fun o => (o, call :: s.calls) }

/-! ## What is promised -/

/-- An earlier result approved a command and says when it was written. -/
def Approved (calls : List RejectionCall) (key : String) : Prop :=
  ∃ result now, RejectionCall.result result now ∈ calls ∧
    getMember result "correlation_id" = some (.str key) ∧
    getMember result "decision" = some (.str "approve") ∧
    truthy (getMember result "written_at") = true

/-- A value was fed back. -/
def Observed (calls : List RejectionCall) (kind : String) (value : ℤ) (observedAt : Datetime) :
    Prop :=
  ∃ now, RejectionCall.feedback kind value observedAt now ∈ calls

/-- `x >= y` on datetimes that can be compared. -/
def NotBefore : Datetime → Datetime → Prop
  | .aware x, .aware y => y.timestamp ≤ x.timestamp
  | .naive x, .naive y => y ≤ x
  | _, _ => False

/-- The evidence that a rejection took place. -/
structure Justified (calls : List RejectionCall) (entry : PendingRejection) : Prop where
  approved : Approved calls entry.key
  bottle : ∃ observedAt, Observed calls "bottle" entry.inspection.bottleId observedAt ∧
    NotBefore observedAt entry.request.requestedAt
  count : ∃ value baseline observedAt, Observed calls "count" value observedAt ∧
    entry.baselineCount = some baseline ∧ baseline < value ∧
    NotBefore observedAt entry.request.requestedAt

/-- An outcome, returned after some calls, is that of an entry. -/
structure Reports (calls : List RejectionCall) (outcome : Outcome) (entry : PendingRejection) :
    Prop where
  inspection : outcome.1 = entry.inspection.inspectionId
  justified : outcome.2 = .confirmed → Justified calls entry

/-- `deadline + timedelta(seconds=10) >= now`. -/
def Timely (now : Datetime) (entry : PendingRejection) : Prop :=
  match entry.closingTime, now with
  | .aware deadline, .aware now => now.timestamp ≤ deadline.timestamp + 10
  | .naive deadline, .naive now => now ≤ deadline + 10000000
  | _, _ => False

/-- What a run keeps: every outcome is that of an entry that was added, no entry has two, a
confirmed one is justified, and there is room. -/
structure Accounted (s : RejectionRun) : Prop where
  within : s.tracker.pending.rows.length ≤ s.tracker.capacity
  reported : ∃ reported : List PendingRejection,
    List.Forall₂ (fun o entry => Reports o.2 o.1 entry) s.outcomes reported ∧
      (reported.map PendingRejection.key).Nodup ∧ ∀ entry ∈ reported, entry ∈ s.added

/-- What is still pending after a call at some time is not overdue at that time. -/
def AllTimely (s : RejectionRun) : Prop :=
  ∀ call ∈ s.calls.head?, ∀ now ∈ call.time, ∀ entry ∈ s.tracker.pending.rows, Timely now entry

instance (now : Datetime) (entry : PendingRejection) : Decidable (Timely now entry) :=
  match h : entry.closingTime, now with
  | .aware deadline, .aware now =>
      decidable_of_iff (now.timestamp ≤ deadline.timestamp + 10) (by simp [Timely, h])
  | .naive deadline, .naive now =>
      decidable_of_iff (now ≤ deadline + 10000000) (by simp [Timely, h])
  | .aware _, .naive _ => isFalse (by simp [Timely, h])
  | .naive _, .aware _ => isFalse (by simp [Timely, h])

instance (s : RejectionRun) : Decidable (AllTimely s) :=
  inferInstanceAs (Decidable (∀ call ∈ s.calls.head?, ∀ now ∈ call.time,
    ∀ entry ∈ s.tracker.pending.rows, Timely now entry))

/-! ## One loop -/

/-- The entry as it was added. -/
def PendingRejection.asAdded (entry : PendingRejection) : PendingRejection :=
  { entry with acknowledged := false }

@[simp] theorem PendingRejection.key_asAdded (entry : PendingRejection) :
    entry.asAdded.key = entry.key := rfl

namespace RejectionTracker

/-- What a loop does with an entry: it goes on, closes it, or ends there. -/
def closing (closes : PendingRejection → Except PyError Bool) (entry : PendingRejection) :
    Except PyError Bool :=
  match closes entry with
  | .ok true => (recordCommand entry.request).map fun _ => true
  | r => r

theorem closes_of_closing {closes : PendingRejection → Except PyError Bool}
    {entry : PendingRejection} (h : closing closes entry = .ok true) :
    closes entry = .ok true := by
  unfold closing at h
  split at h
  · assumption
  · exact h

theorem sweep_cons (closes : PendingRejection → Except PyError Bool) (outcome : RejectionOutcome)
    (entry : PendingRejection) (entries : List PendingRejection) (t : RejectionTracker) :
    sweep closes outcome (entry :: entries) t =
      match closing closes entry with
      | .error e => (t, .error e)
      | .ok false => sweep closes outcome entries t
      | .ok true =>
          andThen (sweep closes outcome entries (t.drop entry.key)) fun t outcomes =>
            (t, .ok ((entry.inspection.inspectionId, outcome) :: outcomes)) := by
  rw [sweep, closing]
  cases closes entry with
  | error e => rfl
  | ok b =>
      cases b with
      | false => rfl
      | true =>
          cases recordCommand entry.request with
          | error e => rfl
          | ok u => rfl

theorem mem_drop {t : RejectionTracker} {key : String} {e : PendingRejection} :
    e ∈ (t.drop key).pending.rows ↔ e ∈ t.pending.rows ∧ e.key ≠ key := by
  simp [drop, Table.deleteWhere]

/-- What is left was there, and a loop changes nothing but the pending entries. -/
theorem sweep_rest (closes : PendingRejection → Except PyError Bool) (outcome : RejectionOutcome)
    (entries : List PendingRejection) (t : RejectionTracker) :
    (∀ e ∈ (sweep closes outcome entries t).1.pending.rows, e ∈ t.pending.rows) ∧
      (sweep closes outcome entries t).1.cells = t.cells ∧
      (sweep closes outcome entries t).1.capacity = t.capacity := by
  induction entries generalizing t with
  | nil => exact ⟨fun _ h => h, rfl, rfl⟩
  | cons x xs ih =>
      rw [sweep_cons]
      split
      · exact ⟨fun _ h => h, rfl, rfl⟩
      · exact ih t
      · obtain ⟨hrows, hcells, hcapacity⟩ := ih (t.drop x.key)
        rw [andThen_answer_fst]
        exact ⟨fun e he => (mem_drop.1 (hrows e he)).1, hcells, hcapacity⟩

/-- Where a loop ends early, it leaves the entry it ended at and those after it. -/
theorem mem_sweep_of_stop {closes : PendingRejection → Except PyError Bool}
    {outcome : RejectionOutcome} {before after : List PendingRejection} {stop : PendingRejection}
    {t : RejectionTracker} {error : PyError} (hstop : closing closes stop = .error error)
    (hkeys : ((before ++ stop :: after).map PendingRejection.key).Nodup)
    {e : PendingRejection} (he : e ∈ stop :: after) (hrows : e ∈ t.pending.rows) :
    e ∈ (sweep closes outcome (before ++ stop :: after) t).1.pending.rows := by
  induction before generalizing t with
  | nil =>
      rw [List.nil_append, sweep_cons, hstop]
      exact hrows
  | cons x xs ih =>
      rw [List.cons_append, List.map_cons, List.nodup_cons] at hkeys
      have hne : e.key ≠ x.key := by
        intro h
        exact hkeys.1 (h ▸ List.mem_map_of_mem (List.mem_append_right _ he))
      rw [List.cons_append, sweep_cons]
      split
      · exact hrows
      · exact ih hkeys.2 hrows
      · rw [andThen_answer_fst]
        exact ih hkeys.2 (mem_drop.2 ⟨hrows, hne⟩)

/-- A loop that meets such an entry answers with an error. -/
theorem sweep_of_stop {closes : PendingRejection → Except PyError Bool}
    {outcome : RejectionOutcome} {before after : List PendingRejection} {stop : PendingRejection}
    {error : PyError} (hstop : closing closes stop = .error error) (t : RejectionTracker) :
    ∃ e, (sweep closes outcome (before ++ stop :: after) t).2 = .error e := by
  induction before generalizing t with
  | nil =>
      rw [List.nil_append, sweep_cons, hstop]
      exact ⟨error, rfl⟩
  | cons x xs ih =>
      rw [List.cons_append, sweep_cons]
      split
      · next e _ => exact ⟨e, rfl⟩
      · exact ih t
      · obtain ⟨e, he⟩ := ih (t.drop x.key)
        refine ⟨e, ?_⟩
        generalize sweep closes outcome (xs ++ stop :: after) (t.drop x.key) = r at he ⊢
        obtain ⟨t', answer⟩ := r
        subst he
        rfl

/-- An entry that a loop looked at is left because it is to stay, or because the loop
ended at it or before it. -/
theorem stays_or_stopped {closes : PendingRejection → Except PyError Bool}
    {outcome : RejectionOutcome} {entries : List PendingRejection} {t : RejectionTracker}
    {e : PendingRejection} (he : e ∈ entries)
    (hrows : e ∈ (sweep closes outcome entries t).1.pending.rows) :
    closing closes e = .ok false ∨
      ∃ before stop after error, entries = before ++ stop :: after ∧
        closing closes stop = .error error ∧ e ∈ stop :: after := by
  induction entries generalizing t with
  | nil => exact absurd he List.not_mem_nil
  | cons x xs ih =>
      have later : ∀ t' : RejectionTracker, e ∈ xs →
          e ∈ (sweep closes outcome xs t').1.pending.rows →
          closing closes e = .ok false ∨
            ∃ before stop after error, x :: xs = before ++ stop :: after ∧
              closing closes stop = .error error ∧ e ∈ stop :: after := by
        intro t' hxs ht'
        rcases ih hxs ht' with hstays | ⟨before, stop, after, error, rfl, hstop, hafter⟩
        · exact Or.inl hstays
        · exact Or.inr ⟨x :: before, stop, after, error, rfl, hstop, hafter⟩
      rw [sweep_cons] at hrows
      split at hrows
      · next error hx => exact Or.inr ⟨[], x, xs, error, rfl, hx, he⟩
      · next hx =>
          rcases List.mem_cons.1 he with rfl | hxs
          · exact Or.inl hx
          · exact later t hxs hrows
      · rw [andThen_answer_fst] at hrows
        have hne : e.key ≠ x.key := (mem_drop.1 ((sweep_rest _ _ _ _).1 e hrows)).2
        rcases List.mem_cons.1 he with rfl | hxs
        · exact absurd rfl hne
        · exact later _ hxs hrows

end RejectionTracker

/-! ## Evidence -/

section Evidence

variable {calls : List RejectionCall}

theorem notBefore_of_isAfter {x y : Datetime} (h : isAfter x y = .ok false) : NotBefore y x := by
  cases x with
  | aware x =>
      cases y with
      | aware y => simpa [isAfter, NotBefore] using h
      | naive y => cases h
  | naive x =>
      cases y with
      | aware y => cases h
      | naive y => simpa [isAfter, NotBefore] using h

theorem notBefore_of_isAfterRequest {entry : PendingRejection} {observedAt : Datetime}
    (h : entry.isAfterRequest observedAt = .ok true) :
    NotBefore observedAt entry.request.requestedAt := by
  obtain ⟨b, hb, hnot⟩ := map_eq_ok.1 h
  have hfalse : b = false := by simpa using hnot
  subst hfalse
  exact notBefore_of_isAfter hb

/-- What `_confirm` asks of an entry. -/
structure Confirms (bottle count : FeedbackCell) (entry : PendingRejection) : Prop where
  acknowledged : entry.acknowledged = true
  identity : bottle.value = entry.inspection.bottleId
  above : ∃ baseline, entry.baselineCount = some baseline ∧ baseline < count.value
  bottleAfter : NotBefore bottle.observedAt entry.request.requestedAt
  countAfter : NotBefore count.observedAt entry.request.requestedAt

theorem confirms_of_isConfirmed {bottle count : FeedbackCell} {entry : PendingRejection}
    (h : entry.isConfirmed bottle count = .ok true) : Confirms bottle count entry := by
  unfold PendingRejection.isConfirmed at h
  split at h
  · cases h
  · next hasked =>
      have hacknowledged : entry.acknowledged = true ∧
          bottle.value = entry.inspection.bottleId := by simpa using hasked
      obtain ⟨above, habove, h⟩ := bind_eq_ok.1 h
      split at h
      · cases h
      · next hgrown =>
          have htrue : above = true := by simpa using hgrown
          subst htrue
          have hbaseline : ∃ baseline, entry.baselineCount = some baseline ∧
              baseline < count.value := by
            unfold PendingRejection.isAboveBaseline at habove
            split at habove
            · next baseline hbaseline => exact ⟨baseline, hbaseline, by simpa using habove⟩
            · cases habove
          obtain ⟨after, hafter, h⟩ := bind_eq_ok.1 h
          split at h
          · cases h
          · next hlater =>
              have htrue : after = true := by simpa using hlater
              subst htrue
              exact
                { acknowledged := hacknowledged.1
                  identity := hacknowledged.2
                  above := hbaseline
                  bottleAfter := notBefore_of_isAfterRequest hafter
                  countAfter := notBefore_of_isAfterRequest h }

/-- The acknowledgements and the cells of a tracker come from calls. -/
structure Recorded (calls : List RejectionCall) (t : RejectionTracker) : Prop where
  approved : ∀ e ∈ t.pending.rows, e.acknowledged = true → Approved calls e.key
  observed : ∀ c ∈ t.cells.rows, Observed calls c.kind c.value c.observedAt

theorem Recorded.cons {t : RejectionTracker} (h : Recorded calls t) (call : RejectionCall) :
    Recorded (call :: calls) t where
  approved := by
    intro e he hacknowledged
    obtain ⟨result, now, hmem, hresult⟩ := h.approved e he hacknowledged
    exact ⟨result, now, List.mem_cons_of_mem _ hmem, hresult⟩
  observed := by
    intro c hc
    obtain ⟨now, hmem⟩ := h.observed c hc
    exact ⟨now, List.mem_cons_of_mem _ hmem⟩

theorem Recorded.observed_of_lookup {t : RejectionTracker} (h : Recorded calls t)
    {kind : String} {cell : FeedbackCell} (hcell : t.cells.lookup kind = some cell) :
    Observed calls kind cell.value cell.observedAt := by
  have hkind : cell.kind = kind := Table.key_of_lookup hcell
  have hobserved := h.observed cell (Table.lookup_mem hcell)
  rw [hkind] at hobserved
  exact hobserved

/-- The condition of `_confirm` is the evidence for a confirmed outcome. -/
theorem Recorded.justified {t : RejectionTracker} (h : Recorded calls t)
    {bottle count : FeedbackCell} (hbottle : t.cells.lookup "bottle" = some bottle)
    (hcount : t.cells.lookup "count" = some count) {e : PendingRejection}
    (he : e ∈ t.pending.rows) (hconfirms : Confirms bottle count e) :
    Justified calls e.asAdded where
  approved := h.approved e he hconfirms.acknowledged
  bottle := by
    have hobserved := h.observed_of_lookup hbottle
    rw [hconfirms.identity] at hobserved
    exact ⟨bottle.observedAt, hobserved, hconfirms.bottleAfter⟩
  count := by
    obtain ⟨baseline, hbaseline, habove⟩ := hconfirms.above
    exact ⟨count.value, baseline, count.observedAt, h.observed_of_lookup hcount, hbaseline,
      habove, hconfirms.countAfter⟩

end Evidence

/-! ## Answers -/

/-- A part of a call closes entries, each with one outcome, and adds none. -/
structure Closes (calls : List RejectionCall) (t t' : RejectionTracker)
    (outcomes : List Outcome) : Prop where
  capacity : t'.capacity = t.capacity
  kept : ∀ e' ∈ t'.pending.rows, ∃ e ∈ t.pending.rows, e.asAdded = e'.asAdded
  recorded : Recorded calls t → Recorded calls t'
  closed : ∃ closed : List PendingRejection, List.Forall₂ (Reports calls) outcomes closed ∧
    (closed.map PendingRejection.key).Nodup ∧
    ∀ c ∈ closed, (∃ e ∈ t.pending.rows, e.asAdded = c) ∧
      ∀ e' ∈ t'.pending.rows, e'.key ≠ c.key

section Answers

variable {calls : List RejectionCall} {t t' t'' : RejectionTracker}
  {outcomes more : List Outcome}

theorem key_eq_of_asAdded {e e' : PendingRejection} (h : e.asAdded = e'.asAdded) :
    e.key = e'.key := by
  rw [← e.key_asAdded, h, e'.key_asAdded]

/-- Without outcomes nothing is closed. -/
theorem closed_nil (calls : List RejectionCall) (t t' : RejectionTracker) :
    ∃ closed : List PendingRejection, List.Forall₂ (Reports calls) [] closed ∧
      (closed.map PendingRejection.key).Nodup ∧
      ∀ c ∈ closed, (∃ e ∈ t.pending.rows, e.asAdded = c) ∧
        ∀ e' ∈ t'.pending.rows, e'.key ≠ c.key :=
  ⟨[], .nil, List.nodup_nil, fun _ hc => absurd hc List.not_mem_nil⟩

theorem Closes.refl (calls : List RejectionCall) (t : RejectionTracker) : Closes calls t t [] where
  capacity := rfl
  kept := fun e he => ⟨e, he, rfl⟩
  recorded := fun h => h
  closed := closed_nil calls t t

/-- What raises later returns none of the outcomes. -/
theorem Closes.silent (h : Closes calls t t' outcomes) : Closes calls t t' [] :=
  { h with closed := closed_nil calls t t' }

/-- Entries that are no longer pending, and then entries that were, have different keys. -/
theorem nodup_keys_append {first second rows : List PendingRejection}
    (hnodup : (first.map PendingRejection.key).Nodup)
    (hnodup' : (second.map PendingRejection.key).Nodup)
    (hgone : ∀ c ∈ first, ∀ e ∈ rows, e.key ≠ c.key)
    (hfrom : ∀ c ∈ second, ∃ e ∈ rows, e.asAdded = c) :
    ((first ++ second).map PendingRejection.key).Nodup := by
  rw [List.map_append]
  refine List.nodup_append.2 ⟨hnodup, hnodup', ?_⟩
  intro k hk k' hk' heq
  obtain ⟨c, hc, rfl⟩ := List.mem_map.1 hk
  obtain ⟨c', hc', rfl⟩ := List.mem_map.1 hk'
  obtain ⟨e, he, rfl⟩ := hfrom c' hc'
  exact hgone c hc e he heq.symm

/-- What is not pending is not pending after a part of a call. -/
theorem Closes.gone (h : Closes calls t t' outcomes) {c : PendingRejection}
    (hgone : ∀ e ∈ t.pending.rows, e.key ≠ c.key) : ∀ e' ∈ t'.pending.rows, e'.key ≠ c.key := by
  intro e' he'
  obtain ⟨e, he, heq⟩ := h.kept e' he'
  rw [← key_eq_of_asAdded heq]
  exact hgone e he

/-- Parts of a call compose: what the first closed, the second does not find. -/
theorem Closes.trans (h : Closes calls t t' outcomes) (h' : Closes calls t' t'' more) :
    Closes calls t t'' (outcomes ++ more) where
  capacity := h'.capacity.trans h.capacity
  kept := by
    intro e'' he''
    obtain ⟨e', he', heq'⟩ := h'.kept e'' he''
    obtain ⟨e, he, heq⟩ := h.kept e' he'
    exact ⟨e, he, heq.trans heq'⟩
  recorded := fun hrecorded => h'.recorded (h.recorded hrecorded)
  closed := by
    obtain ⟨closed, hreports, hnodup, hclosed⟩ := h.closed
    obtain ⟨closed', hreports', hnodup', hclosed'⟩ := h'.closed
    refine ⟨closed ++ closed', List.rel_append hreports hreports', ?_, ?_⟩
    · exact nodup_keys_append hnodup hnodup' (fun c hc => (hclosed c hc).2)
        fun c hc => (hclosed' c hc).1
    · intro c hc
      rcases List.mem_append.1 hc with hc | hc
      · exact ⟨(hclosed c hc).1, h'.gone (hclosed c hc).2⟩
      · obtain ⟨⟨e', he', hasAdded⟩, hgone⟩ := hclosed' c hc
        obtain ⟨e, he, heq⟩ := h.kept e' he'
        exact ⟨⟨e, he, heq.trans hasAdded⟩, hgone⟩

/-- An entry is closed. -/
theorem closes_drop {e : PendingRejection} (he : e ∈ t.pending.rows) {outcome : RejectionOutcome}
    (hjustified : outcome = .confirmed → Justified calls e.asAdded) :
    Closes calls t (t.drop e.key) [(e.inspection.inspectionId, outcome)] where
  capacity := rfl
  kept := fun e' he' => ⟨e', (RejectionTracker.mem_drop.1 he').1, rfl⟩
  recorded := fun h =>
    { approved := fun e' he' => h.approved e' (RejectionTracker.mem_drop.1 he').1
      observed := h.observed }
  closed := by
    refine ⟨[e.asAdded], .cons ⟨rfl, hjustified⟩ .nil, List.nodup_singleton _, ?_⟩
    intro c hc
    obtain rfl := List.mem_singleton.1 hc
    exact ⟨⟨e, he, rfl⟩, fun e' he' => (RejectionTracker.mem_drop.1 he').2⟩

/-- An entry is acknowledged. -/
theorem closes_acknowledge {key : String} (happroved : Approved calls key) :
    Closes calls t (t.acknowledge key) [] := by
  have hrows : ∀ e' ∈ (t.acknowledge key).pending.rows,
      ∃ e ∈ t.pending.rows, e.asAdded = e'.asAdded ∧
        (e'.acknowledged = true → e.acknowledged = true ∨ e'.key = key) := by
    intro e' he'
    obtain ⟨e, he, rfl⟩ := List.mem_map.1 he'
    refine ⟨e, he, ?_⟩
    unfold Table.updateRow
    split
    · next hkey =>
        have hsame : e.key = key := by simpa using hkey
        exact ⟨rfl, fun _ => Or.inr hsame⟩
    · exact ⟨rfl, Or.inl⟩
  refine ⟨rfl, ?_, ?_, closed_nil calls _ _⟩
  · intro e' he'
    obtain ⟨e, he, heq, -⟩ := hrows e' he'
    exact ⟨e, he, heq⟩
  · intro h
    refine ⟨fun e' he' hacknowledged => ?_, h.observed⟩
    obtain ⟨e, he, heq, hcases⟩ := hrows e' he'
    rcases hcases hacknowledged with hbefore | hkey
    · rw [← key_eq_of_asAdded heq]
      exact h.approved e he hbefore
    · rw [hkey]
      exact happroved

end Answers

/-- A part of a call that goes on after some outcomes returns them and those of the
entries it closes. -/
def AnswersFrom (calls : List RejectionCall) (before : List Outcome) (t : RejectionTracker)
    (r : RejectionTracker × Except PyError (List Outcome)) : Prop :=
  match r.2 with
  | .ok outcomes => ∃ more, outcomes = before ++ more ∧ Closes calls t r.1 more
  | .error _ => Closes calls t r.1 []

section Calls

variable {calls : List RejectionCall} {t t' : RejectionTracker} {before more : List Outcome}
  {r : RejectionTracker × Except PyError (List Outcome)}

theorem AnswersFrom.done (calls : List RejectionCall) (before : List Outcome)
    (t : RejectionTracker) : AnswersFrom calls before t (t, .ok before) :=
  ⟨[], (List.append_nil before).symm, Closes.refl calls t⟩

/-- What comes first is put in front. -/
theorem AnswersFrom.after (h : Closes calls t t' more)
    (h' : AnswersFrom calls (before ++ more) t' r) : AnswersFrom calls before t r := by
  obtain ⟨t'', answer⟩ := r
  cases answer with
  | error e => exact (h.trans h').silent
  | ok outcomes =>
      obtain ⟨rest, rfl, hrest⟩ := h'
      exact ⟨more ++ rest, List.append_assoc _ _ _, h.trans hrest⟩

/-- A part that goes on from the outcomes of another. -/
theorem AnswersFrom.andThen {f : RejectionTracker → List Outcome →
      RejectionTracker × Except PyError (List Outcome)}
    (h : AnswersFrom calls before t r) (hrecorded : Recorded calls t)
    (hf : ∀ t' outcomes, Recorded calls t' → AnswersFrom calls outcomes t' (f t' outcomes)) :
    AnswersFrom calls before t (andThen r f) := by
  obtain ⟨t', answer⟩ := r
  cases answer with
  | error e => exact h
  | ok outcomes =>
      obtain ⟨more, rfl, hmore⟩ := h
      exact .after hmore (hf t' (before ++ more) (hmore.recorded hrecorded))

/-- A loop over entries that are pending closes some of them. -/
theorem sweep_answers {closes : PendingRejection → Except PyError Bool}
    {outcome : RejectionOutcome} {entries : List PendingRejection}
    (hpending : ∀ e ∈ entries, e ∈ t.pending.rows)
    (hkeys : (entries.map PendingRejection.key).Nodup)
    (hjustified : ∀ e ∈ entries, closes e = .ok true → outcome = .confirmed →
      Justified calls e.asAdded) :
    AnswersFrom calls [] t (RejectionTracker.sweep closes outcome entries t) := by
  induction entries generalizing t with
  | nil => exact .done calls [] t
  | cons x xs ih =>
      rw [List.map_cons, List.nodup_cons] at hkeys
      rw [RejectionTracker.sweep_cons]
      split
      · exact Closes.refl calls t
      · exact ih (fun e he => hpending e (List.mem_cons_of_mem _ he)) hkeys.2
          fun e he => hjustified e (List.mem_cons_of_mem _ he)
      · next hcloses =>
          have hx : x ∈ x :: xs := List.mem_cons_self
          have hdrop : Closes calls t (t.drop x.key) [(x.inspection.inspectionId, outcome)] :=
            closes_drop (hpending x hx)
              (hjustified x hx (RejectionTracker.closes_of_closing hcloses))
          have hrest := ih (t := t.drop x.key)
            (fun e he => RejectionTracker.mem_drop.2
              ⟨hpending e (List.mem_cons_of_mem _ he),
                fun heq => hkeys.1 (heq ▸ List.mem_map_of_mem he)⟩)
            hkeys.2 fun e he => hjustified e (List.mem_cons_of_mem _ he)
          generalize RejectionTracker.sweep closes outcome xs (t.drop x.key) = r at hrest ⊢
          obtain ⟨t', answer⟩ := r
          cases answer with
          | error e => exact (hdrop.trans hrest).silent
          | ok outcomes =>
              obtain ⟨more, rfl, hmore⟩ := hrest
              exact ⟨_, rfl, hdrop.trans hmore⟩

theorem expire_answers (calls : List RejectionCall) (t : RejectionTracker) (now : Datetime) :
    AnswersFrom calls [] t (t.expire now) :=
  sweep_answers (fun _ he => he) t.pending.keys_nodup fun _ _ _ houtcome => by cases houtcome

theorem confirm_answers (h : Recorded calls t) : AnswersFrom calls [] t t.confirm := by
  unfold RejectionTracker.confirm
  split
  · next bottle count hbottle hcount =>
      exact sweep_answers (fun _ he => he) t.pending.keys_nodup fun e he hcloses _ =>
        h.justified hbottle hcount he (confirms_of_isConfirmed hcloses)
  · exact .done calls [] t

theorem confirmAfter_answers (h : Recorded calls t) (before : List Outcome) :
    AnswersFrom calls before t (t.confirmAfter before) := by
  have hconfirm := confirm_answers h
  unfold RejectionTracker.confirmAfter
  generalize t.confirm = r at hconfirm ⊢
  obtain ⟨t', answer⟩ := r
  cases answer with
  | error e => exact hconfirm
  | ok outcomes =>
      obtain ⟨confirmed, rfl, hconfirmed⟩ := hconfirm
      exact ⟨_, rfl, hconfirmed⟩

/-- An entry is closed on the writer's word, and the others may be confirmed. -/
theorem drop_answers (h : Recorded calls t) {e : PendingRejection} (he : e ∈ t.pending.rows)
    (before : List Outcome) {outcome : RejectionOutcome} (hconfirmed : outcome ≠ .confirmed) :
    AnswersFrom calls before t ((t.drop e.key).confirmAfter
      (before ++ [(e.inspection.inspectionId, outcome)])) := by
  have hdrop : Closes calls t (t.drop e.key) [(e.inspection.inspectionId, outcome)] :=
    closes_drop he fun houtcome => absurd houtcome hconfirmed
  exact .after hdrop (confirmAfter_answers (hdrop.recorded h) _)

/-- A call closes what is overdue first and goes on from there. -/
def GoesOn (calls : List RejectionCall) (call : RejectionCall) (now : Datetime) : Prop :=
  ∃ rest : RejectionTracker → List Outcome → RejectionTracker × Except PyError (List Outcome),
    (∀ t : RejectionTracker, t.call call = andThen (t.expire now) rest) ∧
      ∀ t before, Recorded calls t → AnswersFrom calls before t (rest t before)

theorem result_goesOn {result : List (String × Json)} {now : Datetime}
    (hcall : .result result now ∈ calls) : GoesOn calls (.result result now) now := by
  refine ⟨_, fun t => rfl, ?_⟩
  intro t' before h'
  split
  · next key hkey =>
      split
      · exact .done calls before t'
      · next entry hentry =>
          obtain ⟨hmem, hentryKey⟩ := Table.lookup_eq_some_iff.1 hentry
          subst hentryKey
          dsimp only
          split
          · next happroves =>
              have happroved : Approved calls entry.key :=
                ⟨result, now, hcall, hkey, happroves.1, happroves.2⟩
              have hacknowledged := closes_acknowledge (t := t') happroved
              refine .after hacknowledged ?_
              rw [List.append_nil]
              exact confirmAfter_answers (hacknowledged.recorded h') before
          · split
            · exact .done calls before t'
            · split
              · split
                · exact Closes.refl calls t'
                · exact drop_answers h' hmem before (by decide)
              · exact drop_answers h' hmem before (by decide)
  · exact .done calls before t'

/-- The value of a call is noted. -/
theorem note_closes {cell : FeedbackCell}
    (hobserved : Observed calls cell.kind cell.value cell.observedAt) :
    Closes calls t (t.note cell).1 [] := by
  have hreplaced : Closes calls t { t with cells := t.cells.replace cell } [] := by
    refine { Closes.refl calls t with recorded := ?_ }
    intro h
    refine ⟨h.approved, ?_⟩
    intro c hc
    rcases List.mem_append.1 hc with hold | hnew
    · exact h.observed c (List.mem_filter.1 hold).1
    · obtain rfl := List.mem_singleton.1 hnew
      exact hobserved
  unfold RejectionTracker.note
  split
  · exact hreplaced
  · split
    · exact Closes.refl calls t
    · exact Closes.refl calls t
    · exact hreplaced

theorem feedback_goesOn {kind : String} {value : ℤ} {observedAt now : Datetime}
    (hcall : .feedback kind value observedAt now ∈ calls) :
    GoesOn calls (.feedback kind value observedAt now) now := by
  refine ⟨_, fun t => rfl, ?_⟩
  intro t' before h'
  have hnote : Closes calls t' (t'.note ⟨kind, value, observedAt⟩).1 [] :=
    note_closes ⟨now, hcall⟩
  generalize t'.note ⟨kind, value, observedAt⟩ = r at hnote ⊢
  obtain ⟨noted, answer⟩ := r
  cases answer with
  | error e => exact hnote
  | ok u =>
      refine .after hnote ?_
      rw [List.append_nil]
      exact confirmAfter_answers (hnote.recorded h') before

theorem expire_goesOn (calls : List RejectionCall) (now : Datetime) :
    GoesOn calls (.expire now) now := by
  refine ⟨fun t outcomes => (t, .ok outcomes), ?_, fun t before _ => .done calls before t⟩
  intro t
  show t.expire now = _
  cases t.expire now with
  | mk t' answer => cases answer <;> rfl

/-- Every call with a time. -/
theorem call_goesOn {call : RejectionCall} {now : Datetime} (hcall : call ∈ calls)
    (htime : call.time = some now) : GoesOn calls call now := by
  cases call with
  | add request inspection baselineCount => cases htime
  | result result now' =>
      obtain rfl : now' = now := Option.some.inj htime
      exact result_goesOn hcall
  | feedback kind value observedAt now' =>
      obtain rfl : now' = now := Option.some.inj htime
      exact feedback_goesOn hcall
  | expire now' =>
      obtain rfl : now' = now := Option.some.inj htime
      exact expire_goesOn calls now'

theorem AnswersFrom.exists_closes (h : AnswersFrom calls before t r) :
    ∃ more, Closes calls t r.1 more := by
  obtain ⟨t', answer⟩ := r
  cases answer with
  | error e => exact ⟨[], h⟩
  | ok outcomes =>
      obtain ⟨more, -, hmore⟩ := h
      exact ⟨more, hmore⟩

/-- The outcomes of a whole call. -/
theorem AnswersFrom.closes (h : AnswersFrom calls [] t r) :
    Closes calls t r.1 (outcomesOf r.2) := by
  obtain ⟨t', answer⟩ := r
  cases answer with
  | error e => exact h
  | ok outcomes =>
      obtain ⟨_, rfl, hclosed⟩ := h
      exact hclosed

theorem call_closes {call : RejectionCall} {now : Datetime} (hcall : call ∈ calls)
    (htime : call.time = some now) (h : Recorded calls t) :
    Closes calls t (t.call call).1 (outcomesOf (t.call call).2) := by
  obtain ⟨rest, heq, hrest⟩ := call_goesOn hcall htime
  rw [heq]
  exact ((expire_answers calls t now).andThen h fun t' before => hrest t' before).closes

/-- Every tracker can come from calls. -/
theorem exists_recorded (t : RejectionTracker) : ∃ calls, Recorded calls t := by
  let approvals : List RejectionCall := t.pending.rows.map fun e =>
    .result [("correlation_id", .str e.key), ("decision", .str "approve"),
      ("written_at", .bool true)] (.naive 0)
  let values : List RejectionCall := t.cells.rows.map fun c =>
    .feedback c.kind c.value c.observedAt (.naive 0)
  refine ⟨approvals ++ values, ⟨?_, ?_⟩⟩
  · intro e he _
    exact ⟨_, _, List.mem_append_left _ (List.mem_map_of_mem he), rfl, rfl, rfl⟩
  · intro c hc
    exact ⟨_, List.mem_append_right _ (List.mem_map_of_mem hc)⟩

/-- A call with a time adds no entry, and acknowledges at most. -/
theorem call_kept {call : RejectionCall} {now : Datetime} (htime : call.time = some now)
    (t : RejectionTracker) {e' : PendingRejection} (he' : e' ∈ (t.call call).1.pending.rows) :
    ∃ e ∈ t.pending.rows, e.asAdded = e'.asAdded := by
  obtain ⟨calls, hrecorded⟩ := exists_recorded t
  exact (call_closes List.mem_cons_self htime (hrecorded.cons call)).kept e' he'

end Calls

/-! ## What stays pending -/

/-- The microseconds on the wall clock. -/
def wallMicros : Datetime → ℤ
  | .aware d => d.localMicros
  | .naive micros => micros

/-- Between `datetime.min` and `datetime.max`. -/
def IsDate (micros : ℤ) : Prop :=
  AwareDatetime.minMicros ≤ micros ∧ micros ≤ AwareDatetime.maxMicros

/-- Both times carry an offset, or neither does. -/
def SameClock : Datetime → Datetime → Prop
  | .aware _, .aware _ => True
  | .naive _, .naive _ => True
  | _, _ => False

/-- The loop of `expire` ends at an entry: its deadline has no date ten seconds later or
cannot be compared with the time of the call, or it is overdue and JSON cannot hold its
command. -/
def Blocks (now : Datetime) (entry : PendingRejection) : Prop :=
  ¬ IsDate (wallMicros entry.closingTime + 10000000) ∨ ¬ SameClock now entry.closingTime ∨
    (¬ Timely now entry ∧ (Json.ofSignalValue entry.request.requestedValue).allFinite = false)

/-- No overdue entry is pending, when a call begins, at or behind one that the loop ends
at. -/
def Unblocked (s : RejectionRun) (call : RejectionCall) : Prop :=
  ∀ now ∈ call.time, ∀ before stop after,
    s.tracker.pending.rows = before ++ stop :: after → Blocks now stop →
      ∀ entry ∈ stop :: after, Timely now entry

/-- Ten seconds later. -/
def tenSecondsLater : Datetime → Datetime
  | .aware d => .aware ⟨d.localMicros + 10000000, d.utcoffset⟩
  | .naive micros => .naive (micros + 10000000)

theorem roundHalfEven_ten : PyFloat.roundHalfEven ((10 : ℚ) * 1000000) = 10000000 := by
  rw [show (10 : ℚ) * 1000000 = ((10000000 : ℤ) : ℚ) by norm_num]
  exact PyFloat.roundHalfEven_intCast _

theorem addSeconds_ten {d : AwareDatetime} (h : IsDate (d.localMicros + 10000000)) :
    addSeconds d 10 = .ok ⟨d.localMicros + 10000000, d.utcoffset⟩ := by
  unfold addSeconds
  rw [roundHalfEven_ten]
  exact if_pos h

theorem addSeconds_ten_error {d : AwareDatetime} (h : ¬ IsDate (d.localMicros + 10000000)) :
    addSeconds d 10 = .error ⟨.overflowError, "date value out of range"⟩ := by
  unfold addSeconds
  rw [roundHalfEven_ten]
  exact if_neg h

theorem shift_ten {d : Datetime} (h : IsDate (wallMicros d + 10000000)) :
    shift 10 d = .ok (tenSecondsLater d) := by
  cases d with
  | aware d =>
      rw [shift, addSeconds_ten h]
      rfl
  | naive micros =>
      rw [shift, addSeconds_ten (d := ⟨micros, 0⟩) h]
      rfl

theorem shift_ten_error {d : Datetime} (h : ¬ IsDate (wallMicros d + 10000000)) :
    ∃ e, shift 10 d = .error e := by
  refine ⟨⟨.overflowError, "date value out of range"⟩, ?_⟩
  cases d with
  | aware d =>
      rw [shift, addSeconds_ten_error h]
      rfl
  | naive micros =>
      rw [shift, addSeconds_ten_error (d := ⟨micros, 0⟩) h]
      rfl

/-- `timestamp` of a time ten seconds later. -/
theorem timestamp_tenSeconds (d : AwareDatetime) :
    (⟨d.localMicros + 10000000, d.utcoffset⟩ : AwareDatetime).timestamp = d.timestamp + 10 := by
  simp only [AwareDatetime.timestamp, AwareDatetime.instantMicros]
  push_cast
  ring

/-- The comparison of `expire` decides what is timely. -/
theorem isAfter_later {now : Datetime} {entry : PendingRejection}
    (hclock : SameClock now entry.closingTime) :
    ∃ late, isAfter now (tenSecondsLater entry.closingTime) = .ok late ∧
      (late = true ↔ ¬ Timely now entry) := by
  cases hclosing : entry.closingTime with
  | aware d =>
      cases now with
      | aware now =>
          refine ⟨_, rfl, ?_⟩
          simp only [timestamp_tenSeconds, Timely, hclosing, decide_eq_true_eq, not_le]
      | naive now => exact absurd hclock (by rw [hclosing]; exact not_false)
  | naive micros =>
      cases now with
      | aware now => exact absurd hclock (by rw [hclosing]; exact not_false)
      | naive now =>
          refine ⟨_, rfl, ?_⟩
          simp only [Timely, hclosing, decide_eq_true_eq, not_le]

theorem isOverdue_eq {now : Datetime} {entry : PendingRejection}
    (hdate : IsDate (wallMicros entry.closingTime + 10000000))
    (hclock : SameClock now entry.closingTime) :
    entry.isOverdue now = .ok (decide (¬ Timely now entry)) := by
  obtain ⟨late, hlate, hiff⟩ := isAfter_later hclock
  have hdecide : late = decide (¬ Timely now entry) := by
    rw [Bool.eq_iff_iff, hiff, decide_eq_true_eq]
  unfold PendingRejection.isOverdue
  rw [shift_ten hdate, ← hdecide]
  exact hlate

theorem isOverdue_error {now : Datetime} {entry : PendingRejection}
    (h : ¬ IsDate (wallMicros entry.closingTime + 10000000) ∨
      ¬ SameClock now entry.closingTime) : ∃ e, entry.isOverdue now = .error e := by
  unfold PendingRejection.isOverdue
  by_cases hdate : IsDate (wallMicros entry.closingTime + 10000000)
  · have hclock : ¬ SameClock now entry.closingTime := h.resolve_left (not_not_intro hdate)
    rw [shift_ten hdate]
    refine ⟨awareNaiveError, ?_⟩
    show isAfter now (tenSecondsLater entry.closingTime) = _
    cases hclosing : entry.closingTime with
    | aware d =>
        cases now with
        | aware now => exact absurd (by rw [hclosing]; trivial) hclock
        | naive now => rfl
    | naive micros =>
        cases now with
        | aware now => rfl
        | naive now => exact absurd (by rw [hclosing]; trivial) hclock
  · obtain ⟨e, he⟩ := shift_ten_error hdate
    exact ⟨e, by rw [he]; rfl⟩

/-- The loop of `expire` ends exactly at an entry that blocks. -/
theorem closing_of_blocks {now : Datetime} {entry : PendingRejection} (h : Blocks now entry) :
    ∃ e, RejectionTracker.closing (PendingRejection.isOverdue now) entry = .error e := by
  unfold RejectionTracker.closing
  by_cases hevaluates : IsDate (wallMicros entry.closingTime + 10000000) ∧
      SameClock now entry.closingTime
  · obtain ⟨hdate, hclock⟩ := hevaluates
    obtain ⟨hlate, hvalue⟩ := (h.resolve_left (not_not_intro hdate)).resolve_left
      (not_not_intro hclock)
    rw [isOverdue_eq hdate hclock, decide_eq_true hlate]
    simp only [recordCommand, hvalue]
    exact ⟨_, rfl⟩
  · obtain ⟨e, he⟩ := isOverdue_error (not_and_or.1 hevaluates)
    exact ⟨e, by rw [he]⟩

theorem closing_of_not_blocks {now : Datetime} {entry : PendingRejection}
    (h : ¬ Blocks now entry) :
    RejectionTracker.closing (PendingRejection.isOverdue now) entry =
      .ok (decide (¬ Timely now entry)) := by
  obtain ⟨hdate, hclock, hvalue⟩ : IsDate (wallMicros entry.closingTime + 10000000) ∧
      SameClock now entry.closingTime ∧ (¬ Timely now entry →
        (Json.ofSignalValue entry.request.requestedValue).allFinite = true) := by
    simpa [Blocks, not_or, not_and] using h
  unfold RejectionTracker.closing
  rw [isOverdue_eq hdate hclock]
  by_cases htimely : Timely now entry
  · rw [decide_eq_false (not_not_intro htimely)]
  · rw [decide_eq_true htimely]
    simp only [recordCommand, hvalue htimely]
    rfl

/-- `expire` leaves nothing overdue exactly when nothing overdue is blocked. -/
theorem timely_of_expire {t : RejectionTracker} {now : Datetime}
    (hunblocked : ∀ before stop after, t.pending.rows = before ++ stop :: after →
      Blocks now stop → ∀ entry ∈ stop :: after, Timely now entry)
    {entry : PendingRejection} (hentry : entry ∈ (t.expire now).1.pending.rows) :
    Timely now entry := by
  have hpending : entry ∈ t.pending.rows :=
    (RejectionTracker.sweep_rest _ _ _ t).1 entry hentry
  rcases RejectionTracker.stays_or_stopped hpending hentry with
    hstays | ⟨before, stop, after, error, hrows, hstop, hafter⟩
  · by_cases hblocks : Blocks now entry
    · obtain ⟨before, after, hrows⟩ := List.append_of_mem hpending
      exact hunblocked before entry after hrows hblocks entry List.mem_cons_self
    · rw [closing_of_not_blocks hblocks, Except.ok.injEq] at hstays
      simpa using hstays
  · refine hunblocked before stop after hrows ?_ entry hafter
    by_contra hblocks
    rw [closing_of_not_blocks hblocks] at hstop
    cases hstop

/-- Where the loop ends, the call ends, and what is behind stays. -/
theorem expire_of_blocks {t : RejectionTracker} {now : Datetime}
    {before after : List PendingRejection} {stop : PendingRejection}
    (hrows : t.pending.rows = before ++ stop :: after) (hblocks : Blocks now stop) :
    (∃ e, (t.expire now).2 = .error e) ∧
      ∀ entry ∈ stop :: after, entry ∈ (t.expire now).1.pending.rows := by
  obtain ⟨error, herror⟩ := closing_of_blocks hblocks
  have hkeys := t.pending.keys_nodup
  have hmem : ∀ entry ∈ stop :: after, entry ∈ t.pending.rows := by
    intro entry hentry
    rw [hrows]
    exact List.mem_append_right before hentry
  unfold RejectionTracker.expire
  rw [hrows] at hkeys ⊢
  exact ⟨RejectionTracker.sweep_of_stop herror t,
    fun entry hentry => RejectionTracker.mem_sweep_of_stop herror hkeys hentry (hmem entry hentry)⟩

theorem timely_congr {now : Datetime} {e e' : PendingRejection} (h : e.asAdded = e'.asAdded)
    (htimely : Timely now e) : Timely now e' := by
  have hrequest : e.asAdded.request = e'.asAdded.request := by rw [h]
  unfold Timely PendingRejection.closingTime at htimely ⊢
  rw [show e'.request = e.request from hrequest.symm]
  exact htimely

/-! ## Runs -/

/-- What every call keeps. -/
structure RejectionInv (s : RejectionRun) : Prop where
  recorded : Recorded s.calls s.tracker
  within : s.tracker.pending.rows.length ≤ s.tracker.capacity
  pendingAdded : ∀ e ∈ s.tracker.pending.rows, e.asAdded ∈ s.added
  reported : ∃ reported : List PendingRejection,
    List.Forall₂ (fun o entry => Reports o.2 o.1 entry) s.outcomes reported ∧
      (reported.map PendingRejection.key).Nodup ∧
      ∀ c ∈ reported, c ∈ s.added ∧ ∀ e ∈ s.tracker.pending.rows, e.key ≠ c.key

theorem RejectionInv.accounted {s : RejectionRun} (h : RejectionInv s) : Accounted s where
  within := h.within
  reported := by
    obtain ⟨reported, hreports, hnodup, hadded⟩ := h.reported
    exact ⟨reported, hreports, hnodup, fun c hc => (hadded c hc).1⟩

theorem rejectionInv_initial (capacity : ℕ) : RejectionInv (.initial capacity) where
  recorded := ⟨fun _ he => absurd he List.not_mem_nil, fun _ hc => absurd hc List.not_mem_nil⟩
  within := Nat.zero_le capacity
  pendingAdded := fun _ he => absurd he List.not_mem_nil
  reported := ⟨[], .nil, List.nodup_nil, fun _ hc => absurd hc List.not_mem_nil⟩

/-- No part of a call makes room for more than there was. -/
theorem Closes.length_le {calls : List RejectionCall} {t t' : RejectionTracker}
    {outcomes : List Outcome} (h : Closes calls t t' outcomes) :
    t'.pending.rows.length ≤ t.pending.rows.length := by
  have hsubset : t'.pending.rows.map PendingRejection.key ⊆
      t.pending.rows.map PendingRejection.key := by
    intro k hk
    obtain ⟨e', he', rfl⟩ := List.mem_map.1 hk
    obtain ⟨e, he, heq⟩ := h.kept e' he'
    rw [← key_eq_of_asAdded heq]
    exact List.mem_map_of_mem he
  simpa using (List.subperm_of_subset t'.pending.keys_nodup hsubset).length_le

/-- Every outcome of a call is logged beside the calls until then. -/
theorem reports_logged {calls : List RejectionCall} {outcomes : List Outcome}
    {closed : List PendingRejection} (h : List.Forall₂ (Reports calls) outcomes closed) :
    List.Forall₂ (fun (o : Outcome × List RejectionCall) entry => Reports o.2 o.1 entry)
      (outcomes.map fun o => (o, calls)) closed := by
  induction h with
  | nil => exact .nil
  | cons hreports hrest ih => exact .cons hreports ih

/-- A call that closes entries keeps the invariant. -/
theorem rejectionInv_closes {s : RejectionRun} (h : RejectionInv s) {calls : List RejectionCall}
    {t' : RejectionTracker} {outcomes : List Outcome} (hrecorded : Recorded calls s.tracker)
    (hcloses : Closes calls s.tracker t' outcomes) :
    RejectionInv ⟨t', s.added, calls, s.outcomes ++ outcomes.map fun o => (o, calls)⟩ where
  recorded := hcloses.recorded hrecorded
  within := by
    have hlength := hcloses.length_le
    have hwithin := h.within
    show t'.pending.rows.length ≤ t'.capacity
    rw [hcloses.capacity]
    omega
  pendingAdded := by
    intro e' he'
    obtain ⟨e, he, heq⟩ := hcloses.kept e' he'
    rw [← heq]
    exact h.pendingAdded e he
  reported := by
    obtain ⟨reported, hreports, hnodup, hold⟩ := h.reported
    obtain ⟨closed, hreports', hnodup', hnew⟩ := hcloses.closed
    refine ⟨reported ++ closed, List.rel_append hreports (reports_logged hreports'), ?_, ?_⟩
    · exact nodup_keys_append hnodup hnodup' (fun c hc => (hold c hc).2)
        fun c hc => (hnew c hc).1
    · intro c hc
      rcases List.mem_append.1 hc with hc | hc
      · exact ⟨(hold c hc).1, hcloses.gone (hold c hc).2⟩
      · obtain ⟨⟨e, he, rfl⟩, hgone⟩ := hnew c hc
        exact ⟨h.pendingAdded e he, hgone⟩

/-- An addition with a new id keeps the invariant. -/
theorem rejectionInv_add {s : RejectionRun} (h : RejectionInv s) {entry : PendingRejection}
    (hfresh : entry.acknowledged = false) (hnew : ∀ e ∈ s.added, e.key ≠ entry.key)
    (hroom : s.tracker.pending.rows.length < s.tracker.capacity) (call : RejectionCall) :
    RejectionInv
      ⟨{ s.tracker with pending := s.tracker.pending.replace entry }, entry :: s.added,
        call :: s.calls, s.outcomes⟩ := by
  have hrows : ∀ e ∈ (s.tracker.pending.replace entry).rows,
      e ∈ s.tracker.pending.rows ∨ e = entry := by
    intro e he
    rcases List.mem_append.1 he with hold | hlast
    · exact Or.inl (List.mem_filter.1 hold).1
    · exact Or.inr (List.mem_singleton.1 hlast)
  refine ⟨⟨?_, (h.recorded.cons call).observed⟩, ?_, ?_, ?_⟩
  · intro e he hacknowledged
    rcases hrows e he with hold | rfl
    · exact (h.recorded.cons call).approved e hold hacknowledged
    · rw [hfresh] at hacknowledged
      cases hacknowledged
  · have hfilter := List.length_filter_le
      (fun x : PendingRejection => !decide (x.key = entry.key)) s.tracker.pending.rows
    show ((s.tracker.pending.rows.filter fun x => !decide (x.key = entry.key)) ++
      [entry]).length ≤ s.tracker.capacity
    rw [List.length_append, List.length_singleton]
    omega
  · intro e he
    rcases hrows e he with hold | rfl
    · exact List.mem_cons_of_mem _ (h.pendingAdded e hold)
    · rw [show e.asAdded = e by rw [PendingRejection.asAdded, ← hfresh]]
      exact List.mem_cons_self
  · obtain ⟨reported, hreports, hnodup, hold⟩ := h.reported
    refine ⟨reported, hreports, hnodup, ?_⟩
    intro c hc
    refine ⟨List.mem_cons_of_mem _ (hold c hc).1, ?_⟩
    intro e he
    rcases hrows e he with hpending | rfl
    · exact (hold c hc).2 e hpending
    · exact (hnew c (hold c hc).1).symm

theorem addedBy_of_time {call : RejectionCall} {now : Datetime} (htime : call.time = some now)
    (answer : Except PyError (List Outcome)) : addedBy call answer = [] := by
  cases call with
  | add request inspection baselineCount => cases htime
  | result result now' => rfl
  | feedback kind value observedAt now' => rfl
  | expire now' => rfl

/-- The state after a call that is enabled. -/
theorem rejectionStep_eq {s s' : RejectionRun} {call : RejectionCall}
    (h : rejectionStep s call = some s') :
    isReused s call = false ∧ s' =
      { tracker := (s.tracker.call call).1
        added := addedBy call (s.tracker.call call).2 ++ s.added
        calls := call :: s.calls
        outcomes := s.outcomes ++
          (outcomesOf (s.tracker.call call).2).map fun o => (o, call :: s.calls) } := by
  unfold rejectionStep at h
  split at h
  · cases h
  · next hreused => exact ⟨by simpa using hreused, (Option.some.inj h).symm⟩

/-- One call keeps the invariant. -/
theorem rejectionInv_step {s s' : RejectionRun} {call : RejectionCall} (h : RejectionInv s)
    (hstep : rejectionStep s call = some s') : RejectionInv s' := by
  obtain ⟨hreused, rfl⟩ := rejectionStep_eq hstep
  cases htime : call.time with
  | some now =>
      rw [addedBy_of_time htime]
      have hrecorded := h.recorded.cons call
      exact rejectionInv_closes h hrecorded
        (call_closes List.mem_cons_self htime hrecorded)
  | none =>
      cases call with
      | add request inspection baselineCount =>
          have hnew : ∀ e ∈ s.added, e.key ≠ request.correlationId := by
            simpa [isReused] using hreused
          by_cases hroom : s.tracker.capacity ≤ s.tracker.pending.rows.length
          · rw [RejectionTracker.call_add_full hroom]
            exact rejectionInv_closes h (h.recorded.cons _) (Closes.refl _ s.tracker)
          · rw [RejectionTracker.call_add_room hroom]
            simp only [outcomesOf, List.map_nil, List.append_nil]
            have hroom' := not_le.1 hroom
            exact rejectionInv_add h (show (PendingRejection.mk request inspection baselineCount
              false).acknowledged = false from rfl) hnew hroom' _
      | result result now' => cases htime
      | feedback kind value observedAt now' => cases htime
      | expire now' => cases htime

/-- After one call nothing pending is overdue exactly when nothing overdue was blocked. -/
theorem allTimely_step {s s' : RejectionRun} {call : RejectionCall} (h : RejectionInv s)
    (hstep : rejectionStep s call = some s') : AllTimely s' ↔ Unblocked s call := by
  obtain ⟨-, rfl⟩ := rejectionStep_eq hstep
  cases htime : call.time with
  | none => simp [AllTimely, Unblocked, htime]
  | some now =>
      have hrecorded := h.recorded.cons call
      obtain ⟨rest, heq, hrest⟩ : GoesOn (call :: s.calls) call now :=
        call_goesOn List.mem_cons_self htime
      have hexpire := (expire_answers (call :: s.calls) s.tracker now).closes
      simp only [AllTimely, Unblocked, htime, List.head?_cons, Option.mem_some_iff,
        forall_eq', heq]
      constructor
      · intro htimely before stop after hrows hblocks entry hentry
        obtain ⟨⟨e, herror⟩, hstays⟩ := expire_of_blocks hrows hblocks
        apply htimely entry
        generalize s.tracker.expire now = r at herror hstays ⊢
        obtain ⟨t', answer⟩ := r
        obtain rfl : answer = .error e := herror
        exact hstays entry hentry
      · intro hunblocked entry' hentry'
        have hexpired : ∀ entry ∈ (s.tracker.expire now).1.pending.rows, Timely now entry :=
          fun entry => timely_of_expire hunblocked
        generalize s.tracker.expire now = r at hexpire hexpired hentry'
        obtain ⟨t', answer⟩ := r
        cases answer with
        | error e => exact hexpired entry' hentry'
        | ok outcomes =>
            obtain ⟨more, hmore⟩ := (hrest t' outcomes (hexpire.recorded hrecorded)).exists_closes
            obtain ⟨entry, hentry, hsame⟩ := hmore.kept entry' hentry'
            exact timely_congr hsame (hexpired entry hentry)

/-- In every run each rejection has at most one outcome, only those added have one, a
confirmed one is justified and there is room; and nothing overdue is pending after a call
exactly in the runs where no call finds an overdue entry blocked. -/
theorem accounted_iff_guarded (capacity : ℕ) (calls : List RejectionCall) :
    Run.Always rejectionStep (fun s => Accounted s ∧ AllTimely s) (.initial capacity) calls ↔
      Run.Guarded rejectionStep Unblocked (.initial capacity) calls := by
  refine Run.always_iff_guarded (I := RejectionInv) ?_ ?_ (rejectionInv_initial capacity) ?_
  · intro s call s' hinv _ hstep
    have hinv' := rejectionInv_step hinv hstep
    refine ⟨hinv', ?_⟩
    rw [← allTimely_step hinv hstep]
    exact and_iff_right hinv'.accounted
  · intro s call _ hnone now hnow
    cases call with
    | add request inspection baselineCount => cases hnow
    | result result now' => cases hnone
    | feedback kind value observedAt now' => cases hnone
    | expire now' => cases hnone
  · refine ⟨(rejectionInv_initial capacity).accounted, ?_⟩
    intro call hcall
    cases hcall

/-! ## An entry that is never closed -/

namespace Blocked

/-- A command whose deadline may lack an offset. -/
def request (correlationId : String) (deadline : Datetime) : ActuationRequest where
  correlationId := correlationId
  requester := "decision-agent-stub"
  targetUnsTopic := "uniza/zilina/factory1/line_a/reject_station/rejector_01/reject_bottle"
  requestedValue := .int 20
  valueType := .int64
  reason := "failed bottle inspection"
  requestedAt := .aware (.ofMicros 1000000000)
  deadline := some deadline
  extra := []
  names_nodup := declaredNames_nodup

def inspection : BottleInspection := ⟨"0123456789abcdef:0001", 20, false, .ofMicros 1000000000⟩

/-- Two rejections with one deadline, the first without an offset, and a look at both
eleven seconds after it. -/
def calls : List RejectionCall :=
  [.add (request "01J00000000000000000000000" (.naive 1030000000)) inspection (some 0),
    .add (request "01J00000000000000000000001" (.aware (.ofMicros 1030000000))) inspection
      (some 0),
    .expire (.aware (.ofMicros 1041000000))]

end Blocked

/-- The naive deadline raises in the loop, and the overdue rejection behind it stays. -/
theorem overdue_behind_naive :
    ¬ Run.Always rejectionStep (fun s => Accounted s ∧ AllTimely s) (.initial 128)
      Blocked.calls := by
  intro h
  obtain ⟨s, hs, hend⟩ : ∃ s,
      Run.exec rejectionStep (.initial 128) Blocked.calls = some s ∧ ¬ AllTimely s :=
    Run.exists_exec (by decide +kernel)
  rw [← List.append_nil Blocked.calls] at h
  exact hend (h.of_exec hs).2

end EirvahEdge.Agent
