import EirvahEdge.Devices.Controls
import Mathlib.Data.List.Count

/-!
# The window of the reject station

The station remembers the last bottles that passed and which of them were
rejected.  What it is for is said on the trace of its calls: a bottle *enters*
when it passes and is not remembered, and a command for it is accepted once
for every time it enters, while it is among the last `window` entries.

`recent window entries` are the last entries in their order.  `WindowInv` ties
the queue, the set and the counter to the trace, and every call keeps it
(`watch_inv`).  What a command is answered is then read off the trace
(`rejectStation`).
-/

namespace EirvahEdge.Devices

/-! ## The last items of a growing list -/

/-- The last `window` items. -/
def recent {α : Type*} (window : ℕ) (items : List α) : List α :=
  items.drop (items.length - window)

section Recent

variable {α : Type*} (window : ℕ) (items : List α)

/-- Old items do not come back. -/
theorem recent_append (later : List α) :
    recent window (items ++ later) = recent window (recent window items ++ later) := by
  have hle : items.length - window ≤ items.length := Nat.sub_le _ _
  have hdrop : recent window items ++ later = (items ++ later).drop (items.length - window) := by
    rw [recent, List.drop_append_of_le_length hle]
  rw [hdrop, recent, recent, List.drop_drop, List.length_drop]
  congr 1
  rw [List.length_append]
  omega

end Recent

namespace RejectControl

theorem trim_fst (window : ℕ) (present rejected : List ℕ) :
    (trim window present rejected).1 = recent window present := by
  induction present generalizing rejected with
  | nil => simp [trim, recent]
  | cons b present ih =>
      unfold trim
      split
      · next h =>
          have hsub : (b :: present).length - window = (present.length - window) + 1 := by
            simp only [List.length_cons] at h ⊢
            omega
          rw [ih, recent, recent, hsub, List.drop_succ_cons]
      · next h =>
          have hzero : (b :: present).length - window = 0 := by omega
          rw [recent, hzero, List.drop_zero]

theorem trim_snd_subset (window : ℕ) (present rejected : List ℕ) :
    (trim window present rejected).2 ⊆ rejected := by
  induction present generalizing rejected with
  | nil => exact List.Subset.refl rejected
  | cons b present ih =>
      unfold trim
      split
      · exact List.Subset.trans (ih _) (List.filter_subset_self _)
      · exact List.Subset.refl rejected

/-- Trimming forgets the rejections of the bottles it drops and no others. -/
theorem mem_trim_snd {window : ℕ} {present rejected : List ℕ} (hnodup : present.Nodup) {b : ℕ}
    (hb : b ∈ present) :
    b ∈ (trim window present rejected).2 ↔ b ∈ rejected ∧ b ∈ recent window present := by
  induction present generalizing rejected with
  | nil => simp at hb
  | cons a present ih =>
      obtain ⟨hnot, hnodup'⟩ := List.nodup_cons.1 hnodup
      unfold trim
      split
      · next h =>
          have hsub : (a :: present).length - window = (present.length - window) + 1 := by
            simp only [List.length_cons] at h ⊢
            omega
          rw [recent, hsub, List.drop_succ_cons]
          by_cases hba : b = a
          · subst hba
            have hdropped : b ∉ present.drop (present.length - window) :=
              fun hmem => hnot (List.mem_of_mem_drop hmem)
            have hforgotten : b ∉ (trim window present (rejected.filter (· ≠ b))).2 := by
              intro hmem
              have hmem' := (List.mem_filter.1 (trim_snd_subset window present _ hmem)).2
              exact absurd rfl (of_decide_eq_true hmem')
            exact iff_of_false hforgotten fun hand => hdropped hand.2
          · have hb' : b ∈ present := (List.mem_cons.1 hb).resolve_left hba
            rw [ih hnodup' hb', recent, List.mem_filter]
            simp [hba]
      · next h =>
          have hzero : (a :: present).length - window = 0 := by omega
          rw [recent, hzero, List.drop_zero]
          exact ⟨fun hmem => ⟨hmem, hb⟩, And.left⟩

end RejectControl

/-! ## Calls and their trace -/

inductive RejectCall where
  | observe (bottleId : ℕ)
  | apply (operation value : ℕ)
deriving DecidableEq, Repr

/-- What a call turned out to be. -/
inductive RejectEvent where
  | entered (bottleId : ℕ)
  | seenAgain (bottleId : ℕ)
  | answered (operation value : ℕ) (status : Status)
deriving DecidableEq, Repr

/-- A control with the events of its calls. -/
structure Watched where
  control : RejectControl
  trace : List RejectEvent
deriving DecidableEq, Repr

def RejectControl.event (c : RejectControl) : RejectCall → RejectEvent
  | .observe b => if b ∈ c.present then .seenAgain b else .entered b
  | .apply operation value => .answered operation value (c.apply operation value).2

def RejectControl.call (c : RejectControl) : RejectCall → RejectControl
  | .observe b => c.observe b
  | .apply operation value => (c.apply operation value).1

def Watched.call (s : Watched) (call : RejectCall) : Watched :=
  ⟨s.control.call call, s.trace ++ [s.control.event call]⟩

/-- The calls from the initial state. -/
def watch (window : ℕ) (calls : List RejectCall) : Watched :=
  calls.foldl Watched.call ⟨{ window }, []⟩

/-- The bottles that entered, in order. -/
def entries (trace : List RejectEvent) : List ℕ :=
  trace.filterMap fun
    | .entered b => some b
    | _ => none

/-- A command for the bottle was answered with 1, and the bottle has not entered
since. -/
def AcceptedSinceEntry (bottleId : ℕ) (trace : List RejectEvent) : Prop :=
  ∃ before after, trace = before ++ .answered 1 bottleId 1 :: after ∧
    .entered bottleId ∉ after

def RejectEvent.isAccepted : RejectEvent → Bool
  | .answered _ _ status => status == 1
  | _ => false

/-- How many commands were answered with 1. -/
def acceptedCount (trace : List RejectEvent) : ℕ := trace.countP RejectEvent.isAccepted

theorem acceptedSinceEntry_snoc {b : ℕ} {trace : List RejectEvent} {e : RejectEvent} :
    AcceptedSinceEntry b (trace ++ [e]) ↔
      e = .answered 1 b 1 ∨ (AcceptedSinceEntry b trace ∧ e ≠ .entered b) := by
  constructor
  · rintro ⟨before, after, heq, hnot⟩
    rcases List.eq_nil_or_concat after with rfl | ⟨rest, last, rfl⟩
    · exact Or.inl (List.append_inj_right' heq rfl |> List.singleton_inj.1)
    · have hsplit : trace ++ [e] = (before ++ .answered 1 b 1 :: rest) ++ [last] := by
        rw [heq]
        simp
      obtain ⟨rfl, hlast⟩ := List.append_inj' hsplit rfl
      obtain rfl : e = last := List.singleton_inj.1 hlast
      have hrest : RejectEvent.entered b ∉ rest := fun hmem => hnot (by simp [hmem])
      have hne : e ≠ .entered b := fun h => hnot (by simp [h])
      exact Or.inr ⟨⟨before, rest, rfl, hrest⟩, hne⟩
  · rintro (rfl | ⟨⟨before, after, rfl, hnot⟩, hne⟩)
    · exact ⟨trace, [], rfl, by simp⟩
    · refine ⟨before, after ++ [e], by simp, fun hmem => ?_⟩
      rcases List.mem_append.1 hmem with hmem | hmem
      · exact hnot hmem
      · exact hne (List.mem_singleton.1 hmem).symm

theorem entries_snoc (trace : List RejectEvent) (e : RejectEvent) :
    entries (trace ++ [e]) = entries trace ++ entries [e] := by
  simp [entries]

theorem acceptedCount_snoc (trace : List RejectEvent) (e : RejectEvent) :
    acceptedCount (trace ++ [e]) = acceptedCount trace + acceptedCount [e] := by
  simp [acceptedCount]

/-! ## The invariant -/

/-- The state of the control, in terms of the trace. -/
structure WindowInv (window : ℕ) (s : Watched) : Prop where
  wf : s.control.Wf
  window_eq : s.control.window = window
  present_eq : s.control.present = recent window (entries s.trace)
  rejected_iff : ∀ b, b ∈ s.control.rejected ↔
    b ∈ s.control.present ∧ AcceptedSinceEntry b s.trace
  count_eq : s.control.count = min 65535 (acceptedCount s.trace)

namespace WindowInv

variable {window : ℕ} {s : Watched}

theorem length_le (h : WindowInv window s) : s.control.present.length ≤ window :=
  h.window_eq ▸ h.wf.within

/-- Observing a bottle that is remembered changes nothing. -/
theorem observe_present (h : WindowInv window s) {b : ℕ} (hb : b ∈ s.control.present) :
    s.control.observe b = s.control := by
  have htrim (present rejected : List ℕ) (hle : present.length ≤ s.control.window) :
      RejectControl.trim s.control.window present rejected = (present, rejected) := by
    cases present with
    | nil => rfl
    | cons a present =>
        unfold RejectControl.trim
        rw [if_neg (Nat.not_lt.2 hle)]
  rw [RejectControl.observe, if_pos hb, htrim _ _ h.wf.within]

/-- A bottle that enters pushes the oldest one out. -/
theorem observe_entered (h : WindowInv window s) {b : ℕ} (hb : b ∉ s.control.present) :
    WindowInv window ⟨s.control.observe b, s.trace ++ [.entered b]⟩ := by
  have hnodup : (s.control.present ++ [b]).Nodup := by
    rw [List.nodup_append]
    refine ⟨h.wf.present_nodup, List.nodup_singleton b, fun x hx y hy => ?_⟩
    rw [List.mem_singleton.1 hy]
    exact fun hxb => hb (hxb ▸ hx)
  have hpresent : (s.control.observe b).present = recent window (s.control.present ++ [b]) := by
    rw [RejectControl.observe, if_neg hb, ← h.window_eq]
    exact RejectControl.trim_fst _ _ _
  have hrejected : (s.control.observe b).rejected =
      (RejectControl.trim window (s.control.present ++ [b]) s.control.rejected).2 := by
    rw [RejectControl.observe, if_neg hb, h.window_eq]
  have hwf := RejectControl.observe_wf h.wf b
  constructor
  · exact hwf
  · exact h.window_eq
  · show (s.control.observe b).present = recent window (entries (s.trace ++ [.entered b]))
    have hentries : entries (s.trace ++ [.entered b]) = entries s.trace ++ [b] :=
      entries_snoc _ _
    rw [hpresent, hentries, recent_append window (entries s.trace), ← h.present_eq]
  · intro x
    show x ∈ (s.control.observe b).rejected ↔ x ∈ (s.control.observe b).present ∧
      AcceptedSinceEntry x (s.trace ++ [.entered b])
    rw [hpresent, hrejected, acceptedSinceEntry_snoc]
    have hback : x ∈ recent window (s.control.present ++ [b]) → x ∈ s.control.present ++ [b] :=
      List.mem_of_mem_drop
    by_cases hx : x ∈ s.control.present ++ [b]
    · rw [RejectControl.mem_trim_snd hnodup hx, h.rejected_iff]
      by_cases hxb : x = b
      · subst hxb
        simp [hb]
      · have hxs : x ∈ s.control.present :=
          (List.mem_append.1 hx).resolve_right fun hmem => hxb (List.mem_singleton.1 hmem)
        have hne : RejectEvent.entered b ≠ .entered x := fun heq =>
          hxb (RejectEvent.entered.inj heq).symm
        simp [hxs, hne, and_comm]
    · have hnot : x ∉ (RejectControl.trim window (s.control.present ++ [b])
          s.control.rejected).2 := by
        intro hmem
        have hkept := hwf.rejected_present x (hrejected ▸ hmem)
        rw [hpresent] at hkept
        exact hx (hback hkept)
      exact iff_of_false hnot fun hand => hx (hback hand.1)
  · show s.control.count = min 65535 (acceptedCount (s.trace ++ [.entered b]))
    rw [acceptedCount_snoc, h.count_eq]
    rfl

/-- An event that neither enters a bottle nor accepts a command leaves the state as it
was. -/
theorem unchanged (h : WindowInv window s) {e : RejectEvent} (hentries : entries [e] = [])
    (haccepted : e.isAccepted = false) : WindowInv window ⟨s.control, s.trace ++ [e]⟩ := by
  have hne (b : ℕ) : e ≠ .answered 1 b 1 := by
    rintro rfl
    cases haccepted
  have hnot (b : ℕ) : e ≠ .entered b := by
    rintro rfl
    cases hentries
  constructor
  · exact h.wf
  · exact h.window_eq
  · show s.control.present = recent window (entries (s.trace ++ [e]))
    rw [entries_snoc, hentries, List.append_nil]
    exact h.present_eq
  · intro b
    show b ∈ s.control.rejected ↔ b ∈ s.control.present ∧ AcceptedSinceEntry b (s.trace ++ [e])
    rw [acceptedSinceEntry_snoc, h.rejected_iff]
    simp [hne b, hnot b]
  · show s.control.count = min 65535 (acceptedCount (s.trace ++ [e]))
    rw [acceptedCount_snoc, h.count_eq]
    simp [acceptedCount, haccepted]

/-- An accepted command marks its bottle. -/
theorem accepted (h : WindowInv window s) {operation value : ℕ}
    (hstatus : (s.control.apply operation value).2 = 1) :
    WindowInv window ⟨(s.control.apply operation value).1,
      s.trace ++ [.answered operation value 1]⟩ := by
  have hcases : operation = 1 ∧ value ∈ s.control.present ∧
      (s.control.apply operation value).1 =
        { s.control with
          rejected := value :: s.control.rejected
          count := min 65535 (s.control.count + 1)
          lastBottle := value } := by
    revert hstatus
    unfold RejectControl.apply
    split_ifs with hbad hpresent hrejected
    · intro hstatus
      cases hstatus
    · intro hstatus
      cases hstatus
    · exact fun _ => ⟨by omega, hpresent, rfl⟩
    · intro hstatus
      cases hstatus
  obtain ⟨rfl, hpresent, hafter⟩ := hcases
  have hwf := RejectControl.apply_wf h.wf 1 value
  rw [hafter] at hwf ⊢
  constructor
  · exact hwf
  · exact h.window_eq
  · show s.control.present = recent window (entries (s.trace ++ [.answered 1 value 1]))
    rw [entries_snoc]
    exact h.present_eq.trans (congrArg (recent window) (List.append_nil _).symm)
  · intro b
    show b ∈ value :: s.control.rejected ↔ b ∈ s.control.present ∧
      AcceptedSinceEntry b (s.trace ++ [.answered 1 value 1])
    rw [acceptedSinceEntry_snoc, List.mem_cons, h.rejected_iff]
    by_cases hb : b = value
    · subst hb
      simp [hpresent]
    · have hne : RejectEvent.answered 1 value 1 ≠ .answered 1 b 1 := fun heq =>
        hb (RejectEvent.answered.inj heq).2.1.symm
      simp [hb, hne]
  · show min 65535 (s.control.count + 1) =
      min 65535 (acceptedCount (s.trace ++ [.answered 1 value 1]))
    have hone : acceptedCount [.answered 1 value 1] = 1 := rfl
    rw [acceptedCount_snoc, hone, h.count_eq]
    omega

/-- Every call keeps the invariant. -/
theorem call (h : WindowInv window s) (c : RejectCall) : WindowInv window (s.call c) := by
  cases c with
  | observe b =>
      by_cases hb : b ∈ s.control.present
      · have hevent : s.control.event (.observe b) = .seenAgain b := if_pos hb
        have hcontrol : s.control.call (.observe b) = s.control := h.observe_present hb
        rw [Watched.call, hevent, hcontrol]
        exact h.unchanged rfl rfl
      · have hevent : s.control.event (.observe b) = .entered b := if_neg hb
        rw [Watched.call, hevent]
        exact h.observe_entered hb
  | apply operation value =>
      by_cases hstatus : (s.control.apply operation value).2 = 1
      · have hevent : s.control.event (.apply operation value) = .answered operation value 1 :=
          congrArg _ hstatus
        rw [Watched.call, hevent]
        exact h.accepted hstatus
      · have hcontrol : s.control.call (.apply operation value) = s.control :=
          RejectControl.apply_unchanged hstatus
        rw [Watched.call, hcontrol]
        exact h.unchanged rfl (by simpa [RejectControl.event, RejectEvent.isAccepted] using hstatus)

end WindowInv

/-- **The invariant holds after any calls.** -/
theorem watch_inv (window : ℕ) (calls : List RejectCall) :
    WindowInv window (watch window calls) := by
  have hrun : ∀ s : Watched, WindowInv window s →
      WindowInv window (calls.foldl Watched.call s) := by
    induction calls with
    | nil => exact fun _ h => h
    | cons c calls ih => exact fun s h => ih (s.call c) (h.call c)
  apply hrun
  constructor
  · exact RejectControl.new_wf window
  · rfl
  · simp [recent, entries]
  · intro b
    have hnever : ¬ AcceptedSinceEntry b [] := by
      rintro ⟨before, after, heq, -⟩
      simp at heq
    simp [hnever]
  · rfl

/-! ## What the station does -/

/-- The station in terms of the trace of its calls. -/
structure RejectStation (window : ℕ) (c : RejectControl) (trace : List RejectEvent) : Prop where
  /-- The queue holds the most recent entries in entry order. -/
  recentEntries : c.present = recent window (entries trace)
  distinct : c.present.Nodup
  bounded : c.present.length ≤ window
  observeAgain : ∀ b ∈ c.present, c.observe b = c
  rejectedPresent : ∀ b ∈ c.rejected, b ∈ c.present
  applied : ∀ v, 1 ≤ v → v ≤ 65535 →
    ((c.apply 1 v).2 = 1 ↔ v ∈ c.present ∧ ¬ AcceptedSinceEntry v trace)
  duplicate : ∀ v, 1 ≤ v → v ≤ 65535 →
    ((c.apply 1 v).2 = 4 ↔ v ∈ c.present ∧ AcceptedSinceEntry v trace)
  absent : ∀ v, 1 ≤ v → v ≤ 65535 → ((c.apply 1 v).2 = 3 ↔ v ∉ c.present)
  unchanged : ∀ operation v, (c.apply operation v).2 ≠ 1 → (c.apply operation v).1 = c
  counted : c.count = min 65535 (acceptedCount trace)

/-- What a command for a bottle in range is answered. -/
theorem RejectControl.apply_status (c : RejectControl) {v : ℕ} (hlow : 1 ≤ v) (hhigh : v ≤ 65535) :
    (c.apply 1 v).2 = if v ∉ c.present then 3 else if v ∈ c.rejected then 4 else 1 := by
  have hrange : ¬ ((1 : ℕ) ≠ 1 ∨ ¬ (1 ≤ v ∧ v ≤ 65535)) := by omega
  rw [RejectControl.apply, if_neg hrange]
  split_ifs <;> rfl

/-- **The window of the reject station.**  After any calls the queue, the set and the
counter are what the trace of the calls says, and a command is answered accordingly. -/
theorem rejectStation (window : ℕ) (calls : List RejectCall) :
    RejectStation window (watch window calls).control (watch window calls).trace := by
  have h := watch_inv window calls
  have hstatus {v : ℕ} (hlow : 1 ≤ v) (hhigh : v ≤ 65535) :=
    RejectControl.apply_status (watch window calls).control hlow hhigh
  constructor
  · exact h.present_eq
  · exact h.wf.present_nodup
  · exact h.length_le
  · exact fun b hb => h.observe_present hb
  · exact h.wf.rejected_present
  · intro v hlow hhigh
    rw [hstatus hlow hhigh]
    by_cases hp : v ∈ (watch window calls).control.present
    · by_cases hr : v ∈ (watch window calls).control.rejected
      · simp [hp, hr, ((h.rejected_iff v).1 hr).2]
      · have hnot : ¬ AcceptedSinceEntry v (watch window calls).trace :=
          fun haccepted => hr ((h.rejected_iff v).2 ⟨hp, haccepted⟩)
        simp [hp, hr, hnot]
    · simp [hp]
  · intro v hlow hhigh
    rw [hstatus hlow hhigh, ← h.rejected_iff v]
    by_cases hr : v ∈ (watch window calls).control.rejected
    · simp [((h.rejected_iff v).1 hr).1, hr]
    · by_cases hp : v ∈ (watch window calls).control.present <;> simp [hp, hr]
  · intro v hlow hhigh
    rw [hstatus hlow hhigh]
    by_cases hp : v ∈ (watch window calls).control.present
    · by_cases hr : v ∈ (watch window calls).control.rejected <;> simp [hp, hr]
    · simp [hp]
  · exact fun operation v => RejectControl.apply_unchanged
  · exact h.count_eq

example : (watch 3 [.observe 1, .apply 1 1, .observe 2, .observe 3, .observe 4, .apply 1 1,
    .observe 1, .apply 1 1]).trace.getLast? = some (.answered 1 1 1) := by decide

end EirvahEdge.Devices
