import EirvahEdge.Lib.History
import EirvahEdge.Writer.Move

/-!
# The last check before a frame

On all three write paths `before_write` runs before every frame: a check, the
started commit, a check.  Whatever else happens in between, the write events of
one delivery keep that order, so the event right before a frame is a check that
passed, and the one before it is the commit.  No assumption on the clock is
needed.
-/

namespace EirvahEdge.Writer

open EirvahEdge.Lib
open EirvahEdge.Lib.History
open EirvahEdge.Contracts

variable {δ τ : Type}

/-- An event of the write of a delivery. -/
def Obs.ofWrite (d : ℕ) : Obs δ τ → Bool
  | .verified d' _ => d' = d
  | .initiated d' _ _ _ => d' = d
  | .frame d' _ _ _ _ _ => d' = d
  | .claimed .. => false
  | .replied .. => false

/-- The write events of a delivery, latest first. -/
def writeTrace (d : ℕ) (trace : List (Obs δ τ)) : List (Obs δ τ) :=
  trace.filter (Obs.ofWrite d)

/-- The frame is one of those that write this value to the target of this
topic. -/
def Targets (cfg : WriterConfig δ τ) (c : ActuationRequest) (f : Frame) : Prop :=
  ∃ route sequence frames, cfg.route? c.targetUnsTopic = some route ∧
    framesFor route c.requestedValue sequence = .ok frames ∧ f ∈ frames

section Law

variable [DecidableEq δ] [DecidableEq τ]

/-- The last write event of the delivery is a check that passed, and the one
before it the started commit. -/
def Checked (cfg : WriterConfig δ τ) (trace : List (Obs δ τ)) (d : ℕ)
    (c : ActuationRequest) (a : SignedEvidence δ τ) (digest : δ) (token : String)
    (at' : ℚ) : Prop :=
  (∃ rest, writeTrace d trace =
    .verified d at' :: .initiated d c.correlationId digest token :: rest) ∧
    verifyEvidence cfg.crypto c a cfg.approvalKey .approval cfg.writerId at' false = .ok ()

/-- What holds at every frame of the history. -/
def LastCheck (cfg : WriterConfig δ τ) (older : List (Obs δ τ)) : Obs δ τ → Prop
  | .frame d c a digest token f =>
      (∃ at', Checked cfg older d c a digest token at') ∧ Targets cfg c f
  | _ => True

/-- Where a write stands, in terms of its events. -/
structure Watched (cfg : WriterConfig δ τ) (trace : List (Obs δ τ)) (d : ℕ)
    (t : Task δ τ) : Prop where
  absent : t.handler.synchronous = true → t.write = .absent
  frames : ∀ f ∈ t.frames, Targets cfg t.command f
  marked : t.write = .marked → ∃ token rest, t.token = some token ∧
    writeTrace d trace = .initiated d t.command.correlationId t.digest token :: rest
  ready : ∀ v, t.write = .ready v → ∃ token, t.token = some token ∧
    Checked cfg trace d t.command t.approval t.digest token v

variable {cfg : WriterConfig δ τ}

omit [DecidableEq δ] [DecidableEq τ] in
theorem writeTrace_append_of_other {d : ℕ} (os : List (Obs δ τ)) {trace : List (Obs δ τ)}
    (h : ∀ o ∈ os, o.ofWrite d = false) : writeTrace d (os ++ trace) = writeTrace d trace := by
  have hnil : os.filter (Obs.ofWrite d) = [] :=
    List.filter_eq_nil_iff.2 fun o ho => by simp [h o ho]
  simp [writeTrace, hnil]

omit [DecidableEq δ] [DecidableEq τ] in
theorem writeTrace_cons_self {d : ℕ} {o : Obs δ τ} {trace : List (Obs δ τ)}
    (h : o.ofWrite d = true) : writeTrace d (o :: trace) = o :: writeTrace d trace := by
  simp [writeTrace, h]

/-- A move of one delivery records nothing about the write of another. -/
theorem TaskMove.other {d d' : ℕ} {t t' : Task δ τ} {os : List (Obs δ τ)}
    (h : TaskMove cfg d t t' os) (hd : d' ≠ d) : ∀ o ∈ os, o.ofWrite d' = false := by
  intro o ho
  have hne : ¬ d = d' := fun h => hd h.symm
  cases h with
  | quiet p w os hp hw hos =>
      obtain ⟨m, r, rfl⟩ := hos o ho
      rfl
  | connected => cases ho
  | verified => rw [List.mem_singleton.1 ho]; simp [Obs.ofWrite, hne]
  | claimed => rw [List.mem_singleton.1 ho]; rfl
  | checked => rw [List.mem_singleton.1 ho]; simp [Obs.ofWrite, hne]
  | marked => rw [List.mem_singleton.1 ho]; simp [Obs.ofWrite, hne]
  | ready => rw [List.mem_singleton.1 ho]; simp [Obs.ofWrite, hne]
  | sent => rw [List.mem_singleton.1 ho]; simp [Obs.ofWrite, hne]

/-- What is known of a delivery depends on its own write events. -/
theorem Watched.congr {trace trace' : List (Obs δ τ)} {d : ℕ} {t : Task δ τ}
    (h : Watched cfg trace d t) (htrace : writeTrace d trace' = writeTrace d trace) :
    Watched cfg trace' d t where
  absent := h.absent
  frames := h.frames
  marked := by rw [htrace]; exact h.marked
  ready := by unfold Checked; rw [htrace]; exact h.ready

/-- A write that passed nothing yet. -/
theorem Watched.unchecked {trace : List (Obs δ τ)} {d : ℕ} {t : Task δ τ}
    (habsent : t.handler.synchronous = true → t.write = .absent)
    (hframes : ∀ f ∈ t.frames, Targets cfg t.command f)
    (hstage : t.write ≠ .marked ∧ ∀ v, t.write ≠ .ready v) : Watched cfg trace d t where
  absent := habsent
  frames := hframes
  marked := fun h => absurd h hstage.1
  ready := fun v h => absurd h (hstage.2 v)

/-- A handler in a synchronous phase has no write yet. -/
theorem Watched.async {trace : List (Obs δ τ)} {d : ℕ} {t : Task δ τ}
    (h : Watched cfg trace d t) (hw : t.write ≠ .absent) : t.handler.synchronous = false := by
  cases hsync : t.handler.synchronous with
  | false => rfl
  | true => exact absurd (h.absent hsync) hw

/-- Every move keeps a delivery watched. -/
theorem Watched.move {trace os : List (Obs δ τ)} {d : ℕ} {t t' : Task δ τ}
    (h : Watched cfg trace d t) (hmove : TaskMove cfg d t t' os) :
    Watched cfg (os ++ trace) d t' := by
  cases hmove with
  | quiet p w os hp hw hos =>
      have htrace : writeTrace d (os ++ trace) = writeTrace d trace := by
        apply writeTrace_append_of_other os
        intro o ho
        obtain ⟨m, r, rfl⟩ := hos o ho
        rfl
      apply Watched.congr _ htrace
      have habsent : p.synchronous = true → w = .absent := by
        intro hsync
        have hold := h.absent (hp hsync)
        rcases hw with rfl | ⟨hne, -⟩
        · exact hold
        · exact absurd hold hne
      rcases hw with rfl | ⟨-, hstage⟩
      · exact ⟨habsent, h.frames, h.marked, h.ready⟩
      · exact .unchecked habsent h.frames hstage
  | verified now hphase =>
      have habsent : t.write = .absent := h.absent (by rw [hphase]; rfl)
      exact .unchecked (fun _ => habsent) h.frames (by simp [habsent])
  | claimed token hphase =>
      exact .unchecked (fun hsync => by cases hsync) h.frames (by simp [Task.executing])
  | connected route sequence frames hstage hroute hframes =>
      have hasync := h.async (by rw [hstage]; simp)
      refine .unchecked (fun hsync => ?_) (fun f hf => ?_) (by simp)
      · rw [hasync] at hsync
        cases hsync
      · exact ⟨route, sequence, frames, hroute, hframes, hf⟩
  | checked now hstage =>
      have hasync := h.async (by rw [hstage]; simp)
      refine .unchecked (fun hsync => ?_) h.frames (by simp)
      rw [hasync] at hsync
      cases hsync
  | marked token hstage htoken =>
      have hasync := h.async (by rw [hstage]; simp)
      refine ⟨fun hsync => ?_, h.frames, fun _ => ?_, fun v hv => by cases hv⟩
      · rw [hasync] at hsync
        cases hsync
      · exact ⟨token, writeTrace d trace, htoken, writeTrace_cons_self (by simp [Obs.ofWrite])⟩
  | ready now hstage hverify =>
      have hasync := h.async (by rw [hstage]; simp)
      refine ⟨fun hsync => ?_, h.frames, (fun hm => by cases hm), fun v hv => ?_⟩
      · rw [hasync] at hsync
        cases hsync
      · obtain rfl : now = v := WriteStage.ready.inj hv
        obtain ⟨token, rest, htoken, hlast⟩ := h.marked hstage
        refine ⟨token, htoken, ⟨rest, ?_⟩, hverify⟩
        rw [← hlast]
        exact writeTrace_cons_self (by simp [Obs.ofWrite])
  | sent v token f frames hstage htoken hframes =>
      have hasync := h.async (by rw [hstage]; simp)
      refine .unchecked (fun hsync => ?_) (fun g hg => ?_) (by simp)
      · rw [hasync] at hsync
        cases hsync
      · exact h.frames g (by rw [hframes]; exact List.mem_cons_of_mem _ hg)

/-- A frame leaves right after its check. -/
theorem Watched.always {trace os : List (Obs δ τ)} {d : ℕ} {t t' : Task δ τ}
    (h : Watched cfg trace d t) (hmove : TaskMove cfg d t t' os)
    (hlaw : Always (LastCheck cfg) trace) : Always (LastCheck cfg) (os ++ trace) := by
  cases hmove with
  | quiet p w os hp hw hos =>
      apply hlaw.append
      intro o ho before
      obtain ⟨m, r, rfl⟩ := hos o ho
      trivial
  | connected => exact hlaw
  | verified => exact ⟨trivial, hlaw⟩
  | claimed => exact ⟨trivial, hlaw⟩
  | checked => exact ⟨trivial, hlaw⟩
  | marked => exact ⟨trivial, hlaw⟩
  | ready => exact ⟨trivial, hlaw⟩
  | sent v token f frames hstage htoken hframes =>
      obtain ⟨token', htoken', hchecked⟩ := h.ready v hstage
      obtain rfl : token = token' := Option.some.inj (htoken.symm.trans htoken')
      exact ⟨⟨⟨v, hchecked⟩, h.frames f (by rw [hframes]; exact List.mem_cons_self)⟩, hlaw⟩

/-- Every delivery is watched, and every frame of the past left after its
check. -/
structure WatchInv (cfg : WriterConfig δ τ) (s : WriterState δ τ) : Prop where
  task : ∀ d t, s.tasks d = some t → Watched cfg s.trace d t
  law : Always (LastCheck cfg) s.trace

theorem WatchInv.initial (cfg : WriterConfig δ τ) (clock : ℚ) :
    WatchInv cfg (WriterState.initial clock) where
  task := by simp [WriterState.initial]
  law := trivial

/-- **Step lemma.** -/
theorem WatchInv.move {s s' : WriterState δ τ} {e : WriterEvent δ τ} (h : WatchInv cfg s)
    (hmove : Move cfg s e s') : WatchInv cfg s' := by
  cases hmove with
  | dropped htasks htrace =>
      refine ⟨fun d t ht => ?_, htrace ▸ h.law⟩
      rw [htasks] at ht
      cases ht
  | refused m r htasks htrace =>
      refine ⟨fun d t ht => ?_, htrace ▸ ⟨trivial, h.law⟩⟩
      rw [htasks] at ht
      apply (h.task d t ht).congr
      rw [htrace]
      exact writeTrace_append_of_other [_] (by simp [Obs.ofWrite])
  | admitted m now request digest he hok htasks htrace =>
      refine ⟨fun d t ht => ?_, htrace ▸ ⟨trivial, h.law⟩⟩
      rw [htasks, Function.update_apply] at ht
      split at ht
      · rw [← Option.some.inj ht]
        exact .unchecked (fun _ => rfl) (by simp) (by simp)
      · next hd =>
          apply (h.task d t ht).congr
          rw [htrace]
          have hne : ¬ s.deliveries = d := fun h => hd h.symm
          exact writeTrace_append_of_other [_] (by simp [Obs.ofWrite, hne])
  | task d t t' os ht hmove htasks htrace =>
      refine ⟨fun d' u hu => ?_, htrace ▸ (h.task d t ht).always hmove h.law⟩
      rw [htasks, Function.update_apply] at hu
      rw [htrace]
      split at hu
      · next hd =>
          rw [← Option.some.inj hu, hd]
          exact (h.task d t ht).move hmove
      · next hd =>
          exact (h.task d' u hu).congr (writeTrace_append_of_other os (hmove.other hd))

end Law

end EirvahEdge.Writer
