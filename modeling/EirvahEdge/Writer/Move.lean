import EirvahEdge.Writer.AtMostOnce

/-!
# What one step of the publisher does

Every step either drops all deliveries, answers a message that was refused,
takes a new delivery, or moves one delivery; `step_move` says so once, with what
each move of a delivery requires and what it adds to the trace.  Nothing here
depends on the clock.
-/

namespace EirvahEdge.Writer

open EirvahEdge.Lib
open EirvahEdge.Contracts

variable {δ τ : Type}

/-- One delivery before and after a step, and what the step recorded. -/
inductive TaskMove [DecidableEq δ] [DecidableEq τ] (cfg : WriterConfig δ τ) (d : ℕ)
    (t : Task δ τ) : Task δ τ → List (Obs δ τ) → Prop where
  /-- The coroutine goes on, or the write gives up; at most a reply is sent. -/
  | quiet (p : HandlerPhase) (w : WriteStage) (os : List (Obs δ τ))
      (hp : p.synchronous = true → t.handler.synchronous = true)
      (hw : w = t.write ∨ (t.write ≠ .absent ∧ w ≠ .marked ∧ ∀ v, w ≠ .ready v))
      (hos : ∀ o ∈ os, ∃ m r, o = .replied d m r) :
      TaskMove cfg d t { t with handler := p, write := w } os
  | verified (now : ℚ) (hphase : t.handler = .lookedUp) :
      TaskMove cfg d t { t with handler := .checked } [.verified d now]
  | claimed (token : String) (hphase : t.handler = .checked) :
      TaskMove cfg d t (t.executing token)
        [.claimed d t.command.correlationId t.digest token]
  | connected (route : Route) (sequence : ℕ) (frames : List Frame)
      (hstage : t.write = .connecting)
      (hroute : cfg.route? t.command.targetUnsTopic = some route)
      (hframes : framesFor route t.command.requestedValue sequence = .ok frames) :
      TaskMove cfg d t { t with write := .idle, frames := frames } []
  | checked (now : ℚ) (hstage : t.write = .idle) :
      TaskMove cfg d t { t with write := .checked } [.verified d now]
  | marked (token : String) (hstage : t.write = .checked) (htoken : t.token = some token) :
      TaskMove cfg d t { t with write := .marked }
        [.initiated d t.command.correlationId t.digest token]
  | ready (now : ℚ) (hstage : t.write = .marked) (hverify : verifyTask cfg t now = .ok ()) :
      TaskMove cfg d t { t with write := .ready now } [.verified d now]
  | sent (v : ℚ) (token : String) (f : Frame) (frames : List Frame)
      (hstage : t.write = .ready v) (htoken : t.token = some token)
      (hframes : t.frames = f :: frames) :
      TaskMove cfg d t { t with write := .idle, frames := frames }
        [.frame d t.command t.approval t.digest token f]

/-- A step, as far as deliveries and the trace go. -/
inductive Move [DecidableEq δ] [DecidableEq τ] (cfg : WriterConfig δ τ)
    (s : WriterState δ τ) (e : WriterEvent δ τ) (s' : WriterState δ τ) : Prop where
  | dropped (htasks : s'.tasks = fun _ => none) (htrace : s'.trace = s.trace)
  | refused (m : WriterMessage δ τ) (r : WriteResult) (htasks : s'.tasks = s.tasks)
      (htrace : s'.trace = .replied s.deliveries m r :: s.trace)
  | admitted (m : WriterMessage δ τ) (now : ℚ) (request : ApprovedWriteRequest δ τ)
      (digest : δ) (he : e = .deliver m now)
      (hok : admission cfg now m = .ok (request, digest))
      (htasks : s'.tasks = Function.update s.tasks s.deliveries
        (some { command := request.command, approval := request.approval, digest }))
      (htrace : s'.trace = .verified s.deliveries now :: s.trace)
  | task (d : ℕ) (t t' : Task δ τ) (os : List (Obs δ τ)) (ht : s.tasks d = some t)
      (hmove : TaskMove cfg d t t' os)
      (htasks : s'.tasks = Function.update s.tasks d (some t'))
      (htrace : s'.trace = os ++ s.trace)

section Steps

variable [DecidableEq δ] [DecidableEq τ] {cfg : WriterConfig δ τ}
  {s s' : WriterState δ τ} {e : WriterEvent δ τ}

/-- The handler answers and ends, whatever became of its write. -/
theorem Move.reply {d : ℕ} {t : Task δ τ} (ht : s.tasks d = some t) (now : ℚ)
    (db : Commands δ) (r : WriteResult) : Move cfg s e ((s.at' now db).reply d t r) := by
  apply Move.task d t _ [.replied d t.message r] ht (TaskMove.quiet .gone t.write _ _ _ _)
    rfl rfl
  · intro h
    cases h
  · exact Or.inl rfl
  · intro o ho
    exact ⟨t.message, r, List.mem_singleton.1 ho⟩

/-- The coroutine or the write goes on, and nothing is recorded. -/
theorem Move.quiet {d : ℕ} {t : Task δ τ} (ht : s.tasks d = some t)
    (p : HandlerPhase) (w : WriteStage)
    (hp : p.synchronous = true → t.handler.synchronous = true)
    (hw : w = t.write ∨ (t.write ≠ .absent ∧ w ≠ .marked ∧ ∀ v, w ≠ .ready v))
    (htasks : s'.tasks = Function.update s.tasks d
      (some { t with handler := p, write := w }))
    (htrace : s'.trace = s.trace) : Move cfg s e s' :=
  .task d t _ [] ht (.quiet p w [] hp hw fun o ho => by cases ho) htasks htrace

/-- A write in this stage stops before it sends anything else. -/
theorem Move.write {d : ℕ} {t : Task δ τ} (ht : s.tasks d = some t)
    (hstage : t.write ≠ .absent) {w : WriteStage} (hw : w ≠ .marked ∧ ∀ v, w ≠ .ready v)
    (htasks : s'.tasks = Function.update s.tasks d (some { t with write := w }))
    (htrace : s'.trace = s.trace) : Move cfg s e s' :=
  .quiet ht t.handler w (fun h => h) (Or.inr ⟨hstage, hw⟩) htasks htrace

theorem step_move_lookup {d : ℕ} {fault : Option PyError} {now : ℚ}
    (hs : step cfg s (.lookup d fault now) = some s') : Move cfg s e s' := by
  obtain ⟨t, ht, rfl⟩ := Option.map_eq_some_iff.1 hs
  obtain ⟨hmem, -, hphase, -⟩ := handler?_eq_some ht
  have hsync : t.handler.synchronous = true := by rw [hphase]; rfl
  split
  · exact .reply hmem _ _ _
  · exact .quiet hmem .lookedUp t.write (fun _ => hsync) (Or.inl rfl) rfl rfl
  · split
    · exact .quiet hmem .lookedUp t.write (fun _ => hsync) (Or.inl rfl) rfl rfl
    · exact .reply hmem _ _ _

theorem step_move_verify {d : ℕ} {now : ℚ}
    (hs : step cfg s (.verify d now) = some s') : Move cfg s e s' := by
  obtain ⟨t, ht, rfl⟩ := Option.map_eq_some_iff.1 hs
  obtain ⟨hmem, -, hphase, -⟩ := handler?_eq_some ht
  split
  · exact .reply hmem _ _ _
  · exact .task d t _ _ hmem (.verified now hphase) rfl rfl

theorem step_move_claim {d : ℕ} {fault : Option PyError} {pruneAt now : ℚ}
    {token : String} (hs : step cfg s (.claim d fault pruneAt now token) = some s') :
    Move cfg s e s' := by
  simp only [step] at hs
  split at hs
  · cases hs
  · obtain ⟨t, ht, rfl⟩ := Option.map_eq_some_iff.1 hs
    obtain ⟨hmem, -, hphase, -⟩ := handler?_eq_some ht
    split
    · exact .task d t _ _ hmem (.claimed _ hphase) rfl rfl
    · exact .reply hmem _ _ _
    · exact .reply hmem _ _ _
    · exact .reply hmem _ _ _

theorem step_move_connect {d previous draw : ℕ}
    (hs : step cfg s (.connect d previous draw) = some s') : Move cfg s e s' := by
  obtain ⟨t, ht, rfl⟩ := Option.map_eq_some_iff.1 hs
  obtain ⟨hmem, -, hstage⟩ := write?_eq_some ht
  have hconnecting : t.write = .connecting := by simpa using hstage
  have habsent : t.write ≠ .absent := by rw [hconnecting]; simp
  split
  · exact .write hmem habsent (by simp) rfl rfl
  · next route hroute =>
      split
      · exact .write hmem habsent (by simp) rfl rfl
      · next frames hframes =>
          exact .task d t _ [] hmem
            (.connected route _ frames hconnecting hroute hframes) rfl rfl

/-- `before_write`: a check, the started commit, a check. -/
theorem step_move_check {d : ℕ} {now : ℚ}
    (hs : step cfg s (.check d now) = some s') : Move cfg s e s' := by
  obtain ⟨t, ht, hs⟩ := Option.bind_eq_some_iff.1 hs
  obtain ⟨hmem, -, hstage⟩ := write?_eq_some ht
  have hidle : t.write = .idle := by simpa using hstage
  split at hs
  · cases hs
  · split at hs
    · rw [← Option.some.inj hs]
      exact .write hmem (by rw [hidle]; simp) (by simp) rfl rfl
    · rw [← Option.some.inj hs]
      exact .task d t _ _ hmem (.checked now hidle) rfl rfl

theorem step_move_mark {d : ℕ} {fault : Option PyError} {now : ℚ}
    (hs : step cfg s (.mark d fault now) = some s') : Move cfg s e s' := by
  obtain ⟨t, ht, hs⟩ := Option.bind_eq_some_iff.1 hs
  obtain ⟨token, htoken, rfl⟩ := Option.map_eq_some_iff.1 hs
  obtain ⟨hmem, -, hstage⟩ := write?_eq_some ht
  have hchecked : t.write = .checked := by simpa using hstage
  split
  · exact .write hmem (by rw [hchecked]; simp) (by simp) rfl rfl
  · exact .task d t _ _ hmem (.marked token hchecked htoken) rfl rfl

theorem step_move_recheck {d : ℕ} {now : ℚ}
    (hs : step cfg s (.recheck d now) = some s') : Move cfg s e s' := by
  obtain ⟨t, ht, rfl⟩ := Option.map_eq_some_iff.1 hs
  obtain ⟨hmem, -, hstage⟩ := write?_eq_some ht
  have hmarked : t.write = .marked := by simpa using hstage
  split
  · exact .write hmem (by rw [hmarked]; simp) (by simp) rfl rfl
  · next hverify => exact .task d t _ _ hmem (.ready now hmarked hverify) rfl rfl

theorem step_move_send {d : ℕ} (hs : step cfg s (.send d) = some s') :
    Move cfg s e s' := by
  obtain ⟨t, hmem, hs⟩ := Option.bind_eq_some_iff.1 hs
  split at hs
  · next v token f frames _ hstage htoken hframes =>
      rw [← Option.some.inj hs]
      exact .task d t _ _ hmem (.sent v token f frames hstage htoken hframes) rfl rfl
  · cases hs

/-- The ends of a handler: `complete`, `fail`, the outer `except`. -/
theorem step_move_complete {d : ℕ} {fault : Option PyError} {now : ℚ}
    {writtenAt : AwareDatetime} (hs : step cfg s (.complete d fault now writtenAt) = some s') :
    Move cfg s e s' := by
  obtain ⟨t, ht, hs⟩ := Option.bind_eq_some_iff.1 hs
  obtain ⟨hmem, -, -, -⟩ := handler?_eq_some ht
  split at hs
  · split at hs
    · rw [← Option.some.inj hs]
      exact .quiet hmem .failing t.write (fun h => by cases h) (Or.inl rfl) rfl rfl
    · rw [← Option.some.inj hs]
      exact .reply hmem _ _ _
  · cases hs

theorem step_move_giveUp {d : ℕ} {fault : Option PyError} {now : ℚ}
    (hs : step cfg s (.giveUp d fault now) = some s') : Move cfg s e s' := by
  obtain ⟨t, ht, hs⟩ := Option.bind_eq_some_iff.1 hs
  obtain ⟨hmem, -, -, -⟩ := handler?_eq_some ht
  split at hs
  · split at hs
    · rw [← Option.some.inj hs]
      exact .quiet hmem .failing t.write (fun h => by cases h) (Or.inl rfl) rfl rfl
    · rw [← Option.some.inj hs]
      exact .reply hmem _ _ _
  · cases hs

theorem step_move_cancel {d : ℕ} {fault : Option PyError} {now : ℚ}
    (hs : step cfg s (.cancel d fault now) = some s') : Move cfg s e s' := by
  obtain ⟨t, ht, hs⟩ := Option.bind_eq_some_iff.1 hs
  obtain ⟨hmem, -, -, -⟩ := handler?_eq_some ht
  split at hs
  · next token hrunning htoken =>
      have hwrite : surviving cfg t = t.write ∨ (t.write ≠ .absent ∧
          surviving cfg t ≠ .marked ∧ ∀ v, surviving cfg t ≠ .ready v) := by
        unfold surviving
        split
        · exact Or.inl rfl
        · refine Or.inr ⟨fun habsent => ?_, by simp⟩
          rw [habsent] at hrunning
          cases hrunning
      split at hs
      · rw [← Option.some.inj hs]
        exact .quiet hmem .failing _ (fun h => by cases h) hwrite rfl rfl
      · rw [← Option.some.inj hs]
        exact .quiet hmem .gone _ (fun h => by cases h) hwrite rfl rfl
  · cases hs

/-- Every step of the publisher is a move. -/
theorem step_move (hs : step cfg s e = some s') : Move cfg s e s' := by
  cases e with
  | restart now pruneAt =>
      simp only [step] at hs
      split at hs
      · rw [← Option.some.inj hs]
        exact .dropped rfl rfl
      · cases hs
  | crash =>
      simp only [step] at hs
      split at hs
      · rw [← Option.some.inj hs]
        exact .dropped rfl rfl
      · cases hs
  | deliver message now =>
      simp only [step] at hs
      split at hs
      · split at hs
        · rw [← Option.some.inj hs]
          exact .refused message _ rfl rfl
        · next request digest hok =>
            rw [← Option.some.inj hs]
            exact .admitted message now request digest rfl hok rfl rfl
      · cases hs
  | lookup d fault now => exact step_move_lookup hs
  | verify d now => exact step_move_verify hs
  | claim d fault pruneAt now token => exact step_move_claim hs
  | connect d previous draw => exact step_move_connect hs
  | check d now => exact step_move_check hs
  | mark d fault now => exact step_move_mark hs
  | recheck d now => exact step_move_recheck hs
  | send d => exact step_move_send hs
  | acknowledge d =>
      obtain ⟨t, ht, hs⟩ := Option.bind_eq_some_iff.1 hs
      obtain ⟨hmem, -, hstage⟩ := write?_eq_some ht
      have hidle : t.write = .idle := by simpa using hstage
      split at hs
      · rw [← Option.some.inj hs]
        exact .write hmem (by rw [hidle]; simp) (by simp) rfl rfl
      · cases hs
  | raise d error =>
      obtain ⟨t, ht, rfl⟩ := Option.map_eq_some_iff.1 hs
      obtain ⟨hmem, -, hrunning⟩ := write?_eq_some ht
      refine .write hmem (fun habsent => ?_) (by simp) rfl rfl
      rw [habsent] at hrunning
      cases hrunning
  | complete d fault now writtenAt => exact step_move_complete hs
  | giveUp d fault now => exact step_move_giveUp hs
  | escape d =>
      obtain ⟨t, ht, hs⟩ := Option.bind_eq_some_iff.1 hs
      obtain ⟨hmem, -, -, -⟩ := handler?_eq_some ht
      split at hs
      · next hstage =>
          rw [← Option.some.inj hs]
          have habsent : t.write ≠ .absent := by
            rcases hstage with h | h <;> rw [h] <;> simp
          exact .quiet hmem .failing .absent (fun h => by cases h)
            (Or.inr ⟨habsent, by simp⟩) rfl rfl
      · cases hs
  | catchAll d fault now =>
      obtain ⟨t, ht, hs⟩ := Option.bind_eq_some_iff.1 hs
      obtain ⟨token, htoken, rfl⟩ := Option.map_eq_some_iff.1 hs
      exact .reply (handler?_eq_some ht).1 _ _ _
  | cancel d fault now => exact step_move_cancel hs

end Steps

end EirvahEdge.Writer
