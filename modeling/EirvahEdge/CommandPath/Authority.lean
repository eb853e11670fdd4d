import EirvahEdge.CommandPath.Approval
import EirvahEdge.Writer.LastCheck

/-!
# No unauthorised, out-of-policy or late write

The bridge, the validator and the writer share two keys and meet over NATS
subjects that an adversary controls.  A message may be anything: made up,
dropped, delivered again, reordered or altered.  What the adversary cannot do is
sign: a piece of evidence that verifies under one of the keys has the body of
one that a service signed with that key (`Unforgeable`, a condition on what is
delivered).

Every frame then comes from a command that the bridge took from an authenticated
publisher and the validator approved, and it left right after a check of its
deadline.
-/

namespace EirvahEdge.CommandPath

open EirvahEdge.Lib
open EirvahEdge.Lib.History
open EirvahEdge.Contracts
open EirvahEdge.Writer

variable {δ τ : Type}

/-! ## The system -/

/-- The three services; the validator signs approvals with the key the writer
checks them with. -/
structure PathConfig (δ τ : Type) where
  writer : WriterConfig δ τ
  validator : ValidatorConfig
  same_key : validator.approvalKey = writer.approvalKey

/-- A command the bridge signed, with the body and the broker user it came
from. -/
structure Bridged (δ τ : Type) where
  user : String
  body : ActuationRequest
  request : AuthenticatedRequest δ τ
deriving DecidableEq

/-- A command the validator signed an approval for. -/
structure Approved (δ τ : Type) where
  request : AuthenticatedRequest δ τ
  approval : SignedEvidence δ τ
deriving DecidableEq

structure PathState (δ τ : Type) where
  writer : WriterState δ τ
  bridged : List (Bridged δ τ)
  approved : List (Approved δ τ)

def PathState.initial (clock : ℚ) : PathState δ τ := ⟨.initial clock, [], []⟩

inductive PathEvent (δ τ : Type) where
  | bridge (body : Except PyError ActuationRequest) (userId : Option String)
      (issuedAt now : AwareDatetime)
  | validate (message : ValidatorMessage δ τ) (verifyAt : ℚ) (issuedAt now : AwareDatetime)
  | write (event : WriterEvent δ τ)

section Path

variable [DecidableEq δ] [DecidableEq τ]

/-- One step of one of the services. -/
def pathStep (cfg : PathConfig δ τ) (s : PathState δ τ) :
    PathEvent δ τ → Option (PathState δ τ)
  | .bridge body userId issuedAt now =>
      match userId, body, buildNatsEnvelope cfg.writer.crypto cfg.validator.ingressKey body
        userId issuedAt now with
      | some user, .ok c, .ok request =>
          some { s with bridged := ⟨user, c, request⟩ :: s.bridged }
      | _, _, _ => some s
  | .validate message verifyAt issuedAt now =>
      match message, handle cfg.writer.crypto cfg.validator verifyAt issuedAt now message with
      | .authenticated _ request, .ok (_, some approval) =>
          some { s with approved := ⟨request, approval⟩ :: s.approved }
      | _, _ => some s
  | .write event => (step cfg.writer s.writer event).map fun w => { s with writer := w }

/-! ## The adversary -/

/-- The evidence a delivered message presents, and the key it is checked
with. -/
def PathEvent.presented (cfg : PathConfig δ τ) :
    PathEvent δ τ → Option (String × SignedEvidence δ τ)
  | .validate (.authenticated _ request) _ _ _ =>
      some (cfg.validator.ingressKey, request.identity)
  | .write (.deliver (.approved _ request) _) => some (cfg.writer.approvalKey, request.approval)
  | _ => none

/-- One of the services signed this body with this key. -/
def SignedBy (cfg : PathConfig δ τ) (s : PathState δ τ) (key : String)
    (e : SignedEvidence δ τ) : Prop :=
  (key = cfg.validator.ingressKey ∧ ∃ b ∈ s.bridged, e.body = b.request.identity.body) ∨
    (key = cfg.writer.approvalKey ∧ ∃ v ∈ s.approved, e.body = v.approval.body)

/-- Evidence that is presented with a valid signature was signed by a service. -/
def Unforgeable (cfg : PathConfig δ τ) (s : PathState δ τ) (e : PathEvent δ τ) : Prop :=
  match e.presented cfg with
  | none => True
  | some (key, evidence) =>
      signatureOf cfg.writer.crypto evidence key = .ok evidence.signature →
        SignedBy cfg s key evidence

instance (cfg : PathConfig δ τ) (s : PathState δ τ) (key : String) (e : SignedEvidence δ τ) :
    Decidable (SignedBy cfg s key e) :=
  inferInstanceAs (Decidable (_ ∨ _))

instance (cfg : PathConfig δ τ) (s : PathState δ τ) (e : PathEvent δ τ) :
    Decidable (Unforgeable cfg s e) :=
  match h : e.presented cfg with
  | none => isTrue (by simp [Unforgeable, h])
  | some (key, evidence) =>
      decidable_of_iff (signatureOf cfg.writer.crypto evidence key = .ok evidence.signature →
        SignedBy cfg s key evidence) (by simp [Unforgeable, h])

/-! ## The invariant -/

/-- A command that a publisher sent and the policies admit, with an approval for
it. -/
structure Admitted (cfg : PathConfig δ τ) (s : PathState δ τ) (c : ActuationRequest) :
    Prop where
  ingress : ∃ b ∈ s.bridged, b.user ∈ commandPublishers ∧
    b.request.command = withRequester b.body b.user ∧ SameCommand b.request.command c
  policy : ∃ v ∈ s.approved, SameCommand v.request.command c ∧
    validateRequest v.request.command cfg.validator.policies = .ok .approve

/-- What the services signed, and that every delivery and every frame of the
writer is about an admitted command. -/
structure PathInv (cfg : PathConfig δ τ) (s : PathState δ τ) : Prop where
  bridged : ∀ b ∈ s.bridged, b.user ∈ commandPublishers ∧
    b.request.command = withRequester b.body b.user ∧
    b.request.identity.purpose = .ingress ∧
    commandDigest cfg.writer.crypto b.request.command = .ok b.request.identity.commandDigest
  approved : ∀ v ∈ s.approved, v.approval.purpose = .approval ∧
    commandDigest cfg.writer.crypto v.request.command = .ok v.approval.commandDigest ∧
    Admitted cfg s v.request.command
  watched : WatchInv cfg.writer s.writer
  task : ∀ d t, s.writer.tasks d = some t → Admitted cfg s t.command
  sent : ∀ d c a digest token f, Obs.frame d c a digest token f ∈ s.writer.trace →
    Admitted cfg s c

theorem PathInv.initial (cfg : PathConfig δ τ) (clock : ℚ) :
    PathInv cfg (PathState.initial clock) where
  bridged := by simp [PathState.initial]
  approved := by simp [PathState.initial]
  watched := .initial cfg.writer clock
  task := by simp [PathState.initial, WriterState.initial]
  sent := by simp [PathState.initial, WriterState.initial]

variable {cfg : PathConfig δ τ} {s s' : PathState δ τ}

omit [DecidableEq δ] [DecidableEq τ] in
/-- What is admitted stays so while the services sign more. -/
theorem Admitted.mono {c : ActuationRequest} (h : Admitted cfg s c)
    (hbridged : ∀ b ∈ s.bridged, b ∈ s'.bridged)
    (happroved : ∀ v ∈ s.approved, v ∈ s'.approved) : Admitted cfg s' c := by
  obtain ⟨b, hb, hingress⟩ := h.ingress
  obtain ⟨v, hv, hpolicy⟩ := h.policy
  exact ⟨⟨b, hbridged b hb, hingress⟩, v, happroved v hv, hpolicy⟩

omit [DecidableEq δ] [DecidableEq τ] in
theorem Admitted.same {c c' : ActuationRequest} (h : Admitted cfg s c)
    (hsame : SameCommand c c') : Admitted cfg s c' := by
  obtain ⟨b, hb, huser, hcommand, hbc⟩ := h.ingress
  obtain ⟨v, hv, hvc, hpolicy⟩ := h.policy
  exact ⟨⟨b, hb, huser, hcommand, hbc.trans hsame⟩, v, hv, hvc.trans hsame, hpolicy⟩

omit [DecidableEq δ] [DecidableEq τ] in
/-- Evidence with one body has one purpose and one digest. -/
theorem body_inj {e e' : SignedEvidence δ τ} {body : EvidenceBody δ}
    (hok : e.body = .ok body) (h : e.body = e'.body) :
    e.purpose = e'.purpose ∧ e.commandDigest = e'.commandDigest := by
  obtain ⟨t, -, ht⟩ := map_eq_ok.1 hok
  obtain ⟨t', -, ht'⟩ := map_eq_ok.1 (h.symm.trans hok)
  have hbody := ht.trans ht'.symm
  exact ⟨congrArg EvidenceBody.purpose hbody, congrArg EvidenceBody.commandDigest hbody⟩

/-! ## What verified evidence stands for -/

/-- Ingress evidence that verifies was signed by the bridge for this command. -/
theorem PathInv.ingress (hK : CollisionFree cfg.writer.crypto) (h : PathInv cfg s)
    {c : ActuationRequest} {identity : SignedEvidence δ τ} {now : ℚ}
    (hverify : verifyEvidence cfg.writer.crypto c identity cfg.validator.ingressKey .ingress ""
      now true = .ok ())
    (hsigned : signatureOf cfg.writer.crypto identity cfg.validator.ingressKey =
      .ok identity.signature → SignedBy cfg s cfg.validator.ingressKey identity) :
    ∃ b ∈ s.bridged, b.user ∈ commandPublishers ∧
      b.request.command = withRequester b.body b.user ∧ SameCommand b.request.command c := by
  obtain ⟨hpurpose, -, hdigest, hsignature, -⟩ := verifyEvidence_ok_iff.1 hverify
  obtain ⟨body, hbody, -⟩ := signatureOf_eq_ok hsignature
  rcases hsigned hsignature with ⟨-, b, hb, hsame⟩ | ⟨-, v, hv, hsame⟩
  · obtain ⟨huser, hcommand, -, hdigest'⟩ := h.bridged b hb
    rw [← (body_inj hbody hsame).2] at hdigest'
    exact ⟨b, hb, huser, hcommand, sameCommand_of_digest hK hdigest' hdigest⟩
  · -- an approval has another purpose
    have hother := (h.approved v hv).1
    rw [← (body_inj hbody hsame).1, hpurpose] at hother
    cases hother

/-- An approval that verifies was signed by the validator for this command. -/
theorem PathInv.approval (hK : CollisionFree cfg.writer.crypto) (h : PathInv cfg s)
    {c : ActuationRequest} {approval : SignedEvidence δ τ} {now : ℚ}
    (hverify : verifyEvidence cfg.writer.crypto c approval cfg.writer.approvalKey .approval
      cfg.writer.writerId now true = .ok ())
    (hsigned : signatureOf cfg.writer.crypto approval cfg.writer.approvalKey =
      .ok approval.signature → SignedBy cfg s cfg.writer.approvalKey approval) :
    Admitted cfg s c := by
  obtain ⟨hpurpose, -, hdigest, hsignature, -⟩ := verifyEvidence_ok_iff.1 hverify
  obtain ⟨body, hbody, -⟩ := signatureOf_eq_ok hsignature
  rcases hsigned hsignature with ⟨-, b, hb, hsame⟩ | ⟨-, v, hv, hsame⟩
  · -- ingress evidence has another purpose
    have hother := (h.bridged b hb).2.2.1
    rw [← (body_inj hbody hsame).1, hpurpose] at hother
    cases hother
  · obtain ⟨-, hdigest', hadmitted⟩ := h.approved v hv
    rw [← (body_inj hbody hsame).2] at hdigest'
    exact hadmitted.same (sameCommand_of_digest hK hdigest' hdigest)

/-! ## Steps -/

theorem PathInv.step_bridge (h : PathInv cfg s) {body : Except PyError ActuationRequest}
    {userId : Option String} {issuedAt now : AwareDatetime}
    (hs : pathStep cfg s (.bridge body userId issuedAt now) = some s') : PathInv cfg s' := by
  simp only [pathStep] at hs
  split at hs
  · next user c request hok =>
      obtain ⟨user', c', huser, hmem, hbody, hcommand, hsign⟩ := buildNatsEnvelope_eq_ok hok
      obtain rfl : user = user' := Option.some.inj huser
      obtain rfl : c = c' := Except.ok.inj hbody
      obtain ⟨hpurpose, -, hdigest, -⟩ := sign_eq_ok hsign
      rw [← Option.some.inj hs]
      have hmono {c₀ : ActuationRequest} (hc : Admitted cfg s c₀) :
          Admitted cfg { s with bridged := ⟨user, c, request⟩ :: s.bridged } c₀ :=
        hc.mono (fun b hb => List.mem_cons_of_mem _ hb) fun v hv => hv
      refine ⟨fun b hb => ?_, fun v hv => ?_, h.watched, fun d t ht => hmono (h.task d t ht),
        fun d c a digest token f hf => hmono (h.sent d c a digest token f hf)⟩
      · rcases List.mem_cons.1 hb with rfl | hb
        · exact ⟨hmem, hcommand, hpurpose, hdigest⟩
        · exact h.bridged b hb
      · obtain ⟨hp, hd, hadmitted⟩ := h.approved v hv
        exact ⟨hp, hd, hmono hadmitted⟩
  · rw [← Option.some.inj hs]
    exact h

theorem PathInv.step_validate (hK : CollisionFree cfg.writer.crypto) (h : PathInv cfg s)
    {message : ValidatorMessage δ τ} {verifyAt : ℚ} {issuedAt now : AwareDatetime}
    (hforge : Unforgeable cfg s (.validate message verifyAt issuedAt now))
    (hs : pathStep cfg s (.validate message verifyAt issuedAt now) = some s') :
    PathInv cfg s' := by
  simp only [pathStep] at hs
  split at hs
  · next correlationId request result approval hok =>
      obtain ⟨request', hm, hverify, hpolicy, hsign⟩ := handle_eq_approval hok
      obtain ⟨-, rfl⟩ := ValidatorMessage.authenticated.inj hm
      obtain ⟨hpurpose, -, hdigest, -⟩ := sign_eq_ok hsign
      rw [← Option.some.inj hs]
      have hmono {c : ActuationRequest} (hc : Admitted cfg s c) :
          Admitted cfg { s with approved := ⟨request, approval⟩ :: s.approved } c :=
        hc.mono (fun b hb => hb) fun v hv => List.mem_cons_of_mem _ hv
      refine ⟨h.bridged, fun v hv => ?_, h.watched, fun d t ht => hmono (h.task d t ht),
        fun d c a digest token f hf => hmono (h.sent d c a digest token f hf)⟩
      rcases List.mem_cons.1 hv with rfl | hv
      · refine ⟨hpurpose, hdigest, h.ingress hK hverify hforge, _, List.mem_cons_self, ?_,
          hpolicy⟩
        exact sameCommand_of_digest hK hdigest hdigest
      · obtain ⟨hp, hd, hadmitted⟩ := h.approved v hv
        exact ⟨hp, hd, hmono hadmitted⟩
  · rw [← Option.some.inj hs]
    exact h

omit [DecidableEq δ] [DecidableEq τ] in
/-- What a successful admission of the writer checked. -/
theorem admission_eq_ok [DecidableEq δ] [DecidableEq τ] {cfg : WriterConfig δ τ} {now : ℚ}
    {m : WriterMessage δ τ} {request : ApprovedWriteRequest δ τ} {digest : δ}
    (h : admission cfg now m = .ok (request, digest)) :
    ∃ correlationId, m = .approved correlationId request ∧
      verifyEvidence cfg.crypto request.command request.approval cfg.approvalKey .approval
        cfg.writerId now true = .ok () := by
  cases m with
  | malformed e => cases h
  | unapproved correlationId e => cases h
  | approved correlationId request' =>
      simp only [admission] at h
      split at h
      · cases h
      · obtain ⟨u, hverify, h⟩ := bind_eq_ok.1 h
        obtain ⟨digest', -, h⟩ := bind_eq_ok.1 h
        cases h
        exact ⟨correlationId, rfl, hverify⟩

/-- A move of a delivery keeps its command, and the frame it may send is about
it. -/
theorem TaskMove.command_eq {cfg : WriterConfig δ τ} {d : ℕ} {t t' : Task δ τ}
    {os : List (Obs δ τ)} (h : TaskMove cfg d t t' os) :
    t'.command = t.command ∧ ∀ d' c a digest token f,
      Obs.frame d' c a digest token f ∈ os → c = t.command := by
  cases h with
  | quiet p w os hp hw hos =>
      refine ⟨rfl, fun d' c a digest token f hf => ?_⟩
      obtain ⟨m, r, ho⟩ := hos _ hf
      cases ho
  | sent v token f frames hstage htoken hframes =>
      refine ⟨rfl, fun d' c a digest token' f' hf => ?_⟩
      cases List.mem_singleton.1 hf
      rfl
  | verified => exact ⟨rfl, by simp⟩
  | claimed => exact ⟨rfl, by simp⟩
  | connected => exact ⟨rfl, by simp⟩
  | checked => exact ⟨rfl, by simp⟩
  | marked => exact ⟨rfl, by simp⟩
  | ready => exact ⟨rfl, by simp⟩

theorem PathInv.step_write (hK : CollisionFree cfg.writer.crypto) (h : PathInv cfg s)
    {event : WriterEvent δ τ} (hforge : Unforgeable cfg s (.write event))
    (hs : pathStep cfg s (.write event) = some s') : PathInv cfg s' := by
  obtain ⟨w, hw, rfl⟩ := Option.map_eq_some_iff.1 hs
  have hmove := step_move hw
  have htask : ∀ d t, w.tasks d = some t → Admitted cfg s t.command := by
    intro d t ht
    cases hmove with
    | dropped htasks htrace =>
        rw [htasks] at ht
        cases ht
    | refused m r htasks htrace =>
        rw [htasks] at ht
        exact h.task d t ht
    | admitted m now request digest he hok htasks htrace =>
        rw [htasks, Function.update_apply] at ht
        split at ht
        · obtain ⟨correlationId, rfl, hverify⟩ := admission_eq_ok hok
          subst he
          rw [← Option.some.inj ht]
          exact h.approval hK hverify hforge
        · exact h.task d t ht
    | task d' u u' os hu hmove htasks htrace =>
        rw [htasks, Function.update_apply] at ht
        split at ht
        · rw [← Option.some.inj ht, (TaskMove.command_eq hmove).1]
          exact h.task d' u hu
        · exact h.task d t ht
  have hsent : ∀ d c a digest token f, Obs.frame d c a digest token f ∈ w.trace →
      Admitted cfg s c := by
    intro d c a digest token f hf
    cases hmove with
    | dropped htasks htrace => exact h.sent d c a digest token f (htrace ▸ hf)
    | refused m r htasks htrace =>
        rw [htrace] at hf
        exact h.sent d c a digest token f (by simpa using hf)
    | admitted m now request digest' he hok htasks htrace =>
        rw [htrace] at hf
        exact h.sent d c a digest token f (by simpa using hf)
    | task d' u u' os hu hmove htasks htrace =>
        rw [htrace, List.mem_append] at hf
        rcases hf with hf | hf
        · rw [(TaskMove.command_eq hmove).2 d c a digest token f hf]
          exact h.task d' u hu
        · exact h.sent d c a digest token f hf
  have hmono {c : ActuationRequest} (hc : Admitted cfg s c) :
      Admitted cfg { s with writer := w } c :=
    hc.mono (fun b hb => hb) fun v hv => hv
  refine ⟨h.bridged, fun v hv => ?_, h.watched.move hmove,
    fun d t ht => hmono (htask d t ht),
    fun d c a digest token f hf => hmono (hsent d c a digest token f hf)⟩
  obtain ⟨hpurpose, hdigest, hadmitted⟩ := h.approved v hv
  exact ⟨hpurpose, hdigest, hmono hadmitted⟩

theorem PathInv.step (hK : CollisionFree cfg.writer.crypto) (h : PathInv cfg s)
    {e : PathEvent δ τ} (hforge : Unforgeable cfg s e) (hs : pathStep cfg s e = some s') :
    PathInv cfg s' := by
  cases e with
  | bridge body userId issuedAt now => exact h.step_bridge hs
  | validate message verifyAt issuedAt now => exact h.step_validate hK hforge hs
  | write event => exact h.step_write hK hforge hs

theorem PathInv.of_run (hK : CollisionFree cfg.writer.crypto) {clock : ℚ}
    {es : List (PathEvent δ τ)}
    (hforge : Run.Guarded (pathStep cfg) (Unforgeable cfg) (.initial clock) es)
    (hrun : Run.exec (pathStep cfg) (.initial clock) es = some s) : PathInv cfg s :=
  Run.exec_invariant_of_guarded (fun _ _ _ h hG hs => h.step hK hG hs)
    (.initial cfg clock) hforge hrun

/-! ## The law -/

/-- What a frame of a delivery implies about its command, given the part of the
writer's history before it. -/
structure Authorised (cfg : PathConfig δ τ) (s : PathState δ τ) (older : List (Obs δ τ))
    (d : ℕ) (c : ActuationRequest) (a : SignedEvidence δ τ) (digest : δ) (token : String)
    (f : Frame) : Prop where
  ingress : ∃ b ∈ s.bridged, b.user ∈ commandPublishers ∧
    b.request.command = withRequester b.body b.user ∧
    SameCommand b.request.command c ∧ c.requester = b.user
  policy : (∃ v ∈ s.approved, SameCommand v.request.command c) ∧
    validateRequest c cfg.validator.policies = .ok .approve
  approval : a.purpose = .approval ∧ a.writer = cfg.writer.writerId
  target : Targets cfg.writer c f
  time : ∃ at' rest D, writeTrace d older =
      .verified d at' :: .initiated d c.correlationId digest token :: rest ∧
    deadlineOf c = some D ∧ at' ≤ D ∧ a.issuedAt.timestamp ≤ at'

/-- In every run of the bridge, the validator and the writer, whatever an
adversary without the keys delivers to them: a frame for a command implies that
the bridge signed this command from the body of an authenticated publisher, who
is its requester; that the policies admit it and the validator approved it; that
the approval names this writer; that the frame carries its value to its target;
and that the last check before it, after the started commit, read a clock between
the approval and the deadline. -/
theorem no_unauthorised_write (hK : CollisionFree cfg.writer.crypto) (clock : ℚ)
    (es : List (PathEvent δ τ))
    (hforge : Run.Guarded (pathStep cfg) (Unforgeable cfg) (.initial clock) es)
    (hrun : Run.exec (pathStep cfg) (.initial clock) es = some s)
    (newer older : List (Obs δ τ)) (d : ℕ) (c : ActuationRequest) (a : SignedEvidence δ τ)
    (digest : δ) (token : String) (f : Frame)
    (hframe : s.writer.trace = newer ++ .frame d c a digest token f :: older) :
    Authorised cfg s older d c a digest token f := by
  have h := PathInv.of_run hK hforge hrun
  have hadmitted : Admitted cfg s c := h.sent d c a digest token f (by simp [hframe])
  have hlaw : LastCheck cfg.writer older (.frame d c a digest token f) :=
    Always.at' (hframe ▸ h.watched.law)
  obtain ⟨⟨at', ⟨rest, hlast⟩, hverify⟩, htarget⟩ := hlaw
  obtain ⟨hpurpose, hwriter, -, -, D, hD, hle, hissued⟩ := verifyEvidence_ok_iff.1 hverify
  obtain ⟨b, hb, huser, hcommand, hsame⟩ := hadmitted.ingress
  obtain ⟨v, hv, hvc, hpolicy⟩ := hadmitted.policy
  have hrequester : c.requester = b.user := by
    rw [← hsame.requester, hcommand]
    rfl
  refine ⟨⟨b, hb, huser, hcommand, hsame, hrequester⟩, ⟨⟨v, hv, hvc⟩, ?_⟩,
    ⟨hpurpose, hwriter⟩, htarget, at', rest, D, hlast, hD, by simpa using hle, hissued⟩
  rw [← validateRequest_congr hvc]
  exact hpolicy

end Path

namespace ValvePath

/-! The publisher of one S7 valve, with its bridge and its validator. -/

def config : PathConfig Json (String × EvidenceBody Json) where
  writer := Writer.Valve.config
  validator :=
    { ingressKey := "abcdefghijklmnopqrstuvwxyz012345"
      approvalKey := Writer.Valve.config.approvalKey
      approvedWriter := Writer.Valve.config.writerId
      policies := [⟨Writer.Valve.topic, (.finite 0, .finite 1), ["decision-agent-stub"],
        .bool⟩] }
  same_key := rfl

/-- What the publisher puts into the requester does not matter. -/
def body : ActuationRequest := { Writer.Valve.command with requester := "anybody" }

def identity : SignedEvidence Json (String × EvidenceBody Json) :=
  let body : EvidenceBody Json :=
    ⟨.ingress, Writer.Valve.digest, "", .ofMicros 1000000000⟩
  ⟨body.purpose, body.commandDigest, body.writer, body.issuedAt,
    (config.validator.ingressKey, body)⟩

/-- The writer starts, takes the command and sends its first frame. -/
def writes : List (WriterEvent Json (String × EvidenceBody Json)) :=
  [.restart (fun _ => 1000) 1000] ++ Writer.Valve.claiming 0 1000 "t1" ++
    [.connect 0 7 6] ++ Writer.Valve.frame 0 1001

def events : List (PathEvent Json (String × EvidenceBody Json)) :=
  [.bridge (.ok body) (some "decision-agent-stub") (.ofMicros 1000000000)
      (.ofMicros 1000000000),
    .validate (.authenticated Writer.Valve.command.correlationId
      ⟨Writer.Valve.command, identity⟩) 1000 (.ofMicros 1000000000)
      (.ofMicros 1000000000)] ++ writes.map .write

end ValvePath

/-- The first frame of the valve's command. -/
theorem no_unauthorised_write_example :
    ∃ s older, Run.exec (pathStep ValvePath.config) (.initial 1000) ValvePath.events = some s ∧
      s.writer.trace = .frame 0 Writer.Valve.command Writer.Valve.approval
        Writer.Valve.digest "t1" (.dbWrite Writer.Valve.target 2 [0, 1, 0, 1]) :: older ∧
      Authorised ValvePath.config s older 0 Writer.Valve.command Writer.Valve.approval
        Writer.Valve.digest "t1" (.dbWrite Writer.Valve.target 2 [0, 1, 0, 1]) := by
  obtain ⟨s, hs, hhead⟩ : ∃ s,
      Run.exec (pathStep ValvePath.config) (.initial 1000) ValvePath.events = some s ∧
        s.writer.trace.head? = some (.frame 0 Writer.Valve.command
          Writer.Valve.approval Writer.Valve.digest "t1"
          (.dbWrite Writer.Valve.target 2 [0, 1, 0, 1])) :=
    Run.exists_exec (by decide +kernel)
  have htrace := List.eq_cons_of_mem_head? hhead
  exact ⟨s, _, hs, htrace, no_unauthorised_write Writer.Valve.collisionFree 1000
    ValvePath.events (by decide +kernel) hs [] _ 0 _ _ _ _ _ htrace⟩

end EirvahEdge.CommandPath
