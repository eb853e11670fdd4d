import EirvahEdge.CommandPath.Approval
import EirvahEdge.Contracts.Hops

/-!
# The signed encoding of a command

A signature is made by one service and checked by another, on a command and on
evidence that were written to JSON and read again in between.  What is signed is
the text of the command with its times in UTC and its keys sorted, and that text is
the same at every hop: `digestInput_of_same` is the converse of
`sameCommand_of_digest`.
-/

namespace EirvahEdge.CommandPath

open EirvahEdge.Lib
open EirvahEdge.Contracts

/-! ## The digest depends on the command only -/

theorem astimezoneUtc_congr {d d' : AwareDatetime} (h : d.instantMicros = d'.instantMicros) :
    d.astimezoneUtc = d'.astimezoneUtc := by
  unfold AwareDatetime.astimezoneUtc
  rw [h]

/-- Extra members that are the same as mappings differ in their order only. -/
theorem extra_perm_of_same {c c' : ActuationRequest} (h : SameCommand c c') :
    (c.extra.map normal).Perm (c'.extra.map normal) := by
  have hnodup (d : ActuationRequest) : (d.extra.map normal).Nodup := by
    have hnames : ((d.extra.map normal).map Prod.fst).Nodup := by
      rw [Json.map_fst_normal]
      exact (List.nodup_append.1 d.names_nodup).2.1
    exact hnames.of_map _
  rw [List.perm_ext_iff_of_nodup (hnodup c) (hnodup c')]
  exact fun f => h.extra f.1 f.2

theorem digestFields_perm {c c' : ActuationRequest} (h : SameCommand c c')
    (requestedAt deadline : AwareDatetime) :
    ((digestFields c requestedAt deadline).map normal).Perm
      ((digestFields c' requestedAt deadline).map normal) := by
  unfold digestFields
  rw [h.correlationId, h.requester, h.targetUnsTopic, h.requestedValue, h.valueType, h.reason,
    List.map_append, List.map_append]
  exact (extra_perm_of_same h).append_left _

/-- **Two spellings of one command are hashed as one text.** -/
theorem digestInput_of_same {c c' : ActuationRequest} (h : SameCommand c c') :
    digestInput c = digestInput c' := by
  have hdeadline := h.deadline
  have hrequestedAt := h.requestedAt
  have htext (r d : AwareDatetime) : Json.Same (.obj (digestFields c r d))
      (.obj (digestFields c' r d)) :=
    Json.sortKeys_obj_of_perm (digestFields_nodup c' r d) (digestFields_perm h r d)
  unfold digestInput
  cases hd : c.deadline.bind Datetime.aware? with
  | none =>
      rw [hd] at hdeadline
      rw [Option.map_eq_none_iff.1 hdeadline.symm]
  | some d =>
      rw [hd] at hdeadline
      obtain ⟨d', hd', hinstant⟩ := Option.map_eq_some_iff.1 hdeadline.symm
      rw [hd']
      cases hr : c.requestedAt.aware? with
      | none =>
          rw [hr] at hrequestedAt
          rw [Option.map_eq_none_iff.1 hrequestedAt.symm]
      | some r =>
          rw [hr] at hrequestedAt
          obtain ⟨r', hr', hinstant'⟩ := Option.map_eq_some_iff.1 hrequestedAt.symm
          rw [hr']
          dsimp only
          rw [astimezoneUtc_congr hinstant, astimezoneUtc_congr hinstant']
          have hfinite (x y : AwareDatetime) := Json.allFinite_of_same (htext x y)
          simp only [hfinite, fun x y => show (Json.obj (digestFields c x y)).sortKeys =
            (Json.obj (digestFields c' x y)).sortKeys from htext x y]

theorem commandDigest_of_same {δ τ : Type} {K : Crypto δ τ} {c c' : ActuationRequest}
    (h : SameCommand c c') : commandDigest K c = commandDigest K c' := by
  rw [commandDigest, digestInput_of_same h]
  rfl

/-- And two commands that are hashed as one text are one command. -/
theorem same_of_digestInput {c c' : ActuationRequest} {j : Json} (h : digestInput c = .ok j)
    (h' : digestInput c' = .ok j) : SameCommand c c' := by
  have hdigest {d : ActuationRequest} (hd : digestInput d = .ok j) :
      commandDigest (⟨id, fun _ _ => ()⟩ : Crypto Json Unit) d = .ok j := by
    rw [commandDigest, hd]
    rfl
  exact sameCommand_of_digest (fun _ _ _ _ _ _ heq => heq) (hdigest h) (hdigest h')

/-! ## Signatures -/

section Signatures

variable {K : Crypto String String} {c : ActuationRequest} {key writer : String}
  {purpose : Purpose} {issuedAt signedAt : AwareDatetime} {allowExpired : Bool}
  {e e' : SignedEvidence String String}

/-- A fresh signature is the one that a check computes again. -/
theorem signatureOf_of_sign
    (h : sign K c key purpose writer issuedAt signedAt allowExpired = .ok e) :
    e.issuedAt = issuedAt ∧ signatureOf K e key = .ok e.signature := by
  unfold sign at h
  obtain ⟨digest, -, h⟩ := bind_eq_ok.1 h
  dsimp only at h
  split at h
  · cases h
  · split at h
    · cases h
    · obtain ⟨issuedUtc, hissued, h⟩ := bind_eq_ok.1 h
      obtain ⟨key', hkey, h⟩ := bind_eq_ok.1 h
      obtain rfl := Except.ok.inj h
      refine ⟨rfl, ?_⟩
      have hsame := requireKey_eq_ok hkey
      rw [hsame] at hkey
      simp [signatureOf, SignedEvidence.body, hissued, hkey, hsame, Except.map, bind,
        Except.bind, pure, Except.pure]

theorem signatureOf_of_same (h : SameEvidence e e') :
    signatureOf K e key = signatureOf K e' key := by
  unfold signatureOf SignedEvidence.body
  rw [astimezoneUtc_congr h.issuedAt, h.purpose, h.commandDigest, h.writer]

/-- The hexadecimal digests of `hashlib` and `hmac`. -/
structure HexDigests (K : Crypto String String) : Prop where
  sha256 : ∀ j, isHexDigest (K.sha256 j) = true
  hmacSha256 : ∀ key body, isHexDigest (K.hmacSha256 key body) = true

/-- A fresh signature satisfies the patterns of its model. -/
theorem valid_of_sign (hK : HexDigests K)
    (h : sign K c key purpose writer issuedAt signedAt allowExpired = .ok e) : e.Valid := by
  obtain ⟨-, -, hdigest, -⟩ := sign_eq_ok h
  obtain ⟨j, -, hj⟩ := map_eq_ok.1 hdigest
  obtain ⟨body, -, hsignature⟩ := signatureOf_eq_ok (signatureOf_of_sign h).2
  constructor
  · rw [← hj]
    exact hK.sha256 j
  · rw [hsignature]
    exact hK.hmacSha256 key body

end Signatures

/-! ## Over every hop -/

/-- A command that was read from a body, with the requester the bridge put in, is
the same command at every service. -/
theorem hops_of_body {T : DatetimeText} (hT : T.KeepsInstants) {body : Json}
    {received : ActuationRequest} (hbody : ActuationRequest.parse T body = .ok received)
    (ha : received.Aware) (user : String) {c : ActuationRequest}
    (h : CommandHops T (withRequester received user) c) :
    c.Valid ∧ c.Aware ∧ SameCommand (withRequester received user) c := by
  have hreceived := ActuationRequest.valid_of_parse hbody
  have hvalid : (withRequester received user).Valid :=
    ⟨hreceived.correlationId, hreceived.targetUnsTopic⟩
  have haware : (withRequester received user).Aware := ⟨ha.requestedAt, ha.deadline⟩
  exact CommandHops.same hT hvalid haware h

/-- For every body that is read as a request with aware times, extra members
included, and the requester the bridge puts in: however often the command is written
to JSON and read again, it can be read and its digest is the same; evidence that one
service signed for its copy passes at every other, after any number of hops of its
own, from the time of issue to the deadline; and two such requests with one digest
input are the same command, members with their types and times as instants. -/
theorem encoding_survives (K : Crypto String String) (hK : HexDigests K) (T : DatetimeText)
    (hT : T.KeepsInstants) (body : Json) (received : ActuationRequest)
    (hbody : ActuationRequest.parse T body = .ok received) (ha : received.Aware)
    (user : String) :
    (∀ c, CommandHops T (withRequester received user) c →
      commandDigest K c = commandDigest K (withRequester received user) ∧
        ∀ j, Json.Same j (c.dump T) → ∃ c', ActuationRequest.parse T j = .ok c') ∧
    (∀ signed checked, CommandHops T (withRequester received user) signed →
      CommandHops T (withRequester received user) checked →
      ∀ key purpose writer issuedAt signedAt allowExpired e,
        sign K signed key purpose writer issuedAt signedAt allowExpired = .ok e →
        ∀ e', EvidenceHops T e e' → ∀ now D, deadlineOf checked = some D →
          issuedAt.timestamp ≤ now → now ≤ D → ∀ allowExpired',
          verifyEvidence K checked e' key purpose writer now allowExpired' = .ok ()) ∧
    (∀ body' received', ActuationRequest.parse T body' = .ok received' → received'.Aware →
      ∀ user' j, digestInput (withRequester received user) = .ok j →
        digestInput (withRequester received' user') = .ok j →
        SameCommand (withRequester received user) (withRequester received' user')) := by
  refine ⟨?_, ?_, ?_⟩
  · intro c hc
    obtain ⟨hvalid, haware, hsame⟩ := hops_of_body hT hbody ha user hc
    refine ⟨(commandDigest_of_same hsame).symm, fun j hj => ?_⟩
    obtain ⟨c', hc', -⟩ := ActuationRequest.parse_of_same hT hvalid haware hj
    exact ⟨c', hc'⟩
  · intro signed checked hsigned hchecked key purpose writer issuedAt signedAt allowExpired e he
      e' hhops now D hD hissued hdeadline allowExpired'
    have hsame : SameCommand signed checked :=
      (hops_of_body hT hbody ha user hsigned).2.2.symm.trans
        (hops_of_body hT hbody ha user hchecked).2.2
    have hevidence : SameEvidence e e' := (hhops.same hT (valid_of_sign hK he)).2
    obtain ⟨hpurpose, hwriter, hdigest, -⟩ := sign_eq_ok he
    obtain ⟨hat, hsignature⟩ := signatureOf_of_sign he
    rw [verifyEvidence_ok_iff]
    refine ⟨?_, ?_, ?_, ?_, D, hD, Or.inr hdeadline, ?_⟩
    · rw [← hevidence.purpose, hpurpose]
    · rw [← hevidence.writer, hwriter]
    · rw [← commandDigest_of_same hsame, hdigest, hevidence.commandDigest]
    · rw [← signatureOf_of_same hevidence, hsignature, hevidence.signature]
    · have htime : e'.issuedAt.timestamp = issuedAt.timestamp := by
        rw [AwareDatetime.timestamp_eq_iff, ← hevidence.issuedAt, hat]
      rw [htime]
      exact hissued
  · intro body' received' _ _ user' j hj hj'
    exact same_of_digestInput hj hj'

namespace ValveText

/-! A valve command as the experiment driver sends it, and its texts. -/

def requestedAt : AwareDatetime := ⟨1782907200000000, 7200⟩

def deadline : AwareDatetime := ⟨1782907500000000, 7200⟩

def issuedAt : AwareDatetime := ⟨1782900001000000, 0⟩

def table : List (AwareDatetime × String) :=
  [(requestedAt, "2026-07-01T12:00:00+02:00"), (deadline, "2026-07-01T12:05:00+02:00"),
    (issuedAt, "2026-07-01T10:00:01Z")]

def text : DatetimeText := .ofTable table

theorem text_keepsInstants : text.KeepsInstants :=
  DatetimeText.ofTable_keepsInstants (by decide +kernel) (by decide +kernel)

def body : Json :=
  .obj [("correlation_id", .str "01J0000000000000000000000A"),
    ("requester", .str "decision-agent-stub"),
    ("target_uns_topic", .str "acme/plant1/bottling/line1/cell1/valve1/state"),
    ("requested_value", .bool true), ("value_type", .str "bool"), ("reason", .str "test"),
    ("requested_at", .str "2026-07-01T12:00:00+02:00"),
    ("deadline", .str "2026-07-01T12:05:00+02:00"), ("batch", .int 7)]

def received : ActuationRequest where
  correlationId := "01J0000000000000000000000A"
  requester := "decision-agent-stub"
  targetUnsTopic := "acme/plant1/bottling/line1/cell1/valve1/state"
  requestedValue := .bool true
  valueType := .bool
  reason := "test"
  requestedAt := .aware requestedAt
  deadline := some (.aware deadline)
  extra := [("batch", .int 7)]
  names_nodup := by decide

def command : ActuationRequest := withRequester received "experiment-driver"

def sha256 : String := "cd6d9b8eb0f5ae54f17af37f8e278c41d7ac1d48be2ba8c121f2584b8b2a5d6f"

def hmacSha256 : String := "30567e9e1726d41ea2931770bcf76cd23b8f7c4f5de7e25b31aeadd3091cbaab"

/-- `hashlib` and `hmac` on this command and its approval. -/
def crypto : Crypto String String where
  sha256 _ := sha256
  hmacSha256 _ _ := hmacSha256

theorem crypto_hexDigests : HexDigests crypto :=
  have hsha256 : isHexDigest sha256 = true := by decide +kernel
  have hhmac : isHexDigest hmacSha256 = true := by decide +kernel
  ⟨fun _ => hsha256, fun _ _ => hhmac⟩

def approval : SignedEvidence String String :=
  ⟨.approval, sha256, "writer-1", issuedAt, hmacSha256⟩

/-- The write request on the wire, its members in another order. -/
def written : Json :=
  .obj [("command", .obj [("batch", .int 7),
      ("deadline", .str "2026-07-01T12:05:00+02:00"),
      ("correlation_id", .str "01J0000000000000000000000A"),
      ("reason", .str "test"),
      ("requested_at", .str "2026-07-01T12:00:00+02:00"),
      ("requested_value", .bool true),
      ("requester", .str "experiment-driver"),
      ("schema_version", .str "1.0"),
      ("target_uns_topic", .str "acme/plant1/bottling/line1/cell1/valve1/state"),
      ("value_type", .str "bool")]),
    ("approval", .obj [("schema_version", .str "1.0"), ("purpose", .str "approval"),
      ("command_digest", .str sha256), ("writer", .str "writer-1"),
      ("issued_at", .str "2026-07-01T10:00:01Z"), ("signature", .str hmacSha256)]),
    ("schema_version", .str "1.0")]

end ValveText

/-- The writer accepts the approval of the valve command four minutes after it was
issued. -/
theorem encoding_survives_example :
    verifyEvidence ValveText.crypto ValveText.command ValveText.approval
      "abcdefghijklmnopqrstuvwxyz012345" .approval "writer-1" 1782900241 false = .ok () := by
  have hread : ApprovedWriteRequest.parse ValveText.text ValveText.written =
      .ok ⟨ValveText.command, ValveText.approval⟩ := by decide +kernel
  have hsame : Json.Same ValveText.written
      (ApprovedWriteRequest.dump ValveText.text ⟨ValveText.command, ValveText.approval⟩) := by
    unfold Json.Same
    decide +kernel
  exact (encoding_survives ValveText.crypto ValveText.crypto_hexDigests ValveText.text
    ValveText.text_keepsInstants ValveText.body ValveText.received (by decide +kernel)
    ⟨⟨_, rfl⟩, ⟨_, rfl⟩⟩ "experiment-driver").2.1 ValveText.command ValveText.command .refl
    (.single (.approved _ _ _ hsame hread)) _ .approval "writer-1" ValveText.issuedAt
    ValveText.issuedAt true ValveText.approval (by decide +kernel) _
    (.single (.approved _ _ _ hsame hread)) _ _ rfl (by decide +kernel) (by decide +kernel) false

end EirvahEdge.CommandPath
