import EirvahEdge.Conformance.Evaluate
import EirvahEdge.Conformance.Records
import EirvahEdge.Lib.Except
import Mathlib.Data.List.Dedup
import Mathlib.Data.List.Sort
import Mathlib.Data.String.Basic

/-!
# The checks of execution records

`check_execution` collects the lines that are execution records, groups them by command and
judges each command: which stages were observed, whether every write was admitted on an
approval before it and initiated before its deadline, whether writes and bindings repeat or
change within the retention window, what outcomes were reported and what the process showed.

The checks of one write are evaluated in one `try`.  An exception there ends them; what was
judged before it stays, and admission and deadline are reported as unknown.
-/

namespace EirvahEdge.Conformance.Execution

open EirvahEdge.Lib
open EirvahEdge.Lib.Except
open EirvahEdge.Contracts

/-! ## Collecting -/

/-- What the first loop keeps. -/
structure Collected where
  clean : List Record := []
  issues : List String := []
  conflicts : List String := []

/-- What the reference pins for these checks. -/
structure ExecutionReference where
  writer : String
  validator : String
  processObserver : String
  retentionSeconds : ℚ
  /-- The `command_topics` of the controls, by their ids. -/
  controls : List (String × List String)

/-- What records are judged with. -/
structure Setting extends Reading where
  reference : ExecutionReference
  policies : List Json

section Collecting

variable (S : Setting)

/-- One turn of the loop over the lines. -/
def collectRow (C : Collected) (row : Fields) : Except PyError Collected :=
  match readRecord S.toReading row with
  | .error e =>
      if isCaught e then
        .ok { C with issues := C.issues ++ ["Invalid or incomplete execution record"] }
      else .error e
  | .ok r =>
      match C.clean.find? fun c => c.recordId = r.recordId with
      | some c =>
          if c.normalized = r.normalized then .ok C
          else .ok { C with conflicts := C.conflicts ++ [r.recordId] }
      | none => .ok { C with clean := C.clean ++ [r] }

def collect (rows : List Fields) : Except PyError Collected := rows.foldlM (collectRow S) {}

/-- The command ids in the order of their first record. -/
def commandIds (clean : List Record) : List String :=
  ((clean.map Record.correlationId).reverse.dedup).reverse

/-- The records of a command. -/
def recordsOf (clean : List Record) (command : String) : List Record :=
  clean.filter fun r => r.correlationId = command

end Collecting

/-! ## Stages -/

def stageCoverage : CheckName := ⟨.c12, "stage_coverage"⟩
def recordIntegrity : CheckName := ⟨.c12, "record_integrity"⟩
def writePolicy : CheckName := ⟨.c07, "write_policy"⟩
def admission : CheckName := ⟨.c07, "admission"⟩
def deadlineCheck : CheckName := ⟨.c08, "deadline"⟩
def initiations : CheckName := ⟨.c09, "initiations"⟩
def bindingName : CheckName := ⟨.c09, "binding"⟩
def completeHistory : CheckName := ⟨.c09, "complete_history"⟩
def outcomeMeaning : CheckName := ⟨.c10, "outcome_meaning"⟩
def feedback : CheckName := ⟨.c06, "feedback"⟩

def hasAction (rows : List Record) (action : String) : Bool := rows.any fun r => r.action = action

/-- A result that the writer reports of an execution of its own. -/
def completedOnce (r : Record) : Bool :=
  r.action = "writer_result" && jsonEq (r.get "outcome") (.str "completed") &&
    !(r.get "replayed").truthy

/-- The stages that a command has to show. -/
def requiredActions (rows : List Record) : List String :=
  ["request_received", "pipeline_received", "validation_decided", "outcome_published"] ++
    (if hasAction rows "writer_result" then ["writer_result"] else []) ++
    if rows.any completedOnce then ["executor_admitted", "write_initiated", "device_acknowledged"]
    else []

def missingActions (rows : List Record) : List String :=
  ((requiredActions rows).filter fun a => !hasAction rows a).insertionSort (· ≤ ·)

/-- How often each action occurs, in the order of the first occurrences. -/
def actionCounts (rows : List Record) : List (String × Json) :=
  (((rows.map Record.action).reverse.dedup).reverse).map fun a =>
    (a, .int (rows.countP fun r => r.action = a))

def stageCheck (command : String) (rows : List Record) : Check :=
  result stageCoverage (if (missingActions rows).isEmpty then .pass else .unknown)
    ("Required observed stages for this command; counts retained separately from " ++
      "completeness")
    "supplied_records"
    [.str command, .obj [("missing_actions", .arr ((missingActions rows).map .str)),
      ("action_counts", .obj (actionCounts rows))]]

/-! ## One write -/

section Write

variable (S : Setting)

/-- `binding(r) == binding(write)`. -/
def bindingEq (r write : Record) : Except PyError Bool := do
  let mine ← binding S.toReading r
  let its ← binding S.toReading write
  .ok (decide (mine = its))

/-- `before(first, second) is True`. -/
def isBefore (first second : Record) : Except PyError Bool := do
  let order ← before S.toReading first second
  .ok (decide (order = some true))

/-- The record admits the write. -/
def isMatch (write r : Record) : Except PyError Bool :=
  if r.action = "executor_admitted" && r.component = S.reference.writer &&
      r.processInstance = write.processInstance && (r.get "attempt_id").truthy &&
      jsonEq (r.get "attempt_id") (write.get "attempt_id") then do
    if ← bindingEq S r write then isBefore S r write else .ok false
  else .ok false

/-- The admission that is used: the only one, when its approval has a time. -/
def admittedOf (found : List Record) : Except PyError (Option Record) :=
  match found with
  | [r] =>
      match Json.item r.fields "approval_issued_at" >>= readAware S.toReading with
      | .ok _ => .ok (some r)
      | .error e => if isCaught e then .ok none else .error e
  | _ => .ok none

/-- What the validator decided. -/
def decisionsOf (rows : List Record) : List Record :=
  rows.filter fun r => r.component = S.reference.validator && r.action = "validation_decided"

/-- The decision approves the write for this writer, and the admission names it. -/
def isApproval (write : Record) (admitted : Option Record) (r : Record) : Except PyError Bool :=
  if jsonEq (r.get "decision") (.str "approve") &&
      jsonEq (r.get "approved_writer") (.str S.reference.writer) then do
    if ← bindingEq S r write then
      .ok (match admitted with
        | none => false
        | some a => (r.get "approval_issued_at").truthy &&
            jsonEq (r.get "approval_issued_at") (a.get "approval_issued_at"))
    else .ok false
  else .ok false

/-- A text of 64 characters that two other records have as well. -/
def sameDigest (name : String) (write admitted r : Record) : Bool :=
  match write.get name with
  | .str text => text.toList.length = 64 && jsonEq (r.get name) (.str text) &&
      jsonEq (.str text) (admitted.get name)
  | _ => false

def isTrue (value : Json) : Bool := value = .bool true

/-- Verified receipt of the identical signed ticket. -/
def isCausal (write : Record) (admitted : Option Record) (r : Record) : Bool :=
  match admitted with
  | none => false
  | some a => isTrue (write.get "approval_verified") && isTrue (a.get "approval_verified") &&
      isTrue (r.get "ingress_verified") && sameDigest "approval_fingerprint" write a r &&
      sameDigest "command_digest" write a r

/-- A refusal of the same binding after the approval and before the write. -/
def refuses (write approval r : Record) : Except PyError Bool :=
  if jsonEq (r.get "decision") (.str "reject") then do
    if ← bindingEq S r write then
      if ← isBefore S approval r then isBefore S r write else .ok false
    else .ok false
  else .ok false

/-- The decision cannot be ordered, and is not the approval that is known by other means. -/
def isUnclear (write : Record) (causal : Bool) (r : Record) : Except PyError Bool := do
  let order ← before S.toReading r write
  if order = none then
    if causal && jsonEq (r.get "decision") (.str "approve") then do
      if ← bindingEq S r write then
        .ok (!jsonEq (r.get "approved_writer") (.str S.reference.writer))
      else .ok true
    else .ok true
  else .ok false

/-- What a write was admitted with. -/
structure Grounds where
  admitted : Option Record
  approvals : List Record

/-- The admission and the approvals of a write. -/
def groundsOf (rows : List Record) (write : Record) : Except PyError Grounds := do
  let found ← filterE (isMatch S write) rows
  let admitted ← admittedOf S found
  let approvals ← filterE (isApproval S write admitted) (decisionsOf S rows)
  .ok { admitted, approvals }

/-- The status of `C07.write_policy`. -/
def policyStatus (write : Record) : Except PyError Status := do
  let policyOk ← if write.component = S.reference.writer then validPolicy write.fields S.policies
    else .ok false
  .ok (if S.policies.isEmpty && write.component = S.reference.writer then .unknown
    else if policyOk then .pass else .fail)

/-- The first of the ordered approvals was refused later. -/
def refusedLater (rows : List Record) (write : Record) : List Record → Except PyError Bool
  | [] => .ok false
  | approval :: _ => anyE (refuses S write approval) (decisionsOf S rows)

/-- The status of `C07.admission`. -/
def admissionStatus (rows : List Record) (write : Record) (g : Grounds) :
    Except PyError Status := do
  let ordered ← filterE (fun r => isBefore S r write) g.approvals
  let causal := g.approvals.filter (isCausal write g.admitted)
  let refused ← refusedLater S rows write ordered
  let unclear ← anyE (isUnclear S write (!causal.isEmpty)) (decisionsOf S rows)
  .ok (if refused then .fail
    else if unclear then .unknown
    else if g.admitted.isSome && !(ordered.isEmpty && causal.isEmpty) then .pass
    else .unknown)

/-- What a check of a write is about. -/
def writeEvidence (command : String) (write : Record) : List Json :=
  [.str command, .str write.recordId]

def policyCheck (command : String) (write : Record) (status : Status) : Check :=
  result writePolicy status
    ("Observed writer, target, authority allowlist, types and parameters under pinned " ++
      "configuration")
    "trusted_component_records" (writeEvidence command write)

def admissionCheck (command : String) (write : Record) (status : Status) : Check :=
  result admission status
    ("Matching writer admission and attributable prior validator approval; ambiguous ordering " ++
      "remains unknown")
    "trusted_component_records" (writeEvidence command write)

def deadlineCheckOf (command : String) (write : Record) (status : Status) : Check :=
  result deadlineCheck status "UTC write-initiation interval compared with bound deadline"
    "observed_write_boundary" (writeEvidence command write)

/-- What is reported when the evidence of a write is incomplete. -/
def incompleteChecks (command : String) (write : Record) : List Check :=
  [result admission .unknown "Admission or command evidence incomplete" "supplied_records"
      (writeEvidence command write),
    result deadlineCheck .unknown "Deadline or initiation evidence incomplete" "supplied_records"
      (writeEvidence command write)]

/-- The body of the `try`: the checks that were appended, and how it ended. -/
def tryWrite (command : String) (rows : List Record) (write : Record) :
    List Check × Except PyError Unit :=
  match groundsOf S rows write with
  | .error e => ([], .error e)
  | .ok grounds =>
      match policyStatus S write with
      | .error e => ([], .error e)
      | .ok policy =>
          match admissionStatus S rows write grounds with
          | .error e => ([policyCheck command write policy], .error e)
          | .ok admission =>
              match deadlineStatus S.toReading write with
              | .error e =>
                  ([policyCheck command write policy, admissionCheck command write admission],
                    .error e)
              | .ok deadline =>
                  ([policyCheck command write policy, admissionCheck command write admission,
                    deadlineCheckOf command write deadline], .ok ())

/-- The checks of a write. -/
def judgeWrite (command : String) (rows : List Record) (write : Record) :
    Except PyError (List Check) :=
  match tryWrite S command rows write with
  | (checks, .ok ()) => .ok checks
  | (checks, .error e) =>
      if isCaught e then .ok (checks ++ incompleteChecks command write) else .error e

end Write

/-! ## The command as a whole -/

section Command

variable (S : Setting)

/-- `itertools.combinations(xs, 2)`. -/
def combinations {α : Type} : List α → List (α × α)
  | [] => []
  | x :: xs => xs.map (fun y => (x, y)) ++ combinations xs

def writesOf (rows : List Record) : List Record := rows.filter fun r => r.action = "write_initiated"

/-- The state of a pair that may not be within the retention window. -/
def pairState (a b : Record) : Status :=
  if withinWindow S.toReading S.reference.retentionSeconds a b = some true then .fail else .unknown

def initiationCheck (command : String) (writes : List Record) : Check :=
  let states := (combinations writes).map fun p => pairState S p.1 p.2
  result initiations
    (verdict (if !states.isEmpty then states else if !writes.isEmpty then [.pass] else [.unknown]))
    ("At most one observed application initiation per ID within the declared retention " ++
      "interval; native frames are not separate initiations")
    "observed_initiations_only"
    [.str command, .obj [("observed_initiations", .int writes.length),
      ("retention_seconds", .float (.finite S.reference.retentionSeconds))]]

/-- The records whose command has to stay the same. -/
def boundOf (rows : List Record) : List Record :=
  rows.filter fun r => r.action = "executor_admitted" || r.action = "write_initiated" ||
    (r.action = "writer_result" && jsonEq (r.get "outcome") (.str "completed"))

/-- The state of a pair, when the bindings differ. -/
def bindingState (a b : Record) : Except PyError (Option Status) := do
  let same ← bindingEq S a b
  .ok (if same then none else some (pairState S a b))

def bindingCheck (command : String) (rows : List Record) : Except PyError Check :=
  match (combinations (boundOf rows)).mapM fun p => bindingState S p.1 p.2 with
  | .ok found =>
      let states := found.filterMap id
      .ok (result bindingName
        (verdict (if !states.isEmpty then states
          else if !(boundOf rows).isEmpty then [.pass] else [.unknown]))
        ("Admitted/executed target, value, type, requester and times remain immutable within " ++
          "retention; declined conflicting requests are excluded")
        "recorded_command_fields" [.str command])
  | .error e =>
      if isCaught e then
        .ok (result bindingName .unknown "Immutable command fields incomplete" "supplied_records"
          [.str command])
      else .error e

/-- The outcomes that a record of this action may report. -/
def permittedOutcomes (action : String) : List String :=
  if action = "writer_result" then ["completed", "not_executed", "pending", "unknown", "conflict"]
  else ["approve", "reject", "pending", "unknown"]

/-- The reasons that do not establish a refusal. -/
def uncertainReasons : List String :=
  ["write_timeout", "write_transport_error", "bad_write_reply", "ledger_unavailable",
    "ledger_failure"]

def isOneOf (value : Json) (names : List String) : Bool := names.any fun n => jsonEq value (.str n)

def outcomesOf (rows : List Record) : List Record :=
  rows.filter fun r => r.action = "writer_result" || r.action = "outcome_published"

/-- What is wrong with a reported outcome: one entry for each reason. -/
def badOutcome (r : Record) : Except PyError (List String) :=
  let outcome := r.get "outcome"
  let unpermitted := if !isOneOf outcome (permittedOutcomes r.action) then [r.recordId] else []
  let refused := if jsonEq outcome (.str "reject") && isOneOf (r.get "reason") uncertainReasons then
    [r.recordId] else []
  if isOneOf outcome ["completed", "approve"] then
    match Json.item r.fields "written_at" >>= readAware S.toReading with
    | .ok _ => .ok (unpermitted ++ refused)
    | .error e =>
        if isCaught e then .ok (unpermitted ++ [r.recordId] ++ refused) else .error e
  else .ok (unpermitted ++ refused)

def outcomeCheck (command : String) (rows : List Record) : Except PyError Check := do
  let bad ← (outcomesOf rows).mapM (badOutcome S)
  .ok (result outcomeMeaning
    (if !bad.flatten.isEmpty then .fail else if !(outcomesOf rows).isEmpty then .pass else .unknown)
    ("Typed outcomes: uncertainty is not known refusal; acknowledged completion needs its own " ++
      "timestamp")
    "reported_outcome_representation" (.str command :: bad.flatten.map .str))

def isInt : Json → Bool
  | .int _ => true
  | _ => false

/-- One time is not before another. -/
def notBefore (r : Record) (name reference : String) : Except PyError Bool := do
  let at' ← readAware S.toReading (← Json.item r.fields name)
  let since ← readAware S.toReading (← Json.item r.fields reference)
  .ok (decide (since.timestamp ≤ at'.timestamp))

/-- The members that have to be integers. -/
def feedbackInts (r : Record) : List String → Except PyError Bool
  | [] => .ok true
  | name :: names => do
      let value ← Json.item r.fields name
      if isInt value then feedbackInts r names else .ok false

/-- The feedback of the process is about the bottle of the command, and later. -/
def feedbackOk (r : Record) : Except PyError Bool := do
  let topics ← match S.reference.controls.find? fun c => c.1 = "reject" with
    | some c => .ok c.2
    | none => .error ⟨.other "StopIteration", ""⟩
  if r.component = S.reference.processObserver && (r.get "inspection_id").typeName = "str" &&
      (r.get "inspection_id").truthy then do
    let target ← Json.item r.fields "target"
    if isOneOf target topics && jsonEq (r.get "evidence_scope") (.str "simulator_feedback") then do
      if ← feedbackInts r ["observed_bottle", "observed_count", "baseline_count",
          "requested_value"] then
        if jsonEq (r.get "observed_bottle") (r.get "requested_value") then do
          if ← less (r.get "baseline_count") (r.get "observed_count") then
            if ← notBefore S r "bottle_observed_at" "requested_at" then
              notBefore S r "count_observed_at" "requested_at"
            else .ok false
          else .ok false
        else .ok false
      else .ok false
    else .ok false
  else .ok false

def feedbackCheck (command : String) (r : Record) : Except PyError Check :=
  match feedbackOk S r with
  | .ok ok =>
      .ok (result feedback (if ok then .pass else .fail)
        "Recorded bottle-specific counter/identity feedback, not transport acknowledgement"
        "reported_simulator_feedback" [.str command, .str r.recordId])
  | .error e =>
      if isCaught e || e.kind == .other "StopIteration" then
        .ok (result feedback .unknown "Process feedback fields incomplete" "supplied_records"
          [.str command])
      else .error e

/-- What is reported of a command without writes. -/
def noWriteChecks (command : String) : List Check :=
  [admission, deadlineCheck].map fun name =>
    result name .unknown "No observed write initiation in this command trace" "supplied_records"
      [.str command]

/-- One turn of the loop over the commands. -/
def judgeCommand (command : String) (rows : List Record) : Except PyError (List Check) := do
  let writes := writesOf rows
  let judged ← writes.mapM (judgeWrite S command rows)
  let bound ← bindingCheck S command rows
  let outcomes ← outcomeCheck S command rows
  let observed ← (rows.filter fun r => r.action = "process_observed").mapM (feedbackCheck S command)
  .ok ([stageCheck command rows] ++ judged.flatten ++
    (if writes.isEmpty then noWriteChecks command else []) ++
    [initiationCheck S command writes, bound, outcomes] ++ observed)

end Command

/-! ## All records -/

section All

variable (S : Setting)

def integrityCheck (C : Collected) : Check :=
  result recordIntegrity
    (if !C.conflicts.isEmpty then .fail
      else if !C.issues.isEmpty || C.clean.isEmpty then .unknown else .pass)
    "Parseable attributable records; identical record IDs deduplicated" "supplied_records"
    ((C.conflicts ++ C.issues).map .str)

/-- What is reported without any command. -/
def noCommandChecks : List Check :=
  [admission, deadlineCheck, initiations, bindingName, outcomeMeaning].map fun name =>
    result name .unknown "No usable command trace supplied" "runtime_evidence" [] false

def historyCheck : Check :=
  result completeHistory .unknown
    ("Required restart/retention boundary cases and complete initiation history are not " ++
      "established by this package")
    "selected_recovery_policy" [] false

/-- `check_execution`. -/
def checkExecution (records : List Fields) : Except PyError (List Check) := do
  let collected ← collect S records
  let judged ← (commandIds collected.clean).mapM fun command =>
    judgeCommand S command (recordsOf collected.clean command)
  .ok ([integrityCheck collected] ++ judged.flatten ++
    (if collected.clean.isEmpty then noCommandChecks else []) ++ [historyCheck])

end All

/-! ## What is reported of a command -/

/-- The command that a check is about. -/
def commandOf (c : Check) : Option Json :=
  if c.name = recordIntegrity then none else c.evidence.head?

/-- Name, command and status of a check. -/
def triple (c : Check) : CheckName × Option Json × Status := (c.name, commandOf c, c.status)

end EirvahEdge.Conformance.Execution
