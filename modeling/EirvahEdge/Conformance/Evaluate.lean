import EirvahEdge.Conformance.DataEvidence

/-!
# Putting the verdicts together

`evaluate` merges the checks of six checkers.  Evidence that is not supplied leaves
an unknown in its place; supplied evidence takes the place of that unknown, and the
recovery and assurance checks take the place of checks of the same names.  At the
end every rule of the reference is judged by the checks under it.

The other checkers enter through what they can report: any checks at all, as long
as their names are the checker's own (`Findings`).  What is said about `evaluate`
then holds whatever records and packages those checkers were given.
-/

namespace EirvahEdge.Conformance

open EirvahEdge.Lib
open EirvahEdge.Contracts

/-! ## What the checkers report -/

/-- The checks of one checker, under the names it uses. -/
structure Findings (names : List CheckName) where
  checks : List Check
  named : ∀ c ∈ checks, c.name ∈ names

/-- The names of `check_structure`. -/
def structureNames : List CheckName :=
  [⟨.c01, "typed_graph"⟩, ⟨.c02, "required_routes"⟩, ⟨.c13, "declared_placement"⟩,
    ⟨.c13, "runtime_placement"⟩]

/-- The names of `check_bindings`. -/
def bindingNames : List CheckName := [⟨.c03, "selected_commands"⟩, ⟨.c03, "full_semantics"⟩]

/-- The names of `check_execution`. -/
def executionNames : List CheckName :=
  [⟨.c12, "record_integrity"⟩, ⟨.c12, "stage_coverage"⟩, ⟨.c07, "write_policy"⟩,
    ⟨.c07, "admission"⟩, ⟨.c08, "deadline"⟩, ⟨.c09, "initiations"⟩, ⟨.c09, "binding"⟩,
    ⟨.c10, "outcome_meaning"⟩, ⟨.c06, "feedback"⟩, ⟨.c09, "complete_history"⟩]

/-- The names of `check_fault_evidence`. -/
def faultNames : List CheckName :=
  ["caller_reply_lost", "before_write_disconnect", "commit_dropped", "native_ack_lost",
    "writer_restart_after_effect", "delayed_expired_command"].map
    fun name => ⟨.c10, "fault." ++ name⟩

/-- The names of `check_assurance`. -/
def assuranceNames : List CheckName :=
  [⟨.c12, "collection_coverage"⟩, ⟨.c03, "full_semantics"⟩, ⟨.c02, "runtime_boundary"⟩,
    ⟨.c09, "complete_history"⟩]

/-- What `evaluate` is given, with the reports of the other checkers on it. -/
structure Evidence where
  declared : Findings structureNames
  bindings : Findings bindingNames
  execution : Findings executionNames
  records : List (List (String × Json))
  commands : List (List (String × Json))
  collectionErrors : List String
  data : Option Json
  recovery : Option (Findings recoveryNames)
  faults : Option (Findings faultNames)
  /-- The assurance checks and the commands refused without a write. -/
  assurance : Option (Findings assuranceNames × List String)

/-- A rule of the reference. -/
structure ReferenceRule where
  id : String
  title : String
  definitions : List ℕ
deriving DecidableEq, Repr

structure Reference where
  id : String
  rules : List ReferenceRule
deriving DecidableEq, Repr

/-! ## Merging -/

/-- `result`. -/
def result (name : CheckName) (status : Status) (reason scope : String)
    (evidence : List Json := []) (executed : Bool := true) : Check where
  name := name
  status := status
  reason := reason
  scope := scope
  executed := executed
  evidence := evidence

/-- New checks take the place of those with their names. -/
def supersede (checks new : List Check) : List Check :=
  checks.filter (fun c => c.name ∉ new.map Check.name) ++ new

/-- `deferred`: what is unknown without an experiment. -/
def deferredReason : RuleId → Option String
  | .c04 => some ("Equivalent native-input golden data and output comparisons not supplied; " ++
      "E2 preparation remains")
  | .c05 => some "State ordering/restart sequences and freshness policy evidence not supplied"
  | .c06 => some ("Transport/event/effect reconciliation across retention and restart cases " ++
      "not supplied")
  | .c10 => some ("Loss-of-reply and independent device/outcome reconciliation case evidence " ++
      "not supplied")
  | .c11 => some "Loss, congestion, reconnect and mixed-flow policy experiment evidence not supplied"
  | _ => none

def deferredCheck (rule : RuleId) : Check :=
  result ⟨rule, "experiment"⟩ .unknown ((deferredReason rule).getD "")
    "required_experimental_evidence" [] false

/-- The deferred rules, without those whose evidence was supplied. -/
def deferredRules (data faults : Bool) : List RuleId :=
  [.c04] ++ (if data then [] else [.c05, .c06]) ++ (if faults then [] else [.c10]) ++ [.c11]

namespace Evidence

variable (e : Evidence)

/-- What is never established by declared structure and observed records alone. -/
def standing : List Check :=
  [result ⟨.c02, "runtime_boundary"⟩ .unknown
      ("Declared graph is not proof of runtime bypass protection; separate " ++
        "unapproved-writer case evidence required")
      "runtime_boundary" [] false,
    result ⟨.c12, "collection_coverage"⟩ .unknown
      ("Collection completeness is not established; missing records and unbounded clocks " ++
        "remain explicit")
      "bounded_run" (e.collectionErrors.map .str)]

/-- The checks of the three checkers that always run. -/
def initial : List Check := e.declared.checks ++ e.bindings.checks ++ e.execution.checks

/-- With the recovery checks in the place of checks of their names. -/
def recovered (checks : List Check) : List Check :=
  match e.recovery with
  | none => checks
  | some r => supersede checks r.checks

def faultChecks : List Check :=
  match e.faults with
  | none => []
  | some f => f.checks

/-- The checks up to the assurance evidence; `data` is the report on the data
evidence, if a package was supplied. -/
def collected (data : Option (List Check)) : List Check :=
  e.recovered (e.initial ++ data.getD []) ++ e.faultChecks ++
    (deferredRules data.isSome e.faults.isSome).map deferredCheck ++ e.standing

end Evidence

/-- The checks an unexecuted command leaves unknown. -/
def excusable : List CheckName :=
  [⟨.c07, "admission"⟩, ⟨.c08, "deadline"⟩, ⟨.c09, "initiations"⟩, ⟨.c09, "binding"⟩]

/-- A check about a command that was refused without a write. -/
def excuse (closedNoWrite : List String) (c : Check) : Check :=
  match c.evidence with
  | .str id :: _ =>
      if c.name ∈ excusable ∧ c.status = .unknown ∧ id ∈ closedNoWrite then
        { c with
          status := .pass
          scope := "verified_closed_capture_without_execution"
          reason := "Refused request has no admission, initiation or ledger record in the " ++
            "verified complete capture; the execution-only implication is satisfied without " ++
            "asserting a write" }
      else c
  | _ => c

namespace Evidence

variable (e : Evidence)

/-- With the assurance evidence. -/
def assured (checks : List Check) : List Check :=
  match e.assurance with
  | none => checks
  | some (a, closedNoWrite) => (supersede checks a.checks).map (excuse closedNoWrite)

/-- `{c["correlation_id"] for c in commands if isinstance(c.get("correlation_id"), str)}`. -/
def expectedIds : List String :=
  (e.commands.filterMap fun c =>
    match Json.member c "correlation_id" with
    | some (.str id) => some id
    | _ => none).dedup

/-- `r.get("correlation_id")` as a member of a set. -/
def presentId (record : List (String × Json)) : Except PyError Json :=
  match Json.member record "correlation_id" with
  | some (.arr _) | some (.obj _) => .error ⟨.typeError, "unhashable type"⟩
  | some j => .ok j
  | none => .ok .null

/-- The check on the generated commands. -/
def reconciled : Except PyError (List Check) :=
  if e.commands = [] then .ok []
  else do
    let present ← e.records.mapM presentId
    let absent := (e.expectedIds.filter (.str · ∉ present)).insertionSort (· ≤ ·)
    return [result ⟨.c12, "command_reconciliation"⟩ (if absent = [] then .pass else .unknown)
      ("Generated command IDs compared with retained trace IDs; matching IDs do not prove full " ++
        "stage coverage")
      "supplied_run_commands" (absent.map .str)]

/-- The report on the data evidence. -/
def dataReport (E : Pinned) : Except PyError (Option (List Check)) :=
  match e.data with
  | none => .ok none
  | some package => (checkDataEvidence E package).map some

/-- All checks. -/
def checks (E : Pinned) : Except PyError (List Check) := do
  let data ← e.dataReport E
  let commands ← e.reconciled
  return e.assured (e.collected data) ++ commands

end Evidence

/-! ## The report -/

/-- The checks selected for a rule. -/
def selected (rule : String) (checks : List Check) : List Check :=
  checks.filter fun c => c.rule.id == rule

structure RuleVerdict where
  rule : ReferenceRule
  status : Status
  executed : Bool
  checks : List Check
deriving DecidableEq, Repr

structure Report where
  profile : String
  evaluatedAt : AwareDatetime
  overall : Status
  rules : List RuleVerdict
deriving DecidableEq, Repr

def judgeRule (checks : List Check) (rule : ReferenceRule) : RuleVerdict where
  rule := rule
  status := verdict (statuses (selected rule.id checks))
  executed := (selected rule.id checks).any Check.executed
  checks := selected rule.id checks

def Reference.report (reference : Reference) (now : AwareDatetime) (checks : List Check) :
    Report where
  profile := reference.id
  evaluatedAt := now
  overall := verdict (reference.rules.map fun rule => (judgeRule checks rule).status)
  rules := reference.rules.map (judgeRule checks)

/-- `evaluate`; `now` is the time of the report. -/
def evaluate (E : Pinned) (reference : Reference) (now : AwareDatetime) (e : Evidence) :
    Except PyError Report :=
  (e.checks E).map (reference.report now)

end EirvahEdge.Conformance
