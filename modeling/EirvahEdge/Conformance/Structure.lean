import EirvahEdge.Conformance.Evaluate
import EirvahEdge.Lib.Dict
import EirvahEdge.Lib.Search
import Mathlib.Data.List.Dedup
import Mathlib.Data.List.Sort
import Mathlib.Data.String.Basic

/-!
# The declared structure

`check_structure` compares a manifest with the pinned reference.  It checks the typed graph
(identifiers, roles, contracts, channels, permitted interactions, source bindings), the
required routes and the declared placement.  A required route must be there, and must not be
there any more when the vertices that hold one of its roles are blocked.

`required_routes_iff` says what it means that the required routes pass: the typed graph has no
errors, every route of the reference is declared unaltered between declared vertices, and
there is a path along its flow, and every such path is on a vertex of each role that the
route must include.
-/

namespace EirvahEdge.Conformance.Structure

open EirvahEdge.Lib
open EirvahEdge.Lib.Search
open EirvahEdge.Contracts

/-! ## Manifests and references -/

structure Component where
  id : String
  group : String
  /-- There is a `deployment`. -/
  deployed : Bool := false
  sources : List String
deriving DecidableEq, Repr

structure Contract where
  id : String
  kind : String
  sources : List String
deriving DecidableEq, Repr

structure Vertex where
  id : String
  roles : List String
  components : List String
deriving DecidableEq, Repr

structure Channel where
  id : String
  components : List String
  sources : List String
deriving DecidableEq, Repr

structure Edge where
  id : String
  source : String
  target : String
  flow : String
  contract : String
  channels : List String
deriving DecidableEq, Repr

structure Profile where
  roles : List String
  flowKinds : List String
  groups : Dict String String
  roleLayers : Dict String (List String)
  permittedInteractions : List (List String)

/-- A route of the reference. -/
structure Route where
  id : String
  source : String
  target : String
  flow : String
  mustIncludeRoles : List String
deriving DecidableEq, Repr

/-- A route as the manifest declares it; what is left out reads as `None` or empty. -/
structure DeclaredRoute where
  id : String
  source : Option String
  target : Option String
  flow : Option String
  mustIncludeRoles : List String := []
deriving DecidableEq, Repr

structure Placement where
  hostSet : List String
  componentHosts : Dict String (List String)

structure Manifest where
  formatVersion : Option String
  profile : Profile
  components : List Component
  vertices : List Vertex
  contracts : List Contract
  channels : List Channel
  edges : List Edge
  requiredRoutes : List DeclaredRoute := []
  placement : Option Placement := none

structure PinnedReference where
  profile : Profile
  requiredRoutes : List Route

/-- The mapping has the version and the lists that the checks need. -/
def Manifest.evaluable (m : Manifest) : Bool :=
  m.formatVersion = some "1.0" && !m.components.isEmpty && !m.vertices.isEmpty &&
    !m.contracts.isEmpty && !m.channels.isEmpty && !m.edges.isEmpty

/-! ## The typed graph -/

/-- `{v["id"]: v for v in items}.values()`: a later item takes the place of an earlier one. -/
def indexed {α : Type} (id : α → String) (items : List α) : List α :=
  items.foldl
    (fun values x =>
      if id x ∈ values.map id then values.map fun y => if id y = id x then x else y
      else values ++ [x])
    []

/-- `items[name]` of an index. -/
def lookup {α : Type} (id : α → String) (items : List α) (name : String) : Option α :=
  (indexed id items).find? fun x => id x = name

/-- What `profile_signature` compares. -/
structure ProfileSignature where
  roles : List String
  flowKinds : List String
  groups : List (String × String)
  roleLayers : List (String × List String)
  permittedInteractions : List (List String)
deriving DecidableEq, Repr

/-- `profile_signature`. -/
def profileSignature (p : Profile) : ProfileSignature where
  roles := p.roles.insertionSort (· ≤ ·)
  flowKinds := p.flowKinds.insertionSort (· ≤ ·)
  groups := p.groups.items
  roleLayers := p.roleLayers.items.map fun l => (l.1, l.2.insertionSort (· ≤ ·))
  permittedInteractions := p.permittedInteractions.insertionSort (· ≤ ·)

/-- The message, when there is an error. -/
def reportIf (error : Bool) (message : String) : List String := if error then [message] else []

/-- Errors in the identifiers of one list of the manifest. -/
def idErrors (key : String) (ids : List String) : List String :=
  reportIf (ids.dedup.length ≠ ids.length) ("duplicate IDs: " ++ key) ++
    reportIf (ids.any (· = "")) ("invalid IDs: " ++ key)

def componentErrors (profile : Profile) (c : Component) : List String :=
  reportIf (c.group ∉ profile.groups.items.map Prod.fst ++ ["infrastructure"])
    ("undeclared group: " ++ c.id)

def contractErrors (profile : Profile) (c : Contract) : List String :=
  reportIf (c.kind ∉ profile.flowKinds) ("undeclared contract kind: " ++ c.id)

def vertexErrors (m : Manifest) (profile : Profile) (v : Vertex) : List String :=
  reportIf (v.roles = [] || v.roles.any (· ∉ profile.roles)) ("undeclared role: " ++ v.id) ++
    reportIf (v.components = [] || v.components.any (· ∉ m.components.map Component.id))
      ("unmapped component: " ++ v.id)

def channelErrors (m : Manifest) (c : Channel) : List String :=
  reportIf (c.components = [] || c.components.any (· ∉ m.components.map Component.id))
    ("unmapped channel: " ++ c.id)

/-- Some role of the source may use the flow towards some role of the target. -/
def permitted (profile : Profile) (source target : Vertex) (flow : String) : Bool :=
  source.roles.any fun a => target.roles.any fun b => [a, flow, b] ∈ profile.permittedInteractions

def edgeErrors (m : Manifest) (profile : Profile) (e : Edge) : List String :=
  match lookup Vertex.id m.vertices e.source, lookup Vertex.id m.vertices e.target with
  | some source, some target =>
      reportIf ((lookup Contract.id m.contracts e.contract).map Contract.kind ≠ some e.flow)
          ("edge contract kind mismatch: " ++ e.id) ++
        reportIf (e.channels = [] || e.channels.any (· ∉ m.channels.map Channel.id))
          ("missing edge channel: " ++ e.id) ++
        reportIf (!permitted profile source target e.flow)
          ("forbidden role/flow triple: " ++ e.id)
  | _, _ => ["missing edge endpoint: " ++ e.id]

/-- Errors in the source bindings of one item. -/
def sourceErrors (isRepositoryFile : String → Bool) (id : String) (sources : List String) :
    List String :=
  reportIf sources.isEmpty ("missing source binding: " ++ id) ++
    sources.flatMap fun name =>
      reportIf (!isRepositoryFile name) ("source missing or outside repository: " ++ name)

/-- The errors of the typed graph. -/
def typedGraphErrors (isRepositoryFile : String → Bool) (m : Manifest) (r : PinnedReference) :
    List String :=
  idErrors "components" (m.components.map Component.id) ++
    idErrors "vertices" (m.vertices.map Vertex.id) ++
    idErrors "contracts" (m.contracts.map Contract.id) ++
    idErrors "channels" (m.channels.map Channel.id) ++
    idErrors "edges" (m.edges.map Edge.id) ++
    reportIf (profileSignature m.profile ≠ profileSignature r.profile)
      "profile differs from pinned reference" ++
    m.components.flatMap (componentErrors r.profile) ++
    (indexed Contract.id m.contracts).flatMap (contractErrors r.profile) ++
    (indexed Vertex.id m.vertices).flatMap (vertexErrors m r.profile) ++
    m.channels.flatMap (channelErrors m) ++
    m.edges.flatMap (edgeErrors m r.profile) ++
    m.components.flatMap (fun c => sourceErrors isRepositoryFile c.id c.sources) ++
    m.contracts.flatMap (fun c => sourceErrors isRepositoryFile c.id c.sources) ++
    m.channels.flatMap (fun c => sourceErrors isRepositoryFile c.id c.sources)

/-! ## The required routes -/

/-- The edges of a flow. -/
def flowEdges (edges : List Edge) (flow : String) : List (String × String) :=
  (edges.filter fun e => e.flow = flow).map fun e => (e.source, e.target)

/-- `reachable`. -/
def reachable (edges : List Edge) (start finish flow : String) (blocked : List String) : Bool :=
  search (flowEdges edges flow) finish [start] blocked

/-- The vertices that hold a role. -/
def holders (m : Manifest) (role : String) : List String :=
  (m.vertices.filter fun v => role ∈ v.roles).map Vertex.id

/-- Equality as sets. -/
def sameSet (xs ys : List String) : Bool := xs.all (· ∈ ys) && ys.all (· ∈ xs)

/-- The manifest declares the route, and as the reference has it. -/
def unaltered (m : Manifest) (route : Route) : Bool :=
  match lookup DeclaredRoute.id m.requiredRoutes route.id with
  | none => false
  | some actual =>
      actual.source = some route.source && actual.target = some route.target &&
        actual.flow = some route.flow && sameSet actual.mustIncludeRoles route.mustIncludeRoles

/-- Both ends are declared vertices and a path leads from one to the other. -/
def present (m : Manifest) (route : Route) : Bool :=
  decide (route.source ∈ m.vertices.map Vertex.id) &&
    decide (route.target ∈ m.vertices.map Vertex.id) &&
    reachable m.edges route.source route.target route.flow []

/-- The errors of one required route. -/
def routeErrors (m : Manifest) (route : Route) : List String :=
  reportIf (!unaltered m route) ("missing or altered requirement: " ++ route.id) ++
    if !present m route then ["required route absent: " ++ route.id]
    else
      route.mustIncludeRoles.flatMap fun role =>
        reportIf (reachable m.edges route.source route.target route.flow (holders m role))
          ("role bypass: " ++ route.id ++ " / " ++ role)

/-! ## The checks -/

def manifestScope : String := "declared_manifest_only"

def typedGraph : CheckName := ⟨.c01, "typed_graph"⟩
def requiredRoutes : CheckName := ⟨.c02, "required_routes"⟩
def declaredPlacement : CheckName := ⟨.c13, "declared_placement"⟩
def runtimePlacement : CheckName := ⟨.c13, "runtime_placement"⟩

/-- What the required routes are judged by, after the errors of the typed graph. -/
def routesCheck (m : Manifest) (r : PinnedReference) (errors : List String) : Check :=
  if r.requiredRoutes.isEmpty then
    result requiredRoutes .unknown "Cannot interpret required routes" manifestScope
  else
    let found := r.requiredRoutes.flatMap (routeErrors m)
    result requiredRoutes
      (if !found.isEmpty then .fail else if !errors.isEmpty then .unknown else .pass)
      "Nonempty pinned routes and absence of declared namespace/executor bypasses"
      manifestScope (found.map .str)

/-- The deployed components without declared hosts. -/
def unplaced (m : Manifest) (p : Placement) : List String :=
  (m.components.filter fun c =>
    c.deployed && match p.componentHosts.get c.id with
      | none => true
      | some hosts => hosts.isEmpty || hosts.any (· ∉ p.hostSet)).map Component.id

def placementCheck (m : Manifest) : Check :=
  match m.placement with
  | none => result declaredPlacement .unknown "Placement mapping incomplete" manifestScope
  | some p =>
      if p.hostSet.isEmpty then
        result declaredPlacement .unknown "Placement mapping incomplete" manifestScope
      else
        result declaredPlacement (if !(unplaced m p).isEmpty then .fail else .pass)
          "Every deployed component has a nonempty declared host set" manifestScope
          ((unplaced m p).map .str)

/-- `check_structure`. -/
def checkStructure (isRepositoryFile : String → Bool) (m : Manifest) (r : PinnedReference) :
    List Check :=
  if !m.evaluable then
    [result typedGraph .unknown "A nonempty mapping is missing" manifestScope,
      result requiredRoutes .unknown "Graph cannot be evaluated" manifestScope]
  else
    let errors := typedGraphErrors isRepositoryFile m r
    [result typedGraph (if !errors.isEmpty then .fail else .pass)
        "Typed signatures, roles, contracts, channels and source bindings" manifestScope
        (errors.map .str),
      routesCheck m r errors, placementCheck m,
      result runtimePlacement .unknown
        "Runtime build/placement and distributed functional evidence not supplied"
        "runtime_deployment" [] false]

/-! ## Routes and bypasses -/

section Routes

variable {m : Manifest} {r : PinnedReference} {route : Route} {role flow start finish : String}
  {edges : List Edge} {blocked : List String}

/-- A path along the edges of a flow. -/
abbrev FlowPath (edges : List Edge) (flow start finish : String) (nodes : List String) : Prop :=
  Path (flowEdges edges flow) start finish nodes

theorem reachable_iff : reachable edges start finish flow blocked = true ↔
    ∃ nodes, FlowPath edges flow start finish nodes ∧ ∀ n ∈ nodes, n ∉ blocked := by
  rw [reachable, search_iff]
  constructor
  · rintro ⟨a, ha, h⟩
    rwa [List.mem_singleton.1 ha] at h
  · intro h
    exact ⟨start, List.mem_singleton_self _, h⟩

theorem mem_holders {n : String} :
    n ∈ holders m role ↔ ∃ v ∈ m.vertices, v.id = n ∧ role ∈ v.roles := by
  simp only [holders, List.mem_map, List.mem_filter, decide_eq_true_eq]
  exact ⟨fun ⟨v, ⟨hv, hrole⟩, hid⟩ => ⟨v, hv, hid, hrole⟩,
    fun ⟨v, hv, hid, hrole⟩ => ⟨v, ⟨hv, hrole⟩, hid⟩⟩

/-- There is no way around the holders of a role exactly when every path is on one of them. -/
theorem not_reachable_holders_iff :
    reachable edges start finish flow (holders m role) = false ↔
      ∀ nodes, FlowPath edges flow start finish nodes →
        ∃ n ∈ nodes, ∃ v ∈ m.vertices, v.id = n ∧ role ∈ v.roles := by
  rw [← Bool.not_eq_true, reachable_iff, not_exists]
  refine forall_congr' fun nodes => ?_
  rw [not_and]
  refine imp_congr_right fun _ => ?_
  simp only [not_forall, not_not, mem_holders, exists_prop]

theorem reportIf_eq_nil {error : Bool} {message : String} :
    reportIf error message = [] ↔ error = false := by
  cases error <;> simp [reportIf]

/-- A route of the reference that is declared as it is, with both ends among the vertices; a
path leads along its flow, and every such path is on a holder of each required role. -/
structure RouteHolds (m : Manifest) (route : Route) : Prop where
  declared : ∃ actual, lookup DeclaredRoute.id m.requiredRoutes route.id = some actual ∧
    actual.source = some route.source ∧ actual.target = some route.target ∧
    actual.flow = some route.flow ∧
    ∀ role, role ∈ actual.mustIncludeRoles ↔ role ∈ route.mustIncludeRoles
  source : route.source ∈ m.vertices.map Vertex.id
  target : route.target ∈ m.vertices.map Vertex.id
  path : ∃ nodes, FlowPath m.edges route.flow route.source route.target nodes
  covered : ∀ nodes, FlowPath m.edges route.flow route.source route.target nodes →
    ∀ role ∈ route.mustIncludeRoles, ∃ n ∈ nodes, ∃ v ∈ m.vertices, v.id = n ∧ role ∈ v.roles

theorem sameSet_iff {xs ys : List String} : sameSet xs ys = true ↔ ∀ x, x ∈ xs ↔ x ∈ ys := by
  rw [sameSet, Bool.and_eq_true, List.all_eq_true, List.all_eq_true]
  simp only [decide_eq_true_eq]
  exact ⟨fun h x => ⟨h.1 x, h.2 x⟩, fun h => ⟨fun x => (h x).1, fun x => (h x).2⟩⟩

theorem unaltered_iff : unaltered m route = true ↔
    ∃ actual, lookup DeclaredRoute.id m.requiredRoutes route.id = some actual ∧
      actual.source = some route.source ∧ actual.target = some route.target ∧
      actual.flow = some route.flow ∧
      ∀ role, role ∈ actual.mustIncludeRoles ↔ role ∈ route.mustIncludeRoles := by
  unfold unaltered
  cases lookup DeclaredRoute.id m.requiredRoutes route.id with
  | none => simp
  | some actual =>
      simp only [Bool.and_eq_true, decide_eq_true_eq, sameSet_iff, and_assoc, Option.some.injEq,
        exists_eq_left']

theorem present_iff : present m route = true ↔ route.source ∈ m.vertices.map Vertex.id ∧
    route.target ∈ m.vertices.map Vertex.id ∧
    ∃ nodes, FlowPath m.edges route.flow route.source route.target nodes := by
  rw [present, Bool.and_eq_true, Bool.and_eq_true, decide_eq_true_eq, decide_eq_true_eq,
    and_assoc, reachable_iff]
  simp

/-- No bypass is reported exactly when every path is on a holder of each required role. -/
theorem bypasses_eq_nil : (route.mustIncludeRoles.flatMap fun role =>
    reportIf (reachable m.edges route.source route.target route.flow (holders m role))
      ("role bypass: " ++ route.id ++ " / " ++ role)) = [] ↔
    ∀ nodes, FlowPath m.edges route.flow route.source route.target nodes →
      ∀ role ∈ route.mustIncludeRoles,
        ∃ n ∈ nodes, ∃ v ∈ m.vertices, v.id = n ∧ role ∈ v.roles := by
  rw [List.flatMap_eq_nil_iff]
  simp only [reportIf_eq_nil, not_reachable_holders_iff]
  exact ⟨fun h nodes hn role hr => h role hr nodes hn, fun h role hr nodes hn => h nodes hn role hr⟩

theorem routeErrors_eq_nil : routeErrors m route = [] ↔ RouteHolds m route := by
  rw [routeErrors, List.append_eq_nil_iff, reportIf_eq_nil, Bool.not_eq_false', unaltered_iff]
  cases hp : present m route with
  | false =>
      have habsent : ¬present m route = true := by simp [hp]
      rw [present_iff] at habsent
      simp only [Bool.not_false, if_true, List.cons_ne_nil, and_false, false_iff]
      exact fun h => habsent ⟨h.source, h.target, h.path⟩
  | true =>
      obtain ⟨hsource, htarget, hpath⟩ := present_iff.1 hp
      simp only [Bool.not_true, Bool.false_eq_true, if_false, bypasses_eq_nil]
      exact ⟨fun h => ⟨h.1, hsource, htarget, hpath, h.2⟩, fun h => ⟨h.declared, h.covered⟩⟩

theorem routesCheck_pass {errors : List String} (hroutes : r.requiredRoutes ≠ []) :
    (routesCheck m r errors).status = .pass ↔
      errors = [] ∧ ∀ route ∈ r.requiredRoutes, RouteHolds m route := by
  have hfound : r.requiredRoutes.flatMap (routeErrors m) = [] ↔
      ∀ route ∈ r.requiredRoutes, RouteHolds m route := by
    rw [List.flatMap_eq_nil_iff]
    exact forall₂_congr fun route _ => routeErrors_eq_nil
  rw [← hfound, routesCheck, if_neg (by simpa using hroutes)]
  cases hf : r.requiredRoutes.flatMap (routeErrors m) with
  | cons e es => simp [result]
  | nil => cases errors <;> simp [result]

/-- The search for a route is over after as many turns as there are edges, and one more. -/
theorem reachable_turns (edges : List Edge) (start finish flow : String) (blocked : List String) :
    turns (flowEdges edges flow) finish (edges.length + 1) [start] blocked =
      some (reachable edges start finish flow blocked) := by
  refine turns_eq_search ?_
  have hunused : (unused (flowEdges edges flow) blocked).length ≤ edges.length := by
    refine (List.length_filter_le _ _).trans ?_
    rw [flowEdges, List.length_map]
    exact List.length_filter_le _ _
  rw [List.length_singleton]
  omega

theorem routesCheck_name (errors : List String) :
    (routesCheck m r errors).name = requiredRoutes := by
  unfold routesCheck
  split <;> rfl

theorem placementCheck_name : (placementCheck m).name = declaredPlacement := by
  unfold placementCheck
  split
  · rfl
  · split <;> rfl

/-- The searches end, and the required routes pass exactly when the typed graph has no errors
and every route of the reference holds. -/
theorem required_routes_iff (isRepositoryFile : String → Bool) (heval : m.evaluable = true)
    (hroutes : r.requiredRoutes ≠ []) :
    (∀ route ∈ r.requiredRoutes, ∀ blocked,
      turns (flowEdges m.edges route.flow) route.target (m.edges.length + 1) [route.source] blocked =
        some (reachable m.edges route.source route.target route.flow blocked)) ∧
      ∃ check, (checkStructure isRepositoryFile m r).filter (fun c => c.name = requiredRoutes) =
          [check] ∧
        (check.status = .pass ↔ typedGraphErrors isRepositoryFile m r = [] ∧
          ∀ route ∈ r.requiredRoutes, RouteHolds m route) := by
  refine ⟨fun route _ blocked => reachable_turns _ _ _ _ _,
    routesCheck m r (typedGraphErrors isRepositoryFile m r), ?_, routesCheck_pass hroutes⟩
  rw [checkStructure, if_neg (by simp [heval])]
  simp [routesCheck_name, placementCheck_name, result, typedGraph, runtimePlacement,
    declaredPlacement, requiredRoutes]

end Routes

/-! ## A graph with a cycle -/

/-- Four roles in a row. -/
def rowProfile : Profile where
  roles := ["decision", "namespace", "executor", "physical"]
  flowKinds := ["command"]
  groups := Dict.empty.set "v1" "Control"
  roleLayers := .empty
  permittedInteractions :=
    [["decision", "command", "namespace"], ["namespace", "command", "executor"],
      ["executor", "command", "namespace"], ["executor", "command", "physical"]]

/-- Commands go from the decision to the machine, and back from the executor to the
namespace. -/
def cyclic : Manifest where
  formatVersion := some "1.0"
  profile := rowProfile
  components := [⟨"all", "v1", false, ["README.md"]⟩]
  vertices :=
    [⟨"line-decision", ["decision"], ["all"]⟩, ⟨"uns", ["namespace"], ["all"]⟩,
      ⟨"writer", ["executor"], ["all"]⟩, ⟨"machine", ["physical"], ["all"]⟩]
  contracts := [⟨"command-v1", "command", ["README.md"]⟩]
  channels := [⟨"broker", ["all"], ["README.md"]⟩]
  edges :=
    [⟨"propose", "line-decision", "uns", "command", "command-v1", ["broker"]⟩,
      ⟨"admit", "uns", "writer", "command", "command-v1", ["broker"]⟩,
      ⟨"answer", "writer", "uns", "command", "command-v1", ["broker"]⟩,
      ⟨"write", "writer", "machine", "command", "command-v1", ["broker"]⟩]
  requiredRoutes :=
    [⟨"decision-machine", some "line-decision", some "machine", some "command",
      ["executor", "namespace"]⟩]

def pinned : PinnedReference where
  profile := rowProfile
  requiredRoutes :=
    [⟨"decision-machine", "line-decision", "machine", "command", ["namespace", "executor"]⟩]

/-- Its required routes pass, and its route holds. -/
theorem required_routes_cyclic : ∃ check,
    (checkStructure (fun _ => true) cyclic pinned).filter (fun c => c.name = requiredRoutes) =
      [check] ∧ check.status = .pass ∧
      ∀ route ∈ pinned.requiredRoutes, RouteHolds cyclic route := by
  obtain ⟨-, check, hcheck, hiff⟩ :=
    required_routes_iff (m := cyclic) (r := pinned) (fun _ => true) (by decide) (by decide)
  have hall : ((checkStructure (fun _ => true) cyclic pinned).filter
      fun c => c.name = requiredRoutes).all (fun c => c.status = .pass) = true := by decide +kernel
  rw [hcheck] at hall
  have hpass : check.status = .pass := by simpa using hall
  exact ⟨check, hcheck, hpass, (hiff.1 hpass).2⟩

end EirvahEdge.Conformance.Structure
