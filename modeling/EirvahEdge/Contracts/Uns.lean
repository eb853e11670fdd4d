import EirvahEdge.Contracts.Hops

/-!
# The hierarchy of topics

`UNSPath` is the seven-level hierarchy that names a measurement.  A path with a
segment that no topic may have cannot be built.
-/

namespace EirvahEdge.Contracts

/-- `UNSPath`: seven `UNSSegment`s. -/
structure UNSPath where
  enterprise : String
  site : String
  area : String
  line : String
  cell : String
  equipment : String
  measurement : String
  segments_valid : ∀ s ∈ [enterprise, site, area, line, cell, equipment, measurement],
    isSegment s.toList = true
deriving DecidableEq, Repr

/-- `UNSPath(...)`. -/
def UNSPath.create (enterprise site area line cell equipment measurement : String) :
    Except PyError UNSPath :=
  if h : ∀ s ∈ [enterprise, site, area, line, cell, equipment, measurement],
      isSegment s.toList = true then
    .ok ⟨enterprise, site, area, line, cell, equipment, measurement, h⟩
  else .error (Json.validationError "UNSPath")

/-- `build_uns_topic`. -/
def buildUnsTopic (path : UNSPath) : String :=
  "/".intercalate [path.enterprise, path.site, path.area, path.line, path.cell, path.equipment,
    path.measurement]

/-- `UNSPath.model_dump(mode="json")`. -/
def UNSPath.dump (path : UNSPath) : Json :=
  .obj [("enterprise", .str path.enterprise), ("site", .str path.site), ("area", .str path.area),
    ("line", .str path.line), ("cell", .str path.cell), ("equipment", .str path.equipment),
    ("measurement", .str path.measurement)]

/-- `UNSPath.model_validate`; other members are ignored. -/
def UNSPath.parse : Json → Except PyError UNSPath
  | .obj fields => do
      let enterprise ← Json.readStr fields "enterprise"
      let site ← Json.readStr fields "site"
      let area ← Json.readStr fields "area"
      let line ← Json.readStr fields "line"
      let cell ← Json.readStr fields "cell"
      let equipment ← Json.readStr fields "equipment"
      let measurement ← Json.readStr fields "measurement"
      UNSPath.create enterprise site area line cell equipment measurement
  | _ => .error (Json.validationError "")

theorem UNSPath.create_self (path : UNSPath) :
    UNSPath.create path.enterprise path.site path.area path.line path.cell path.equipment
      path.measurement = .ok path :=
  dif_pos path.segments_valid

/-- A path is read as it was written. -/
theorem UNSPath.parse_dump (path : UNSPath) : parse path.dump = .ok path := by
  simp only [parse, dump, Json.readStr, Json.member, bind, Except.bind]
  exact UNSPath.create_self path

end EirvahEdge.Contracts
