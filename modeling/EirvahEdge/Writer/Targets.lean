import EirvahEdge.Contracts.Python
import EirvahEdge.Lib.Except
import EirvahEdge.Writer.Native

/-!
# The table of OPC UA targets

`load_write_targets` joins the mapping file, which names a topic and an alias in every
entry, with the node list, which has the browse path of an alias.  An entry whose alias is
not in the node list is skipped, and a topic that is in the table already is refused.

Refused is thus a topic of a listed entry that a later entry names again.  A skipped entry
leaves no trace of its topic, and nothing is asked about the browse paths, so a table that
was loaded need not be one of distinct nodes for distinct topics, and its topics need not
have been named once (`bijective_iff`).

The files are what `yaml.safe_load` makes of them.  `pyStr` is `str` of a value in a topic.
-/

namespace EirvahEdge.Writer

open EirvahEdge.Lib
open EirvahEdge.Contracts

/-! ## The files -/

/-- `_NodeListEntry`. -/
structure NodeListEntry where
  browseNames : List String
  alias' : String
deriving DecidableEq, Repr

/-- `_NodeListConfig`, without the publishing interval. -/
structure NodeListConfig where
  endpoint : String
  namespaceUri : String
  nodes : List NodeListEntry
deriving DecidableEq, Repr

/-- `alias_to_browse.get(alias)`: of two nodes with one alias the later counts. -/
def NodeListConfig.browseOf (nodeList : NodeListConfig) :
    Json → Except PyError (Option (List String))
  | .str s =>
      .ok ((nodeList.nodes.reverse.find? fun node => node.alias' = s).map NodeListEntry.browseNames)
  | .arr _ | .obj _ => .error (Json.typeError "unhashable type")
  | _ => .ok none

/-- `mapping_raw["mappings"]`, as far as the loop goes through it. -/
def mappingEntries (mapping : Json) : Except PyError (List Json) := do
  Json.iterate (← mapping.subscript "mappings")

section Loading

variable (pyStr : Json → String) (enterprise site : String)

/-- The topic of an entry. -/
def topicOf (entry : Json) : Except PyError String := do
  let area ← entry.subscript "area"
  let line ← entry.subscript "line"
  let cell ← entry.subscript "cell"
  let equipment ← entry.subscript "equipment"
  let measurement ← entry.subscript "measurement"
  return enterprise ++ "/" ++ site ++ "/" ++ pyStr area ++ "/" ++ pyStr line ++ "/" ++
    pyStr cell ++ "/" ++ pyStr equipment ++ "/" ++ pyStr measurement

/-- `targets`, in insertion order. -/
abbrev TargetTable := List (String × WriteTarget)

def targetOf (nodeList : NodeListConfig) (browseNames : List String) : WriteTarget where
  browseNames := browseNames
  endpoint := nodeList.endpoint
  namespaceUri := nodeList.namespaceUri

/-- One round of the loop. -/
def loadEntry (nodeList : NodeListConfig) (targets : TargetTable) (entry : Json) :
    Except PyError TargetTable := do
  let alias' ← entry.subscript "node_id"
  let topic ← topicOf pyStr enterprise site entry
  if topic ∈ targets.map Prod.fst then
    .error (valueError
      ("mapping not bijective: topic " ++ topic ++ " maps to multiple node_ids"))
  else
    let browseNames ← nodeList.browseOf alias'
    -- an alias that is not in the node list is skipped
    return match browseNames with
      | none => targets
      | some names => targets ++ [(topic, targetOf nodeList names)]

/-- `load_write_targets`, of the two files or of what reading them raised. -/
def loadWriteTargets (mapping : Except PyError Json) (nodeList : Except PyError NodeListConfig) :
    Except PyError TargetTable := do
  let mappingRaw ← mapping
  let nodeList ← nodeList
  let entries ← mappingEntries mappingRaw
  entries.foldlM (loadEntry pyStr enterprise site nodeList) []

/-! ## What the loop asks -/

/-- An entry that was read: its topic, and the browse path if its alias is listed. -/
structure MappingEntry where
  topic : String
  browseNames : Option (List String)
deriving DecidableEq, Repr

def readEntry (nodeList : NodeListConfig) (entry : Json) : Except PyError MappingEntry := do
  let alias' ← entry.subscript "node_id"
  let topic ← topicOf pyStr enterprise site entry
  let browseNames ← nodeList.browseOf alias'
  return ⟨topic, browseNames⟩

/-- The entries of the mapping file, when all of both files can be read. -/
def readMapping (mapping : Except PyError Json) (nodeList : Except PyError NodeListConfig) :
    Except PyError (List MappingEntry) := do
  let mappingRaw ← mapping
  let nodeList ← nodeList
  let entries ← mappingEntries mappingRaw
  entries.mapM (readEntry pyStr enterprise site nodeList)

/-- An entry as a row of the table, if its alias is listed. -/
def MappingEntry.row (nodeList : NodeListConfig) (e : MappingEntry) :
    Option (String × WriteTarget) :=
  e.browseNames.map fun names => (e.topic, targetOf nodeList names)

/-- The second entry may follow the first. -/
def MappingEntry.Follows (e f : MappingEntry) : Prop := e.browseNames.isSome → e.topic ≠ f.topic

instance (e f : MappingEntry) : Decidable (e.Follows f) :=
  inferInstanceAs (Decidable (_ → _))

variable {pyStr enterprise site} {nodeList : NodeListConfig}

/-- Its row bars the topic of a listed entry, and nothing else. -/
theorem mem_row_keys {e : MappingEntry} {topic : String} :
    topic ∈ (e.row nodeList).toList.map Prod.fst ↔ e.browseNames.isSome ∧ e.topic = topic := by
  cases hnames : e.browseNames <;> simp [MappingEntry.row, hnames, eq_comm]

/-- **One round of the loop**: the entry is read, its topic is new, and it is added if it is
listed. -/
theorem loadEntry_eq_ok {targets targets' : TargetTable} {entry : Json} :
    loadEntry pyStr enterprise site nodeList targets entry = .ok targets' ↔
      ∃ e, readEntry pyStr enterprise site nodeList entry = .ok e ∧
        e.topic ∉ targets.map Prod.fst ∧ targets' = targets ++ (e.row nodeList).toList := by
  unfold loadEntry readEntry
  constructor
  · intro h
    obtain ⟨alias', halias, h⟩ := bind_eq_ok.1 h
    obtain ⟨topic, htopic, h⟩ := bind_eq_ok.1 h
    obtain ⟨hnew, h⟩ := ite_error_eq_ok.1 h
    obtain ⟨browseNames, hbrowse, h⟩ := bind_eq_ok.1 h
    refine ⟨⟨topic, browseNames⟩, ?_, hnew, ?_⟩
    · rw [halias, htopic]
      simp only [bind, Except.bind, hbrowse]
      rfl
    · obtain rfl := Except.ok.inj h
      cases browseNames <;> simp [MappingEntry.row]
  · rintro ⟨e, hread, hnew, rfl⟩
    obtain ⟨alias', halias, h⟩ := bind_eq_ok.1 hread
    obtain ⟨topic, htopic, h⟩ := bind_eq_ok.1 h
    obtain ⟨browseNames, hbrowse, h⟩ := bind_eq_ok.1 h
    obtain rfl := Except.ok.inj h
    refine bind_eq_ok.2 ⟨alias', halias, bind_eq_ok.2 ⟨topic, htopic, ite_error_eq_ok.2 ⟨hnew,
      bind_eq_ok.2 ⟨browseNames, hbrowse, ?_⟩⟩⟩⟩
    cases browseNames <;> simp [MappingEntry.row, pure, Except.pure]

/-- **The loop**: every entry is read, no topic in the table is named, and none of a listed
entry again. -/
theorem foldlM_loadEntry_eq_ok {entries : List Json} {targets targets' : TargetTable} :
    entries.foldlM (loadEntry pyStr enterprise site nodeList) targets = .ok targets' ↔
      ∃ es, entries.mapM (readEntry pyStr enterprise site nodeList) = .ok es ∧
        (∀ e ∈ es, e.topic ∉ targets.map Prod.fst) ∧ es.Pairwise MappingEntry.Follows ∧
        targets' = targets ++ es.filterMap (MappingEntry.row nodeList) := by
  induction entries generalizing targets with
  | nil => simp [pure, Except.pure, eq_comm]
  | cons entry entries ih =>
      rw [List.foldlM_cons, bind_eq_ok]
      constructor
      · rintro ⟨table, hentry, hrest⟩
        obtain ⟨e, hread, hnew, rfl⟩ := loadEntry_eq_ok.1 hentry
        obtain ⟨es, hreads, hfresh, hfollows, rfl⟩ := ih.1 hrest
        simp only [List.map_append, List.mem_append, not_or] at hfresh
        refine ⟨e :: es, ?_, ?_, ?_, ?_⟩
        · rw [List.mapM_cons, hread]
          simp only [bind, Except.bind, hreads]
          rfl
        · rw [List.forall_mem_cons]
          exact ⟨hnew, fun f hf => (hfresh f hf).1⟩
        · refine List.pairwise_cons.2 ⟨fun f hf hlisted heq => ?_, hfollows⟩
          exact (hfresh f hf).2 (mem_row_keys.2 ⟨hlisted, heq⟩)
        · cases hrow : e.row nodeList <;> simp [hrow]
      · rintro ⟨es, hreads, hfresh, hfollows, rfl⟩
        rw [List.mapM_cons, bind_eq_ok] at hreads
        obtain ⟨e, hread, hreads⟩ := hreads
        obtain ⟨rest, hrest, hcons⟩ := bind_eq_ok.1 hreads
        obtain rfl := Except.ok.inj hcons
        rw [List.forall_mem_cons] at hfresh
        rw [List.pairwise_cons] at hfollows
        refine ⟨_, loadEntry_eq_ok.2 ⟨e, hread, hfresh.1, rfl⟩, ih.2 ⟨rest, hrest, ?_,
          hfollows.2, ?_⟩⟩
        · intro f hf
          rw [List.map_append, List.mem_append, not_or, mem_row_keys]
          exact ⟨hfresh.2 f hf, fun hlisted => hfollows.1 f hf hlisted.1 hlisted.2⟩
        · cases hrow : e.row nodeList <;> simp [hrow]

/-- **What is loaded.**  Both files are read, no topic of a listed entry is named again
later, and the table has the rows of the listed entries. -/
theorem loadWriteTargets_eq_ok {mapping : Except PyError Json}
    {nodeFile : Except PyError NodeListConfig} {targets : TargetTable} :
    loadWriteTargets pyStr enterprise site mapping nodeFile = .ok targets ↔
      ∃ nodeList es, nodeFile = .ok nodeList ∧
        readMapping pyStr enterprise site mapping nodeFile = .ok es ∧
        es.Pairwise MappingEntry.Follows ∧
        targets = es.filterMap (MappingEntry.row nodeList) := by
  unfold loadWriteTargets readMapping
  simp only [bind_eq_ok, foldlM_loadEntry_eq_ok]
  constructor
  · rintro ⟨mappingRaw, hmapping, nodeList, hnodes, entries, hentries, es, hreads, -, hfollows,
      rfl⟩
    exact ⟨nodeList, es, hnodes, ⟨mappingRaw, hmapping, nodeList, hnodes, entries, hentries,
      hreads⟩, hfollows, rfl⟩
  · rintro ⟨nodeList, es, hnodes, ⟨mappingRaw, hmapping, nodeList', hnodes', entries, hentries,
      hreads⟩, hfollows, rfl⟩
    obtain rfl := Except.ok.inj (hnodes.symm.trans hnodes')
    exact ⟨mappingRaw, hmapping, nodeList, hnodes, entries, hentries, es, hreads, by simp,
      hfollows, rfl⟩

/-! ## Bijective or refused -/

/-- The topics that the entries of the mapping file name. -/
def namedTopics (pyStr : Json → String) (enterprise site : String) (mapping : Json) :
    List String :=
  ((mappingEntries mapping).toOption.getD []).filterMap fun entry =>
    (topicOf pyStr enterprise site entry).toOption

/-- What is loaded has different nodes for different topics, and the topics that the mapping
file names are different. -/
def BijectiveOrRefused (pyStr : Json → String) (enterprise site : String)
    (mapping : Except PyError Json) (loaded : Except PyError TargetTable) : Prop :=
  ∀ targets, loaded = .ok targets →
    (∀ row ∈ targets, ∀ row' ∈ targets, row.1 ≠ row'.1 → row.2 ≠ row'.2) ∧
      ∀ mappingRaw, mapping = .ok mappingRaw →
        (namedTopics pyStr enterprise site mappingRaw).Nodup

/-- Entries that name their topics once, and different browse paths with them. -/
structure Bijective (es : List MappingEntry) : Prop where
  topics : (es.map MappingEntry.topic).Nodup
  paths : ∀ e ∈ es, ∀ f ∈ es, e.browseNames.isSome → e.browseNames = f.browseNames →
    e.topic = f.topic

/-- Of entries that were all read, the topics are those that the file names. -/
theorem namedTopics_eq {mappingRaw : Json} {entries : List Json} {es : List MappingEntry}
    (hentries : mappingEntries mappingRaw = .ok entries)
    (hreads : entries.mapM (readEntry pyStr enterprise site nodeList) = .ok es) :
    namedTopics pyStr enterprise site mappingRaw = es.map MappingEntry.topic := by
  simp only [namedTopics, hentries, Except.toOption, Option.getD_some]
  clear hentries
  replace hreads := Except.mapM_eq_ok.1 hreads
  induction hreads with
  | nil => rfl
  | cons hread _ ih =>
      obtain ⟨alias', -, h⟩ := bind_eq_ok.1 hread
      obtain ⟨topic, htopic, h⟩ := bind_eq_ok.1 h
      obtain ⟨browseNames, -, h⟩ := bind_eq_ok.1 h
      obtain rfl := Except.ok.inj h
      rw [List.filterMap_cons, htopic, List.map_cons, ← ih]

theorem topics_of_readMapping {mapping : Except PyError Json}
    {nodeFile : Except PyError NodeListConfig} {es : List MappingEntry}
    (h : readMapping pyStr enterprise site mapping nodeFile = .ok es) :
    ∃ mappingRaw, mapping = .ok mappingRaw ∧
      namedTopics pyStr enterprise site mappingRaw = es.map MappingEntry.topic := by
  unfold readMapping at h
  obtain ⟨mappingRaw, hmapping, h⟩ := bind_eq_ok.1 h
  obtain ⟨nodeList, -, h⟩ := bind_eq_ok.1 h
  obtain ⟨entries, hentries, h⟩ := bind_eq_ok.1 h
  exact ⟨mappingRaw, hmapping, namedTopics_eq hentries h⟩

/-- The rows of a table have different nodes exactly when the listed entries have different
paths. -/
theorem rows_injective_iff {es : List MappingEntry} :
    (∀ row ∈ es.filterMap (MappingEntry.row nodeList),
      ∀ row' ∈ es.filterMap (MappingEntry.row nodeList), row.1 ≠ row'.1 → row.2 ≠ row'.2) ↔
    ∀ e ∈ es, ∀ f ∈ es, e.browseNames.isSome → e.browseNames = f.browseNames →
      e.topic = f.topic := by
  have hrow {e : MappingEntry} {row : String × WriteTarget} : e.row nodeList = some row ↔
      ∃ names, e.browseNames = some names ∧ row = (e.topic, targetOf nodeList names) := by
    cases hnames : e.browseNames <;> simp [MappingEntry.row, hnames, eq_comm]
  simp only [List.mem_filterMap, hrow]
  constructor
  · intro h e he f hf hlisted hpaths
    obtain ⟨names, hnames⟩ := Option.isSome_iff_exists.1 hlisted
    by_contra hne
    exact h _ ⟨e, he, names, hnames, rfl⟩ _ ⟨f, hf, names, hpaths ▸ hnames, rfl⟩ hne rfl
  · rintro h _ ⟨e, he, names, hnames, rfl⟩ _ ⟨f, hf, names', hnames', rfl⟩ hne htargets
    have hsame : names = names' := congrArg WriteTarget.browseNames htargets
    apply hne
    exact h e he f hf (by simp [hnames]) (by rw [hnames, hnames', hsame])

/-- **When the mapping is bijective or refused.**  That is so if and only if one of the files
cannot be read, or the topic of a listed entry is named again by a later one, or all topics
are different and so are the browse paths of the listed entries. -/
theorem bijective_iff {mapping : Except PyError Json} {nodeFile : Except PyError NodeListConfig} :
    BijectiveOrRefused pyStr enterprise site mapping
        (loadWriteTargets pyStr enterprise site mapping nodeFile) ↔
      ∀ es, readMapping pyStr enterprise site mapping nodeFile = .ok es →
        ¬es.Pairwise MappingEntry.Follows ∨ Bijective es := by
  constructor
  · intro h es hreads
    rw [or_iff_not_imp_left, not_not]
    intro hfollows
    have hfiles := hreads
    unfold readMapping at hfiles
    obtain ⟨_, _, hnodeFile⟩ := bind_eq_ok.1 hfiles
    obtain ⟨nodeList, hnodes, _⟩ := bind_eq_ok.1 hnodeFile
    obtain ⟨hrows, htopics⟩ := h _ (loadWriteTargets_eq_ok.2 ⟨nodeList, es, hnodes, hreads,
      hfollows, rfl⟩)
    obtain ⟨mappingRaw, hmapping, hnamed⟩ := topics_of_readMapping hreads
    have hnodup := htopics mappingRaw hmapping
    rw [hnamed] at hnodup
    exact ⟨hnodup, rows_injective_iff.1 hrows⟩
  · intro h targets hloaded
    obtain ⟨nodeList, es, -, hreads, hfollows, rfl⟩ := loadWriteTargets_eq_ok.1 hloaded
    have hbijective := (h es hreads).resolve_left (not_not.2 hfollows)
    refine ⟨rows_injective_iff.2 hbijective.paths, ?_⟩
    intro mappingRaw hmapping
    obtain ⟨mappingRaw', hmapping', hnamed⟩ := topics_of_readMapping hreads
    obtain rfl := Except.ok.inj (hmapping.symm.trans hmapping')
    rw [hnamed]
    exact hbijective.topics

end Loading

namespace Heaters

/-! Two entries for one setpoint, of which the node list has the second only. -/

def entry (nodeId : String) : Json :=
  .obj [("node_id", .str nodeId), ("area", .str "factory1"), ("line", .str "line_a"),
    ("cell", .str "bottler"), ("equipment", .str "setpoint_unit"),
    ("measurement", .str "setpoint_temperature")]

def mapping : Json :=
  .obj [("mappings", .arr [entry "Bottler.OldSetpoint", entry "Bottler.Setpoint"])]

def nodeList : NodeListConfig where
  endpoint := "opc.tcp://opcua-simulator:4840/eirvah/simulator"
  namespaceUri := "https://eirvah.uniza/zilina/factory1"
  nodes := [⟨["bottler", "SetpointTemperature"], "Bottler.Setpoint"⟩]

def topic : String := "uniza/zilina/factory1/line_a/bottler/setpoint_unit/setpoint_temperature"

def pyStr : Json → String
  | .str s => s
  | _ => ""

theorem loaded : loadWriteTargets pyStr "uniza" "zilina" (.ok mapping) (.ok nodeList) =
    .ok [(topic, targetOf nodeList ["bottler", "SetpointTemperature"])] := by decide +kernel

end Heaters

/-- The topic is named twice and loaded all the same. -/
theorem unrefused_topic : ¬BijectiveOrRefused Heaters.pyStr "uniza" "zilina" (.ok Heaters.mapping)
    (loadWriteTargets Heaters.pyStr "uniza" "zilina" (.ok Heaters.mapping)
      (.ok Heaters.nodeList)) := by
  intro h
  have hnodup := (h _ Heaters.loaded).2 _ rfl
  exact absurd hnodup (by decide +kernel)

end EirvahEdge.Writer
