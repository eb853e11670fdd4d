import EirvahEdge.Contracts.Patterns
import EirvahEdge.Contracts.Uns

/-!
# Topics and paths

`parse_uns_topic` splits a topic at every `/`, wants seven segments that match the pattern, and
constructs a `UNSPath`, whose fields are checked once more and by the other library.  Only there
a segment can be too long.  A topic is read as a path exactly when it is what `build_uns_topic`
writes for it (`parseUnsTopic_eq_ok`).
-/

namespace EirvahEdge.Contracts

open EirvahEdge.Lib

/-! ## The model -/

/-- A text that the constraints of a `UNSSegment` accept. -/
abbrev UNSSegment := {value : String // unsSegment.accepts value = true}

/-- `_LEVELS`. -/
def levels : List String :=
  ["enterprise", "site", "area", "line", "cell", "equipment", "measurement"]

/-- A field of type `UNSSegment`. -/
def UNSSegment.read (fields : List (String × String)) (level : String) :
    Except PyError UNSSegment :=
  match fields.lookup level with
  | none => .error (Json.validationError level)
  | some value =>
      if h : unsSegment.accepts value = true then .ok ⟨value, h⟩
      else .error (Json.validationError level)

theorem UNSSegment.read_eq_ok {fields : List (String × String)} {level : String}
    {segment : UNSSegment} :
    UNSSegment.read fields level = .ok segment ↔ fields.lookup level = some segment.1 := by
  obtain ⟨value, hvalue⟩ := segment
  cases h : fields.lookup level with
  | none => simp [UNSSegment.read, h]
  | some other =>
      simp only [UNSSegment.read, h, Option.some.injEq]
      constructor
      · intro hread
        split_ifs at hread
        cases hread
        rfl
      · rintro rfl
        rw [dif_pos hvalue]

/-- The segments of a path by level. -/
def UNSPath.segments (path : UNSPath) : List String :=
  [path.enterprise, path.site, path.area, path.line, path.cell, path.equipment,
    path.measurement]

theorem UNSPath.exists_segments {segments : List String} (hlength : segments.length = 7)
    (hvalid : ∀ s ∈ segments, isSegment s.toList = true) :
    ∃ path : UNSPath, path.segments = segments := by
  obtain ⟨enterprise, segments, rfl, hsix⟩ := List.length_eq_succ_iff.1 hlength
  obtain ⟨site, segments, rfl, hfive⟩ := List.length_eq_succ_iff.1 hsix
  obtain ⟨area, segments, rfl, hfour⟩ := List.length_eq_succ_iff.1 hfive
  obtain ⟨line, cell, equipment, measurement, rfl⟩ := List.length_eq_four.1 hfour
  exact ⟨⟨enterprise, site, area, line, cell, equipment, measurement, hvalid⟩, rfl⟩

theorem UNSSegment.isSegment_of_mem (segments : List UNSSegment) :
    ∀ s ∈ segments.map Subtype.val, isSegment s.toList = true := by
  rw [List.forall_mem_map]
  intro segment _
  rw [← unsSegment_accepts]
  exact segment.2

/-- A path of seven segments. -/
def UNSPath.ofSegments (enterprise site area line cell equipment measurement : UNSSegment) :
    UNSPath :=
  ⟨enterprise.1, site.1, area.1, line.1, cell.1, equipment.1, measurement.1,
    UNSSegment.isSegment_of_mem
      [enterprise, site, area, line, cell, equipment, measurement]⟩

/-- `UNSPath(**fields)`; other keywords are ignored. -/
def UNSPath.ofKeywords (fields : List (String × String)) : Except PyError UNSPath := do
  let enterprise ← UNSSegment.read fields "enterprise"
  let site ← UNSSegment.read fields "site"
  let area ← UNSSegment.read fields "area"
  let line ← UNSSegment.read fields "line"
  let cell ← UNSSegment.read fields "cell"
  let equipment ← UNSSegment.read fields "equipment"
  let measurement ← UNSSegment.read fields "measurement"
  .ok (UNSPath.ofSegments enterprise site area line cell equipment measurement)

theorem UNSPath.segment_accepted (path : UNSPath) :
    ∀ s ∈ path.segments, unsSegment.accepts s = true := fun s hs =>
  (unsSegment_accepts s).trans (path.segments_valid s hs)

/-- The fields are those of the path, level by level. -/
theorem UNSPath.ofKeywords_eq_ok {fields : List (String × String)} {path : UNSPath} :
    ofKeywords fields = .ok path ↔
      ∀ f ∈ levels.zip path.segments, fields.lookup f.1 = some f.2 := by
  constructor
  · intro h
    obtain ⟨enterprise, henterprise, h⟩ := bind_eq_ok.1 h
    obtain ⟨site, hsite, h⟩ := bind_eq_ok.1 h
    obtain ⟨area, harea, h⟩ := bind_eq_ok.1 h
    obtain ⟨line, hline, h⟩ := bind_eq_ok.1 h
    obtain ⟨cell, hcell, h⟩ := bind_eq_ok.1 h
    obtain ⟨equipment, hequipment, h⟩ := bind_eq_ok.1 h
    obtain ⟨measurement, hmeasurement, h⟩ := bind_eq_ok.1 h
    cases h
    simp only [UNSSegment.read_eq_ok] at *
    simp only [levels, segments, ofSegments, List.zip_cons_cons, List.zip_nil_left,
      List.forall_mem_cons, List.not_mem_nil, false_imp_iff, implies_true, and_true]
    exact ⟨henterprise, hsite, harea, hline, hcell, hequipment, hmeasurement⟩
  · intro h
    have hvalid := path.segment_accepted
    simp only [levels, segments, List.zip_cons_cons, List.zip_nil_left, List.forall_mem_cons,
      List.not_mem_nil, false_imp_iff, implies_true, and_true] at h hvalid
    obtain ⟨henterprise, hsite, harea, hline, hcell, hequipment, hmeasurement⟩ := h
    obtain ⟨venterprise, vsite, varea, vline, vcell, vequipment, vmeasurement⟩ := hvalid
    simp only [ofKeywords, bind_eq_ok]
    exact ⟨⟨_, venterprise⟩, UNSSegment.read_eq_ok.2 henterprise,
      ⟨_, vsite⟩, UNSSegment.read_eq_ok.2 hsite, ⟨_, varea⟩, UNSSegment.read_eq_ok.2 harea,
      ⟨_, vline⟩, UNSSegment.read_eq_ok.2 hline, ⟨_, vcell⟩, UNSSegment.read_eq_ok.2 hcell,
      ⟨_, vequipment⟩, UNSSegment.read_eq_ok.2 hequipment,
      ⟨_, vmeasurement⟩, UNSSegment.read_eq_ok.2 hmeasurement, rfl⟩

theorem UNSPath.create_eq_ok {enterprise site area line cell equipment measurement : String}
    {path : UNSPath} :
    create enterprise site area line cell equipment measurement = .ok path ↔
      path.segments = [enterprise, site, area, line, cell, equipment, measurement] := by
  constructor
  · intro h
    unfold create at h
    split_ifs at h
    cases h
    rfl
  · intro h
    simp only [segments, List.cons.injEq, and_true] at h
    obtain ⟨rfl, rfl, rfl, rfl, rfl, rfl, rfl⟩ := h
    exact path.create_self

theorem UNSPath.parse_eq_ok {fields : List (String × Json)} {path : UNSPath} :
    parse (.obj fields) = .ok path ↔
      ∀ f ∈ levels.zip path.segments, Json.member fields f.1 = some (.str f.2) := by
  simp only [parse, bind_eq_ok, Json.readStr_eq_ok, create_eq_ok, segments, levels,
    List.zip_cons_cons, List.zip_nil_left, List.forall_mem_cons, List.not_mem_nil,
    false_imp_iff, implies_true, and_true, List.cons.injEq]
  constructor
  · rintro ⟨_, henterprise, _, hsite, _, harea, _, hline, _, hcell, _, hequipment, _,
      hmeasurement, rfl, rfl, rfl, rfl, rfl, rfl, rfl⟩
    exact ⟨henterprise, hsite, harea, hline, hcell, hequipment, hmeasurement⟩
  · rintro ⟨henterprise, hsite, harea, hline, hcell, hequipment, hmeasurement⟩
    exact ⟨_, henterprise, _, hsite, _, harea, _, hline, _, hcell, _, hequipment, _,
      hmeasurement, rfl, rfl, rfl, rfl, rfl, rfl, rfl⟩

/-- Keywords are read as the members of a mapping are. -/
theorem UNSPath.ofKeywords_eq_parse {fields : List (String × String)} {path : UNSPath} :
    ofKeywords fields = .ok path ↔
      parse (.obj (fields.map fun f => (f.1, .str f.2))) = .ok path := by
  have hmember (level : String) :
      Json.member (fields.map fun f => (f.1, Json.str f.2)) level =
        (fields.lookup level).map Json.str := by
    induction fields with
    | nil => rfl
    | cons f fields ih =>
        obtain ⟨name, value⟩ := f
        by_cases hname : level = name
        · subst hname
          simp [Json.member]
        · rw [List.lookup_cons, beq_false_of_ne hname, ← ih]
          simp [Json.member, beq_false_of_ne (Ne.symm hname)]
  simp only [ofKeywords_eq_ok, parse_eq_ok, hmember, Option.map_eq_some_iff, Json.str.injEq,
    exists_eq_right]

/-! ## Splitting and joining -/

/-- `topic.split("/")`. -/
def topicSegments (topic : String) : List String :=
  (topic.toList.splitOn '/').map String.ofList

theorem intercalate_topicSegments (topic : String) :
    "/".intercalate (topicSegments topic) = topic := by
  rw [← String.toList_inj, String.toList_intercalate, topicSegments, List.map_map]
  simp only [Function.comp_def, String.toList_ofList, List.map_id']
  exact List.intercalate_splitOn '/'

theorem topicSegments_intercalate {segments : List String} (hne : segments ≠ [])
    (h : ∀ s ∈ segments, '/' ∉ s.toList) :
    topicSegments ("/".intercalate segments) = segments := by
  have hsplit : ("/".toList.intercalate (segments.map String.toList)).splitOn '/' =
      segments.map String.toList :=
    List.splitOn_intercalate '/' (List.forall_mem_map.2 h) (by simpa using hne)
  rw [topicSegments, String.toList_intercalate, hsplit, List.map_map]
  simp only [Function.comp_def, String.ofList_toList, List.map_id']

/-- The values under different keys are looked up in their order. -/
theorem forall_lookup_zip_iff {keys : List String} (hnodup : keys.Nodup) {as bs : List String}
    (has : as.length = keys.length) (hbs : bs.length = keys.length) :
    (∀ f ∈ keys.zip as, (keys.zip bs).lookup f.1 = some f.2) ↔ as = bs := by
  induction keys generalizing as bs with
  | nil =>
      rw [List.length_nil, List.length_eq_zero_iff] at has hbs
      simp [has, hbs]
  | cons k keys ih =>
      obtain ⟨a, as, rfl⟩ := List.exists_of_length_succ as has
      obtain ⟨b, bs, rfl⟩ := List.exists_of_length_succ bs hbs
      obtain ⟨hk, hnodup⟩ := List.nodup_cons.1 hnodup
      have hrest : (∀ f ∈ keys.zip as, ((k, b) :: keys.zip bs).lookup f.1 = some f.2) ↔
          ∀ f ∈ keys.zip as, (keys.zip bs).lookup f.1 = some f.2 := by
        refine forall₂_congr fun f hf => ?_
        have hne : f.1 ≠ k := fun h => hk (h ▸ (List.of_mem_zip hf).1)
        rw [List.lookup_cons, beq_false_of_ne hne]
      rw [List.zip_cons_cons, List.zip_cons_cons, List.forall_mem_cons, hrest,
        ih hnodup (Nat.succ.inj has) (Nat.succ.inj hbs), List.lookup_cons_self,
        Option.some.injEq, List.cons.injEq]
      exact and_congr_left fun _ => eq_comm

theorem UNSPath.ofKeywords_levels {segments : List String} {path : UNSPath}
    (h : segments.length = levels.length) :
    ofKeywords (levels.zip segments) = .ok path ↔ path.segments = segments :=
  ofKeywords_eq_ok.trans (forall_lookup_zip_iff (by decide) rfl h)

/-! ## `parse_uns_topic` -/

variable (repr : String → String)

/-- `repr` is the text of `{topic!r}`. -/
def parseUnsTopic (topic : String) : Except PyError UNSPath :=
  let segments := topicSegments topic
  if segments.length ≠ levels.length then
    .error (valueError (s!"UNS topic must have exactly {levels.length} segments; " ++
      s!"got {segments.length}: {repr topic}"))
  else if segments.any fun segment => !isSegmentText segment then
    .error (valueError s!"UNS topic contains an invalid segment: {repr topic}")
  else UNSPath.ofKeywords (levels.zip segments)

variable {repr} {topic : String} {path : UNSPath}

theorem slash_notMem_of_isSegmentText {value : String} (h : isSegmentText value = true) :
    '/' ∉ value.toList := fun hmem =>
  absurd ((isSegmentText_iff.1 h).2 '/' hmem) (by decide)

theorem UNSPath.isSegmentText_of_mem (path : UNSPath) :
    ∀ s ∈ path.segments, isSegmentText s = true := fun s hs =>
  (unsSegment_accepts_iff.1 (path.segment_accepted s hs)).1

theorem topicSegments_buildUnsTopic (path : UNSPath) :
    topicSegments (buildUnsTopic path) = path.segments :=
  topicSegments_intercalate (List.cons_ne_nil _ _) fun s hs =>
    slash_notMem_of_isSegmentText (path.isSegmentText_of_mem s hs)

/-- A topic is read as a path exactly when it is written for that path. -/
theorem parseUnsTopic_eq_ok :
    parseUnsTopic repr topic = .ok path ↔ buildUnsTopic path = topic := by
  rw [parseUnsTopic]
  constructor
  · intro h
    obtain ⟨hlength, h⟩ := ite_error_eq_ok.1 h
    obtain ⟨-, h⟩ := ite_error_eq_ok.1 h
    have hsegments := (UNSPath.ofKeywords_levels (not_not.1 hlength)).1 h
    calc buildUnsTopic path = "/".intercalate path.segments := rfl
      _ = "/".intercalate (topicSegments topic) := by rw [hsegments]
      _ = topic := intercalate_topicSegments topic
  · rintro rfl
    have hlength : path.segments.length = levels.length := rfl
    have hmatch : ¬(path.segments.any fun segment => !isSegmentText segment) = true := by
      simpa using path.isSegmentText_of_mem
    rw [topicSegments_buildUnsTopic]
    exact ite_error_eq_ok.2 ⟨not_not.2 hlength,
      ite_error_eq_ok.2 ⟨hmatch, (UNSPath.ofKeywords_levels hlength).2 rfl⟩⟩

/-- What is keyed by the topic of a path is keyed by the path. -/
theorem buildUnsTopic_injective : Function.Injective buildUnsTopic := by
  intro path path' h
  have hread : parseUnsTopic id (buildUnsTopic path') = .ok path := parseUnsTopic_eq_ok.2 h
  have hread' : parseUnsTopic id (buildUnsTopic path') = .ok path' := parseUnsTopic_eq_ok.2 rfl
  exact Except.ok.inj (hread.symm.trans hread')

theorem isUnsTopic_iff_segments :
    isUnsTopic topic = true ↔ (topicSegments topic).length = 7 ∧
      ∀ s ∈ topicSegments topic, isSegment s.toList = true := by
  simp only [isUnsTopic, topicSegments, Bool.and_eq_true, beq_iff_eq, List.all_eq_true,
    List.length_map, List.forall_mem_map, String.toList_ofList]

/-- What the other contracts check of a topic is that it can be read. -/
theorem isUnsTopic_iff :
    isUnsTopic topic = true ↔ ∃ path, parseUnsTopic repr topic = .ok path := by
  simp only [parseUnsTopic_eq_ok, isUnsTopic_iff_segments]
  constructor
  · rintro ⟨hlength, hvalid⟩
    obtain ⟨path, hpath⟩ := UNSPath.exists_segments hlength hvalid
    refine ⟨path, ?_⟩
    rw [← intercalate_topicSegments topic, ← hpath]
    rfl
  · rintro ⟨path, rfl⟩
    rw [topicSegments_buildUnsTopic]
    exact ⟨rfl, path.segments_valid⟩

/-! ## The grammar -/

namespace UnsGrammar

/-- One to 128 characters of `[a-z0-9_]`. -/
structure Segment (s : String) : Prop where
  nonempty : 1 ≤ s.length
  short : s.length ≤ 128
  chars : ∀ c ∈ s.toList, ('a' ≤ c ∧ c ≤ 'z') ∨ ('0' ≤ c ∧ c ≤ '9') ∨ c = '_'

/-- Seven segments joined by `/`. -/
def Topic (topic : String) : Prop :=
  ∃ segments : List String, segments.length = 7 ∧ (∀ s ∈ segments, Segment s) ∧
    topic = "/".intercalate segments

theorem segment_iff {s : String} : Segment s ↔ isSegment s.toList = true := by
  simp only [isSegment, isSegmentChar, Bool.and_eq_true, Bool.or_eq_true, Bool.not_eq_true',
    List.isEmpty_eq_false_iff, List.all_eq_true, decide_eq_true_eq, beq_iff_eq,
    String.length_toList, or_assoc]
  rw [← List.length_pos_iff, String.length_toList]
  exact ⟨fun h => ⟨⟨h.nonempty, h.chars⟩, h.short⟩, fun h => ⟨h.1.1, h.2, h.1.2⟩⟩

/-- The topics of the grammar are those that are written for a path. -/
theorem topic_iff : Topic topic ↔ ∃ path, buildUnsTopic path = topic := by
  constructor
  · rintro ⟨segments, hlength, hsegments, rfl⟩
    obtain ⟨path, rfl⟩ := UNSPath.exists_segments hlength fun s hs =>
      segment_iff.1 (hsegments s hs)
    exact ⟨path, rfl⟩
  · rintro ⟨path, rfl⟩
    exact ⟨path.segments, rfl, fun s hs => segment_iff.2 (path.segments_valid s hs), rfl⟩

end UnsGrammar

/-- `parse_uns_topic` reads the topics of the grammar and no other text; what it reads is
written as it was, and a path that was written is read back. -/
theorem parseUnsTopic_grammar (repr : String → String) (topic : String) :
    ((∃ path, parseUnsTopic repr topic = .ok path) ↔ UnsGrammar.Topic topic) ∧
      (∀ path, parseUnsTopic repr topic = .ok path → buildUnsTopic path = topic) ∧
      ∀ path, parseUnsTopic repr (buildUnsTopic path) = .ok path := by
  refine ⟨?_, fun path => parseUnsTopic_eq_ok.1, fun path => parseUnsTopic_eq_ok.2 rfl⟩
  simp only [parseUnsTopic_eq_ok]
  exact UnsGrammar.topic_iff.symm

/-- A topic of the grammar is read and written back. -/
theorem parseUnsTopic_grammar_sample :
    ∃ path, parseUnsTopic id "uniza/zilina/factory1/line_a/bottler/motor_01/rpm" = .ok path ∧
      buildUnsTopic path = "uniza/zilina/factory1/line_a/bottler/motor_01/rpm" := by
  have hsegments : UnsGrammar.Topic "uniza/zilina/factory1/line_a/bottler/motor_01/rpm" :=
    ⟨["uniza", "zilina", "factory1", "line_a", "bottler", "motor_01", "rpm"], rfl, by
      simp only [UnsGrammar.segment_iff]
      decide, by decide⟩
  obtain ⟨hread, hwritten, -⟩ :=
    parseUnsTopic_grammar id "uniza/zilina/factory1/line_a/bottler/motor_01/rpm"
  obtain ⟨path, hpath⟩ := hread.2 hsegments
  exact ⟨path, hpath, hwritten path hpath⟩

end EirvahEdge.Contracts
