import EirvahEdge.Contracts.Python
import EirvahEdge.Experiment.Quantile
import EirvahEdge.Lib.Dict
import EirvahEdge.Lib.Except
import Mathlib.Data.Prod.Lex
import Mathlib.Data.String.Basic

/-!
# Statistics of scraped series

`summarize` groups the scraped rows by metric and labels, reports the increase of each
counter and, for a histogram, percentiles over the timestamps that all its series share.  The
arithmetic is exact.

The bucket series of a histogram are filed under their bound, so of two series whose `le`
labels are the same number the one that sorts first is replaced, and nothing is checked of
it.  `percentiles_iff` says that the percentiles which are reported rest on series that do
not decrease, and on a count that equals the unbounded bucket, exactly when this holds of
the series that were replaced.  `summarize_perm` says that the order of the rows leaves no
trace.
-/

namespace EirvahEdge.Experiment

open EirvahEdge.Lib
open EirvahEdge.Contracts

/-! ## Rows and series -/

/-- `Row`. -/
structure Row where
  timestamp : ℚ
  metric : String
  labels : String
  value : ℚ
deriving DecidableEq, Repr

/-- A metric with the text of its labels. -/
abbrev SeriesKey := Lex (String × String)

/-- The values of a series by timestamp. -/
abbrev Samples := Dict ℚ ℚ

abbrev Series := Dict SeriesKey Samples

/-- The bucket series of each histogram by their bounds. -/
abbrev Histograms := Dict SeriesKey (Dict Bound Samples)

def Row.key (row : Row) : SeriesKey := toLex (row.metric, row.labels)

/-- `series[metric, labels][timestamp] = value`. -/
def addRow (series : Series) (row : Row) : Series :=
  series.set row.key (((series.get row.key).getD .empty).set row.timestamp row.value)

def seriesOf (rows : List Row) : Series := rows.foldl addRow .empty

/-! ## Increases -/

/-- `itertools.pairwise`. -/
def pairwise {α : Type} (xs : List α) : List (α × α) := xs.zip xs.tail

/-- `_increase`. -/
def increase (samples : List (ℚ × ℚ)) : Option ℚ × String :=
  match samples.head?, samples.getLast? with
  | some first, some last =>
      if samples.length < 2 ∨ last.1 ≤ first.1 then (none, "insufficient distinct samples")
      else if (pairwise samples).any fun s => s.2.2 < s.1.2 then
        (none, "counter reset observed; increase unknown")
      else
        (some (last.2 - first.2),
          "observed window only; unseen resets/increments not recoverable")
  | _, _ => (none, "insufficient distinct samples")

/-! ## Labels -/

/-- Reading and writing the texts of labels: `json.loads`, `json.dumps` with sorted names,
and `float`. -/
structure LabelText where
  loads : String → Except PyError Json
  dumps : Json → String
  float : Json → Except PyError Bound

def endsWith (s suffix : String) : Bool := suffix.toList.isSuffixOf s.toList

/-- `s.removesuffix(suffix)`. -/
def removeSuffix (s suffix : String) : String :=
  if endsWith s suffix then String.ofList (s.toList.take (s.toList.length - suffix.toList.length))
  else s

/-- `tags.pop("le")`, with what is left. -/
def popLe (tags : Json) : Except PyError (Json × Json) :=
  match tags with
  | .obj fields => do
      let le ← Json.item fields "le"
      .ok (le, .obj (fields.filter fun f => f.1 != "le"))
  | .arr _ => .error (Json.typeError "'str' object cannot be interpreted as an integer")
  | _ => .error ⟨.other "AttributeError", "object has no attribute 'pop'"⟩

/-- The histogram that a bucket series belongs to, and its bound. -/
def LabelText.bucketOf (T : LabelText) (key : SeriesKey) : Except PyError (SeriesKey × Bound) := do
  let tags ← T.loads (ofLex key).2
  let (le, rest) ← popLe tags
  let bound ← T.float le
  .ok (toLex (removeSuffix (ofLex key).1 "_bucket", T.dumps rest), bound)

/-- `histograms[key][bound] = samples`. -/
def addBucket (histograms : Histograms) (key : SeriesKey) (bound : Bound) (samples : Samples) :
    Histograms :=
  histograms.set key (((histograms.get key).getD .empty).set bound samples)

/-! ## The rows of the summary -/

inductive Statistics where
  | counter (increase ratePerSecond : Option ℚ) (limitation : String)
  | gauge (sampleMean minimum maximum : ℚ) (limitation : String)
deriving DecidableEq, Repr

structure SeriesSummary where
  metric : String
  labels : String
  samples : ℕ
  windowStart : ℚ
  windowEnd : ℚ
  elapsedSeconds : ℚ
  statistics : Statistics
deriving DecidableEq, Repr

structure HistogramSummary where
  metric : String
  labels : String
  observations : Option ℚ := none
  meanSeconds : Option ℚ := none
  p50Seconds : Percentile := .unknown
  p95Seconds : Percentile := .unknown
  p99Seconds : Percentile := .unknown
  /-- `window_start` and `window_end`; `elapsed_seconds` is their difference. -/
  window : Option (ℚ × ℚ) := none
  limitation : String
deriving DecidableEq, Repr

inductive Summary where
  | series (row : SeriesSummary)
  | histogram (row : HistogramSummary)
deriving DecidableEq, Repr

/-- What is reported of the samples of a series between its first and its last. -/
def statistics (metric : String) (samples : List (ℚ × ℚ)) (first last : ℚ × ℚ) : Statistics :=
  if ["_total", "_sum", "_count", "_bucket"].any (endsWith metric) then
    let (delta, limitation) := increase samples
    .counter delta (delta.map (· / (last.1 - first.1))) limitation
  else
    let observed := samples.map Prod.snd
    .gauge (observed.sum / observed.length) (observed.foldl min first.2)
      (observed.foldl max first.2) "sample statistics, not a time-weighted mean"

/-- One turn of the loop over the series. -/
def summarizeSeries (T : LabelText) (state : Histograms × List Summary)
    (item : SeriesKey × Samples) : Except PyError (Histograms × List Summary) := do
  let metric := (ofLex item.1).1
  let samples := item.2.items
  match samples.head?, samples.getLast? with
  | some first, some last =>
      let row : SeriesSummary :=
        { metric
          labels := (ofLex item.1).2
          samples := samples.length
          windowStart := first.1
          windowEnd := last.1
          elapsedSeconds := last.1 - first.1
          statistics := statistics metric samples first last }
      if endsWith metric "_bucket" then do
        let (key, bound) ← T.bucketOf item.1
        .ok (addBucket state.1 key bound item.2, state.2 ++ [.series row])
      else .ok (state.1, state.2 ++ [.series row])
  | _, _ => .error ⟨.other "IndexError", "list index out of range"⟩

/-- The series of a histogram. -/
def members (buckets : Dict Bound Samples) (count sum : Samples) : List Samples :=
  buckets.items.map Prod.snd ++ [count, sum]

/-- The timestamps that all members have, in their order. -/
def common : List Samples → List ℚ
  | [] => []
  | first :: rest =>
      (first.items.map Prod.fst).filter fun t => rest.all fun member => (member.get t).isSome

/-- The samples of a member from `start` to `finish`. -/
def within (start finish : ℚ) (member : Samples) : List (ℚ × ℚ) :=
  member.items.filter fun s => start ≤ s.1 ∧ s.1 ≤ finish

/-- `samples[timestamp]`. -/
def sampleAt (samples : Samples) (timestamp : ℚ) : Except PyError ℚ :=
  match samples.get timestamp with
  | some value => .ok value
  | none => .error ⟨.other "KeyError", "timestamp"⟩

/-- `samples[end] - samples[start]`. -/
def difference (start finish : ℚ) (samples : Samples) : Except PyError ℚ := do
  let last ← sampleAt samples finish
  let first ← sampleAt samples start
  .ok (last - first)

/-- The buckets over the aligned window; their bounds are in order already. -/
def alignedBuckets (start finish : ℚ) (buckets : Dict Bound Samples) :
    Except PyError (List (Bound × ℚ)) :=
  buckets.items.mapM fun b => do
    let count ← difference start finish b.2
    .ok (b.1, count)

/-- Buckets that cannot be those of `observations` observations. -/
def inconsistent (buckets : List (Bound × ℚ)) (observations last : ℚ) : Bool :=
  observations ≠ last || buckets.any (fun b => b.2 < 0) ||
    (pairwise buckets).any fun b => b.2.2 < b.1.2

/-- A histogram whose series are sound over the aligned window. -/
def reportHistogram (key : SeriesKey) (start finish observations : ℚ) (sum : Samples)
    (buckets : List (Bound × ℚ)) : Except PyError HistogramSummary := do
  let total ← difference start finish sum
  let p50 ← quantile buckets (50 / 100)
  let p95 ← quantile buckets (95 / 100)
  let p99 ← quantile buckets (99 / 100)
  .ok
    { metric := (ofLex key).1
      labels := (ofLex key).2
      observations := some observations
      meanSeconds := if observations = 0 then none else some (total / observations)
      p50Seconds := p50
      p95Seconds := p95
      p99Seconds := p99
      window := some (start, finish)
      limitation :=
        "approximate bucket-interpolated per-label percentiles over observed window; " ++
          "no pooled replica percentile; blank tails exceed finite buckets or have no observations" }

/-- The series of a histogram that has the suffix. -/
def companion (series : Series) (key : SeriesKey) (suffix : String) : Samples :=
  (series.get (toLex ((ofLex key).1 ++ suffix, (ofLex key).2))).getD .empty

/-- A histogram without percentiles. -/
def withoutPercentiles (key : SeriesKey) (limitation : String) : HistogramSummary where
  metric := (ofLex key).1
  labels := (ofLex key).2
  limitation

/-- What is reported of a histogram once its window is known. -/
def summarizeWindow (key : SeriesKey) (buckets : Dict Bound Samples) (count sum : Samples)
    (start finish : ℚ) : Except PyError HistogramSummary :=
  if (members buckets count sum).any fun m => (increase (within start finish m)).1.isNone then
    .ok (withoutPercentiles key
      "histogram reset or insufficient evidence; percentiles unknown")
  else do
    let aligned ← alignedBuckets start finish buckets
    let observations ← difference start finish count
    match aligned.getLast? with
    | none => .error ⟨.other "IndexError", "list index out of range"⟩
    | some last =>
        if inconsistent aligned observations last.2 then
          .ok (withoutPercentiles key "inconsistent histogram; percentiles unknown")
        else reportHistogram key start finish observations sum aligned

/-- One turn of the loop over the histograms. -/
def summarizeHistogram (series : Series) (item : SeriesKey × Dict Bound Samples) :
    Except PyError HistogramSummary :=
  let count := companion series item.1 "_count"
  let sum := companion series item.1 "_sum"
  let shared := common (members item.2 count sum)
  match shared.head?, shared.getLast? with
  | some start, some finish =>
      if shared.length < 2 ∨ item.2.get .posInf = none then
        .ok (withoutPercentiles item.1
          "incomplete histogram or fewer than two aligned snapshots")
      else summarizeWindow item.1 item.2 count sum start finish
  | _, _ =>
      .ok (withoutPercentiles item.1 "incomplete histogram or fewer than two aligned snapshots")

/-- The loop over the histograms. -/
def summarizeHistograms (series : Series) (histograms : Histograms) :
    Except PyError (List HistogramSummary) :=
  histograms.items.mapM (summarizeHistogram series)

/-- `summarize`. -/
def summarize (T : LabelText) (rows : List Row) : Except PyError (List Summary) := do
  let series := seriesOf rows
  let state ← series.items.foldlM (summarizeSeries T) (Dict.empty, [])
  let histograms ← summarizeHistograms series state.1
  .ok (state.2 ++ histograms.map .histogram)

/-! ## The order of the rows -/

/-- No timestamp of a series comes with two values. -/
def Unambiguous (rows : List Row) : Prop :=
  ∀ r ∈ rows, ∀ r' ∈ rows, r.metric = r'.metric → r.labels = r'.labels →
    r.timestamp = r'.timestamp → r.value = r'.value

theorem addRow_comm {r r' : Row}
    (h : r.metric = r'.metric → r.labels = r'.labels → r.timestamp = r'.timestamp →
      r.value = r'.value) (series : Series) :
    addRow (addRow series r) r' = addRow (addRow series r') r := by
  by_cases hkey : r.key = r'.key
  · obtain ⟨hmetric, hlabels⟩ : r.metric = r'.metric ∧ r.labels = r'.labels :=
      Prod.mk.inj hkey
    simp only [addRow, hkey, Dict.get_set_self, Dict.set_set, Option.getD_some]
    congr 1
    by_cases htime : r.timestamp = r'.timestamp
    · rw [htime, h hmetric hlabels htime]
    · exact Dict.set_comm _ htime _ _
  · simp only [addRow]
    rw [Dict.get_set_of_ne _ (Ne.symm hkey), Dict.get_set_of_ne _ hkey]
    exact Dict.set_comm _ hkey _ _

/-- Rows in another order give the same summary. -/
theorem summarize_perm (T : LabelText) {rows rows' : List Row} (hperm : rows.Perm rows')
    (h : Unambiguous rows) : summarize T rows = summarize T rows' := by
  have hseries : seriesOf rows = seriesOf rows' :=
    hperm.foldl_eq' (fun r hr r' hr' series => addRow_comm (h r hr r' hr') series) _
  rw [summarize, summarize, hseries]

/-! ## Series that do not decrease -/

/-- The samples do not decrease from `start` to `finish`. -/
def NonDecreasing (start finish : ℚ) (samples : Samples) : Prop :=
  ∀ t u x y, start ≤ t → t ≤ u → u ≤ finish → samples.get t = some x → samples.get u = some y →
    x ≤ y

theorem values_of_pairwise {samples : List (ℚ × ℚ)}
    (h : ((pairwise samples).any fun s => s.2.2 < s.1.2) = false) :
    samples.Pairwise fun a b => a.2 ≤ b.2 := by
  have hchain : (samples.map Prod.snd).IsChain (· ≤ ·) := by
    induction samples with
    | nil => exact List.IsChain.nil
    | cons a rest ih =>
        cases rest with
        | nil => exact List.IsChain.singleton _
        | cons b rest =>
            simp only [pairwise, List.tail_cons, List.zip_cons_cons, List.any_cons,
              Bool.or_eq_false_iff, decide_eq_false_iff_not, not_lt] at h
            exact List.isChain_cons_cons.2 ⟨h.1, ih h.2⟩
  exact List.pairwise_map.1 (List.isChain_iff_pairwise.1 hchain)

/-- A series has an increase over the window only when it does not decrease there. -/
theorem nonDecreasing_of_increase {start finish : ℚ} {samples : Samples}
    (h : (increase (within start finish samples)).1.isNone = false) :
    NonDecreasing start finish samples := by
  have hvalues : (within start finish samples).Pairwise fun a b => a.2 ≤ b.2 := by
    unfold increase at h
    split at h
    · split_ifs at h with hfew hreset
      · exact absurd h (by simp)
      · exact absurd h (by simp)
      · exact values_of_pairwise (by simpa using hreset)
    · exact absurd h (by simp)
  have htimes : (within start finish samples).Pairwise fun a b => a.1 < b.1 :=
    (List.pairwise_map.1 samples.sorted).filter _
  intro t u x y hstart htu hfinish hx hy
  have hmem : ∀ v z, start ≤ v → v ≤ finish → samples.get v = some z →
      (v, z) ∈ within start finish samples := fun v z hv hv' hz =>
    List.mem_filter.2 ⟨Dict.mem_items.2 hz, by simp [hv, hv']⟩
  obtain ⟨i, hi, hxi⟩ := List.getElem_of_mem (hmem t x hstart (htu.trans hfinish) hx)
  obtain ⟨j, hj, hyj⟩ := List.getElem_of_mem (hmem u y (hstart.trans htu) hfinish hy)
  rcases lt_trichotomy i j with hij | rfl | hji
  · have := List.pairwise_iff_getElem.1 hvalues i j hi hj hij
    rwa [hxi, hyj] at this
  · exact (congrArg Prod.snd (hxi.symm.trans hyj)).le
  · have := List.pairwise_iff_getElem.1 htimes j i hj hi hji
    rw [hxi, hyj] at this
    exact absurd this (not_lt.2 htu)

/-! ## What a reported histogram rests on -/

/-- Some percentile of the histogram is reported. -/
def HistogramSummary.reports (row : HistogramSummary) : Prop :=
  row.p50Seconds ≠ .unknown ∨ row.p95Seconds ≠ .unknown ∨ row.p99Seconds ≠ .unknown

instance (row : HistogramSummary) : Decidable row.reports :=
  inferInstanceAs (Decidable (_ ∨ _ ∨ _))

theorem not_reports_withoutPercentiles (key : SeriesKey) (limitation : String) :
    ¬(withoutPercentiles key limitation).reports := by
  rintro (h | h | h) <;> exact h rfl

/-- Both series are sampled at the ends of the window and increase by the same amount. -/
def SameIncrease (start finish : ℚ) (a b : Samples) : Prop :=
  ∃ x y x' y', a.get start = some x ∧ a.get finish = some y ∧ b.get start = some x' ∧
    b.get finish = some y' ∧ y - x = y' - x'

theorem difference_eq_ok {start finish d : ℚ} {samples : Samples}
    (h : difference start finish samples = .ok d) :
    ∃ x y, samples.get start = some x ∧ samples.get finish = some y ∧ y - x = d := by
  unfold difference sampleAt at h
  cases hy : samples.get finish with
  | none => simp [hy, bind, Except.bind] at h
  | some y =>
      cases hx : samples.get start with
      | none => simp [hx, hy, bind, Except.bind] at h
      | some x =>
          refine ⟨x, y, rfl, rfl, ?_⟩
          simpa [hx, hy, bind, Except.bind] using h

theorem alignedBuckets_last {start finish : ℚ} {buckets : Dict Bound Samples}
    {aligned : List (Bound × ℚ)} {last : Bound × ℚ} {unbounded : Samples}
    (h : alignedBuckets start finish buckets = .ok aligned)
    (hlast : aligned.getLast? = some last) (hinf : buckets.get .posInf = some unbounded) :
    difference start finish unbounded = .ok last.2 := by
  obtain ⟨⟨bound, samples⟩, hitem, hlast⟩ := Except.getLast_of_mapM h hlast
  have hbound : bound = .posInf :=
    le_antisymm (not_lt.1 (Bound.not_posInf_lt _)) (Dict.le_getLast hitem hinf)
  obtain ⟨count, hcount, heq⟩ := bind_eq_ok.1 hlast
  obtain rfl := Except.ok.inj heq
  have hget := Dict.mem_items.1 (List.mem_of_getLast? hitem)
  rw [hbound, hinf] at hget
  obtain rfl := Option.some.inj hget
  exact hcount

/-- Percentiles are reported over members that do not decrease, with as many observations as
the unbounded bucket has. -/
theorem summarizeWindow_sound {key : SeriesKey} {buckets : Dict Bound Samples}
    {count sum unbounded : Samples} {start finish : ℚ} {row : HistogramSummary}
    (h : summarizeWindow key buckets count sum start finish = .ok row) (hreports : row.reports)
    (hinf : buckets.get .posInf = some unbounded) :
    row.metric = (ofLex key).1 ∧ row.labels = (ofLex key).2 ∧ row.window = some (start, finish) ∧
      (∀ member ∈ members buckets count sum, NonDecreasing start finish member) ∧
      SameIncrease start finish count unbounded := by
  unfold summarizeWindow at h
  split_ifs at h with hreset
  · obtain rfl := Except.ok.inj h
    exact absurd hreports (not_reports_withoutPercentiles _ _)
  obtain ⟨aligned, haligned, h⟩ := bind_eq_ok.1 h
  obtain ⟨observations, hcount, h⟩ := bind_eq_ok.1 h
  cases hlast : aligned.getLast? with
  | none => simp [hlast] at h
  | some last =>
      simp only [hlast] at h
      split_ifs at h with hbad
      · obtain rfl := Except.ok.inj h
        exact absurd hreports (not_reports_withoutPercentiles _ _)
      have hsame : observations = last.2 := by
        by_contra hne
        exact hbad (by simp [inconsistent, hne])
      obtain ⟨x, y, hx, hy, hxy⟩ := difference_eq_ok hcount
      obtain ⟨x', y', hx', hy', hxy'⟩ := difference_eq_ok (alignedBuckets_last haligned hlast hinf)
      have hmembers : ∀ member ∈ members buckets count sum, NonDecreasing start finish member := by
        intro member hmem
        refine nonDecreasing_of_increase ?_
        rw [Bool.not_eq_true, List.any_eq_false] at hreset
        exact Bool.eq_false_iff.2 (hreset member hmem)
      unfold reportHistogram at h
      obtain ⟨total, -, h⟩ := bind_eq_ok.1 h
      obtain ⟨p50, -, h⟩ := bind_eq_ok.1 h
      obtain ⟨p95, -, h⟩ := bind_eq_ok.1 h
      obtain ⟨p99, -, h⟩ := bind_eq_ok.1 h
      obtain rfl := Except.ok.inj h
      exact ⟨rfl, rfl, rfl, hmembers, x, y, x', y', hx, hy, hx', hy', by rw [hxy, hxy', hsame]⟩

/-- The same of one turn of the loop. -/
theorem summarizeHistogram_sound {series : Series} {key : SeriesKey}
    {buckets : Dict Bound Samples} {row : HistogramSummary}
    (h : summarizeHistogram series (key, buckets) = .ok row) (hreports : row.reports) :
    row.metric = (ofLex key).1 ∧ row.labels = (ofLex key).2 ∧
      ∃ start finish unbounded, row.window = some (start, finish) ∧
        buckets.get .posInf = some unbounded ∧
        (∀ member ∈ members buckets (companion series key "_count") (companion series key "_sum"),
          NonDecreasing start finish member) ∧
        SameIncrease start finish (companion series key "_count") unbounded := by
  unfold summarizeHistogram at h
  dsimp only at h
  split at h
  · split_ifs at h with hfew
    · obtain rfl := Except.ok.inj h
      exact absurd hreports (not_reports_withoutPercentiles _ _)
    · obtain ⟨unbounded, hinf⟩ := Option.ne_none_iff_exists'.1 (not_or.1 hfew).2
      obtain ⟨hmetric, hlabels, hwindow, hmembers, hsame⟩ := summarizeWindow_sound h hreports hinf
      exact ⟨hmetric, hlabels, _, _, unbounded, hwindow, hinf, hmembers, hsame⟩
  · obtain rfl := Except.ok.inj h
    exact absurd hreports (not_reports_withoutPercentiles _ _)

/-! ## The bucket series of a histogram -/

section Filing

variable {T : LabelText} {histograms : Histograms} {key k : SeriesKey} {bound : Bound}
  {samples d : Samples} {items : List (SeriesKey × Samples)}
  {state state' : Histograms × List Summary}

/-- The series has the buckets of the histogram `key` at `bound`. -/
def IsBucket (T : LabelText) (series key : SeriesKey) (bound : Bound) : Prop :=
  endsWith (ofLex series).1 "_bucket" = true ∧ T.bucketOf series = .ok (key, bound)

/-- What is filed for a histogram under a bound. -/
def filed (histograms : Histograms) (key : SeriesKey) (bound : Bound) : Option Samples :=
  (histograms.get key).bind fun buckets => buckets.get bound

theorem filed_addBucket_self : filed (addBucket histograms key bound samples) key bound =
    some samples := by
  rw [filed, addBucket, Dict.get_set_self, Option.bind_some, Dict.get_set_self]

theorem filed_addBucket_of_ne {key' : SeriesKey} {bound' : Bound}
    (h : (key', bound') ≠ (key, bound)) :
    filed (addBucket histograms key bound samples) key' bound' = filed histograms key' bound' := by
  rw [filed, addBucket, Dict.get_set]
  split_ifs with hkey
  · subst hkey
    have hbound : bound' ≠ bound := fun h' => h (by rw [h'])
    rw [Option.bind_some, Dict.get_set_of_ne _ hbound, filed]
    cases histograms.get key' <;> rfl
  · rfl

/-- A turn of the loop files a bucket series, and leaves the others where they are. -/
theorem summarizeSeries_spec {item : SeriesKey × Samples}
    (h : summarizeSeries T state item = .ok state') :
    (∀ key bound, IsBucket T item.1 key bound → filed state'.1 key bound = some item.2) ∧
      ∀ key bound, ¬IsBucket T item.1 key bound →
        filed state'.1 key bound = filed state.1 key bound := by
  unfold summarizeSeries at h
  dsimp only at h
  split at h
  · split_ifs at h with hbucket
    · obtain ⟨⟨key, bound⟩, hof, h⟩ := bind_eq_ok.1 h
      obtain rfl := Except.ok.inj h
      constructor
      · rintro key' bound' ⟨-, hof'⟩
        obtain ⟨rfl, rfl⟩ := Prod.mk.inj (Except.ok.inj (hof.symm.trans hof'))
        exact filed_addBucket_self
      · intro key' bound' hnot
        refine filed_addBucket_of_ne fun heq => hnot ⟨hbucket, ?_⟩
        rw [hof, heq]
    · obtain rfl := Except.ok.inj h
      exact ⟨fun _ _ hb => absurd hb.1 hbucket, fun _ _ _ => rfl⟩
  · exact absurd h (by simp)

/-- The loop over the series reports no histogram. -/
theorem not_histogram_of_foldlM (h : items.foldlM (summarizeSeries T) state = .ok state')
    {row : HistogramSummary} (hrow : .histogram row ∈ state'.2) : .histogram row ∈ state.2 := by
  induction items generalizing state with
  | nil =>
      obtain rfl := Except.ok.inj h
      exact hrow
  | cons item rest ih =>
      rw [List.foldlM_cons] at h
      obtain ⟨middle, hstep, h⟩ := bind_eq_ok.1 h
      have hmiddle := ih h
      obtain ⟨added, hadded⟩ : ∃ added, middle.2 = state.2 ++ [.series added] := by
        unfold summarizeSeries at hstep
        dsimp only at hstep
        split at hstep
        · split_ifs at hstep
          · obtain ⟨⟨key, bound⟩, -, hstep⟩ := bind_eq_ok.1 hstep
            obtain rfl := Except.ok.inj hstep
            exact ⟨_, rfl⟩
          · obtain rfl := Except.ok.inj hstep
            exact ⟨_, rfl⟩
        · exact absurd hstep (by simp)
      rw [hadded, List.mem_append, List.mem_singleton] at hmiddle
      exact hmiddle.resolve_right (by simp)

/-- What is filed in the end is the last of the bucket series with this bound. -/
theorem filed_of_foldlM (h : items.foldlM (summarizeSeries T) state = .ok state')
    (hsorted : (items.map Prod.fst).Pairwise (· < ·)) (key : SeriesKey) (bound : Bound) :
    ((∀ item ∈ items, ¬IsBucket T item.1 key bound) ∧
        filed state'.1 key bound = filed state.1 key bound) ∨
      ∃ item ∈ items, IsBucket T item.1 key bound ∧ filed state'.1 key bound = some item.2 ∧
        ∀ later ∈ items, IsBucket T later.1 key bound → later.1 ≤ item.1 := by
  induction items generalizing state with
  | nil =>
      obtain rfl := Except.ok.inj h
      exact Or.inl ⟨fun _ h => absurd h List.not_mem_nil, rfl⟩
  | cons item rest ih =>
      rw [List.foldlM_cons] at h
      obtain ⟨middle, hstep, h⟩ := bind_eq_ok.1 h
      obtain ⟨hself, hother⟩ := summarizeSeries_spec hstep
      rw [List.map_cons, List.pairwise_cons] at hsorted
      rcases ih h hsorted.2 with ⟨hnone, hfiled⟩ | ⟨found, hmem, hbucket, hfiled, hlast⟩
      · by_cases hitem : IsBucket T item.1 key bound
        · refine Or.inr ⟨item, List.mem_cons_self, hitem, hfiled.trans (hself key bound hitem), ?_⟩
          intro later hlater hbucket
          rcases List.mem_cons.1 hlater with rfl | hlater
          · exact le_rfl
          · exact absurd hbucket (hnone later hlater)
        · refine Or.inl ⟨fun other hother => ?_, hfiled.trans (hother key bound hitem)⟩
          rcases List.mem_cons.1 hother with rfl | hother
          · exact hitem
          · exact hnone other hother
      · refine Or.inr ⟨found, List.mem_cons_of_mem _ hmem, hbucket, hfiled, ?_⟩
        intro later hlater hbucket'
        rcases List.mem_cons.1 hlater with rfl | hlater
        · exact (hsorted.1 _ (List.mem_map_of_mem hmem)).le
        · exact hlast later hlater hbucket'

end Filing

/-! ## Latency percentiles -/

/-- Every bucket, count and sum series of the histogram is non-decreasing over the window, and
the count equals the unbounded bucket. -/
structure Consistent (T : LabelText) (series : Series) (key : SeriesKey) (start finish : ℚ) :
    Prop where
  bucket : ∀ k d bound, series.get k = some d → IsBucket T k key bound →
    NonDecreasing start finish d
  count : NonDecreasing start finish (companion series key "_count")
  sum : NonDecreasing start finish (companion series key "_sum")
  unbounded : ∃ k d, series.get k = some d ∧ IsBucket T k key .posInf
  same : ∀ k d, series.get k = some d → IsBucket T k key .posInf →
    SameIncrease start finish (companion series key "_count") d

/-- A bucket series that a later one with the same bound replaces. -/
def Replaced (T : LabelText) (series : Series) (key : SeriesKey) (bound : Bound)
    (k : SeriesKey) : Prop :=
  IsBucket T k key bound ∧
    ∃ later d, series.get later = some d ∧ k < later ∧ IsBucket T later key bound

/-- What is not checked holds nevertheless. -/
def ReplacedConsistent (T : LabelText) (series : Series) (key : SeriesKey) (start finish : ℚ) :
    Prop :=
  ∀ k d bound, series.get k = some d → Replaced T series key bound k →
    NonDecreasing start finish d ∧
      (bound = .posInf → SameIncrease start finish (companion series key "_count") d)

/-- The percentiles of a histogram rest on consistent series exactly when those of its bucket
series that were replaced are consistent. -/
theorem percentiles_iff {T : LabelText} {rows : List Row} {out : List Summary}
    {row : HistogramSummary} (h : summarize T rows = .ok out) (hrow : .histogram row ∈ out)
    (hreports : row.reports) :
    ∃ start finish, row.window = some (start, finish) ∧
      (Consistent T (seriesOf rows) (toLex (row.metric, row.labels)) start finish ↔
        ReplacedConsistent T (seriesOf rows) (toLex (row.metric, row.labels)) start finish) := by
  obtain ⟨state, hstate, h⟩ := bind_eq_ok.1 h
  obtain ⟨histograms, hhistograms, h⟩ := bind_eq_ok.1 h
  obtain rfl := Except.ok.inj h
  have hrow : row ∈ histograms := by
    rcases List.mem_append.1 hrow with hrow | hrow
    · exact absurd (not_histogram_of_foldlM hstate hrow) List.not_mem_nil
    · obtain ⟨row', hmem, heq⟩ := List.mem_map.1 hrow
      exact Summary.histogram.inj heq ▸ hmem
  obtain ⟨⟨key, buckets⟩, hitem, hsummary⟩ := Except.exists_of_mapM hhistograms hrow
  obtain ⟨hmetric, hlabels, start, finish, unbounded, hwindow, hinf, hmembers, hsame⟩ :=
    summarizeHistogram_sound hsummary hreports
  obtain rfl : toLex (row.metric, row.labels) = key := by rw [hmetric, hlabels]; rfl
  set key := toLex (row.metric, row.labels) with hkey
  set series := seriesOf rows
  have hfiled : ∀ bound, filed state.1 key bound = buckets.get bound := fun bound => by
    rw [filed, Dict.mem_items.1 hitem, Option.bind_some]
  -- each bucket series is among the members, or was replaced
  have hbucket : ∀ k d bound, series.get k = some d → IsBucket T k key bound →
      buckets.get bound = some d ∨ Replaced T series key bound k := by
    intro k d bound hk hof
    rcases filed_of_foldlM hstate series.sorted key bound with
      ⟨hnone, -⟩ | ⟨⟨found, e⟩, hfound, hof', hget, hlast⟩
    · exact absurd hof (hnone (k, d) (Dict.mem_items.2 hk))
    · rcases (hlast (k, d) (Dict.mem_items.2 hk) hof).eq_or_lt with heq | hlt
      · left
        obtain rfl : k = found := heq
        rw [← hfiled, hget]
        exact (Dict.mem_items.1 hfound).symm.trans hk
      · exact Or.inr ⟨hof, found, e, Dict.mem_items.1 hfound, hlt, hof'⟩
  refine ⟨start, finish, hwindow, ?_, ?_⟩
  · intro h k d bound hk hreplaced
    exact ⟨h.bucket k d bound hk hreplaced.1, fun hbound =>
      h.same k d hk (hbound ▸ hreplaced.1)⟩
  · intro h
    refine ⟨fun k d bound hk hof => ?_, hmembers _ ?_, hmembers _ ?_, ?_, fun k d hk hof => ?_⟩
    · rcases hbucket k d bound hk hof with hkept | hreplaced
      · refine hmembers d (List.mem_append_left _ (List.mem_map.2 ⟨(bound, d), ?_, rfl⟩))
        exact Dict.mem_items.2 hkept
      · exact (h k d bound hk hreplaced).1
    · exact List.mem_append_right _ List.mem_cons_self
    · exact List.mem_append_right _ (List.mem_cons_of_mem _ List.mem_cons_self)
    · rcases filed_of_foldlM hstate series.sorted key .posInf with
        ⟨-, hget⟩ | ⟨⟨found, e⟩, hfound, hof', -, -⟩
      · rw [hfiled, hinf] at hget
        exact absurd hget (by simp [filed])
      · exact ⟨found, e, Dict.mem_items.1 hfound, hof'⟩
    · rcases hbucket k d .posInf hk hof with hkept | hreplaced
      · obtain rfl := Option.some.inj (hinf.symm.trans hkept)
        exact hsame
      · exact (h k d .posInf hk hreplaced).2 rfl

/-- The percentiles of cumulative buckets are consistent, the order of the rows leaves no
trace, and a histogram with percentiles is consistent exactly when its replaced bucket series
are. -/
theorem latency_percentiles_iff (T : LabelText) :
    (∀ (B : CumulativeBuckets) p x, 0 < p → p ≤ 1 →
      quantile B.buckets p = .ok (.seconds x) →
      ∃ pre post l previous u count,
        ((.fin 0, 0) : Bound × ℚ) :: B.buckets =
          pre ++ (.fin l, previous) :: (.fin u, count) :: post ∧
        previous < B.total * p ∧ B.total * p ≤ count ∧ l < x ∧ x ≤ u) ∧
      (∀ (B : CumulativeBuckets) p q x y, 0 < p → p ≤ q → q ≤ 1 →
        quantile B.buckets p = .ok (.seconds x) → quantile B.buckets q = .ok (.seconds y) →
        x ≤ y) ∧
      (∀ (B : CumulativeBuckets) p q, 0 < p → p ≤ q → q ≤ 1 →
        quantile B.buckets p = .ok .unknown → quantile B.buckets q = .ok .unknown) ∧
      (∀ rows rows' : List Row, rows.Perm rows' → Unambiguous rows →
        summarize T rows = summarize T rows') ∧
      ∀ rows out row, summarize T rows = .ok out → .histogram row ∈ out → row.reports →
        ∃ start finish, row.window = some (start, finish) ∧
          (Consistent T (seriesOf rows) (toLex (row.metric, row.labels)) start finish ↔
            ReplacedConsistent T (seriesOf rows) (toLex (row.metric, row.labels)) start finish) :=
  ⟨fun _ _ _ hp hp1 h => CumulativeBuckets.quantile_bracketed hp hp1 h,
    fun _ _ _ _ _ hp hpq hq h h' => CumulativeBuckets.quantile_mono hp hpq hq h h',
    fun _ _ _ hp hpq hq h => CumulativeBuckets.quantile_unknown hp hpq hq h,
    fun _ _ hperm h => summarize_perm T hperm h,
    fun _ _ _ h hrow hreports => percentiles_iff h hrow hreports⟩

/-- The texts of the labels of one histogram; the first two are the same bound. -/
def labelTexts : LabelText where
  loads text :=
    if text = "\x7b\"le\": \"1\"\x7d" then .ok (.obj [("le", .str "1")])
    else if text = "\x7b\"le\": \"1.0\"\x7d" then .ok (.obj [("le", .str "1.0")])
    else if text = "\x7b\"le\": \"+Inf\"\x7d" then .ok (.obj [("le", .str "+Inf")])
    else if text = "\x7b\x7d" then .ok (.obj [])
    else .error (valueError "invalid JSON")
  dumps tags := if tags = .obj [] then "\x7b\x7d" else "null"
  float le :=
    if le = .str "1" ∨ le = .str "1.0" then .ok (.fin 1)
    else if le = .str "+Inf" then .ok .posInf
    else .error (valueError "could not convert string to float")

/-- Two scrapes of a histogram whose series at the bound `1` is written in two ways; the
first of these restarts between them. -/
def restarted : List Row :=
  [⟨0, "latency_bucket", "\x7b\"le\": \"1\"\x7d", 5⟩,
    ⟨10, "latency_bucket", "\x7b\"le\": \"1\"\x7d", 3⟩,
    ⟨0, "latency_bucket", "\x7b\"le\": \"1.0\"\x7d", 0⟩,
    ⟨10, "latency_bucket", "\x7b\"le\": \"1.0\"\x7d", 4⟩,
    ⟨0, "latency_bucket", "\x7b\"le\": \"+Inf\"\x7d", 0⟩,
    ⟨10, "latency_bucket", "\x7b\"le\": \"+Inf\"\x7d", 4⟩,
    ⟨0, "latency_count", "\x7b\x7d", 0⟩, ⟨10, "latency_count", "\x7b\x7d", 4⟩,
    ⟨0, "latency_sum", "\x7b\x7d", 0⟩, ⟨10, "latency_sum", "\x7b\x7d", 2⟩]

/-- What is reported of it. -/
def restartedRow : HistogramSummary where
  metric := "latency"
  labels := "\x7b\x7d"
  observations := some 4
  meanSeconds := some (1 / 2)
  p50Seconds := .seconds (1 / 2)
  p95Seconds := .seconds (19 / 20)
  p99Seconds := .seconds (99 / 100)
  window := some (0, 10)
  limitation :=
    "approximate bucket-interpolated per-label percentiles over observed window; " ++
      "no pooled replica percentile; blank tails exceed finite buckets or have no observations"

/-- The series that restarts. -/
def restartedKey : SeriesKey := toLex ("latency_bucket", "\x7b\"le\": \"1\"\x7d")

/-- The restart is not noticed: percentiles are reported although a bucket series decreases. -/
theorem restart_unnoticed : ∃ out, summarize labelTexts restarted = .ok out ∧
    .histogram restartedRow ∈ out ∧ restartedRow.reports ∧ restartedRow.window = some (0, 10) ∧
    ¬Consistent labelTexts (seriesOf restarted) (toLex (restartedRow.metric, restartedRow.labels))
      0 10 := by
  obtain ⟨out, hout, hrow⟩ : ∃ out, summarize labelTexts restarted = .ok out ∧
      .histogram restartedRow ∈ out :=
    Except.exists_ok (by decide +kernel)
  have hfirst : ((seriesOf restarted).get restartedKey).bind (fun d => d.get 0) = some 5 := by
    decide +kernel
  have hlast : ((seriesOf restarted).get restartedKey).bind (fun d => d.get 10) = some 3 := by
    decide +kernel
  have hbucket : IsBucket labelTexts restartedKey (toLex ("latency", "\x7b\x7d")) (.fin 1) :=
    ⟨by decide, by decide +kernel⟩
  refine ⟨out, hout, hrow, by decide, rfl, fun h => ?_⟩
  obtain ⟨d, hd, hfirst⟩ := Option.bind_eq_some_iff.1 hfirst
  rw [hd, Option.bind_some] at hlast
  have hle := h.bucket restartedKey d (.fin 1) hd hbucket 0 10 5 3 le_rfl (by norm_num) le_rfl
    hfirst hlast
  norm_num at hle

/-- The rows without the series that restarts. -/
def steady : List Row := restarted.drop 2

/-- The buckets of these over the window. -/
def steadyBuckets : CumulativeBuckets where
  buckets := [(.fin 1, 4), (.posInf, 4)]
  increasing := by decide +kernel
  positive := by decide +kernel
  total := 4
  unbounded := rfl
  cumulative := by decide +kernel
  nonneg := by decide +kernel
  total_pos := by norm_num

theorem steady_replaced : ReplacedConsistent labelTexts (seriesOf steady)
    (toLex (restartedRow.metric, restartedRow.labels)) 0 10 := by
  have hdistinct : ∀ item ∈ (seriesOf steady).items, ∀ later ∈ (seriesOf steady).items,
      item.1 < later.1 → labelTexts.bucketOf item.1 = labelTexts.bucketOf later.1 →
        endsWith (ofLex later.1).1 "_bucket" = false := by decide +kernel
  rintro k d bound hk ⟨hof, later, e, hlater, hlt, hof'⟩
  have := hdistinct (k, d) (Dict.mem_items.2 hk) (later, e) (Dict.mem_items.2 hlater) hlt
    (hof.2.trans hof'.2.symm)
  exact absurd hof'.1 (by rw [this]; decide)

/-- Without it the percentiles are those of consistent series, and they grow. -/
theorem latency_percentiles_steady :
    Consistent labelTexts (seriesOf steady) (toLex (restartedRow.metric, restartedRow.labels)) 0 10 ∧
      (1 / 2 : ℚ) ≤ 19 / 20 ∧ summarize labelTexts steady = summarize labelTexts steady.reverse := by
  obtain ⟨-, hmono, -, hperm, hiff⟩ := latency_percentiles_iff labelTexts
  refine ⟨?_, ?_, ?_⟩
  · obtain ⟨out, hout, hrow⟩ : ∃ out, summarize labelTexts steady = .ok out ∧
        .histogram restartedRow ∈ out :=
      Except.exists_ok (by decide +kernel)
    obtain ⟨start, finish, hwindow, h⟩ := hiff steady out restartedRow hout hrow (by decide)
    obtain ⟨rfl, rfl⟩ := Prod.mk.inj (Option.some.inj hwindow)
    exact h.2 steady_replaced
  · exact hmono steadyBuckets (1 / 2) (95 / 100) (1 / 2) (19 / 20) (by norm_num) (by norm_num)
      (by norm_num) (by decide +kernel) (by decide +kernel)
  · exact hperm steady steady.reverse (List.reverse_perm _).symm (by
      unfold Unambiguous
      decide +kernel)

end EirvahEdge.Experiment
