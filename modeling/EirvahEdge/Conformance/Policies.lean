import EirvahEdge.CommandPath.Approval
import EirvahEdge.Conformance.DataEvidence
import EirvahEdge.Contracts.Python
import EirvahEdge.Lib.Except
import EirvahEdge.Lib.FloatText

/-!
# One policy file, two readers

The validator reads the policy file into `NodePolicy` models, which turn the bounds into
doubles, and decides with `validate_request`.  The evaluator reads the same file as plain
values and judges the execution records with `valid_policy`.

Both look the topic up, test the requester and the type, and compare the value with the
bounds; only the bounds differ, because the evaluator compares with what is written.  A
written text is a number for the validator and an exception for the evaluator, and a whole
number that is no double is rounded for one of them only (`approves_iff_accepts`).
-/

namespace EirvahEdge.Conformance

open EirvahEdge.Lib
open EirvahEdge.Contracts
open EirvahEdge.CommandPath

/-! ## The validator -/

section Loading

variable (floatText : String → Option PyFloat)

/-- A field of type `float`; `floatText` is how pydantic reads one from a text. -/
def laxFloat (name : String) : Json → Except PyError PyFloat
  | .float x => .ok x
  | .bool b => .ok (.finite (if b then 1 else 0))
  | .int n =>
      match PyFloat.ofInt n with
      | some x => .ok x
      | none => .error (Json.validationError name)
  | .str s =>
      match floatText s with
      | some x => .ok x
      | none => .error (Json.validationError name)
  | _ => .error (Json.validationError name)

/-- `allowed_range: tuple[float, float]`. -/
def readRange (fields : List (String × Json)) : Except PyError (PyFloat × PyFloat) :=
  match Json.member fields "allowed_range" with
  | some (.arr [lo, hi]) => do
      let low ← laxFloat floatText "allowed_range" lo
      let high ← laxFloat floatText "allowed_range" hi
      return (low, high)
  | _ => .error (Json.validationError "allowed_range")

def readText : Json → Except PyError String
  | .str s => .ok s
  | _ => .error (Json.validationError "allowlist")

/-- `allowlist: list[str]`. -/
def readAllowlist (fields : List (String × Json)) : Except PyError (List String) :=
  match Json.member fields "allowlist" with
  | some (.arr xs) => xs.mapM readText
  | _ => .error (Json.validationError "allowlist")

/-- `value_type: SignalValueType = "double"`. -/
def readPolicyType (fields : List (String × Json)) : Except PyError SignalValueType :=
  match Json.member fields "value_type" with
  | none => .ok .double
  | some _ => Json.readSignalValueType fields "value_type"

/-- `NodePolicy.model_validate`. -/
def parsePolicy : Json → Except PyError NodePolicy
  | .obj fields => do
      let unsTopic ← Json.readStr fields "uns_topic"
      let allowedRange ← readRange floatText fields
      let allowlist ← readAllowlist fields
      let valueType ← readPolicyType fields
      return { unsTopic, allowedRange, allowlist, valueType }
  | _ => .error (Json.validationError "")

/-- The policies that `load_policy` makes of the list in the file. -/
def loadPolicy (policies : List Json) : Except PyError (List NodePolicy) :=
  policies.mapM (parsePolicy floatText)

end Loading

/-! ## The evaluator -/

/-- `needle in hay`. -/
def contains (hay needle : Json) : Except PyError Bool :=
  match hay, needle with
  | .arr xs, needle => .ok (xs.any (jsonEq needle))
  | .obj fields, .str s => .ok (fields.any fun f => f.1 == s)
  | .obj _, .arr _ | .obj _, .obj _ => .error (Json.typeError "unhashable type")
  | .obj _, _ => .ok false
  | .str s, .str t => .ok (decide (t.toList <:+: s.toList))
  | _, _ => .error (Json.typeError "argument is not iterable")

/-- The types that `valid_policy` expects under a name. -/
def expectedTypes : Json → Except PyError (List String)
  | .str "bool" => .ok ["bool"]
  | .str "int64" => .ok ["int"]
  | .str "double" => .ok ["int", "float"]
  | .arr _ | .obj _ => .error (Json.typeError "unhashable type")
  | _ => .ok []

/-- The first policy for the target of a record. -/
def findPolicy (record : List (String × Json)) : List Json → Except PyError (Option Json)
  | [] => .ok none
  | policy :: policies => do
      let topic ← policy.subscript "uns_topic"
      let target ← Json.item record "target"
      if jsonEq topic target then return some policy else findPolicy record policies

/-- `policy.get("value_type", "double")`. -/
def declaredType : Json → Json
  | .obj fields => (Json.member fields "value_type").getD (.str "double")
  | _ => .str "double"

/-- The value lies between the bounds as they are written. -/
def withinWritten (policy value : Json) : Except PyError Bool := do
  let low ← (← policy.subscript "allowed_range").elementAt 0
  if ← low.numberLe value then
    let high ← (← policy.subscript "allowed_range").elementAt 1
    if ← value.numberLe high then value.isFiniteNumber else return false
  else return false

/-- `valid_policy`, once the policy is found. -/
def policyAccepts (record : List (String × Json)) (policy : Json) : Except PyError Bool := do
  let requester ← Json.item record "requester"
  let allowlist ← policy.subscript "allowlist"
  if ← contains allowlist requester then
    let valueType ← Json.item record "value_type"
    if jsonEq valueType (declaredType policy) then
      let value ← Json.item record "requested_value"
      let expected ← expectedTypes (declaredType policy)
      if value.typeName ∈ expected then withinWritten policy value else return false
    else return false
  else return false

/-- `valid_policy`. -/
def validPolicy (record : List (String × Json)) (policies : List Json) : Except PyError Bool := do
  match ← findPolicy record policies with
  | none => return false
  | some policy => policyAccepts record policy

/-- The record carries the command. -/
structure Carries (record : List (String × Json)) (req : ActuationRequest) : Prop where
  target : Json.member record "target" = some (.str req.targetUnsTopic)
  requester : Json.member record "requester" = some (.str req.requester)
  valueType : Json.member record "value_type" = some (.str req.valueType.name)
  requestedValue :
    Json.member record "requested_value" = some (Json.ofSignalValue req.requestedValue)

/-! ## Lookup -/

section Lookup

variable {floatText : String → Option PyFloat} {record : List (String × Json)}
  {req : ActuationRequest}

theorem jsonEq_str (s t : String) : jsonEq (.str s) (.str t) = decide (s = t) := by
  simp [jsonEq, scalarEq, number?]

theorem Carries.item_eq_ok (h : Carries record req) :
    Json.item record "target" = .ok (.str req.targetUnsTopic) ∧
      Json.item record "requester" = .ok (.str req.requester) ∧
      Json.item record "value_type" = .ok (.str req.valueType.name) ∧
      Json.item record "requested_value" = .ok (Json.ofSignalValue req.requestedValue) := by
  simp only [Json.item, h.target, h.requester, h.valueType, h.requestedValue, and_self]

/-- What a policy of the file was made of. -/
structure Written (raw : Json) (policy : NodePolicy) : Prop where
  topic : raw.subscript "uns_topic" = .ok (.str policy.unsTopic)
  allowlist : raw.subscript "allowlist" = .ok (.arr (policy.allowlist.map .str))
  valueType : declaredType raw = .str policy.valueType.name

theorem mapM_readText {xs : List Json} {texts : List String} (h : xs.mapM readText = .ok texts) :
    xs = texts.map .str := by
  replace h := Except.mapM_eq_ok.1 h
  induction h with
  | nil => rfl
  | cons htext _ ih =>
      rw [List.map_cons, ← ih]
      unfold readText at htext
      split at htext
      · obtain rfl := Except.ok.inj htext
        rfl
      · cases htext

theorem declaredType_eq {fields : List (String × Json)} {t : SignalValueType}
    (h : readPolicyType fields = .ok t) : declaredType (.obj fields) = .str t.name := by
  unfold readPolicyType at h
  rw [declaredType]
  split at h
  · next hmember =>
      obtain rfl := Except.ok.inj h
      rw [hmember]
      rfl
  · next hmember =>
      unfold Json.readSignalValueType at h
      split at h <;> first
        | (next hname => obtain rfl := Except.ok.inj h; rw [hname]; rfl)
        | cases h

/-- A policy that was loaded is written as an object with these members. -/
theorem parsePolicy_eq_ok {raw : Json} {policy : NodePolicy}
    (h : parsePolicy floatText raw = .ok policy) :
    Written raw policy ∧ ∃ lo hi, raw.subscript "allowed_range" = .ok (.arr [lo, hi]) ∧
      laxFloat floatText "allowed_range" lo = .ok policy.allowedRange.1 ∧
      laxFloat floatText "allowed_range" hi = .ok policy.allowedRange.2 := by
  unfold parsePolicy at h
  split at h
  · next fields =>
      obtain ⟨topic, htopic, h⟩ := bind_eq_ok.1 h
      obtain ⟨range, hrange, h⟩ := bind_eq_ok.1 h
      obtain ⟨allowlist, hallowlist, h⟩ := bind_eq_ok.1 h
      obtain ⟨valueType, hvalueType, h⟩ := bind_eq_ok.1 h
      obtain rfl := Except.ok.inj h
      refine ⟨⟨?_, ?_, declaredType_eq hvalueType⟩, ?_⟩
      · exact Json.subscript_eq_ok.2 ⟨fields, rfl, Json.readStr_eq_ok.1 htopic⟩
      · unfold readAllowlist at hallowlist
        split at hallowlist
        · next xs hmember =>
            rw [← mapM_readText hallowlist]
            exact Json.subscript_eq_ok.2 ⟨fields, rfl, hmember⟩
        · cases hallowlist
      · unfold readRange at hrange
        split at hrange
        · next lo hi hmember =>
            obtain ⟨low, hlow, hrange⟩ := bind_eq_ok.1 hrange
            obtain ⟨high, hhigh, hrange⟩ := bind_eq_ok.1 hrange
            obtain rfl := Except.ok.inj hrange
            exact ⟨lo, hi, Json.subscript_eq_ok.2 ⟨fields, rfl, hmember⟩, hlow, hhigh⟩
        · cases hrange
  · cases h

theorem mem_of_loadPolicy {raws : List Json} {policies : List NodePolicy}
    (h : loadPolicy floatText raws = .ok policies) {raw : Json} (hraw : raw ∈ raws) :
    ∃ policy ∈ policies, parsePolicy floatText raw = .ok policy :=
  Except.mem_of_mapM h hraw

theorem map_topics {raws : List Json} {policies : List NodePolicy}
    (h : loadPolicy floatText raws = .ok policies) :
    raws.map (fun raw => raw.subscript "uns_topic") =
      policies.map fun policy => .ok (.str policy.unsTopic) := by
  replace h := Except.mapM_eq_ok.1 h
  induction h with
  | nil => rfl
  | cons hpolicy _ ih => rw [List.map_cons, List.map_cons, ih, (parsePolicy_eq_ok hpolicy).1.topic]

/-- Where topics are distinct, a topic is written once. -/
theorem eq_of_topic {raws : List Json} {policies : List NodePolicy}
    (h : loadPolicy floatText raws = .ok policies)
    (hnodup : (policies.map NodePolicy.unsTopic).Nodup) {raw raw' : Json} (hraw : raw ∈ raws)
    (hraw' : raw' ∈ raws) {policy policy' : NodePolicy}
    (hparse : parsePolicy floatText raw = .ok policy)
    (hparse' : parsePolicy floatText raw' = .ok policy')
    (htopic : policy.unsTopic = policy'.unsTopic) : raw = raw' := by
  have hinj : Function.Injective fun s => (Except.ok (Json.str s) : Except PyError Json) := by
    intro s t hst
    simpa using hst
  have hmap := hnodup.map hinj
  rw [List.map_map, ← Function.comp_def] at hmap
  have hraws : (raws.map fun raw => raw.subscript "uns_topic").Nodup := by
    rw [map_topics h]
    exact hmap
  apply List.inj_on_of_nodup_map hraws hraw hraw'
  rw [(parsePolicy_eq_ok hparse).1.topic, (parsePolicy_eq_ok hparse').1.topic, htopic]

/-- Both readers find the policies of a topic alike. -/
theorem findPolicy_eq (hrecord : Carries record req) {raws : List Json}
    {policies : List NodePolicy} (h : loadPolicy floatText raws = .ok policies) :
    (policies.find? (fun p => p.unsTopic = req.targetUnsTopic) = none ∧
        findPolicy record raws = .ok none) ∨
      ∃ policy raw, policies.find? (fun p => p.unsTopic = req.targetUnsTopic) = some policy ∧
        findPolicy record raws = .ok (some raw) ∧ raw ∈ raws ∧
        parsePolicy floatText raw = .ok policy := by
  replace h := Except.mapM_eq_ok.1 h
  induction h with
  | nil => exact Or.inl ⟨rfl, rfl⟩
  | @cons raw policy raws rest hpolicy _ ih =>
      have htopic := (parsePolicy_eq_ok hpolicy).1.topic
      have hstep : findPolicy record (raw :: raws) =
          if policy.unsTopic = req.targetUnsTopic then .ok (some raw)
          else findPolicy record raws := by
        simp only [findPolicy, htopic, hrecord.item_eq_ok.1, bind, Except.bind, jsonEq_str,
          decide_eq_true_eq]
        rfl
      rw [hstep, List.find?_cons]
      by_cases heq : policy.unsTopic = req.targetUnsTopic
      · simp only [heq, decide_true, if_true]
        exact Or.inr ⟨policy, raw, rfl, rfl, List.mem_cons_self, hpolicy⟩
      · simp only [heq, decide_false, if_false]
        rcases ih with hnone | ⟨policy', raw', hfind, hfind', hmem, hparse⟩
        · exact Or.inl hnone
        · exact Or.inr ⟨policy', raw', hfind, hfind', List.mem_cons_of_mem _ hmem, hparse⟩

/-- Where topics are distinct, the last policy for a topic is the first one. -/
theorem policyFor_eq {policies : List NodePolicy}
    (hnodup : (policies.map NodePolicy.unsTopic).Nodup) (topic : String) :
    policyFor policies topic = policies.find? fun p => p.unsTopic = topic := by
  induction policies with
  | nil => rfl
  | cons policy policies ih =>
      rw [List.map_cons, List.nodup_cons] at hnodup
      have hrest := ih hnodup.2
      rw [policyFor, List.reverse_cons, List.find?_append, List.find?_cons]
      rw [policyFor] at hrest
      rw [hrest]
      by_cases heq : policy.unsTopic = topic
      · have hnone : (policies.find? fun p => p.unsTopic = topic) = none := by
          rw [List.find?_eq_none]
          intro p hp hp'
          rw [decide_eq_true_eq] at hp'
          exact hnodup.1 (List.mem_map.2 ⟨p, hp, hp'.trans heq.symm⟩)
        simp [hnone, heq]
      · simp [heq]

end Lookup

/-! ## Bounds -/

/-- Loading a lower bound lets no value in: it is no text, and no whole number above the
value whose double is the value. -/
def LowerKept (bound : Json) (value : ℚ) : Prop :=
  match bound with
  | .str _ => False
  | .int n => PyFloat.nearest n = value → n ≤ value
  | _ => True

/-- So for an upper bound. -/
def UpperKept (bound : Json) (value : ℚ) : Prop :=
  match bound with
  | .str _ => False
  | .int n => PyFloat.nearest n = value → value ≤ n
  | _ => True

section Bounds

variable {floatText : String → Option PyFloat} {name : String} {bound value : Json}
  {loaded x : PyFloat} {q : ℚ}

theorem le_finite {x y : PyFloat} {p q : ℚ} (hx : x.toRat? = some p) (hy : y.toRat? = some q) :
    x.le y = decide (p ≤ q) := by
  cases x <;> cases y <;> simp_all [PyFloat.le, PyFloat.toRat?]

theorem numberLe_eq_ok {j k : Json} {y : PyFloat} (hj : j.asNumber = some x)
    (hk : k.asNumber = some y) : j.numberLe k = .ok true ↔ x.le y = true := by
  simp only [Json.numberLe, hj, hk, Except.ok.injEq]

/-- A loaded bound was written as a text, as a whole number or as the number it is. -/
theorem laxFloat_cases (h : laxFloat floatText name bound = .ok loaded) :
    (∃ s, bound = .str s) ∨ (∃ n : ℤ, bound = .int n ∧ loaded = .finite (PyFloat.nearest n)) ∨
      (bound.asNumber = some loaded ∧ ∀ q, LowerKept bound q ∧ UpperKept bound q) := by
  unfold laxFloat at h
  split at h
  · obtain rfl := Except.ok.inj h
    exact Or.inr (Or.inr ⟨rfl, fun _ => ⟨trivial, trivial⟩⟩)
  · obtain rfl := Except.ok.inj h
    exact Or.inr (Or.inr ⟨rfl, fun _ => ⟨trivial, trivial⟩⟩)
  · next n =>
      refine Or.inr (Or.inl ⟨n, rfl, ?_⟩)
      unfold PyFloat.ofInt at h
      split_ifs at h
      exact (Except.ok.inj h).symm
  · next s => exact Or.inl ⟨s, rfl⟩
  · cases h

theorem nearest_le {p : ℚ} (hdouble : PyFloat.nearest q = q) (h : p ≤ q) :
    PyFloat.nearest p ≤ q :=
  (PyFloat.nearest_mono h).trans_eq hdouble

theorem le_nearest {p : ℚ} (hdouble : PyFloat.nearest q = q) (h : q ≤ p) :
    q ≤ PyFloat.nearest p :=
  hdouble.symm.trans_le (PyFloat.nearest_mono h)

/-- A double lies above a number whose double is at most it, unless it is that double. -/
theorem le_of_nearest_le {p : ℚ} (hdouble : PyFloat.nearest q = q) :
    p ≤ q ↔ PyFloat.nearest p ≤ q ∧ (PyFloat.nearest p = q → p ≤ q) := by
  constructor
  · intro h
    exact ⟨nearest_le hdouble h, fun _ => h⟩
  · rintro ⟨hle, hkept⟩
    by_contra hlt
    exact hlt (hkept (le_antisymm hle (le_nearest hdouble (not_le.1 hlt).le)))

theorem le_of_le_nearest {p : ℚ} (hdouble : PyFloat.nearest q = q) :
    q ≤ p ↔ q ≤ PyFloat.nearest p ∧ (PyFloat.nearest p = q → q ≤ p) := by
  constructor
  · intro h
    exact ⟨le_nearest hdouble h, fun _ => h⟩
  · rintro ⟨hle, hkept⟩
    by_contra hlt
    exact hlt (hkept (le_antisymm (nearest_le hdouble (not_le.1 hlt).le) hle))

variable (hbound : laxFloat floatText name bound = .ok loaded)
  (hvalue : value.asNumber = some x) (hx : x.toRat? = some q) (hdouble : PyFloat.nearest q = q)
include hbound hvalue hx hdouble

/-- A value is above a lower bound as it is written if and only if it is so as loaded, and
the bound is kept. -/
theorem numberLe_lower :
    bound.numberLe value = .ok true ↔ loaded.le x = true ∧ LowerKept bound q := by
  rcases laxFloat_cases hbound with ⟨s, rfl⟩ | ⟨n, rfl, rfl⟩ | ⟨hnumber, hkept⟩
  · simp [Json.numberLe, Json.asNumber, LowerKept]
  · rw [numberLe_eq_ok (x := .finite n) rfl hvalue, le_finite rfl hx, le_finite rfl hx,
      decide_eq_true_eq, decide_eq_true_eq]
    exact le_of_nearest_le hdouble
  · rw [numberLe_eq_ok hnumber hvalue]
    exact (and_iff_left (hkept q).1).symm

/-- And so for an upper bound. -/
theorem numberLe_upper :
    value.numberLe bound = .ok true ↔ x.le loaded = true ∧ UpperKept bound q := by
  rcases laxFloat_cases hbound with ⟨s, rfl⟩ | ⟨n, rfl, rfl⟩ | ⟨hnumber, hkept⟩
  · simp [Json.numberLe, Json.asNumber, UpperKept]
  · rw [numberLe_eq_ok (y := .finite n) hvalue rfl, le_finite hx rfl, le_finite hx rfl,
      decide_eq_true_eq, decide_eq_true_eq]
    exact le_of_le_nearest hdouble
  · rw [numberLe_eq_ok hvalue hnumber]
    exact (and_iff_left (hkept q).2).symm

end Bounds

/-! ## Agreement -/

section Agreement

variable {floatText : String → Option PyFloat} {record : List (String × Json)}
  {req : ActuationRequest} {raw : Json} {policy : NodePolicy}

theorem contains_texts (texts : List String) (s : String) :
    contains (.arr (texts.map .str)) (.str s) = .ok (decide (s ∈ texts)) := by
  have hany : (texts.map Json.str).any (jsonEq (.str s)) = decide (s ∈ texts) := by
    induction texts with
    | nil => rfl
    | cons t texts ih => simp [ih, jsonEq_str]
  rw [contains, hany]

/-- Both readers ask for the same types. -/
theorem valueTypeOk_iff : valueTypeOk policy req = true ↔
    req.valueType = policy.valueType ∧ ∃ expected,
      expectedTypes (.str policy.valueType.name) = .ok expected ∧
        (Json.ofSignalValue req.requestedValue).typeName ∈ expected := by
  rw [valueTypeOk, Bool.and_eq_true, beq_iff_eq]
  refine and_congr_right fun _ => ?_
  cases policy.valueType <;> cases req.requestedValue <;>
    simp [expectedTypes, SignalValueType.name, Json.typeName, Json.ofSignalValue]

/-- **The evaluator on one policy**: the requester is listed, the type is right and the
value lies between the written bounds. -/
theorem policyAccepts_iff (hrecord : Carries record req) (hraw : Written raw policy) :
    policyAccepts record raw = .ok true ↔ req.requester ∈ policy.allowlist ∧
      valueTypeOk policy req = true ∧
      withinWritten raw (Json.ofSignalValue req.requestedValue) = .ok true := by
  obtain ⟨-, hrequester, htype, hvalue⟩ := hrecord.item_eq_ok
  have hexpected : ∃ expected, expectedTypes (.str policy.valueType.name) = .ok expected := by
    cases policy.valueType <;> exact ⟨_, rfl⟩
  obtain ⟨expected, hexpected⟩ := hexpected
  rw [valueTypeOk_iff, hexpected]
  simp only [policyAccepts, hrequester, hraw.allowlist, contains_texts, htype, hraw.valueType,
    hvalue, hexpected, jsonEq_str, bind, Except.bind, pure, Except.pure, decide_eq_true_eq,
    Except.ok.injEq, exists_eq_left']
  have hname : req.valueType.name = policy.valueType.name ↔ req.valueType = policy.valueType :=
    ⟨SignalValueType.name_injective, congrArg _⟩
  rw [← hname]
  split_ifs <;> simp_all

/-- The whole numbers up to `2 ^ 53` are doubles. -/
theorem nearest_of_abs_le {n : ℤ} (h : |n| ≤ 2 ^ 53) : PyFloat.nearest n = n := by
  rcases h.lt_or_eq with hlt | heq
  · exact PyFloat.nearest_intCast hlt
  · rcases (abs_eq (by norm_num)).1 heq with rfl | rfl <;> decide +kernel

theorem ofInt_of_abs_le {n : ℤ} (h : |n| ≤ 2 ^ 53) : PyFloat.ofInt n = some (.finite n) := by
  have habs : |(n : ℚ)| ≤ 2 ^ 53 := by exact_mod_cast h
  have hpow : (2 : ℚ) ^ 53 < 2 ^ 1024 := pow_lt_pow_right₀ one_lt_two (by norm_num)
  have hrange : |PyFloat.nearest n| < PyFloat.overflow := by
    rw [nearest_of_abs_le h]
    exact habs.trans_lt hpow
  rw [PyFloat.ofInt, if_pos hrange, nearest_of_abs_le h]

theorem toFloat_int {n : ℤ} (h : |n| ≤ 2 ^ 53) : toFloat (.int n) = .ok (.finite n) := by
  have hofInt := ofInt_of_abs_le h
  unfold toFloat
  simp only [hofInt]

theorem isFiniteNumber_int {n : ℤ} (h : |n| ≤ 2 ^ 53) : (Json.int n).isFiniteNumber = .ok true := by
  have hofInt := ofInt_of_abs_le h
  unfold Json.isFiniteNumber
  simp only [hofInt]

/-- A value that is compared: both readers have it as the same number, and as a double. -/
theorem number_of_toFloat {x : PyFloat}
    (hint : ∀ n : ℤ, req.requestedValue = .int n → |n| ≤ 2 ^ 53)
    (hfloat : ∀ q, req.requestedValue = .float (.finite q) → PyFloat.nearest q = q)
    (htype : valueTypeOk policy req = true) (hx : toFloat req.requestedValue = .ok x) :
    (Json.ofSignalValue req.requestedValue).asNumber = some x ∧
      (∀ q, x.toRat? = some q → PyFloat.nearest q = q) ∧
      (Json.ofSignalValue req.requestedValue).isFiniteNumber = .ok x.isFinite := by
  cases hvalue : req.requestedValue with
  | float y =>
      rw [hvalue] at hx
      obtain rfl := Except.ok.inj hx
      refine ⟨rfl, fun q hq => ?_, rfl⟩
      cases y with
      | finite p =>
          obtain rfl := Option.some.inj hq
          exact hfloat p hvalue
      | negZero =>
          obtain rfl := Option.some.inj hq
          exact PyFloat.nearest_zero
      | inf b => cases hq
      | nan => cases hq
  | bool b =>
      rw [hvalue] at hx
      obtain rfl := Except.ok.inj hx
      refine ⟨rfl, fun q hq => ?_, rfl⟩
      have hone : PyFloat.nearest 1 = 1 := by
        exact_mod_cast nearest_of_abs_le (n := 1) (by norm_num)
      obtain rfl := Option.some.inj hq
      cases b with
      | false => simpa using PyFloat.nearest_zero
      | true => simpa using hone
  | int n =>
      have hn := hint n hvalue
      rw [hvalue, toFloat_int hn] at hx
      obtain rfl := Except.ok.inj hx
      refine ⟨rfl, fun q hq => ?_, isFiniteNumber_int hn⟩
      obtain rfl := Option.some.inj hq
      exact nearest_of_abs_le hn
  | str s => simp [valueTypeOk, hvalue] at htype

/-- A value of the right type is a number. -/
theorem exists_toFloat (hint : ∀ n : ℤ, req.requestedValue = .int n → |n| ≤ 2 ^ 53)
    (htype : valueTypeOk policy req = true) : ∃ x, toFloat req.requestedValue = .ok x := by
  cases hvalue : req.requestedValue with
  | float y => exact ⟨y, rfl⟩
  | bool b => exact ⟨_, rfl⟩
  | int n => exact ⟨_, toFloat_int (hint n hvalue)⟩
  | str s => simp [valueTypeOk, hvalue] at htype

theorem isFiniteNumber_of_withinWritten {value : Json} (h : withinWritten raw value = .ok true) :
    value.isFiniteNumber = .ok true := by
  unfold withinWritten at h
  obtain ⟨range, -, h⟩ := bind_eq_ok.1 h
  obtain ⟨low, -, h⟩ := bind_eq_ok.1 h
  obtain ⟨b, -, h⟩ := bind_eq_ok.1 h
  cases b with
  | false => cases h
  | true =>
      obtain ⟨range, -, h⟩ := bind_eq_ok.1 h
      obtain ⟨high, -, h⟩ := bind_eq_ok.1 h
      obtain ⟨b, -, h⟩ := bind_eq_ok.1 h
      cases b with
      | false => cases h
      | true => exact h

theorem validateRequest_approve_iff {policies : List NodePolicy} :
    validateRequest req policies = .ok .approve ↔
      ∃ policy x, policyFor policies req.targetUnsTopic = some policy ∧
        req.requester ∈ policy.allowlist ∧ valueTypeOk policy req = true ∧
        toFloat req.requestedValue = .ok x ∧ x.isFinite = true ∧
        PyFloat.le policy.allowedRange.1 x = true ∧ PyFloat.le x policy.allowedRange.2 = true := by
  constructor
  · exact validateRequest_approve
  · rintro ⟨policy, x, hpolicy, hrequester, htype, hx, hfinite, hlow, hhigh⟩
    simp [validateRequest, hpolicy, hrequester, htype, hx, hfinite, hlow, hhigh]

/-- Loading the policy of the target lets no value in that the bounds, as they are written,
keep out. -/
def BoundsKept (floatText : String → Option PyFloat) (raws : List Json)
    (req : ActuationRequest) : Prop :=
  ∀ raw ∈ raws, ∀ policy, parsePolicy floatText raw = .ok policy →
    policy.unsTopic = req.targetUnsTopic → req.requester ∈ policy.allowlist →
    valueTypeOk policy req = true → ∀ x q, toFloat req.requestedValue = .ok x →
    x.toRat? = some q → policy.allowedRange.1.le x = true → x.le policy.allowedRange.2 = true →
    ∀ lo hi, raw.subscript "allowed_range" = .ok (.arr [lo, hi]) →
      LowerKept lo q ∧ UpperKept hi q

/-- A finite value of the right type lies between the written bounds when it lies between
the loaded ones and the bounds are kept. -/
theorem withinWritten_iff (hparse : parsePolicy floatText raw = .ok policy) {x : PyFloat} {q : ℚ}
    {value lo hi : Json} (hrange : raw.subscript "allowed_range" = .ok (.arr [lo, hi]))
    (hvalue : value.asNumber = some x) (hq : x.toRat? = some q)
    (hdouble : PyFloat.nearest q = q) (hfinite : value.isFiniteNumber = .ok true) :
    withinWritten raw value = .ok true ↔
      (policy.allowedRange.1.le x = true ∧ x.le policy.allowedRange.2 = true) ∧
        LowerKept lo q ∧ UpperKept hi q := by
  obtain ⟨-, lo', hi', hrange', hlow, hhigh⟩ := parsePolicy_eq_ok hparse
  obtain ⟨rfl, rfl⟩ : lo' = lo ∧ hi' = hi := by simpa using hrange'.symm.trans hrange
  have hlower := numberLe_lower hlow hvalue hq hdouble
  have hupper := numberLe_upper hhigh hvalue hq hdouble
  rw [and_and_and_comm, ← hlower, ← hupper]
  simp only [withinWritten, hrange, bind, Except.bind, Json.elementAt, List.getElem?_cons_zero,
    List.getElem?_cons_succ, hfinite, pure, Except.pure]
  cases lo'.numberLe value with
  | error e => simp
  | ok low =>
      cases value.numberLe hi' with
      | error e => cases low <;> simp
      | ok high => cases low <;> cases high <;> simp

/-- **When the audit agrees with the admission.**  Both decide alike on a command if and only
if the bounds of its policy keep out, as they are loaded, what they keep out as they are
written. -/
theorem approves_iff_accepts {raws : List Json} {policies : List NodePolicy}
    (hload : loadPolicy floatText raws = .ok policies)
    (hnodup : (policies.map NodePolicy.unsTopic).Nodup) (hrecord : Carries record req)
    (hint : ∀ n : ℤ, req.requestedValue = .int n → |n| ≤ 2 ^ 53)
    (hfloat : ∀ q, req.requestedValue = .float (.finite q) → PyFloat.nearest q = q) :
    (validateRequest req policies = .ok .approve ↔ validPolicy record raws = .ok true) ↔
      BoundsKept floatText raws req := by
  rw [validateRequest_approve_iff, policyFor_eq hnodup]
  rcases findPolicy_eq hrecord hload with ⟨hnone, hfind⟩ |
    ⟨policy, raw, hfind, hfind', hmem, hparse⟩
  · -- neither reader has a policy for the target
    have hrefused : validPolicy record raws = .ok false := by
      simp only [validPolicy, hfind, bind, Except.bind, pure, Except.pure]
    have hkept : BoundsKept floatText raws req := by
      intro raw hraw policy hparse htopic
      obtain ⟨p, hp, hp'⟩ := mem_of_loadPolicy hload hraw
      obtain rfl := Except.ok.inj (hparse.symm.trans hp')
      exact absurd htopic (by simpa using List.find?_eq_none.1 hnone _ hp)
    simp [hnone, hrefused, hkept]
  · have haccepts : validPolicy record raws = policyAccepts record raw := by
      simp only [validPolicy, hfind', bind, Except.bind]
    obtain ⟨hwritten, lo, hi, hrange, -, -⟩ := parsePolicy_eq_ok hparse
    rw [haccepts, policyAccepts_iff hrecord hwritten, hfind]
    have htarget : policy.unsTopic = req.targetUnsTopic := by
      simpa using List.find?_some hfind
    have hwithin {x : PyFloat} {q : ℚ} (htype : valueTypeOk policy req = true)
        (hx : toFloat req.requestedValue = .ok x) (hq : x.toRat? = some q) :=
      have hnumber := number_of_toFloat hint hfloat htype hx
      have hfinite : x.isFinite = true := by simp [PyFloat.isFinite, hq]
      withinWritten_iff hparse hrange hnumber.1 hq (hnumber.2.1 q hq) (by rw [hnumber.2.2, hfinite])
    constructor
    · intro hagree raw' hraw' policy' hparse' htopic' hrequester' htype' x q hx hq hlow hhigh
        lo' hi' hrange'
      obtain rfl := eq_of_topic hload hnodup hmem hraw' hparse hparse' (htarget.trans htopic'.symm)
      obtain rfl := Except.ok.inj (hparse.symm.trans hparse')
      obtain ⟨rfl, rfl⟩ : lo = lo' ∧ hi = hi' := by simpa using hrange.symm.trans hrange'
      have hfinite : x.isFinite = true := by simp [PyFloat.isFinite, hq]
      have haccepted := hagree.1 ⟨policy, x, rfl, hrequester', htype', hx, hfinite, hlow, hhigh⟩
      exact ((hwithin htype' hx hq).1 haccepted.2.2).2
    · intro hkept
      constructor
      · rintro ⟨policy', x, hpolicy', hrequester, htype, hx, hfinite, hlow, hhigh⟩
        obtain rfl := Option.some.inj hpolicy'
        obtain ⟨q, hq⟩ := Option.isSome_iff_exists.1 hfinite
        exact ⟨hrequester, htype, (hwithin htype hx hq).2 ⟨⟨hlow, hhigh⟩,
          hkept raw hmem policy hparse htarget hrequester htype x q hx hq hlow hhigh lo hi hrange⟩⟩
      · rintro ⟨hrequester, htype, hwritten'⟩
        obtain ⟨x, hx⟩ := exists_toFloat hint htype
        have hfinite := isFiniteNumber_of_withinWritten hwritten'
        rw [(number_of_toFloat hint hfloat htype hx).2.2, Except.ok.injEq] at hfinite
        obtain ⟨q, hq⟩ := Option.isSome_iff_exists.1 hfinite
        obtain ⟨⟨hlow, hhigh⟩, -⟩ := (hwithin htype hx hq).1 hwritten'
        exact ⟨policy, x, rfl, hrequester, htype, hx, hfinite, hlow, hhigh⟩

end Agreement

namespace CapperSpeed

/-! The speed of the capper motor, its range once as numbers and once in quotes. -/

def topic : String := "uniza/zilina/factory1/line_a/capper/motor_01/speed_setpoint"

def policy (low high : Json) : Json :=
  .obj [("uns_topic", .str topic), ("value_type", .str "int64"),
    ("allowed_range", .arr [low, high]), ("allowlist", .arr [.str "experiment-driver"])]

def loaded : NodePolicy where
  unsTopic := topic
  allowedRange := (.finite 0, .finite 1800)
  allowlist := ["experiment-driver"]
  valueType := .int64

def command : ActuationRequest where
  correlationId := "01M6MAWHBB5Z3ZJDJXK24ACPFX"
  requester := "experiment-driver"
  targetUnsTopic := topic
  requestedValue := .int 1200
  valueType := .int64
  reason := "test"
  requestedAt := .aware (.ofMicros 0)
  deadline := none
  extra := []
  names_nodup := declaredNames_nodup

def record : List (String × Json) :=
  [("action", .str "write_initiated"), ("target", .str topic),
    ("requester", .str "experiment-driver"), ("value_type", .str "int64"),
    ("requested_value", .int 1200)]

theorem carries : Carries record command := ⟨rfl, rfl, rfl, rfl⟩

theorem approved : validateRequest command [loaded] = .ok .approve := by decide +kernel

end CapperSpeed

/-- With a range in quotes the validator approves what the audit cannot accept. -/
theorem unaudited_speed :
    loadPolicy PyFloat.ofText [CapperSpeed.policy (.str "0") (.str "1800")] =
        .ok [CapperSpeed.loaded] ∧
      Carries CapperSpeed.record CapperSpeed.command ∧
      validateRequest CapperSpeed.command [CapperSpeed.loaded] = .ok .approve ∧
      validPolicy CapperSpeed.record [CapperSpeed.policy (.str "0") (.str "1800")] ≠ .ok true :=
  ⟨by decide +kernel, CapperSpeed.carries, CapperSpeed.approved, by decide +kernel⟩

/-- With numbers both accept it, and the bounds are kept. -/
theorem audited_speed :
    validPolicy CapperSpeed.record [CapperSpeed.policy (.int 0) (.int 1800)] = .ok true ∧
      BoundsKept PyFloat.ofText [CapperSpeed.policy (.int 0) (.int 1800)] CapperSpeed.command := by
  have hload : loadPolicy PyFloat.ofText [CapperSpeed.policy (.int 0) (.int 1800)] =
      .ok [CapperSpeed.loaded] := by decide +kernel
  have haccepted : validPolicy CapperSpeed.record [CapperSpeed.policy (.int 0) (.int 1800)] =
      .ok true := by decide +kernel
  have hint : ∀ n : ℤ, CapperSpeed.command.requestedValue = .int n → |n| ≤ 2 ^ 53 := by
    rintro n ⟨⟩
    norm_num
  have hfloat : ∀ q, CapperSpeed.command.requestedValue = .float (.finite q) →
      PyFloat.nearest q = q := by
    rintro q ⟨⟩
  exact ⟨haccepted, (approves_iff_accepts hload (by decide) CapperSpeed.carries hint hfloat).1
    ⟨fun _ => haccepted, fun _ => CapperSpeed.approved⟩⟩

end EirvahEdge.Conformance
