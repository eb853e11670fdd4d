import EirvahEdge.Contracts.Authorization
import Mathlib.Logic.Equiv.List

/-!
# JSON objects as mappings

A JSON text lists the members of an object in some order; a Python mapping, and a
reader of it, only knows which value a name has.  Two values are `Json.Same` when
their texts with sorted keys agree.  That is what a hop over the wire, or through a
column that is written with `sort_keys=True`, keeps.

`member` reads one member, and the `read` functions below are the checks that a
model's field types make.  `member_of_same` is how every reader is verified: it
finds in the received object the value that was written, up to the order of
members further down.

## Main results

* `sortKeys_obj_of_perm`: the converse of `sortKeys_obj_eq`;
* `allFinite_of_same`: what `allow_nan=False` accepts does not depend on the order
  of members;
* `member_of_same`: a member that was written is read.
-/

namespace EirvahEdge.Contracts

open EirvahEdge.Lib

namespace Json

/-! ## The same value -/

/-- Their texts with sorted keys are one text. -/
def Same (j k : Json) : Prop := j.sortKeys = k.sortKeys

theorem Same.refl (j : Json) : Same j j := rfl

theorem Same.symm {j k : Json} (h : Same j k) : Same k j := Eq.symm h

theorem Same.trans {j k l : Json} (h : Same j k) (h' : Same k l) : Same j l := Eq.trans h h'

theorem same_str {j : Json} {s : String} : Same j (.str s) ↔ j = .str s := by
  cases j <;> simp [Same, sortKeys]

theorem same_int {j : Json} {n : ℤ} : Same j (.int n) ↔ j = .int n := by
  cases j <;> simp [Same, sortKeys]

theorem same_bool {j : Json} {b : Bool} : Same j (.bool b) ↔ j = .bool b := by
  cases j <;> simp [Same, sortKeys]

theorem same_null {j : Json} : Same j .null ↔ j = .null := by
  cases j <;> simp [Same, sortKeys]

theorem same_ofSignalValue {j : Json} {v : SignalValue} :
    Same j (ofSignalValue v) ↔ j = ofSignalValue v := by
  cases v <;> cases j <;> simp [Same, sortKeys, ofSignalValue]

/-- What is the same as an object is an object with the same members. -/
theorem same_obj {j : Json} {gs : List (String × Json)} (h : Same j (.obj gs)) :
    ∃ fs, j = .obj fs ∧ (fs.map normal).Perm (gs.map normal) := by
  cases j with
  | obj fs => exact ⟨fs, rfl, sortKeys_obj_eq h⟩
  | null | bool | int | float | str | time | arr => simp [Same, sortKeys] at h

/-! ## Order of members -/

theorem map_fst_normal (fs : List (String × Json)) :
    (fs.map normal).map Prod.fst = fs.map Prod.fst := by
  rw [List.map_map]
  rfl

instance : Std.Total keyLe := ⟨fun f g => String.le_total f.1 g.1⟩

instance : IsTrans (String × Json) keyLe := ⟨fun _ _ _ h h' => String.le_trans h h'⟩

/-- Members that differ in their order only are sorted into one object, because
their names are different. -/
theorem sortKeys_obj_of_perm {fs gs : List (String × Json)}
    (hnodup : (gs.map Prod.fst).Nodup) (h : (fs.map normal).Perm (gs.map normal)) :
    sortKeys (.obj fs) = sortKeys (.obj gs) := by
  simp only [sortKeys, Json.obj.injEq, sortKeysFields_eq_map]
  have hf := List.perm_insertionSort keyLe (fs.map normal)
  have hg := List.perm_insertionSort keyLe (gs.map normal)
  have hperm := (hf.trans h).trans hg.symm
  have hnodup' : ((gs.map normal).map Prod.fst).Nodup := by
    rw [map_fst_normal]
    exact hnodup
  refine List.Perm.eq_of_pairwise ?_ (List.pairwise_insertionSort keyLe _)
    (List.pairwise_insertionSort keyLe _) hperm
  intro a b ha hb hab hba
  have hname : a.1 = b.1 := String.le_antisymm hab hba
  have ha' := hg.mem_iff.1 (hperm.mem_iff.1 ha)
  exact List.inj_on_of_nodup_map hnodup' ha' (hg.mem_iff.1 hb) hname

mutual

/-- What is sorted stays as it is. -/
theorem sortKeys_sortKeys (j : Json) : j.sortKeys.sortKeys = j.sortKeys := by
  cases j with
  | arr xs =>
      simp only [sortKeys, Json.arr.injEq]
      exact sortKeysList_sortKeys xs
  | obj fs =>
      have hsorted := List.pairwise_insertionSort keyLe (sortKeysFields fs)
      have hmap := List.map_insertionSort (s := keyLe) (r := keyLe) normal (sortKeysFields fs)
        fun _ _ _ _ => Iff.rfl
      have hinner : (sortKeysFields fs).map normal = sortKeysFields fs :=
        (sortKeysFields_eq_map _).symm.trans (sortKeysFields_sortKeys fs)
      rw [hinner] at hmap
      simp only [sortKeys, Json.obj.injEq]
      rw [sortKeysFields_eq_map]
      exact (congrArg (List.insertionSort keyLe) hmap).trans hsorted.insertionSort_eq
  | null | bool | int | float | str | time => rfl

theorem sortKeysList_sortKeys (xs : List Json) :
    sortKeysList (sortKeysList xs) = sortKeysList xs := by
  cases xs with
  | nil => rfl
  | cons x xs =>
      simp only [sortKeysList]
      rw [sortKeys_sortKeys x, sortKeysList_sortKeys xs]

theorem sortKeysFields_sortKeys (fs : List (String × Json)) :
    sortKeysFields (sortKeysFields fs) = sortKeysFields fs := by
  cases fs with
  | nil => rfl
  | cons f fs =>
      obtain ⟨k, v⟩ := f
      simp only [sortKeysFields]
      rw [sortKeys_sortKeys v, sortKeysFields_sortKeys fs]

end

theorem same_sortKeys (j : Json) : Same j.sortKeys j := sortKeys_sortKeys j

theorem allFiniteFields_eq_all (fs : List (String × Json)) :
    allFiniteFields fs = fs.all fun f => f.2.allFinite := by
  induction fs with
  | nil => rfl
  | cons f fs ih =>
      obtain ⟨k, v⟩ := f
      rw [allFiniteFields, ih]
      rfl

mutual

/-- Sorting changes no float. -/
theorem allFinite_sortKeys (j : Json) : j.sortKeys.allFinite = j.allFinite := by
  cases j with
  | arr xs =>
      simp only [sortKeys, allFinite]
      exact allFiniteList_sortKeys xs
  | obj fs =>
      simp only [sortKeys, allFinite]
      rw [allFiniteFields_eq_all, (List.perm_insertionSort keyLe _).all_eq,
        ← allFiniteFields_eq_all]
      exact allFiniteFields_sortKeys fs
  | null | bool | int | float | str | time => rfl

theorem allFiniteList_sortKeys (xs : List Json) :
    allFiniteList (sortKeysList xs) = allFiniteList xs := by
  cases xs with
  | nil => rfl
  | cons x xs =>
      simp only [sortKeysList, allFiniteList]
      rw [allFinite_sortKeys x, allFiniteList_sortKeys xs]

theorem allFiniteFields_sortKeys (fs : List (String × Json)) :
    allFiniteFields (sortKeysFields fs) = allFiniteFields fs := by
  cases fs with
  | nil => rfl
  | cons f fs =>
      obtain ⟨k, v⟩ := f
      simp only [sortKeysFields, allFiniteFields]
      rw [allFinite_sortKeys v, allFiniteFields_sortKeys fs]

end

theorem allFinite_of_same {j k : Json} (h : Same j k) : j.allFinite = k.allFinite := by
  rw [← allFinite_sortKeys j, h, allFinite_sortKeys k]

/-! ## Members -/

/-- `fields.get(name)`. -/
def member (fields : List (String × Json)) (name : String) : Option Json :=
  (fields.find? fun f => f.1 == name).map Prod.snd

theorem member_of_mem {fs : List (String × Json)} (hnodup : (fs.map Prod.fst).Nodup)
    {name : String} {v : Json} (h : (name, v) ∈ fs) : member fs name = some v := by
  have hsome : ((fs.find? fun f => f.1 == name).isSome) = true :=
    List.find?_isSome.2 ⟨_, h, by simp⟩
  obtain ⟨f, hf⟩ := Option.isSome_iff_exists.1 hsome
  have hname : f.1 = name := by simpa using List.find?_some hf
  have hsame := List.inj_on_of_nodup_map hnodup (List.mem_of_find?_eq_some hf) h hname
  rw [member, hf, hsame]
  rfl

theorem member_eq_none {fs : List (String × Json)} {name : String}
    (h : name ∉ fs.map Prod.fst) : member fs name = none := by
  rw [member, Option.map_eq_none_iff, List.find?_eq_none]
  intro f hf hname
  exact h (List.mem_map.2 ⟨f, hf, by simpa using hname⟩)

section Received

variable {fs gs : List (String × Json)} (hperm : (fs.map normal).Perm (gs.map normal))
include hperm

/-- The names are the ones that were written. -/
theorem names_perm : (fs.map Prod.fst).Perm (gs.map Prod.fst) := by
  rw [← map_fst_normal fs, ← map_fst_normal gs]
  exact hperm.map Prod.fst

/-- A member that was written is read. -/
theorem member_of_same (hnodup : (gs.map Prod.fst).Nodup) {name : String} {v : Json}
    (h : (name, v) ∈ gs) : ∃ w, member fs name = some w ∧ Same w v := by
  have hmem : normal (name, v) ∈ fs.map normal :=
    hperm.mem_iff.2 (List.mem_map_of_mem (f := normal) h)
  obtain ⟨⟨k, w⟩, hw, heq⟩ := List.mem_map.1 hmem
  obtain ⟨rfl, hsame⟩ := Prod.mk.inj heq
  have hnodup' : (fs.map Prod.fst).Nodup := (names_perm hperm).nodup_iff.2 hnodup
  exact ⟨w, member_of_mem hnodup' hw, hsame⟩

/-- A text is read as it is. -/
theorem member_str_of_same (hnodup : (gs.map Prod.fst).Nodup) {name s : String}
    (h : (name, .str s) ∈ gs) : member fs name = some (.str s) := by
  obtain ⟨w, hw, hsame⟩ := member_of_same hperm hnodup h
  rw [hw, same_str.1 hsame]

/-- Nothing else is. -/
theorem member_of_notMem {name : String} (h : name ∉ gs.map Prod.fst) :
    member fs name = none :=
  member_eq_none fun hmem => h ((names_perm hperm).mem_iff.1 hmem)

end Received

/-! ## Field types -/

/-- The error of a model that names the field it refuses. -/
def validationError (field : String) : PyError := ⟨.other "ValidationError", field⟩

/-- A field of type `str`. -/
def readStr (fields : List (String × Json)) (name : String) : Except PyError String :=
  match member fields name with
  | some (.str s) => .ok s
  | _ => .error (validationError name)

/-- A field of type `str` with a pattern or a validator. -/
def readStrWith (check : String → Bool) (fields : List (String × Json)) (name : String) :
    Except PyError String :=
  match member fields name with
  | some (.str s) => if check s then .ok s else .error (validationError name)
  | _ => .error (validationError name)

/-- A field of type `int` with `strict=True`. -/
def readStrictInt (fields : List (String × Json)) (name : String) : Except PyError ℤ :=
  match member fields name with
  | some (.int n) => .ok n
  | _ => .error (validationError name)

/-- A field of type `bool` with `strict=True`. -/
def readStrictBool (fields : List (String × Json)) (name : String) : Except PyError Bool :=
  match member fields name with
  | some (.bool b) => .ok b
  | _ => .error (validationError name)

/-- `schema_version: Literal["1.0"] = "1.0"`. -/
def readVersion (fields : List (String × Json)) : Except PyError Unit :=
  match member fields "schema_version" with
  | none | some (.str "1.0") => .ok ()
  | some _ => .error (validationError "schema_version")

/-- A field of type `SignalValue`: of the four alternatives the one whose type the
value already has. -/
def readSignalValue (fields : List (String × Json)) (name : String) :
    Except PyError SignalValue :=
  match member fields name with
  | some (.float x) => .ok (.float x)
  | some (.int n) => .ok (.int n)
  | some (.bool b) => .ok (.bool b)
  | some (.str s) => .ok (.str s)
  | _ => .error (validationError name)

/-- A field of type `SignalValueType`. -/
def readSignalValueType (fields : List (String × Json)) (name : String) :
    Except PyError SignalValueType :=
  match member fields name with
  | some (.str "double") => .ok .double
  | some (.str "int64") => .ok .int64
  | some (.str "bool") => .ok .bool
  | some (.str "string") => .ok .string
  | _ => .error (validationError name)

/-- `extra="forbid"`. -/
def forbidExtra (fields : List (String × Json)) (names : List String) : Except PyError Unit :=
  match fields.find? fun f => f.1 ∉ names with
  | none => .ok ()
  | some f => .error (validationError f.1)

section Readers

variable {fields : List (String × Json)} {name : String}

theorem readStr_eq_ok {s : String} :
    readStr fields name = .ok s ↔ member fields name = some (.str s) := by
  unfold readStr
  split
  · next t ht =>
      rw [ht, Except.ok.injEq, Option.some.injEq, Json.str.injEq]
  · next hnot => exact iff_of_false nofun (hnot s)

theorem readStrWith_eq_ok {check : String → Bool} {s : String} :
    readStrWith check fields name = .ok s ↔
      member fields name = some (.str s) ∧ check s = true := by
  unfold readStrWith
  split
  · next t ht =>
      rw [ht]
      by_cases hcheck : check t = true
      · simp only [hcheck, if_true, Except.ok.injEq, Option.some.injEq, Json.str.injEq]
        exact ⟨fun h => ⟨h, h ▸ hcheck⟩, And.left⟩
      · simp only [hcheck, Bool.false_eq_true, if_false, reduceCtorEq, Option.some.injEq,
          Json.str.injEq, false_iff]
        rintro ⟨rfl, h⟩
        exact hcheck h
  · next hnot =>
      constructor
      · intro h
        cases h
      · rintro ⟨h, -⟩
        exact absurd h (hnot s)

theorem readSignalValue_ofSignalValue {v : SignalValue}
    (h : member fields name = some (ofSignalValue v)) :
    readSignalValue fields name = .ok v := by
  cases v <;> simp [readSignalValue, h, ofSignalValue]

theorem readSignalValueType_name {t : SignalValueType}
    (h : member fields name = some (.str t.name)) :
    readSignalValueType fields name = .ok t := by
  cases t <;> simp [readSignalValueType, h, SignalValueType.name]

theorem forbidExtra_eq_ok {names : List String} :
    forbidExtra fields names = .ok () ↔ ∀ k ∈ fields.map Prod.fst, k ∈ names := by
  unfold forbidExtra
  constructor
  · intro h k hk
    obtain ⟨f, hf, rfl⟩ := List.mem_map.1 hk
    by_contra hnot
    cases hfind : fields.find? fun f => f.1 ∉ names with
    | none =>
        have hall := List.find?_eq_none.1 hfind f hf
        simp [hnot] at hall
    | some g =>
        rw [hfind] at h
        cases h
  · intro h
    have hnone : fields.find? (fun f => f.1 ∉ names) = none := by
      rw [List.find?_eq_none]
      intro f hf
      simpa using h f.1 (List.mem_map_of_mem hf)
    rw [hnone]

end Readers

end Json

/-! ## Times as text -/

/-- `isoformat`, as models write times into JSON, and the reader of a `datetime`
field, which takes numbers as well. -/
structure DatetimeText where
  isoformat : Datetime → String
  parse : Json → Except PyError Datetime

namespace DatetimeText

/-- A time that is written with its offset is read as that instant with an
offset. -/
def KeepsInstants (T : DatetimeText) : Prop :=
  ∀ d : AwareDatetime, ∃ e : AwareDatetime,
    T.parse (.str (T.isoformat (.aware d))) = .ok (.aware e) ∧
      e.instantMicros = d.instantMicros

/-- A field of type `AwareDatetime`. -/
def readAware (T : DatetimeText) (fields : List (String × Json)) (name : String) :
    Except PyError AwareDatetime :=
  match Json.member fields name with
  | none => .error (Json.validationError name)
  | some j =>
      match T.parse j with
      | .ok (.aware d) => .ok d
      | .ok (.naive _) => .error (Json.validationError name)
      | .error e => .error e

/-! ### The texts of a few times

A function that is `isoformat` on the times of a table and some other one-to-one
text elsewhere. -/

/-- A text without digits for any time. -/
def spelled (d : AwareDatetime) : String :=
  String.ofList (List.replicate (Encodable.encode (d.localMicros, d.utcoffset)) 'x')

def unspelled (s : String) : Except PyError Datetime :=
  match (Encodable.decode s.toList.length : Option (ℤ × ℤ)) with
  | some (localMicros, utcoffset) => .ok (.aware ⟨localMicros, utcoffset⟩)
  | none => .error (Json.validationError "datetime")

theorem unspelled_spelled (d : AwareDatetime) : unspelled (spelled d) = .ok (.aware d) := by
  have hdecode := Encodable.encodek (d.localMicros, d.utcoffset)
  simp only [unspelled, spelled, String.toList_ofList, List.length_replicate, hdecode]

def ofTable (table : List (AwareDatetime × String)) : DatetimeText where
  isoformat
    | .aware d => ((table.find? fun r => r.1 = d).map Prod.snd).getD (spelled d)
    | .naive _ => ""
  parse
    | .str s =>
        match table.find? fun r => r.2 = s with
        | some r => .ok (.aware r.1)
        | none => unspelled s
    | _ => .error (Json.validationError "datetime")

/-- A table of different texts, each with a digit two, is read back. -/
theorem ofTable_parse_isoformat {table : List (AwareDatetime × String)}
    (hback : ∀ r ∈ table, table.find? (fun q => q.2 = r.2) = some r)
    (hdigit : ∀ r ∈ table, '2' ∈ r.2.toList) (d : AwareDatetime) :
    (ofTable table).parse (.str ((ofTable table).isoformat (.aware d))) = .ok (.aware d) := by
  cases hd : table.find? fun r => r.1 = d with
  | some r =>
      have hfirst : r.1 = d := by simpa using List.find?_some hd
      simp [ofTable, hd, hback r (List.mem_of_find?_eq_some hd), hfirst]
  | none =>
      have hnone : table.find? (fun r => r.2 = spelled d) = none := by
        rw [List.find?_eq_none]
        intro r hr heq
        have hmem := hdigit r hr
        rw [of_decide_eq_true heq, spelled, String.toList_ofList] at hmem
        exact absurd (List.eq_of_mem_replicate hmem) (by decide)
      simp [ofTable, hd, hnone, unspelled_spelled]

theorem ofTable_keepsInstants {table : List (AwareDatetime × String)}
    (hback : ∀ r ∈ table, table.find? (fun q => q.2 = r.2) = some r)
    (hdigit : ∀ r ∈ table, '2' ∈ r.2.toList) : (ofTable table).KeepsInstants :=
  fun d => ⟨d, ofTable_parse_isoformat hback hdigit d, rfl⟩

end DatetimeText

end EirvahEdge.Contracts
