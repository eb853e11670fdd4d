import EirvahEdge.Lib.PyFloat
import Mathlib.Data.List.Sort

/-!
# Values that cross process boundaries

The Python values the services exchange and store: exceptions, times, signal
values and JSON.

Times are kept the way `datetime` keeps them, as local microseconds with an
optional offset from UTC, so that two spellings of one instant stay two values
and `timestamp` says when they agree.  Everything that only compares instants
works on `timestamp : ℚ`, in seconds, and reads clocks as rationals; the
floating-point seconds of `time.time()` are rationals too.  Code that calls
`timestamp()` or `total_seconds()` and compares the float it gets is modelled
with `roundedTimestamp` and `totalSeconds`.

A JSON text is represented by the value it encodes.  `Json.sortKeys` is the
normal form `json.dumps(..., sort_keys=True)` prints, and `Json.time` is the
JSON string holding `isoformat()` of a time.
-/

namespace EirvahEdge.Contracts

open EirvahEdge.Lib

/-! ## Exceptions -/

/-- The exception classes the services raise, catch or report. -/
inductive ErrorKind where
  | valueError
  | typeError
  | runtimeError
  | overflowError
  | connectionError
  | timeoutError
  | sqliteError
  | other (name : String)
deriving DecidableEq, Repr

/-- `type(exc).__name__`. -/
def ErrorKind.name : ErrorKind → String
  | .valueError => "ValueError"
  | .typeError => "TypeError"
  | .runtimeError => "RuntimeError"
  | .overflowError => "OverflowError"
  | .connectionError => "ConnectionError"
  | .timeoutError => "TimeoutError"
  | .sqliteError => "OperationalError"
  | .other name => name

/-- A raised exception. -/
structure PyError where
  kind : ErrorKind
  message : String
deriving DecidableEq, Repr

/-- `isinstance(exc, RuntimeError)`. -/
def PyError.isRuntimeError (e : PyError) : Bool := e.kind == .runtimeError

def valueError (message : String) : PyError := ⟨.valueError, message⟩

def runtimeError (message : String) : PyError := ⟨.runtimeError, message⟩

/-! ## Times -/

/-- A timezone-aware `datetime`: local wall-clock microseconds since the epoch
and the offset from UTC in seconds. -/
structure AwareDatetime where
  localMicros : ℤ
  utcoffset : ℤ
deriving DecidableEq, Repr

/-- A `datetime`, with or without an offset. -/
inductive Datetime where
  | aware (at' : AwareDatetime)
  | naive (localMicros : ℤ)
deriving DecidableEq, Repr

namespace AwareDatetime

/-- Microseconds since the epoch in UTC. -/
def instantMicros (d : AwareDatetime) : ℤ := d.localMicros - 1000000 * d.utcoffset

/-- Seconds since the epoch. -/
def timestamp (d : AwareDatetime) : ℚ := d.instantMicros / 1000000

/-- `d.timestamp()` in the arithmetic `R`. -/
def roundedTimestamp (R : Rounding) (d : AwareDatetime) : ℚ := R.round d.timestamp

/-- `(d - e).total_seconds()` in the arithmetic `R`: the microseconds of the
difference are exact, and one division follows. -/
def totalSeconds (R : Rounding) (d e : AwareDatetime) : ℚ :=
  R.round (d.timestamp - e.timestamp)

/-- The instant of so many microseconds, in UTC. -/
def ofMicros (micros : ℤ) : AwareDatetime := ⟨micros, 0⟩

/-- `datetime.min` and `datetime.max` in microseconds. -/
def minMicros : ℤ := -62135596800000000

def maxMicros : ℤ := 253402300799999999

/-- `astimezone(UTC)`: the same instant, refused outside the years 1 to
9999. -/
def astimezoneUtc (d : AwareDatetime) : Except PyError AwareDatetime :=
  if minMicros ≤ d.instantMicros ∧ d.instantMicros ≤ maxMicros then
    .ok (ofMicros d.instantMicros)
  else .error ⟨.overflowError, "date value out of range"⟩

@[simp] theorem instantMicros_ofMicros (m : ℤ) :
    (ofMicros m).instantMicros = m := by
  simp [instantMicros, ofMicros]

/-- Two times are one instant exactly when their timestamps agree. -/
theorem timestamp_eq_iff {d e : AwareDatetime} :
    d.timestamp = e.timestamp ↔ d.instantMicros = e.instantMicros := by
  constructor
  · intro h
    have h' : (d.instantMicros : ℚ) = e.instantMicros :=
      (div_left_inj' (by norm_num)).1 h
    exact_mod_cast h'
  · intro h
    rw [timestamp, timestamp, h]

/-- The sign of a difference survives the rounding. -/
theorem totalSeconds_nonneg_iff {R : Rounding} {d e : AwareDatetime} :
    0 ≤ d.totalSeconds R e ↔ e.timestamp ≤ d.timestamp := by
  have hmicros : d.timestamp - e.timestamp =
      ((d.instantMicros - e.instantMicros : ℤ) : ℚ) / 1000000 := by
    rw [timestamp, timestamp, ← sub_div, Int.cast_sub]
  rw [totalSeconds, hmicros, R.round_micros_nonneg_iff, ← hmicros, sub_nonneg]

/-- Moving a time to UTC keeps the instant. -/
theorem astimezoneUtc_eq_ok {d e : AwareDatetime} (h : d.astimezoneUtc = .ok e) :
    e = ofMicros d.instantMicros := by
  unfold astimezoneUtc at h
  split at h
  · cases h
    rfl
  · cases h

theorem range_of_astimezoneUtc {d e : AwareDatetime} (h : d.astimezoneUtc = .ok e) :
    minMicros ≤ d.instantMicros ∧ d.instantMicros ≤ maxMicros := by
  unfold astimezoneUtc at h
  split at h
  · assumption
  · cases h

end AwareDatetime

/-- `d + timedelta(seconds=s)`. -/
def addSeconds (d : AwareDatetime) (s : ℚ) : Except PyError AwareDatetime :=
  let moved := d.localMicros + PyFloat.roundHalfEven (s * 1000000)
  if AwareDatetime.minMicros ≤ moved ∧ moved ≤ AwareDatetime.maxMicros then
    .ok ⟨moved, d.utcoffset⟩
  else .error ⟨.overflowError, "date value out of range"⟩

/-- `utcoffset() is not None`. -/
def Datetime.aware? : Datetime → Option AwareDatetime
  | .aware d => some d
  | .naive _ => none

/-! ## Signal values -/

/-- `SignalValueType`. -/
inductive SignalValueType where
  | double
  | int64
  | bool
  | string
deriving DecidableEq, Repr

def SignalValueType.name : SignalValueType → String
  | .double => "double"
  | .int64 => "int64"
  | .bool => "bool"
  | .string => "string"

theorem SignalValueType.name_injective {t u : SignalValueType}
    (h : t.name = u.name) : t = u := by
  cases t <;> cases u <;> simp_all [SignalValueType.name]

/-- `SignalValue = float | int | bool | str`. -/
inductive SignalValue where
  | float (x : PyFloat)
  | int (n : ℤ)
  | bool (b : Bool)
  | str (s : String)
deriving DecidableEq, Repr

/-- `float(value)`. -/
def toFloat : SignalValue → Except PyError PyFloat
  | .float x => .ok x
  | .bool b => .ok (.finite (if b then 1 else 0))
  | .int n =>
      match PyFloat.ofInt n with
      | some x => .ok x
      | none => .error ⟨.overflowError, "int too large to convert to float"⟩
  | .str s => .error (valueError ("could not convert string to float: " ++ s))

/-! ## JSON -/

/-- A JSON value; the members of an object are listed in insertion order. -/
inductive Json where
  | null
  | bool (b : Bool)
  | int (n : ℤ)
  | float (x : PyFloat)
  | str (s : String)
  | time (d : Datetime)
  | arr (xs : List Json)
  | obj (fields : List (String × Json))
deriving Repr

namespace Json

mutual

/-- Equality of JSON values can be decided. -/
def decEq : (a b : Json) → Decidable (a = b)
  | .null, .null => isTrue rfl
  | .bool a, .bool b => decidable_of_iff (a = b) (by simp)
  | .int a, .int b => decidable_of_iff (a = b) (by simp)
  | .float a, .float b => decidable_of_iff (a = b) (by simp)
  | .str a, .str b => decidable_of_iff (a = b) (by simp)
  | .time a, .time b => decidable_of_iff (a = b) (by simp)
  | .arr xs, .arr ys =>
      have := decEqList xs ys
      decidable_of_iff (xs = ys) (by simp)
  | .obj fs, .obj gs =>
      have := decEqFields fs gs
      decidable_of_iff (fs = gs) (by simp)
  | .null, .bool _ | .null, .int _ | .null, .float _ | .null, .str _
  | .null, .time _ | .null, .arr _ | .null, .obj _
  | .bool _, .null | .bool _, .int _ | .bool _, .float _ | .bool _, .str _
  | .bool _, .time _ | .bool _, .arr _ | .bool _, .obj _
  | .int _, .null | .int _, .bool _ | .int _, .float _ | .int _, .str _
  | .int _, .time _ | .int _, .arr _ | .int _, .obj _
  | .float _, .null | .float _, .bool _ | .float _, .int _ | .float _, .str _
  | .float _, .time _ | .float _, .arr _ | .float _, .obj _
  | .str _, .null | .str _, .bool _ | .str _, .int _ | .str _, .float _
  | .str _, .time _ | .str _, .arr _ | .str _, .obj _
  | .time _, .null | .time _, .bool _ | .time _, .int _ | .time _, .float _
  | .time _, .str _ | .time _, .arr _ | .time _, .obj _
  | .arr _, .null | .arr _, .bool _ | .arr _, .int _ | .arr _, .float _
  | .arr _, .str _ | .arr _, .time _ | .arr _, .obj _
  | .obj _, .null | .obj _, .bool _ | .obj _, .int _ | .obj _, .float _
  | .obj _, .str _ | .obj _, .time _ | .obj _, .arr _ => isFalse (by simp)

def decEqList : (xs ys : List Json) → Decidable (xs = ys)
  | [], [] => isTrue rfl
  | [], _ :: _ => isFalse (by simp)
  | _ :: _, [] => isFalse (by simp)
  | x :: xs, y :: ys =>
      have := decEq x y
      have := decEqList xs ys
      decidable_of_iff (x = y ∧ xs = ys) (by simp)

def decEqFields : (fs gs : List (String × Json)) → Decidable (fs = gs)
  | [], [] => isTrue rfl
  | [], _ :: _ => isFalse (by simp)
  | _ :: _, [] => isFalse (by simp)
  | (k, v) :: fs, (l, w) :: gs =>
      have := decEq v w
      have := decEqFields fs gs
      decidable_of_iff (k = l ∧ v = w ∧ fs = gs) (by simp [and_assoc])

end

instance : DecidableEq Json := decEq

/-- The order of the members of a sorted object: code points, as in Python. -/
def keyLe (f g : String × Json) : Prop := f.1 ≤ g.1

instance : DecidableRel keyLe := fun f g => inferInstanceAs (Decidable (f.1 ≤ g.1))

mutual

/-- The value with every object's members in key order (`sort_keys=True`). -/
def sortKeys : Json → Json
  | .arr xs => .arr (sortKeysList xs)
  | .obj fs => .obj ((sortKeysFields fs).insertionSort keyLe)
  | .null => .null
  | .bool b => .bool b
  | .int n => .int n
  | .float x => .float x
  | .str s => .str s
  | .time d => .time d

def sortKeysList : List Json → List Json
  | [] => []
  | x :: xs => sortKeys x :: sortKeysList xs

def sortKeysFields : List (String × Json) → List (String × Json)
  | [] => []
  | (k, v) :: fs => (k, sortKeys v) :: sortKeysFields fs

end

mutual

/-- No float in the value is infinite or a NaN (`allow_nan=False` accepts
it). -/
def allFinite : Json → Bool
  | .float x => x.isFinite
  | .arr xs => allFiniteList xs
  | .obj fs => allFiniteFields fs
  | .null | .bool _ | .int _ | .str _ | .time _ => true

def allFiniteList : List Json → Bool
  | [] => true
  | x :: xs => allFinite x && allFiniteList xs

def allFiniteFields : List (String × Json) → Bool
  | [] => true
  | (_, v) :: fs => allFinite v && allFiniteFields fs

end

theorem sortKeysFields_eq_map (fs : List (String × Json)) :
    sortKeysFields fs = fs.map fun f => (f.1, sortKeys f.2) := by
  induction fs with
  | nil => rfl
  | cons f fs ih =>
      obtain ⟨k, v⟩ := f
      simp [sortKeysFields, ih]

/-- `SignalValue` as the JSON value it serialises to. -/
def ofSignalValue : SignalValue → Json
  | .float x => .float x
  | .int n => .int n
  | .bool b => .bool b
  | .str s => .str s

theorem ofSignalValue_injective {v w : SignalValue}
    (h : ofSignalValue v = ofSignalValue w) : v = w := by
  cases v <;> cases w <;> simp_all [ofSignalValue]

theorem sortKeys_ofSignalValue (v : SignalValue) :
    (ofSignalValue v).sortKeys = ofSignalValue v := by
  cases v <;> rfl

/-- Two sorted objects are equal only when their members agree one by one,
whatever order they were written in. -/
theorem sortKeys_obj_eq {fs gs : List (String × Json)}
    (h : sortKeys (.obj fs) = sortKeys (.obj gs)) :
    (fs.map fun f => (f.1, sortKeys f.2)).Perm
      (gs.map fun f => (f.1, sortKeys f.2)) := by
  simp only [sortKeys, Json.obj.injEq, sortKeysFields_eq_map] at h
  have hfs := List.perm_insertionSort keyLe (fs.map fun f => (f.1, sortKeys f.2))
  have hgs := List.perm_insertionSort keyLe (gs.map fun f => (f.1, sortKeys f.2))
  rw [h] at hfs
  exact hfs.symm.trans hgs

end Json

end EirvahEdge.Contracts
