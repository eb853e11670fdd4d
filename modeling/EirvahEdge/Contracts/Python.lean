import EirvahEdge.Contracts.Sosa

/-!
# Decoded values in Python

A file that was read with `yaml.safe_load` or `json.loads` is used without a model of it in
a few places: its members are subscripted, iterated, compared and tested for truth, and a
value of another shape raises there.
-/

namespace EirvahEdge.Contracts

open EirvahEdge.Lib

namespace Json

/-- `value[name]`. -/
def subscript (value : Json) (name : String) : Except PyError Json :=
  match value with
  | .obj fields => item fields name
  | _ => .error (typeError "value is not subscriptable")

/-- `value[index]`. -/
def elementAt (value : Json) (index : ℕ) : Except PyError Json :=
  match value with
  | .arr xs =>
      match xs[index]? with
      | some x => .ok x
      | none => .error ⟨.other "IndexError", "list index out of range"⟩
  | .str s =>
      match s.toList[index]? with
      | some c => .ok (.str (String.singleton c))
      | none => .error ⟨.other "IndexError", "string index out of range"⟩
  | .obj _ => .error (keyError (toString index))
  | _ => .error (typeError "value is not subscriptable")

/-- What `for` goes through. -/
def iterate : Json → Except PyError (List Json)
  | .arr xs => .ok xs
  | .obj fields => .ok (fields.map fun f => .str f.1)
  | .str s => .ok (s.toList.map fun c => .str (String.singleton c))
  | _ => .error (typeError "object is not iterable")

/-- The number a scalar is compared as; an integer is not rounded. -/
def asNumber : Json → Option PyFloat
  | .bool b => some (.finite (if b then 1 else 0))
  | .int n => some (.finite n)
  | .float x => some x
  | _ => none

/-- `x <= y`, one of them a number. -/
def numberLe (x y : Json) : Except PyError Bool :=
  match x.asNumber, y.asNumber with
  | some x, some y => .ok (x.le y)
  | _, _ => .error (typeError "'<=' not supported between these types")

/-- `math.isfinite(value)`. -/
def isFiniteNumber : Json → Except PyError Bool
  | .bool _ => .ok true
  | .float x => .ok x.isFinite
  | .int n =>
      match PyFloat.ofInt n with
      | some _ => .ok true
      | none => .error ⟨.overflowError, "int too large to convert to float"⟩
  | _ => .error (typeError "must be real number")

/-- `bool(value)`. -/
def truthy : Json → Bool
  | .null => false
  | .bool b => b
  | .int n => n != 0
  | .float x => x.toRat? != some 0
  | .str s => s != ""
  | .time _ => true
  | .arr xs => !xs.isEmpty
  | .obj fields => !fields.isEmpty

/-- `type(value).__name__`. -/
def typeName : Json → String
  | .null => "NoneType"
  | .bool _ => "bool"
  | .int _ => "int"
  | .float _ => "float"
  | .str _ => "str"
  | .time _ => "datetime"
  | .arr _ => "list"
  | .obj _ => "dict"

theorem subscript_eq_ok {value v : Json} {name : String} :
    value.subscript name = .ok v ↔ ∃ fields, value = .obj fields ∧ member fields name = some v := by
  cases value with
  | obj fields => simp [subscript, item_eq_ok]
  | _ => simp [subscript]

end Json

end EirvahEdge.Contracts
