import EirvahEdge.Contracts.Value
import EirvahEdge.Lib.FloatText

/-!
# Engineering precision

The declared range of a measured quantity and the grid it is reported on.  A precision
that `check_range` refuses cannot be built.
-/

namespace EirvahEdge.Contracts

open EirvahEdge.Lib

/-- `Decimal(str(x))` of a finite `x`. -/
def decimalOfFloat (x : PyFloat) : ℚ := PyFloat.printed (x.toRat?.getD 0)

/-- The constraints of the fields of `EngineeringPrecision`. -/
def isPrecision (resolution minimum maximum encodingError : PyFloat) : Bool :=
  [resolution, minimum, maximum, encodingError].all PyFloat.isFinite &&
    (PyFloat.finite 0).lt resolution && (PyFloat.finite 0).le encodingError

/-- `check_range`. -/
def checkRange (resolution minimum maximum encodingError : PyFloat) : Except PyError Unit :=
  let step := decimalOfFloat resolution
  let onGrid (limit : PyFloat) : Bool :=
    let ratio := Decimal.div (decimalOfFloat limit) step
    decide (ratio = PyFloat.roundHalfEven ratio)
  if maximum.le minimum then .error (valueError "minimum must be below maximum")
  else if (PyFloat.ofRat (resolution.toRat?.getD 0 / 2)).le encodingError then
    .error (valueError "encoding error must be below half a resolution step")
  else if onGrid minimum && onGrid maximum then .ok ()
  else .error (valueError "range boundaries must lie on the resolution grid")

/-- `EngineeringPrecision`. -/
structure EngineeringPrecision where
  resolution : PyFloat
  minimum : PyFloat
  maximum : PyFloat
  encodingError : PyFloat := .finite 0
  fields_valid : isPrecision resolution minimum maximum encodingError = true
  range_valid : checkRange resolution minimum maximum encodingError = .ok ()
deriving DecidableEq

/-- `float(value)` of a value that is a number and no truth value, when it is finite. -/
def finiteNumber : SignalValue → Except PyError PyFloat
  | .float x =>
      if x.isFinite then .ok x
      else .error (valueError "engineering value must be a finite number")
  | .int n =>
      match PyFloat.ofInt n with
      | some x => .ok x
      | none => .error (valueError "engineering value must be a finite number")
  | .bool _ | .str _ => .error (valueError "engineering value must be a finite number")

/-- `normalize_measurement`. -/
def normalizeMeasurement (value : SignalValue) (policy : EngineeringPrecision) :
    Except PyError PyFloat := do
  let number ← finiteNumber value
  -- the guard is on the value before rounding
  if number.lt (policy.minimum.sub policy.encodingError) ||
      (policy.maximum.add policy.encodingError).lt number then
    .error (valueError "engineering value outside declared range")
  else
    let bounded := PyFloat.pyMin policy.maximum (PyFloat.pyMax policy.minimum number)
    let step := decimalOfFloat policy.resolution
    let steps := PyFloat.roundHalfEven (Decimal.div (decimalOfFloat bounded) step)
    return .ofRatSigned bounded.isNegative (Decimal.mul steps step)

end EirvahEdge.Contracts
