import EirvahEdge.Lib.PyFloat

/-!
# Doubles in arithmetic and as text

Multiplication, addition and comparison of doubles with their infinities, NaNs and
signed zeros; the decimal that `str` prints for a double; the double that `float` reads
from a text; and the `Decimal` numbers of 28 digits.

A decimal is kept as the rational it denotes.
-/

namespace EirvahEdge.Lib

namespace PyFloat

/-! ## Arithmetic -/

/-- The sign bit. -/
def isNegative : PyFloat → Bool
  | .finite q => decide (q < 0)
  | .negZero => true
  | .inf negative => negative
  | .nan => false

/-- Rounding of a result with this sign; a result that vanishes is a signed zero. -/
def ofRatSigned (negative : Bool) (q : ℚ) : PyFloat :=
  if nearest q = 0 ∧ negative then .negZero else ofRat q

/-- `-x`. -/
def neg : PyFloat → PyFloat
  | .finite q => if q = 0 then .negZero else .finite (-q)
  | .negZero => .finite 0
  | .inf negative => .inf !negative
  | .nan => .nan

/-- `x * y`. -/
def mul (x y : PyFloat) : PyFloat :=
  match x, y with
  | .nan, _ | _, .nan => .nan
  | .inf _, y => if y.toRat? = some 0 then .nan else .inf (x.isNegative ^^ y.isNegative)
  | x, .inf _ => if x.toRat? = some 0 then .nan else .inf (x.isNegative ^^ y.isNegative)
  | x, y => ofRatSigned (x.isNegative ^^ y.isNegative) (x.toRat?.getD 0 * y.toRat?.getD 0)

/-- `x + y`: a sum of zero is negative only of two negative zeros. -/
def add (x y : PyFloat) : PyFloat :=
  match x, y with
  | .nan, _ | _, .nan => .nan
  | .inf a, .inf b => if a = b then .inf a else .nan
  | .inf a, _ => .inf a
  | _, .inf b => .inf b
  | .negZero, .negZero => .negZero
  | x, y => ofRat (x.toRat?.getD 0 + y.toRat?.getD 0)

/-- `x - y`. -/
def sub (x y : PyFloat) : PyFloat := x.add y.neg

/-- `x < y`. -/
def lt (x y : PyFloat) : Bool := x.le y && !y.le x

/-- `max(x, y)`: the first one unless the second is greater. -/
def pyMax (x y : PyFloat) : PyFloat := if x.lt y then y else x

/-- `min(x, y)`. -/
def pyMin (x y : PyFloat) : PyFloat := if y.lt x then y else x

/-! ## The decimal that is printed -/

/-- A decimal of so many digits next to `q` that reads as `q`: of the two neighbours the
nearer one, of two equally near the even one. -/
def decimalOf (q : ℚ) (digits : ℕ) : Option ℚ :=
  let unit : ℚ := 10 ^ (Int.log 10 |q| - (digits - 1 : ℤ))
  let low := ⌊q / unit⌋ * unit
  let high := (⌊q / unit⌋ + 1) * unit
  if nearest low = q ∧ nearest high = q then
    if q - low < high - q ∨ (q - low = high - q ∧ ⌊q / unit⌋ % 2 = 0) then some low else some high
  else if nearest low = q then some low
  else if nearest high = q then some high
  else none

/-- The decimal that `str` prints: of the decimals that read as `q` one with the fewest
digits.  Seventeen are always enough. -/
def printed (q : ℚ) : ℚ :=
  if q = 0 then 0 else ((List.range' 1 17).findSome? (decimalOf q)).getD q

end PyFloat

/-! ## Decimals of 28 digits -/

namespace Decimal

/-- Rounding to the 28 digits of the default context, ties to even. -/
def round (q : ℚ) : ℚ :=
  if q = 0 then 0
  else
    let unit : ℚ := 10 ^ (Int.log 10 |q| - 27)
    PyFloat.roundHalfEven (q / unit) * unit

/-- `x / y`. -/
def div (x y : ℚ) : ℚ := round (x / y)

/-- `x * y`. -/
def mul (x y : ℚ) : ℚ := round (x * y)

end Decimal

/-! ## The double that is read -/

namespace FloatText

/-- The code points of the decimal digits zero; nine more digits follow each. -/
def zeros : List ℕ :=
  [0x30, 0x660, 0x6F0, 0x7C0, 0x966, 0x9E6, 0xA66, 0xAE6, 0xB66, 0xBE6, 0xC66, 0xCE6, 0xD66,
    0xDE6, 0xE50, 0xED0, 0xF20, 0x1040, 0x1090, 0x17E0, 0x1810, 0x1946, 0x19D0, 0x1A80, 0x1A90,
    0x1B50, 0x1BB0, 0x1C40, 0x1C50, 0xA620, 0xA8D0, 0xA900, 0xA9D0, 0xA9F0, 0xAA50, 0xABF0,
    0xFF10, 0x104A0, 0x10D30, 0x11066, 0x110F0, 0x11136, 0x111D0, 0x112F0, 0x11450, 0x114D0,
    0x11650, 0x116C0, 0x11730, 0x118E0, 0x11950, 0x11C50, 0x11D50, 0x11DA0, 0x11F50, 0x16A60,
    0x16AC0, 0x16B50, 0x1D7CE, 0x1D7D8, 0x1D7E2, 0x1D7EC, 0x1D7F6, 0x1E140, 0x1E2F0, 0x1E4F0,
    0x1E950, 0x1FBF0]

/-- The value of a decimal digit. -/
def digit? (c : Char) : Option ℕ :=
  (zeros.find? fun z => z ≤ c.toNat ∧ c.toNat < z + 10).map fun z => c.toNat - z

def isDigit (c : Char) : Bool := (digit? c).isSome

/-- The white space that may stand around a number. -/
def isSpace (c : Char) : Bool :=
  let n := c.toNat
  decide ((9 ≤ n ∧ n ≤ 13) ∨ n = 0x20 ∨ n = 0x85 ∨ n = 0xA0 ∨ n = 0x1680 ∨
    (0x2000 ≤ n ∧ n ≤ 0x200A) ∨ n = 0x2028 ∨ n = 0x2029 ∨ n = 0x202F ∨ n = 0x205F ∨ n = 0x3000)

def strip (cs : List Char) : List Char :=
  ((cs.dropWhile isSpace).reverse.dropWhile isSpace).reverse

/-- The text without its underscores, each of which stands between two digits. -/
def dropUnderscores : (afterDigit : Bool) → List Char → Option (List Char)
  | _, [] => some []
  | afterDigit, '_' :: cs =>
      if afterDigit ∧ (cs.head?.any isDigit) then dropUnderscores false cs else none
  | _, c :: cs => (dropUnderscores (isDigit c) cs).map (c :: ·)

/-- The sign of a number, and the text after it. -/
def takeSign : List Char → Bool × List Char
  | '-' :: cs => (true, cs)
  | '+' :: cs => (false, cs)
  | cs => (false, cs)

/-- The number that digits are the notation of. -/
def ofDigits (cs : List Char) : ℕ := cs.foldl (fun n c => 10 * n + (digit? c).getD 0) 0

/-- The exponent at the end of a number; nothing else may follow. -/
def exponent? : List Char → Option ℤ
  | [] => some 0
  | c :: cs =>
      let (negative, ds) := takeSign cs
      if (c = 'e' ∨ c = 'E') ∧ ds ≠ [] ∧ ds.all isDigit then
        some (if negative then -(ofDigits ds : ℤ) else ofDigits ds)
      else none

/-- A decimal number without a sign. -/
def number? (cs : List Char) : Option ℚ :=
  let whole := cs.takeWhile isDigit
  let rest := cs.dropWhile isDigit
  let fraction := match rest with
    | '.' :: ds => ds.takeWhile isDigit
    | _ => []
  let tail := match rest with
    | '.' :: ds => ds.dropWhile isDigit
    | _ => rest
  if whole ++ fraction = [] then none
  else
    (exponent? tail).map fun e =>
      (ofDigits (whole ++ fraction) : ℚ) * 10 ^ (e - (fraction.length : ℤ))

/-- A number, an infinity or a NaN without a sign. -/
def unsigned? (negative : Bool) (cs : List Char) : Option PyFloat :=
  let name := String.ofList (cs.map Char.toLower)
  if name = "inf" ∨ name = "infinity" then some (.inf negative)
  else if name = "nan" then some .nan
  else (number? cs).map fun q => .ofRatSigned negative (if negative then -q else q)

end FloatText

/-- `float(text)`. -/
def PyFloat.ofText (text : String) : Option PyFloat :=
  match FloatText.dropUnderscores false (FloatText.strip text.toList) with
  | none => none
  | some cs =>
      let (negative, ds) := FloatText.takeSign cs
      FloatText.unsigned? negative ds

end EirvahEdge.Lib
