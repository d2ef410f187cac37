import ImageRecipe.Json.Printer
import ImageRecipe.Template.Expression

/-!
# Arithmetic of templates

Whole numbers stay whole as long as 64 bits suffice; everything else is computed with doubles.  A
quotient without a fraction is whole again.  A result that is no number is left out.

* `Number` : a number of a JSON tree
* `Number.apply` : an operation of arithmetic
* `remainder` : what is left of a double after taking away multiples of another
* `wholePart?` : the integer that a double is
-/

namespace ImageRecipe.Template

/-! ## Remainders of doubles -/

/-- A natural number times a power of two, as a double. -/
def scaled (n : Nat) (exponent : Int) : Float := (Float.ofScientific n false 0).scaleB exponent

/-- What is left of a double after taking away multiples of another; it has the sign of the first.
Both are put over a common power of two, where the remainder is exact. -/
def remainder (x y : Float) : Float :=
  match Decimal.decode x, Decimal.decode y with
  | .finite negative a, .finite _ b =>
    let exponent := min a.exponent b.exponent
    let left := a.mantissa * Nat.pow 2 (a.exponent - exponent).toNat
    let right := b.mantissa * Nat.pow 2 (b.exponent - exponent).toNat
    let rest := scaled (left % right) exponent
    if negative then -rest else rest
  | .finite _ _, .infinite _ | .zero _, .finite _ _ | .zero _, .infinite _ => x
  | _, _ => 0 / 0

/-! ## Doubles without a fraction -/

/-- The natural number `mantissa * 2 ^ exponent`, if it is one. -/
def wholeMagnitude? (b : Decimal.Binary) : Option Nat :=
  if 0 ≤ b.exponent then some (b.mantissa * Nat.pow 2 b.exponent.toNat)
  else
    let unit := Nat.pow 2 (-b.exponent).toNat
    if b.mantissa % unit = 0 then some (b.mantissa / unit) else none

/-- The integer that a double is, if it has no fraction. -/
def wholePart? (x : Float) : Option Int :=
  match Decimal.decode x with
  | .zero _ => some 0
  | .finite negative magnitude =>
    (wholeMagnitude? magnitude).map fun n => if negative then -(n : Int) else n
  | .nan | .infinite _ => none

/-! ## Numbers -/

/-- A number of a JSON tree. -/
inductive Number where
  | whole (n : Whole)
  | real (x : Json.Real)

namespace Number

/-- The number of a tree, if it is one. -/
def ofJson? : Json → Option Number
  | .whole n => some (.whole n)
  | .real x => some (.real x)
  | _ => none

/-- The number as a tree. -/
def toJson : Number → Json
  | .whole n => .whole n
  | .real x => .real x

/-- An integer as a number, if 64 bits suffice. -/
def ofInt? (n : Int) : Option Number := (Whole.ofInt? n).map .whole

/-- A double as a number, unless it is none. -/
def ofFloat? (x : Float) : Option Number :=
  if h : Decimal.isFinite x = true then some (.real ⟨x, h⟩) else none

/-- The signed number of 64 bits that is nearest to an integer. -/
def ofClamped (n : Int) : Number :=
  .whole ⟨max (-9223372036854775808) (min n 9223372036854775807), by omega, by omega⟩

/-- The double nearest to the number. -/
def toFloat : Number → Float
  | .whole n =>
    let magnitude := Float.ofScientific n.value.natAbs false 0
    if n.value < 0 then -magnitude else magnitude
  | .real x => x.value

/-- The number is not zero. -/
def isTruthy : Number → Bool
  | .whole n => n.value ≠ 0
  | .real x => x.value != 0

end Number

/-! ## Operations -/

/-- Why an operation has no result that could be told. -/
inductive ArithmeticFault where
  /-- The result of an operation on whole numbers needs more than 64 bits. -/
  | outOfBounds (left : Int) (sign : String) (right : Int) (signed : Bool)
  /-- A whole number was to be divided by zero. -/
  | moduloByZero
  deriving DecidableEq, Repr

/-- A result on whole numbers, if the words of both operands can hold it. -/
def wholeResult (sign : String) (left right : Whole) (result : Int) :
    Except ArithmeticFault (Option Number) :=
  let signed : Bool := left.value < 9223372036854775808 && right.value < 9223372036854775808
  let fits : Bool :=
    if signed then -9223372036854775808 ≤ result && result < 9223372036854775808
    else 0 ≤ result && result < 18446744073709551616
  if fits then .ok (Number.ofInt? result)
  else .error (.outOfBounds left.value sign right.value signed)

/-- Two whole numbers have a word in common that holds them both. -/
def shareWord (left right : Whole) : Bool :=
  (left.value < 9223372036854775808 && right.value < 9223372036854775808) ||
    (0 ≤ left.value && 0 ≤ right.value)

/-- A quotient of doubles: a signed number of 64 bits if it has no fraction, and nothing if it is no
number. -/
def quotient (x y : Float) : Option Number :=
  match wholePart? (x / y) with
  | some n => some (.ofClamped n)
  | none => Number.ofFloat? (x / y)

/-- An operation of arithmetic; nothing if the result is no number. -/
def Number.apply (op : Arithmetic) (left right : Number) :
    Except ArithmeticFault (Option Number) :=
  let onFloats (f : Float → Float → Float) : Except ArithmeticFault (Option Number) :=
    .ok (Number.ofFloat? (f left.toFloat right.toFloat))
  match op, left, right with
  | .div, _, _ => .ok (quotient left.toFloat right.toFloat)
  | .add, .whole a, .whole b =>
    if shareWord a b then wholeResult "+" a b (a.value + b.value) else onFloats (· + ·)
  | .sub, .whole a, .whole b =>
    if shareWord a b then wholeResult "-" a b (a.value - b.value) else onFloats (· - ·)
  | .mul, .whole a, .whole b =>
    if shareWord a b then wholeResult "x" a b (a.value * b.value) else onFloats (· * ·)
  | .mod, .whole a, .whole b =>
    if shareWord a b then
      if b.value = 0 then .error .moduloByZero
      else .ok (Number.ofInt? (a.value.tmod b.value))
    else onFloats remainder
  | .add, _, _ => onFloats (· + ·)
  | .sub, _, _ => onFloats (· - ·)
  | .mul, _, _ => onFloats (· * ·)
  | .mod, _, _ => onFloats remainder

end ImageRecipe.Template
