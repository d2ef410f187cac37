/-!
# Shortest decimal digits

Of all decimals that read back as a given binary double, the ones with the fewest digits, and of
those the nearest.  All arithmetic is exact, on naturals.

* `Binary` : a positive finite double as `mantissa * 2 ^ exponent`
* `Grid` : multiples of a power of ten, on which candidates lie
* `Digits` : the answer, `value * 10 ^ exponent`
* `shortest` : the first grid, from coarse to fine, that has a candidate inside the interval of
  reals that round to the double
-/

namespace ImageRecipe.Decimal

/-- A positive finite double, `mantissa * 2 ^ exponent`; `lowGap` tells that the next smaller
double is only half as far away as the next larger one. -/
structure Binary where
  mantissa : Nat
  exponent : Int
  lowGap : Bool
  deriving DecidableEq, Repr

/-- A decimal, `value * 10 ^ exponent`. -/
structure Digits where
  value : Nat
  exponent : Int
  deriving DecidableEq, Repr

/-- Which of two equally near decimals is taken. -/
inductive Tie where
  | up
  | toEven
  deriving DecidableEq, Repr

/-- What the bits of a double say. -/
inductive Decoded where
  | nan
  | infinite (negative : Bool)
  | zero (negative : Bool)
  | finite (negative : Bool) (magnitude : Binary)
  deriving DecidableEq, Repr

/-- Sign, exponent and fraction fields of a double. -/
def decodeBits (bits : Nat) : Decoded :=
  let negative : Bool := bits / 9223372036854775808 % 2 = 1
  let field : Nat := bits / 4503599627370496 % 2048
  let fraction : Nat := bits % 4503599627370496
  if field = 2047 then if fraction = 0 then .infinite negative else .nan
  else if field = 0 then
    if fraction = 0 then .zero negative else .finite negative ⟨fraction, -1074, false⟩
  else
    .finite negative
      ⟨4503599627370496 + fraction, (field : Int) - 1075, fraction = 0 && 1 < field⟩

/-- What the bits of a double say. -/
def decode (x : Float) : Decoded := decodeBits x.toBits.toNat

/-- The double stands for a number. -/
def isFinite (x : Float) : Bool :=
  match decode x with
  | .zero _ | .finite _ _ => true
  | .nan | .infinite _ => false

/-! ## The interval that rounds to a double -/

/-- A double scaled by four and put over a common denominator: `low < 4 * value < high`, all over
`scale`, are the ends of the reals that round to it. -/
structure Interval where
  low : Nat
  value : Nat
  high : Nat
  scale : Nat
  closed : Bool

/-- The ends lie half way to the neighbours and belong to the interval iff the mantissa is even. -/
def Binary.interval (b : Binary) : Interval :=
  let up := Nat.pow 2 b.exponent.toNat
  let down := Nat.pow 2 (-b.exponent).toNat
  { low := (4 * b.mantissa - (if b.lowGap then 1 else 2)) * up
    value := 4 * b.mantissa * up
    high := (4 * b.mantissa + 2) * up
    scale := 4 * down
    closed := b.mantissa % 2 = 0 }

/-- The decimal `digits * 10 ^ power` rounds to the double. -/
def Interval.holds (i : Interval) (digits : Nat) (power : Int) : Bool :=
  let point := digits * Nat.pow 10 power.toNat * i.scale
  let low := i.low * Nat.pow 10 (-power).toNat
  let high := i.high * Nat.pow 10 (-power).toNat
  if i.closed then low ≤ point && point ≤ high else low < point && point < high

/-- The multiple of `10 ^ power` next below the double, and twice what remains above it, as a
fraction of the grid's step: `(digits, 2 * rest, step)`. -/
def Interval.floorOn (i : Interval) (power : Int) : Nat × Nat × Nat :=
  let numerator := i.value * Nat.pow 10 (-power).toNat
  let step := i.scale * Nat.pow 10 power.toNat
  (numerator / step, 2 * (numerator % step), step)

/-- The candidate of one grid: of the double's two neighbours there, the one inside the interval,
or the nearer one if both are. -/
def Interval.candidate? (i : Interval) (tie : Tie) (power : Int) : Option Nat :=
  let (below, twiceRest, step) := i.floorOn power
  match i.holds below power && below != 0, i.holds (below + 1) power with
  | true, true =>
    if twiceRest < step then some below
    else if step < twiceRest then some (below + 1)
    else match tie with
      | .up => some (below + 1)
      | .toEven => some (if below % 2 = 0 then below else below + 1)
  | true, false => some below
  | false, true => some (below + 1)
  | false, false => none

/-- The candidate of the coarsest of `count` grids, each ten times finer than the one before. -/
def Interval.search (i : Interval) (tie : Tie) : Nat → Int → Digits
  | 0, power => ⟨(i.floorOn power).1, power⟩
  | count + 1, power =>
    match i.candidate? tie power with
    | some digits => ⟨digits, power⟩
    | none => search i tie count (power - 1)

/-- An integer `e` with `value < 10 ^ e`, at most two too large: three tenths of a binary digit
make a decimal one. -/
def Binary.decimalCeiling (b : Binary) : Int :=
  ((b.mantissa.log2 : Int) + 1 + b.exponent) * 30103 / 100000 + 2

/-- The shortest decimal that reads back, nearest to the double. -/
def shortest (tie : Tie) (b : Binary) : Digits :=
  b.interval.search tie 22 b.decimalCeiling

end ImageRecipe.Decimal
