/-!
# Numbers in double precision

A finite double-precision number is a whole number of *ticks*, where one tick is
the least positive such number, `2 ^ (-1074)`. Of the binary digits of a number
of ticks no more than 53 count, so not every number of ticks occurs; an exact
result is rounded to the nearest one that does, and a tie goes to the one whose
last binary digit is zero. All of this is arithmetic of whole numbers.

What has too many ticks is infinite. This library asks of a number only whether
it is zero, and nothing that is computed from an infinite number is; so the
infinities and what is no number at all are one value here.

## Main definitions

* `Double` — the numbers.
* `Double.roundQuotient` — a quotient rounded to 53 binary digits.
* `Double.ofNat`, `Double.ofDecimal` — the number nearest to an exact one.
* `Double.times`, `Double.plus` — the rounded product and sum.
-/

namespace TraitDoc.Yaml

/-- A number in double precision. -/
inductive Double
  | finite (ticks : Int)
  /-- An infinity, or no number at all. -/
  | beyond
deriving DecidableEq, Repr

namespace Double

/-! ## Rounding -/

/-- The whole number nearest to `n / d`, the even one of two. -/
def nearest (n d : Nat) : Nat :=
  let q := n / d
  let r := 2 * (n % d)
  if r < d then q else if d < r then q + 1 else q + q % 2

/-- The number of binary digits that count. -/
def precision : Nat := 53

/-- The quotient `n / d` rounded to the binary digits that count. -/
def roundQuotient (n d : Nat) : Nat :=
  let unit := Nat.pow 2 (Nat.log2 (n / d) + 1 - precision)
  unit * nearest n (unit * d)

/-- The number of ticks in the number one. -/
def ticksOfOne : Nat := Nat.pow 2 1074

/-- The least number of ticks that is too large. -/
def ticksLimit : Nat := Nat.pow 2 2098

/-- The number of ticks nearest to `n / d`, with its sign. -/
def ofTicks (negative : Bool) (n d : Nat) : Double :=
  let ticks := roundQuotient n d
  if ticksLimit ≤ ticks then .beyond else .finite (if negative then -ticks else ticks)

/-! ## Reading and computing -/

/-- The number nearest to a whole one. -/
def ofNat (n : Nat) : Double := ofTicks false (n * ticksOfOne) 1

/-- The largest power of ten that is computed; a power further off leaves nothing but zero or an infinity. -/
def powerLimit : Nat := 400

/-- The number nearest to a whole number, of no more than so many digits, times a power of ten. -/
def ofDecimal (negative : Bool) (mantissa digits : Nat) (power : Int) : Double :=
  if mantissa = 0 then .finite 0
  else if (powerLimit : Int) < power then .beyond
  else if power + digits + powerLimit < 0 then .finite 0
  else if 0 ≤ power then ofTicks negative (mantissa * Nat.pow 10 power.toNat * ticksOfOne) 1
  else ofTicks negative (mantissa * ticksOfOne) (Nat.pow 10 (-power).toNat)

/-- The product. -/
def times : Double → Double → Double
  | .finite m, .finite n => ofTicks (m * n < 0) (m * n).natAbs ticksOfOne
  | _, _ => .beyond

/-- The sum. -/
def plus : Double → Double → Double
  | .finite m, .finite n => ofTicks (m + n < 0) (m + n).natAbs 1
  | _, _ => .beyond

/-- Whether the number is zero. -/
def isZero (x : Double) : Bool := x == .finite 0

end Double

end TraitDoc.Yaml
