/-!
# `Tether.Decimal.Binary64` — finite double-precision numbers

A finite IEEE 754 double is a sign, a significand below `2^53` and a power of two. Everything here is
exact arithmetic on natural numbers: `round` picks the double nearest to a quotient (ties to the even
significand), and products, quotients and the reading of a decimal numeral are one rounding each.

* `Binary64.round` — the nearest double of a quotient, `none` where it would be infinite;
* `Binary64.mul`, `Binary64.div` — correctly rounded product and quotient;
* `Binary64.scale10` — a whole number times a power of ten, rounded after each factor;
* `Binary64.nearest10` — the same, rounded once;
* `Binary64.floor` — the greatest integer not above a double;
* `Binary64.isFinite` — is a number a double at all?
-/

namespace Tether

/-- The number `(-1)^negative * significand * 2^exponent`. Doubles made by `Binary64.round` are
normal: the significand is below `2^53`, and at least `2^52` unless the exponent is `-1074`. -/
structure Binary64 where
  negative : Bool
  significand : Nat
  exponent : Int
  deriving DecidableEq, Repr, Inhabited

namespace Binary64

/-- The least significand of a normal double, `2^52`. -/
def hidden : Nat := 0x10000000000000

/-- The zero of a sign. -/
def zero (negative : Bool) : Binary64 := ⟨negative, 0, -1074⟩

/-- The quotient of two numbers, rounded to the nearest whole number, ties to even. -/
def roundQuotient (num den : Nat) : Nat :=
  let q := num / den
  let r := num % den
  if 2 * r < den then q
  else if den < 2 * r then q + 1
  else if q % 2 = 0 then q
  else q + 1

/-- `num / den` counted in units of `2^exponent`, as numerator and denominator. -/
def inUnits (num den : Nat) (exponent : Int) : Nat × Nat :=
  if 0 ≤ exponent then (num, den <<< exponent.toNat) else (num <<< (-exponent).toNat, den)

/-- The exponent at which the whole part of `num / den` has 53 binary digits, but not below the
least exponent of a double. -/
def unitExponent (num den : Nat) : Int :=
  let guess : Int := (Nat.log2 num : Int) - (Nat.log2 den : Int) - 52
  let (n, d) := inUnits num den guess
  let exponent := if n / d < hidden then guess - 1 else guess
  max exponent (-1074)

/-- The double nearest to `num / den`, ties to the even significand; `none` if that is infinite. -/
def round (negative : Bool) (num den : Nat) : Option Binary64 :=
  if num = 0 then some (zero negative)
  else
    let exponent := unitExponent num den
    let (n, d) := inUnits num den exponent
    let q := roundQuotient n d
    let (q, exponent) := if q = 2 * hidden then (hidden, exponent + 1) else (q, exponent)
    if 971 < exponent then none else some ⟨negative, q, exponent⟩

/-- The magnitude as a quotient of natural numbers. -/
def ratio (x : Binary64) : Nat × Nat :=
  if 0 ≤ x.exponent then (x.significand <<< x.exponent.toNat, 1)
  else (x.significand, 1 <<< (-x.exponent).toNat)

/-- The rounded product. -/
def mul (x y : Binary64) : Option Binary64 :=
  let (a, b) := x.ratio
  let (c, d) := y.ratio
  round (x.negative != y.negative) (a * c) (b * d)

/-- The rounded quotient; a zero divisor has none. -/
def div (x y : Binary64) : Option Binary64 :=
  let (a, b) := x.ratio
  let (c, d) := y.ratio
  if c = 0 then none else round (x.negative != y.negative) (a * d) (b * c)

/-- The double nearest to a natural number. -/
def ofNat (n : Nat) : Option Binary64 := round false n 1

/-- The double nearest to `10^n`. -/
def pow10 (n : Nat) : Option Binary64 := ofNat (Nat.pow 10 n)

/-- Divides by `10^308` until the exponent is within the table of powers, then by the rest.
A quotient that has become zero stays zero. -/
def shrink10 : (fuel : Nat) → Binary64 → Nat → Option Binary64
  | 0, x, _ => some (zero x.negative)
  | fuel + 1, x, n =>
    if n ≤ 308 then do x.div (← pow10 n)
    else if x.significand = 0 then some x
    else do shrink10 fuel (← x.div (← pow10 308)) (n - 308)

/-- `whole * 10^exponent` by the short route: the whole number is rounded, then multiplied with, or
divided by, a rounded power of ten. `none` where the result would be infinite. -/
def scale10 (negative : Bool) (whole : Nat) (exponent : Int) : Option Binary64 := do
  let x ← ofNat whole
  let y ←
    if 308 < exponent then (if x.significand = 0 then some x else none)
    else if 0 ≤ exponent then x.mul (← pow10 exponent.toNat)
    else shrink10 4 x (-exponent).toNat
  some { y with negative }

/-- The double nearest to `whole * 10^exponent`; `none` where that is infinite. Exponents so small
or so large that they decide the result are not expanded. -/
def nearest10 (negative : Bool) (whole : Nat) (exponent : Int) : Option Binary64 :=
  let size : Int := Nat.log2 whole
  if whole = 0 then some (zero negative)
  else if 400 < exponent then none
  else if exponent < -400 - size then some (zero negative)
  else if 0 ≤ exponent then round negative (whole * Nat.pow 10 exponent.toNat) 1
  else round negative whole (Nat.pow 10 (-exponent).toNat)

/-- The greatest integer not above the number. -/
def floor (x : Binary64) : Int :=
  let (n, d) := x.ratio
  if x.negative then -(((n + d - 1) / d : Nat) : Int) else ((n / d : Nat) : Int)

/-- Is this a finite double? The type has room for more: a significand of too many digits is none, and
a greater exponent is that of infinity and of what is no number. -/
def isFinite (x : Binary64) : Bool := x.significand < 2 * hidden && x.exponent ≤ 971

end Binary64
end Tether
