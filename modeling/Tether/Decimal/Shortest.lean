import Tether.Decimal.Binary64

/-!
# `Tether.Decimal.Shortest` — the fewest digits that read back

The reals that round to a double form an interval around it. Among the decimal numerals in that
interval the one with the fewest digits is chosen, and among those the nearest; an exact tie goes to
the even last digit. For each digit count only the double's two neighbours on that decimal grid need
testing: if any point of the grid lies in the interval, one of them does.

* `Digits` — a digit string with the position of its decimal point;
* `Binary64.shortest` — the chosen digits;
* `Layout`, `Digits.write` — how digits become text.
-/

namespace Tether

/-- The magnitude `0.d₁d₂… * 10^point`, with the digits held as the number `value` of `count`
digits. -/
structure Digits where
  value : Nat
  count : Nat
  point : Int
  deriving DecidableEq, Repr

namespace Binary64

/-- The magnitude and the ends of its rounding interval, over a common denominator:
`(low, value, high, denominator)`. -/
def interval (x : Binary64) : Nat × Nat × Nat × Nat :=
  let m := x.significand
  -- The gap below a power of two is half the gap above it.
  let low := if m = hidden ∧ -1074 < x.exponent then 4 * m - 1 else 4 * m - 2
  let high := 4 * m + 2
  let exponent := x.exponent - 2
  if 0 ≤ exponent then
    let unit := 1 <<< exponent.toNat
    (low * unit, 4 * m * unit, high * unit, 1)
  else (low, 4 * m, high, 1 <<< (-exponent).toNat)

/-- `10^exponent` as a quotient. -/
def power10 (exponent : Int) : Nat × Nat :=
  if 0 ≤ exponent then (Nat.pow 10 exponent.toNat, 1) else (1, Nat.pow 10 (-exponent).toNat)

/-- Does `value * 10^exponent` round to `x`? The ends of the interval do iff `x` is even. -/
def covers (x : Binary64) (value : Nat) (exponent : Int) : Bool :=
  let (low, _, high, den) := x.interval
  let (p, q) := power10 exponent
  let here := value * p * den
  if x.significand % 2 = 0 then low * q ≤ here ∧ here ≤ high * q
  else low * q < here ∧ here < high * q

/-- The point of the grid `10^exponent` that is nearest to `x` among those that round to `x`. -/
def onGrid (x : Binary64) (exponent : Int) : Option Nat :=
  let (_, value, _, den) := x.interval
  let (p, q) := power10 exponent
  let below := value * q / (den * p)
  let rest := 2 * (value * q % (den * p))
  let unit := den * p
  let first := rest < unit ∨ (rest = unit ∧ below % 2 = 0)
  match x.covers below exponent, x.covers (below + 1) exponent with
  | true, true => some (if first then below else below + 1)
  | true, false => some below
  | false, true => some (below + 1)
  | false, false => none

/-- The least `e` with `x < 10^e`, found by walking up or down from an estimate. -/
def magnitude (x : Binary64) : Int :=
  let (_, value, _, den) := x.interval
  let estimate : Int := ((Nat.log2 value : Int) - (Nat.log2 den : Int)) * 30103 / 100000 - 1
  climb 6 value den estimate
where
  /-- Raises `e` while `10^e` is not above `value / den`. -/
  climb : Nat → Nat → Nat → Int → Int
    | 0, _, _, e => e
    | fuel + 1, value, den, e =>
      let (p, q) := power10 e
      if p * den ≤ value * q then climb fuel value den (e + 1) else e

/-- Tries grids with `count`, `count + 1`, … digits. -/
def shortestFrom (x : Binary64) (magnitude : Int) : (fuel count : Nat) → Digits
  | 0, count => ⟨0, count, 0⟩
  | fuel + 1, count =>
    match x.onGrid (magnitude - count) with
    | some value =>
      -- Rounding up may have carried into a further digit.
      if value = Nat.pow 10 count then ⟨1, 1, magnitude + 1⟩ else ⟨value, count, magnitude⟩
    | none => shortestFrom x magnitude fuel (count + 1)

/-- The shortest digits of a double other than zero. -/
def shortest (x : Binary64) : Digits := shortestFrom x x.magnitude 17 1

end Binary64

/-- How the digits of a number become text: positional notation for decimal exponents from `least`
to `greatest`, with `.0` behind whole numbers; exponent notation elsewhere. -/
structure Layout where
  least : Int
  greatest : Int
  mark : Char
  plus : Bool
  deriving DecidableEq, Repr

namespace Digits

/-- The digits, without zeros at the end. -/
def text (d : Digits) : List Char :=
  let cs := Nat.toDigits 10 d.value
  (List.replicate (d.count - cs.length) '0' ++ cs).reverse.dropWhile (· == '0') |>.reverse

/-- The text of a magnitude. -/
def write (layout : Layout) (d : Digits) : List Char :=
  let cs := d.text
  let exponent := d.point - 1
  if layout.least ≤ exponent ∧ exponent ≤ layout.greatest then
    if d.point ≤ 0 then '0' :: '.' :: (List.replicate (-d.point).toNat '0' ++ cs)
    else
      let whole := d.point.toNat
      if cs.length ≤ whole then cs ++ List.replicate (whole - cs.length) '0' ++ ['.', '0']
      else cs.take whole ++ '.' :: cs.drop whole
  else
    let mantissa := match cs with
      | [] => []
      | [c] => [c]
      | c :: rest => c :: '.' :: rest
    let sign := if exponent < 0 then ['-'] else if layout.plus then ['+'] else []
    mantissa ++ layout.mark :: sign ++ Nat.toDigits 10 exponent.natAbs

end Digits

/-- The text of a double in a layout. Zero is written `0.0`, with its sign. -/
def Binary64.write (layout : Layout) (x : Binary64) : List Char :=
  let body := if x.significand = 0 then ['0', '.', '0'] else x.shortest.write layout
  if x.negative then '-' :: body else body

end Tether
