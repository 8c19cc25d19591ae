import Tether.Json.Value

/-!
# `Tether.Json.Numeral` — the numbers a JSON text spells

A numeral without fraction and exponent that fits 64 bits is a whole number; every other one is a
double, and so is minus zero. The double is made from the leading digits that fit an unsigned word,
scaled by a power of ten; a numeral that would be infinite has no value.

* `Numeral` — sign, digits, fraction, exponent, as spelled;
* `Numeral.value?` — the number.
-/

namespace Tether.Json

/-- A numeral as it is spelled. -/
structure Numeral where
  negative : Bool
  /-- The digits before the point. -/
  whole : List Char
  /-- The digits behind the point, empty without one. -/
  fraction : List Char
  /-- The exponent: is it negative, and its digits. -/
  exponent : Option (Bool × List Char)
  deriving DecidableEq, Repr

namespace Numeral

/-- The value of a decimal digit. -/
def digitValue (c : Char) : Nat := c.toNat - 48

/-- The number a string of digits stands for. -/
def natural (cs : List Char) : Nat := cs.foldl (fun n c => n * 10 + digitValue c) 0

/-- Takes digits into a number as long as it fits 64 bits; returns it with the digits left over. -/
def absorb : Nat → List Char → Nat × List Char
  | n, [] => (n, [])
  | n, c :: cs =>
    if n * 10 + digitValue c < 0x10000000000000000 then absorb (n * 10 + digitValue c) cs else (n, c :: cs)

/-- The exponent as an integer; `none` if it exceeds 31 bits. -/
def exponentValue? (n : Numeral) : Option Int :=
  match n.exponent with
  | none => some 0
  | some (negative, cs) =>
    let e := natural cs
    if 0x80000000 ≤ e then none else some (if negative then -(e : Int) else e)

/-- The double of a numeral; `none` if it would be infinite. -/
def real? (n : Numeral) : Option Binary64 :=
  let (significand, wholeRest) := absorb 0 n.whole
  -- Fraction digits count only if all digits before them were taken in or passed over.
  let (significand, fractionRest) := absorb significand n.fraction
  let shift : Int := wholeRest.length - (n.fraction.length - fractionRest.length : Nat)
  match n.exponentValue? with
  | some e => Binary64.scale10 n.negative significand (shift + e)
  | none =>
    -- An exponent beyond 31 bits decides the result by its sign.
    if significand ≠ 0 ∧ n.exponent.any (fun e => !e.1) then none
    else some (Binary64.zero n.negative)

/-- The whole number of a numeral without fraction and exponent, if it fits 64 bits. Minus zero is
not a whole number. -/
def whole? (n : Numeral) : Option Whole :=
  if n.fraction.isEmpty ∧ n.exponent.isNone then
    let m := natural n.whole
    if n.negative then (if m = 0 then none else Whole.ofInt? (-m)) else Whole.ofInt? m
  else none

/-- The number of a numeral; `none` if it would be infinite. -/
def value? (n : Numeral) : Option Number :=
  match n.whole? with
  | some w => some (.whole w)
  | none => n.real?.map .real

end Numeral
end Tether.Json
