import Tether.Bytes

/-!
# `Tether.Crypto.Curve` — the elliptic curve P-256

The curve `y² = x³ - 3x + b` over the integers modulo a prime of 256 bits, with a base point of prime
order (FIPS 186-4). Points are added in projective form, so that a multiple of a point costs one
inversion, at the end.

* `Curve.contains` — is a pair of coordinates a point of the curve?
* `Curve.scale` — a multiple of a point;
* `Curve.lift?` — the point of an `x` with a `y` of given parity.
-/

namespace Tether.Crypto.Curve

/-- The prime of the field. -/
def prime : Nat := 0xffffffff00000001000000000000000000000000ffffffffffffffffffffffff

/-- The order of the base point. -/
def order : Nat := 0xffffffff00000000ffffffffffffffffbce6faada7179e84f3b9cac2fc632551

/-- The constant of the equation. -/
def coefficient : Nat := 0x5ac635d8aa3a93e7b3ebbd55769886bc651d06b0cc53b0f63bce3c3e27d2604b

/-- A point other than infinity, by its coordinates. -/
structure Point where
  x : Nat
  y : Nat
  deriving DecidableEq, Repr, Inhabited

/-- The base point. -/
def base : Point where
  x := 0x6b17d1f2e12c4247f8bce6e563a440f277037d812deb33a0f4a13945d898c296
  y := 0x4fe342e2fe1a7f9b8ee7eb4a7c0f9e162bce33576b315ececbb6406837bf51f5

/-! ## The field -/

/-- The sum in the field. -/
def add (a b : Nat) : Nat := (a + b) % prime

/-- The difference in the field, of elements below the prime. -/
def sub (a b : Nat) : Nat := (a + (prime - b % prime)) % prime

/-- The product in the field. -/
def mul (a b : Nat) : Nat := a * b % prime

/-- A power in the field. `fuel` bounds the number of binary digits of the exponent. -/
def powFrom : (fuel : Nat) → (acc a e : Nat) → Nat
  | 0, acc, _, _ => acc
  | fuel + 1, acc, a, e =>
    if e = 0 then acc
    else powFrom fuel (if e % 2 = 1 then mul acc a else acc) (mul a a) (e / 2)

/-- A power in the field, for exponents below `2^256`. -/
def pow (a e : Nat) : Nat := powFrom 256 1 a e

/-- The inverse in the field. -/
def inverse (a : Nat) : Nat := pow a (prime - 2)

/-- The right side of the equation. -/
def cubic (x : Nat) : Nat := add (sub (mul (mul x x) x) (mul 3 x)) coefficient

/-- Are the coordinates reduced, and do they satisfy the equation? -/
def contains (p : Point) : Bool :=
  p.x < prime && p.y < prime && mul p.y p.y == cubic p.x

/-- The point with a given `x` whose `y` has the given parity. -/
def lift? (x : Nat) (odd : Bool) : Option Point :=
  let square := cubic x
  let root := pow square ((prime + 1) / 4)
  if x < prime ∧ mul root root = square then
    some ⟨x, if (root % 2 == 1) == odd then root else sub 0 root⟩
  else none

/-! ## The group -/

/-- A point in projective form: `(x / z², y / z³)`, infinity where `z` is zero. -/
structure Projective where
  x : Nat
  y : Nat
  z : Nat
  deriving Repr

namespace Projective

/-- The point at infinity. -/
def infinity : Projective := ⟨1, 1, 0⟩

/-- A point in projective form. -/
def ofPoint (p : Point) : Projective := ⟨p.x, p.y, 1⟩

/-- Twice a point. -/
def double (p : Projective) : Projective :=
  let delta := mul p.z p.z
  let gamma := mul p.y p.y
  let beta := mul p.x gamma
  let alpha := mul 3 (mul (sub p.x delta) (add p.x delta))
  let x := sub (mul alpha alpha) (mul 8 beta)
  let z := sub (sub (mul (add p.y p.z) (add p.y p.z)) gamma) delta
  let y := sub (mul alpha (sub (mul 4 beta) x)) (mul 8 (mul gamma gamma))
  ⟨x, y, z⟩

/-- The sum of two points. -/
def plus (p q : Projective) : Projective :=
  if p.z = 0 then q
  else if q.z = 0 then p
  else
    let zp := mul p.z p.z
    let zq := mul q.z q.z
    let u := mul p.x zq
    let s := mul p.y (mul zq q.z)
    let h := sub (mul q.x zp) u
    let r := sub (mul q.y (mul zp p.z)) s
    if h = 0 then (if r = 0 then double p else infinity)
    else
      let hh := mul h h
      let hhh := mul hh h
      let v := mul u hh
      let x := sub (sub (mul r r) hhh) (mul 2 v)
      ⟨x, sub (mul r (sub v x)) (mul s hhh), mul h (mul p.z q.z)⟩

/-- The point, unless it is infinity. -/
def toPoint? (p : Projective) : Option Point :=
  if p.z = 0 then none
  else
    let i := inverse p.z
    let ii := mul i i
    some ⟨mul p.x ii, mul p.y (mul ii i)⟩

/-- Doubles and adds along the lowest `n` binary digits of a scalar, from the highest of them on. -/
def scaleFrom (p : Projective) (scalar : Nat) : (n : Nat) → Projective → Projective
  | 0, acc => acc
  | n + 1, acc =>
    let acc := double acc
    scaleFrom p scalar n (if scalar.testBit n then plus acc p else acc)

end Projective

/-- A multiple of a point, for scalars below `2^256`; `none` at infinity. -/
def scale (scalar : Nat) (p : Point) : Option Point :=
  (Projective.scaleFrom (Projective.ofPoint p) scalar 256 Projective.infinity).toPoint?

end Tether.Crypto.Curve
