import Tether.Bytes

/-!
# `Tether.Bytes.Base64` — base64 text

The standard alphabet with mandatory padding. Three bytes are four digits; a rest of one or two
bytes is written as two or three digits and filled up with `=`. Reading accepts exactly the written
forms: the unused low bits of a last digit have to be zero, and nothing may follow the padding.
-/

namespace Tether.Bytes.Base64

/-- The digit of a number below 64. -/
def digit (n : UInt8) : Char :=
  if n < 26 then Char.ofNat (65 + n.toNat)
  else if n < 52 then Char.ofNat (71 + n.toNat)
  else if n < 62 then Char.ofNat (n.toNat - 4)
  else if n = 62 then '+'
  else '/'

/-- The value of a digit. -/
def value? (c : Char) : Option UInt8 :=
  if 'A' ≤ c ∧ c ≤ 'Z' then some (UInt8.ofNat (c.toNat - 65))
  else if 'a' ≤ c ∧ c ≤ 'z' then some (UInt8.ofNat (c.toNat - 71))
  else if '0' ≤ c ∧ c ≤ '9' then some (UInt8.ofNat (c.toNat + 4))
  else if c = '+' then some 62
  else if c = '/' then some 63
  else none

/-- The digits of a byte string, padding included. -/
def digits : Bytes → List Char
  | [] => []
  | [a] => [digit (a >>> 2), digit ((a &&& 3) <<< 4), '=', '=']
  | [a, b] =>
    [digit (a >>> 2), digit ((a &&& 3) <<< 4 ||| b >>> 4), digit ((b &&& 15) <<< 2), '=']
  | a :: b :: c :: rest =>
    digit (a >>> 2) :: digit ((a &&& 3) <<< 4 ||| b >>> 4)
      :: digit ((b &&& 15) <<< 2 ||| c >>> 6) :: digit (c &&& 63) :: digits rest

/-- Base64 text. -/
def encode (bs : Bytes) : String := String.ofList (digits bs)

/-- The bytes a list of digits stands for; `none` unless it is a written form. -/
def ofDigits? : List Char → Option Bytes
  | [] => some []
  | [p, q, '=', '='] => do
    let a ← value? p
    let b ← value? q
    if b &&& 15 = 0 then some [a <<< 2 ||| b >>> 4] else none
  | [p, q, r, '='] => do
    let a ← value? p
    let b ← value? q
    let c ← value? r
    if c &&& 3 = 0 then some [a <<< 2 ||| b >>> 4, b <<< 4 ||| c >>> 2] else none
  | p :: q :: r :: s :: rest => do
    let a ← value? p
    let b ← value? q
    let c ← value? r
    let d ← value? s
    let bs ← ofDigits? rest
    some ((a <<< 2 ||| b >>> 4) :: (b <<< 4 ||| c >>> 2) :: (c <<< 6 ||| d) :: bs)
  | _ => none

/-- The bytes of a base64 text. -/
def decode? (s : String) : Option Bytes := ofDigits? s.toList

end Tether.Bytes.Base64
