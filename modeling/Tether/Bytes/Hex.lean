import Tether.Bytes

/-!
# `Tether.Bytes.Hex` — hexadecimal text

Two digits a byte, the high half first. Writing uses lower case; reading takes both cases and names
the first fault: an odd number of digits before anything else, then the first byte of the text that
is no digit, with its position counted in UTF-8 bytes.

Main statement: `length_digits`.
-/

namespace Tether.Bytes.Hex

/-- Why a text is no hexadecimal numeral. -/
inductive Fault where
  /-- The text has an odd number of bytes. -/
  | oddLength
  /-- The byte at `position` is not a digit. -/
  | badDigit (byte : UInt8) (position : Nat)
  deriving DecidableEq, Repr

/-- The digit of a number below sixteen. -/
def digit (n : UInt8) : Char :=
  if n < 10 then Char.ofNat (48 + n.toNat) else Char.ofNat (87 + n.toNat)

/-- The value of a digit, given as an ASCII byte. -/
def value? (b : UInt8) : Option UInt8 :=
  if 48 ≤ b ∧ b ≤ 57 then some (b - 48)
  else if 97 ≤ b ∧ b ≤ 102 then some (b - 87)
  else if 65 ≤ b ∧ b ≤ 70 then some (b - 55)
  else none

/-- The two digits of a byte. -/
def pair (b : UInt8) : List Char := [digit (b / 16), digit (b % 16)]

/-- The digits of a byte string. -/
def digits (bs : Bytes) : List Char := bs.flatMap pair

/-- Lower-case hexadecimal text. -/
def encode (bs : Bytes) : String := String.ofList (digits bs)

/-- Reads digit pairs from position `at` on. -/
def decodePairs (position : Nat) : Bytes → Except Fault Bytes
  | [] => .ok []
  | [_] => .error .oddLength
  | a :: b :: rest =>
    match value? a with
    | none => .error (.badDigit a position)
    | some high =>
      match value? b with
      | none => .error (.badDigit b (position + 1))
      | some low =>
        match decodePairs (position + 2) rest with
        | .ok bs => .ok ((high * 16 + low) :: bs)
        | .error e => .error e

/-- The bytes of a hexadecimal text. -/
def decode (s : String) : Except Fault Bytes :=
  let bs := Bytes.ofText s
  if bs.length % 2 = 0 then decodePairs 0 bs else .error .oddLength

/-! ## Lengths -/

theorem length_digits (bs : Bytes) : (digits bs).length = 2 * bs.length := by
  induction bs with
  | nil => rfl
  | cons b bs ih =>
    simp only [digits, List.flatMap_cons, List.length_append] at ih ⊢
    simp [pair, ih]; omega

end Tether.Bytes.Hex
