/-!
# `Tether.Bytes` — byte strings

Keys, digests and wire encodings are lists of bytes. This module holds the operations every later
module shares: the UTF-8 bytes of a text, big-endian numerals of a fixed width, and bytewise
exclusive or.

Main statements: `length_ofNat` (a numeral has exactly the asked width) and `length_xor`.
-/

namespace Tether

/-- A byte string. -/
abbrev Bytes := List UInt8

namespace Bytes

/-- The UTF-8 encoding of a text. -/
def ofText (s : String) : Bytes := s.toUTF8.data.toList

/-- The text a byte string encodes, if it is well-formed UTF-8. -/
def toText? (bs : Bytes) : Option String := String.fromUTF8? ⟨bs.toArray⟩

/-- The big-endian numeral of `n` in `width` bytes; higher digits are cut off. -/
def ofNat : (width n : Nat) → Bytes
  | 0, _ => []
  | w + 1, n => ofNat w (n / 256) ++ [UInt8.ofNat n]

/-- The number a big-endian numeral stands for. -/
def toNat (bs : Bytes) : Nat := bs.foldl (fun n b => n * 256 + b.toNat) 0

/-- Bytewise exclusive or, as long as the shorter operand. -/
def xor (a b : Bytes) : Bytes := List.zipWith (· ^^^ ·) a b

/-- `bs` cut into pieces of `width` bytes; the last piece may be shorter. -/
def pieces (width : Nat) (bs : Bytes) : List Bytes :=
  go bs.length bs
where
  /-- Cuts off at most `fuel` pieces. -/
  go : Nat → Bytes → List Bytes
    | 0, _ => []
    | fuel + 1, bs =>
      if bs.isEmpty then [] else bs.take width :: go fuel (bs.drop width)

/-- `bs` followed by as many zero bytes as fill up its last piece of `width` bytes. -/
def padTo (width : Nat) (bs : Bytes) : Bytes :=
  bs ++ List.replicate ((width - bs.length % width) % width) 0

/-! ## Lengths -/

@[simp] theorem length_ofNat (width n : Nat) : (ofNat width n).length = width := by
  induction width generalizing n with
  | zero => rfl
  | succ w ih => simp [ofNat, ih]

@[simp] theorem length_xor (a b : Bytes) : (xor a b).length = min a.length b.length := by
  simp [xor]

/-- Texts are told apart by their bytes. -/
theorem ofText_injective {s t : String} (h : ofText s = ofText t) : s = t := by
  have hd : s.toUTF8.data = t.toUTF8.data := Array.toList_inj.mp h
  cases s with
  | ofByteArray a ha =>
    cases t with
    | ofByteArray b hb =>
      cases a; cases b
      simp_all [String.toUTF8]

end Bytes
end Tether
