import Tether.Crypto.Exchange
import Tether.Proofs.Bytes.Base64

/-!
# `Tether.Proofs.Crypto.PublicKey` — public keys arrive as they were sent

A public key travels as base64 of two coordinates, each a numeral of 32 bytes. The coordinates of a point
of the curve fit into that, so whoever reads the text has the very point again.

Main statement: `PublicKey.ofBase64_toBase64`.
-/

namespace Tether

namespace Bytes

theorem toNat_concat (bs : Bytes) (b : UInt8) : toNat (bs ++ [b]) = toNat bs * 256 + b.toNat := by
  unfold toNat
  rw [List.foldl_append]; rfl

/-- A numeral stands for its number, less the digits that were cut off. -/
theorem toNat_ofNat (width n : Nat) : toNat (ofNat width n) = n % 256 ^ width := by
  induction width generalizing n with
  | zero => rw [Nat.pow_zero, Nat.mod_one]; rfl
  | succ w ih =>
    have hlow : (UInt8.ofNat n).toNat = n % 256 := UInt8.toNat_ofNat'
    rw [ofNat, toNat_concat, ih, hlow, Nat.pow_succ', Nat.mod_mul]
    omega

end Bytes

namespace PublicKey

/-- The coordinates of a point of the curve fit into 32 bytes. -/
theorem toNat_coordinate {n : Nat} (h : n < Crypto.Curve.prime) :
    Bytes.toNat (Bytes.ofNat 32 n) = n := by
  have hfits : Crypto.Curve.prime ≤ 256 ^ 32 := by decide
  rw [Bytes.toNat_ofNat, Nat.mod_eq_of_lt (Nat.lt_of_lt_of_le h hfits)]

/-- The uncompressed encoding of a point of the curve is read back. -/
theorem point?_toSec1 {k : PublicKey} (h : Crypto.Curve.contains k.point) :
    point? k.toSec1 = some k.point := by
  have hreduced : k.point.x < Crypto.Curve.prime ∧ k.point.y < Crypto.Curve.prime := by
    have hparts := h
    unfold Crypto.Curve.contains at hparts
    simp only [Bool.and_eq_true, decide_eq_true_eq] at hparts
    exact hparts.1
  have hx : (Bytes.ofNat 32 k.point.x ++ Bytes.ofNat 32 k.point.y).take 32 =
      Bytes.ofNat 32 k.point.x := List.take_left' (Bytes.length_ofNat ..)
  have hy : (Bytes.ofNat 32 k.point.x ++ Bytes.ofNat 32 k.point.y).drop 32 =
      Bytes.ofNat 32 k.point.y := List.drop_left' (Bytes.length_ofNat ..)
  have hlength : (Bytes.ofNat 32 k.point.x ++ Bytes.ofNat 32 k.point.y).length = 64 := by simp
  unfold point? toSec1
  dsimp only
  rw [if_pos ⟨rfl, hlength⟩, hx, hy, toNat_coordinate hreduced.1, toNat_coordinate hreduced.2]
  exact if_pos h

/-- **A public key on the curve arrives as it was sent.** -/
theorem ofBase64_toBase64 {k : PublicKey} (h : Crypto.Curve.contains k.point) :
    ofBase64 k.toBase64 = .ok k := by
  unfold ofBase64 toBase64
  rw [Bytes.Base64.decode?_encode]
  dsimp only
  rw [ofSec1, point?_toSec1 h]

end PublicKey
end Tether
