import Tether.Crypto.Sha256

/-!
# `Tether.Crypto.Hmac` — keyed hashing and key derivation

HMAC-SHA256 (RFC 2104) and the extract-and-expand derivation HKDF-SHA256 on top of it (RFC 5869). A
key longer than a block is hashed first; a shorter one is filled up with zeros. HKDF yields at most
255 blocks.

Main statements: `length_hmac`, `length_hkdf` (a derivation has exactly the asked length).
-/

namespace Tether.Crypto

/-- Bytes in a tag. -/
def tagSize : Nat := 32

/-- The key as one block of the hash. -/
def blockKey (key : Bytes) : Bytes :=
  let key := if key.length ≤ Sha256.blockSize then key else Sha256.hash key
  key ++ List.replicate (Sha256.blockSize - key.length) 0

/-- The tag of a message under a key. -/
def hmac (key message : Bytes) : Bytes :=
  let block := blockKey key
  let inner := Sha256.hash (block.map (· ^^^ 0x36) ++ message)
  Sha256.hash (block.map (· ^^^ 0x5c) ++ inner)

@[simp] theorem length_hmac (key message : Bytes) : (hmac key message).length = 32 := rfl

/-- The first `n` blocks of an expansion, numbered from `counter`, after the block `previous`. -/
def expand (prk info : Bytes) : (n counter : Nat) → (previous : Bytes) → Bytes
  | 0, _, _ => []
  | n + 1, counter, previous =>
    let block := hmac prk (previous ++ info ++ [UInt8.ofNat counter])
    block ++ expand prk info n (counter + 1) block

theorem length_expand (prk info : Bytes) (n counter : Nat) (previous : Bytes) :
    (expand prk info n counter previous).length = 32 * n := by
  induction n generalizing counter previous with
  | zero => rfl
  | succ n ih => simp [expand, ih]; omega

/-- `length` bytes derived from key material, bound to a salt and a purpose; `none` if more than 255
blocks are asked for. -/
def hkdf (material salt info : Bytes) (length : Nat) : Option Bytes :=
  if length ≤ 255 * tagSize then
    let prk := hmac salt material
    some ((expand prk info ((length + tagSize - 1) / tagSize) 1 []).take length)
  else none

/-- A derivation has exactly the asked length. -/
theorem length_hkdf {material salt info okm : Bytes} {length : Nat}
    (h : hkdf material salt info length = some okm) : okm.length = length := by
  unfold hkdf at h
  split at h
  · cases h
    rw [List.length_take, length_expand]
    simp only [tagSize]
    omega
  · cases h

end Tether.Crypto
