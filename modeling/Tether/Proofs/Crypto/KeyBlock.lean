import Tether.Crypto.Hmac

/-!
# `Tether.Proofs.Crypto.KeyBlock` — which keys of HMAC are one key

HMAC never sees a key, but the block it becomes: filled up with zeros, or hashed first if it is longer.
Keys that have the same block are one key to it. For all other pairs of keys, tags of one message that
agree are a collision of the hash, which the lemmas exhibit: nothing is assumed about the hash.

* `Bytes.fill_eq_iff` — two strings fill a block alike if one is the other followed by zeros;
* `Crypto.blockKey_eq_iff` — two keys have the same block if what is filled up is the same;
* `Crypto.take_hmac_eq_iff` — tags of one message agree, to a length, under keys of one block or by a
  collision of the outer hash;
* `Crypto.hkdf_of_le` — a derivation of up to 32 bytes is cut from one tag.
-/

namespace Tether
namespace Bytes

/-- `bs` followed by as many zeros as make up `width` bytes. -/
def fill (width : Nat) (bs : Bytes) : Bytes := bs ++ List.replicate (width - bs.length) 0

/-- `b` is `a` followed by zeros. -/
def ZeroExtends (a b : Bytes) : Prop := ∃ n, b = a ++ List.replicate n 0

/-- The strings differ in zeros at the end at most. -/
def SameUpToZeros (a b : Bytes) : Prop := ZeroExtends a b ∨ ZeroExtends b a

theorem length_fill {width : Nat} {bs : Bytes} (h : bs.length ≤ width) :
    (fill width bs).length = width := by
  rw [fill, List.length_append, List.length_replicate]
  omega

/-- Zeros at the end that fit are part of what is filled up anyway. -/
theorem fill_of_zeroExtends {width : Nat} {a b : Bytes} (hb : b.length ≤ width)
    (h : ZeroExtends a b) : fill width a = fill width b := by
  obtain ⟨n, rfl⟩ := h
  have hlen : (a ++ List.replicate n (0 : UInt8)).length = a.length + n := by simp
  have hn : n + (width - (a.length + n)) = width - a.length := by omega
  rw [fill, fill, hlen, List.append_assoc, List.replicate_append_replicate, hn]

/-- The shorter of two strings that fill a block alike is the start of the longer one. -/
theorem zeroExtends_of_fill {width : Nat} {a b : Bytes} (hab : a.length ≤ b.length)
    (hb : b.length ≤ width) (h : fill width a = fill width b) : ZeroExtends a b := by
  refine ⟨b.length - a.length, ?_⟩
  have hcut := congrArg (List.take b.length) h
  rw [fill, fill, List.take_append, List.take_of_length_le hab, List.take_left,
    List.take_replicate] at hcut
  have hn : min (b.length - a.length) (width - a.length) = b.length - a.length := by omega
  rw [hn] at hcut
  exact hcut.symm

/-- **Two strings fill a block alike exactly if they differ in zeros at the end at most.** -/
theorem fill_eq_iff {width : Nat} {a b : Bytes} (ha : a.length ≤ width) (hb : b.length ≤ width) :
    fill width a = fill width b ↔ SameUpToZeros a b := by
  constructor
  · intro h
    obtain hab | hba := Nat.le_total a.length b.length
    · exact .inl (zeroExtends_of_fill hab hb h)
    · exact .inr (zeroExtends_of_fill hba ha h.symm)
  · rintro (h | h)
    · exact fill_of_zeroExtends hb h
    · exact (fill_of_zeroExtends ha h).symm

theorem sameUpToZeros_comm (a b : Bytes) : SameUpToZeros a b ↔ SameUpToZeros b a := or_comm

/-- Strings of one length differ in no zeros at the end. -/
theorem sameUpToZeros_iff_of_length {a b : Bytes} (h : a.length = b.length) :
    SameUpToZeros a b ↔ a = b := by
  constructor
  · rintro (⟨n, rfl⟩ | ⟨n, rfl⟩)
    · have hn : n = 0 := by simpa using h
      simp [hn]
    · have hn : n = 0 := by simpa using h
      simp [hn]
  · rintro rfl
    exact .inl ⟨0, by simp⟩

end Bytes

namespace Crypto

open Bytes (fill SameUpToZeros)

/-! ## Collisions of the hash -/

/-- Two messages whose digests have the same first `n` bytes. -/
def Collide (n : Nat) (m m' : Bytes) : Prop :=
  m ≠ m' ∧ (Sha256.hash m).take n = (Sha256.hash m').take n

/-- Digests agree, as far as they are taken, for equal messages or by a collision. -/
theorem take_hash_eq_iff (n : Nat) (m m' : Bytes) :
    (Sha256.hash m).take n = (Sha256.hash m').take n ↔ m = m' ∨ Collide n m m' := by
  constructor
  · intro h
    by_cases hm : m = m'
    · exact .inl hm
    · exact .inr ⟨hm, h⟩
  · rintro (rfl | h)
    · rfl
    · exact h.2

/-- Whole digests agree for equal messages or by a collision in all 32 bytes. -/
theorem hash_eq_iff (m m' : Bytes) :
    Sha256.hash m = Sha256.hash m' ↔ m = m' ∨ Collide tagSize m m' := by
  have whole (x : Bytes) : (Sha256.hash x).take tagSize = Sha256.hash x :=
    List.take_of_length_le (Nat.le_of_eq (Sha256.length_hash x))
  have h := take_hash_eq_iff tagSize m m'
  rwa [whole, whole] at h

/-! ## The block of a key -/

/-- What of a key is filled up to a block: its digest if it is longer than one. -/
def shortKey (key : Bytes) : Bytes :=
  if key.length ≤ Sha256.blockSize then key else Sha256.hash key

theorem shortKey_of_le {key : Bytes} (h : key.length ≤ Sha256.blockSize) : shortKey key = key :=
  if_pos h

theorem shortKey_of_lt {key : Bytes} (h : ¬ key.length ≤ Sha256.blockSize) :
    shortKey key = Sha256.hash key :=
  if_neg h

theorem length_shortKey_le (key : Bytes) : (shortKey key).length ≤ Sha256.blockSize := by
  unfold shortKey
  split
  · assumption
  · rw [Sha256.length_hash]
    decide

theorem blockKey_eq_fill (key : Bytes) : blockKey key = fill Sha256.blockSize (shortKey key) := rfl

/-- The block of a key has the size of a block, whatever the key. -/
theorem length_blockKey (key : Bytes) : (blockKey key).length = Sha256.blockSize := by
  rw [blockKey_eq_fill]
  exact Bytes.length_fill (length_shortKey_le key)

/-- Two keys have one block exactly if what is filled up differs in zeros at the end at most. -/
theorem blockKey_eq_iff (k k' : Bytes) :
    blockKey k = blockKey k' ↔ SameUpToZeros (shortKey k) (shortKey k') := by
  rw [blockKey_eq_fill, blockKey_eq_fill]
  exact Bytes.fill_eq_iff (length_shortKey_le k) (length_shortKey_le k')

/-- Keys of one length that fit into a block are told apart by it. -/
theorem blockKey_eq_iff_of_length {k k' : Bytes} (hk : k.length ≤ Sha256.blockSize)
    (h : k.length = k'.length) : blockKey k = blockKey k' ↔ k = k' := by
  rw [blockKey_eq_iff, shortKey_of_le hk, shortKey_of_le (h ▸ hk),
    Bytes.sameUpToZeros_iff_of_length h]

/-! ## Tags of one message under two keys -/

/-- What the outer hash of a tag is taken of: the masked block, and the digest of the inner hash. -/
def outer (key message : Bytes) : Bytes :=
  (blockKey key).map (· ^^^ 0x5c) ++ Sha256.hash ((blockKey key).map (· ^^^ 0x36) ++ message)

theorem hmac_eq_hash (key message : Bytes) : hmac key message = Sha256.hash (outer key message) :=
  rfl

/-- The mask hides nothing of the block. -/
theorem map_mask_inj {mask : UInt8} {b b' : Bytes} (h : b.map (· ^^^ mask) = b'.map (· ^^^ mask)) :
    b = b' := by
  refine (List.map_inj_right fun x y hxy => ?_).mp h
  have hmask := congrArg (· ^^^ mask) hxy
  simpa [UInt8.xor_assoc] using hmask

/-- Under two keys the outer hash is taken of the same exactly if they have one block. -/
theorem outer_eq_iff (k k' message : Bytes) :
    outer k message = outer k' message ↔ blockKey k = blockKey k' := by
  constructor
  · intro h
    have hlen : ((blockKey k).map (· ^^^ 0x5c)).length = ((blockKey k').map (· ^^^ 0x5c)).length := by
      rw [List.length_map, List.length_map, length_blockKey, length_blockKey]
    exact map_mask_inj (List.append_inj_left h hlen)
  · intro h
    rw [outer, outer, h]

/-- **Tags of one message agree in their first `n` bytes** exactly if the keys have one block, or if
the two messages of the outer hash collide in `n` bytes. -/
theorem take_hmac_eq_iff (n : Nat) (k k' message : Bytes) :
    (hmac k message).take n = (hmac k' message).take n ↔
      blockKey k = blockKey k' ∨ Collide n (outer k message) (outer k' message) := by
  rw [hmac_eq_hash, hmac_eq_hash, take_hash_eq_iff, outer_eq_iff]

/-- For one message, HMAC tells keys apart by their blocks, but for collisions. -/
theorem hmac_eq_iff (k k' message : Bytes) :
    hmac k message = hmac k' message ↔
      blockKey k = blockKey k' ∨ Collide tagSize (outer k message) (outer k' message) := by
  rw [hmac_eq_hash, hmac_eq_hash, hash_eq_iff, outer_eq_iff]

/-! ## Short derivations -/

/-- A derivation of up to 32 bytes is cut from one tag. -/
theorem hkdf_of_le (material salt info : Bytes) {n : Nat} (hpos : 0 < n) (hn : n ≤ tagSize) :
    hkdf material salt info n = some ((hmac (hmac salt material) (info ++ [1])).take n) := by
  have hle : n ≤ 255 * tagSize := Nat.le_trans hn (by decide)
  have hone : (n + tagSize - 1) / tagSize = 1 := by
    simp only [tagSize] at hn ⊢
    omega
  rw [hkdf, if_pos hle, hone]
  simp [expand]

end Crypto
end Tether
