import Tether.Crypto.Aes
import Tether.Crypto.Fault

/-!
# `Tether.Crypto.Gcm` — authenticated encryption with AES-256-GCM

The plaintext is combined with a key stream of encrypted counter blocks; the tag hashes associated
data, ciphertext and both lengths in the field of `2^128` elements (NIST SP 800-38D) and is masked by
the first block of the stream. Opening recomputes the tag before it yields anything.

* `Gcm.encrypt`, `Gcm.decrypt` — the cipher itself, which yields and takes ciphertext and tag in one piece;
* `sealWith` — ciphertext and tag, apart, under a key, an IV of 12 bytes and associated data;
* `openWith` — the plaintext, if the tag is the right one.
-/

namespace Tether.Crypto

/-- Bytes in an AEAD key. -/
def aeadKeySize : Nat := 32

/-- Bytes in an IV. -/
def ivSize : Nat := 12

/-- Bytes in an AEAD tag. -/
def aeadTagSize : Nat := 16

/-- What sealing yields. -/
structure Sealed where
  ciphertext : Bytes
  iv : Bytes
  tag : Bytes
  deriving DecidableEq, Repr

namespace Gcm

/-! ## The universal hash -/

/-- The product in the field: `n` bits of `x` are still to be taken, from the highest on; `v` is the
other factor shifted along, `z` the sum so far. -/
def multiplyFrom (x : BitVec 128) : (n : Nat) → (v z : BitVec 128) → BitVec 128
  | 0, _, z => z
  | n + 1, v, z =>
    let z := if x.getLsbD n then z ^^^ v else z
    let v := if v.getLsbD 0 then (v >>> 1) ^^^ 0xe1000000000000000000000000000000#128 else v >>> 1
    multiplyFrom x n v z

/-- The product of two elements of the field. -/
def multiply (x y : BitVec 128) : BitVec 128 := multiplyFrom x 128 y 0

/-- A block as an element of the field. -/
def element (block : Bytes) : BitVec 128 := BitVec.ofNat 128 (Bytes.toNat block)

/-- The hash of whole blocks under a hash key. -/
def ghash (key : BitVec 128) (blocks : List Bytes) : BitVec 128 :=
  blocks.foldl (fun y block => multiply (y ^^^ element block) key) 0

/-! ## The key stream -/

/-- The counter block of an IV. -/
def counterBlock (iv : Bytes) (counter : Nat) : Bytes := iv ++ Bytes.ofNat 4 counter

/-- The encryption of `n` counter blocks from `counter` on. -/
def keyStream (keys : List Bytes) (iv : Bytes) : (n counter : Nat) → Bytes
  | 0, _ => []
  | n + 1, counter =>
    Aes.encryptWith keys (counterBlock iv counter) ++ keyStream keys iv n (counter + 1)

/-- The bytes combined with the key stream from the second counter block on. -/
def stream (keys : List Bytes) (iv bs : Bytes) : Bytes :=
  Bytes.xor bs (keyStream keys iv ((bs.length + 15) / 16) 2)

/-- The tag of associated data and ciphertext. -/
def tag (keys : List Bytes) (iv associated ciphertext : Bytes) : Bytes :=
  let key := element (Aes.encryptWith keys (List.replicate 16 0))
  let lengths := Bytes.ofNat 8 (8 * associated.length) ++ Bytes.ofNat 8 (8 * ciphertext.length)
  let blocks := Bytes.pieces 16 (Bytes.padTo 16 associated)
    ++ Bytes.pieces 16 (Bytes.padTo 16 ciphertext) ++ [lengths]
  let mask := Aes.encryptWith keys (counterBlock iv 1)
  Bytes.xor (Bytes.ofNat aeadTagSize (ghash key blocks).toNat) mask

/-- The most bytes that may be sealed, or associated, at once. -/
def maxLength : Nat := 0x1000000000

/-- The ciphertext of a plaintext, followed by its tag. -/
def encrypt (keys : List Bytes) (iv plaintext associated : Bytes) : Option Bytes :=
  if maxLength < plaintext.length ∨ maxLength < associated.length then none
  else
    let ciphertext := stream keys iv plaintext
    some (ciphertext ++ tag keys iv associated ciphertext)

/-- The plaintext of a ciphertext that is followed by its tag. -/
def decrypt (keys : List Bytes) (iv bytes associated : Bytes) : Option Bytes :=
  if bytes.length < aeadTagSize then none
  else
    let split := bytes.length - aeadTagSize
    let ciphertext := bytes.take split
    if maxLength + aeadTagSize < ciphertext.length ∨ maxLength < associated.length then none
    else if tag keys iv associated ciphertext = bytes.drop split then
      some (stream keys iv ciphertext)
    else none

end Gcm

/-! ## Sealing and opening -/

/-- An authenticated cipher under a key. What it yields for a plaintext ends with the tag. -/
structure Cipher where
  encrypt : (iv plaintext associated : Bytes) → Option Bytes
  decrypt : (iv bytes associated : Bytes) → Option Bytes

/-- AES-256-GCM under a key. -/
def Gcm.cipher (key : Bytes) : Cipher := ⟨encrypt (Aes.roundKeys key), decrypt (Aes.roundKeys key)⟩

namespace Cipher

/-- The cipher of a key, which is refused unless it has 32 bytes. -/
def ofKey (make : Bytes → Cipher) (key : Bytes) : Except AeadFault Cipher :=
  if key.length = aeadKeySize then .ok (make key)
  else .error (.invalidKey
    ("Key must be " ++ toString aeadKeySize ++ " bytes, got " ++ toString key.length))

/-- Seals a plaintext: the tag is split off what the cipher yields. -/
def sealWith (c : Cipher) (iv plaintext associated : Bytes) : Except AeadFault Sealed :=
  match c.encrypt iv plaintext associated with
  | none => .error (.encryptionFailed "aead::Error")
  | some bytes =>
    let split := bytes.length - aeadTagSize
    .ok ⟨bytes.take split, iv, bytes.drop split⟩

/-- Opens a sealed payload: the tag is put back where it was. -/
def openWith (c : Cipher) (payload : Sealed) (associated : Bytes) : Except AeadFault Bytes :=
  match c.decrypt payload.iv (payload.ciphertext ++ payload.tag) associated with
  | none => .error .authenticationFailed
  | some plaintext => .ok plaintext

end Cipher

/-- Seals a plaintext under a key and an IV. An IV must never repeat under the same key. -/
def sealWith (key iv plaintext associated : Bytes) : Except AeadFault Sealed :=
  match Cipher.ofKey Gcm.cipher key with
  | .error f => .error f
  | .ok c => c.sealWith iv plaintext associated

/-- Opens a sealed payload. -/
def openWith (key : Bytes) (payload : Sealed) (associated : Bytes) : Except AeadFault Bytes :=
  match Cipher.ofKey Gcm.cipher key with
  | .error f => .error f
  | .ok c => c.openWith payload associated

/-- A cipher shown in diagnostics. -/
def cipherLabel : String := "AeadCipher([REDACTED])"

end Tether.Crypto
