import Tether.Crypto.Keys
import Tether.Proofs.Crypto.KeyBlock

/-!
# `Tether.Proofs.Crypto.Separation` — which sessions share their keys

The keys of a session are derived from the shared secret with a salt that ends in the session id, so
another id should mean other keys. The salt is a key of HMAC, though, and HMAC fills a short key up with
zeros: ids that differ in NULs at the end only are one id to the derivation, as long as the salts fit
into a block. Any other two sessions that agree in a key exhibit a coincidence of digests, which
`Coincidence` places; nothing is assumed about the hash.

* `SessionKeys.derive_congr` — sessions whose salts have one block have all their keys in common;
* `SessionKeys.separated_iff` — for all secrets and all pairs of session ids: both derivations give
  keys, and the keys of one purpose are the same exactly for ids that differ in NULs at the end, or by a
  coincidence of digests;
* `SessionKeys.not_separated_by_nul` — two such ids and their one triple of keys.
-/

namespace Tether
namespace Bytes

theorem ofText_append (s t : String) : ofText (s ++ t) = ofText s ++ ofText t := by
  simp [ofText, String.toUTF8]

end Bytes

namespace SessionKeys

open Bytes (SameUpToZeros ZeroExtends)
open Crypto (Collide blockKey outer shortKey)

/-! ## Purposes -/

/-- What a key of a session is for. -/
inductive Purpose where
  | encryption
  | mac
  | iv
  deriving DecidableEq, Repr

/-- The label of a purpose. -/
def Purpose.info : Purpose → String
  | encryption => encryptionInfo
  | mac => macInfo
  | iv => ivInfo

/-- Bytes in a key for a purpose. -/
def Purpose.size : Purpose → Nat
  | encryption => encryptionSize
  | mac => macSize
  | iv => ivSize

/-- The key for a purpose. -/
def key (keys : SessionKeys) : Purpose → Key
  | .encryption => keys.encryption
  | .mac => keys.mac
  | .iv => keys.iv

theorem Purpose.size_pos (p : Purpose) : 0 < p.size := by
  cases p <;> decide

theorem Purpose.size_le (p : Purpose) : p.size ≤ Crypto.tagSize := by
  cases p <;> decide

/-! ## What a derivation computes -/

/-- What HKDF extracts from the secret for a session; all keys are expanded from it. -/
def extract (secret : Bytes) (sessionId : String) : Bytes := Crypto.hmac (salt sessionId) secret

/-- An extract is a digest. -/
theorem length_extract (secret : Bytes) (sessionId : String) :
    (extract secret sessionId).length = Crypto.tagSize :=
  Crypto.length_hmac _ _

/-- What is hashed for a purpose: the label and the number of the first block. -/
def Purpose.message (p : Purpose) : Bytes := Bytes.ofText p.info ++ [1]

/-- The key of a session for a purpose, as the start of a tag. -/
def derived (secret : Bytes) (sessionId : String) (p : Purpose) : Key :=
  ⟨(Crypto.hmac (extract secret sessionId) p.message).take p.size⟩

/-- Keys are derived in software without fail. -/
theorem deriveKey_software (secret : Key) (sessionId : String) (p : Purpose) :
    deriveKey .software secret sessionId p.info p.size = .ok (derived secret.bytes sessionId p) := by
  have hokm := Crypto.hkdf_of_le secret.bytes (salt sessionId) (Bytes.ofText p.info)
    p.size_pos p.size_le
  have hlen := Crypto.length_hkdf hokm
  simp only [deriveKey, Provider.software, Provider.softwareHkdf, hokm]
  exact if_pos hlen

/-- A derivation from a secret that is not empty gives the keys of all purposes. -/
theorem derive_software {secret : Key} (h : secret.bytes ≠ []) (sessionId : String) :
    derive .software secret sessionId = .ok
      ⟨derived secret.bytes sessionId .encryption, derived secret.bytes sessionId .mac,
        derived secret.bytes sessionId .iv⟩ := by
  have hempty : secret.bytes.isEmpty = false := by simpa using h
  have encryption := deriveKey_software secret sessionId .encryption
  have mac := deriveKey_software secret sessionId .mac
  have iv := deriveKey_software secret sessionId .iv
  simp only [Purpose.info, Purpose.size] at encryption mac iv
  simp only [derive, hempty, encryption, mac, iv]
  rfl

/-! ## The block of a salt -/

/-- Does the salt of a session fit into a block of the hash? -/
def FitsBlock (sessionId : String) : Prop := (salt sessionId).length ≤ Crypto.Sha256.blockSize

instance (sessionId : String) : Decidable (FitsBlock sessionId) :=
  inferInstanceAs (Decidable (_ ≤ _))

/-- `b` is `a` followed by NULs. -/
def NulExtends (a b : String) : Prop := ∃ n, b = a ++ String.ofList (List.replicate n '\x00')

/-- The session ids differ in NULs at the end at most. -/
def SameUpToNuls (a b : String) : Prop := NulExtends a b ∨ NulExtends b a

theorem salt_eq (sessionId : String) :
    salt sessionId = Bytes.ofText saltStart ++ Bytes.ofText sessionId :=
  Bytes.ofText_append saltStart sessionId

/-- A salt fits into a block exactly for session ids of up to 55 bytes. -/
theorem fitsBlock_iff (sessionId : String) :
    FitsBlock sessionId ↔ (Bytes.ofText sessionId).length ≤ 55 := by
  have hstart : (Bytes.ofText saltStart).length = 9 := by decide
  rw [FitsBlock, salt_eq, List.length_append, hstart, Crypto.Sha256.blockSize]
  omega

/-- Different sessions have different salts. -/
theorem salt_injective {a b : String} (h : salt a = salt b) : a = b := by
  rw [salt_eq, salt_eq] at h
  exact Bytes.ofText_injective (List.append_cancel_left h)

/-- A NUL is the byte zero. -/
theorem ofText_nuls (n : Nat) :
    Bytes.ofText (String.ofList (List.replicate n '\x00')) = List.replicate n 0 := by
  induction n with
  | zero => rfl
  | succ n ih =>
    rw [List.replicate_succ, List.replicate_succ, ← List.singleton_append, String.ofList_append,
      Bytes.ofText_append, ih]
    rfl

/-- The ids are text behind what all salts start with, so zeros that follow a salt are NULs that
follow its id. -/
theorem zeroExtends_salt_iff (a b : String) : ZeroExtends (salt a) (salt b) ↔ NulExtends a b := by
  constructor
  · rintro ⟨n, h⟩
    refine ⟨n, Bytes.ofText_injective ?_⟩
    rw [salt_eq, salt_eq, List.append_assoc] at h
    rw [Bytes.ofText_append, ofText_nuls]
    exact List.append_cancel_left h
  · rintro ⟨n, rfl⟩
    exact ⟨n, by rw [salt_eq, salt_eq, Bytes.ofText_append, ofText_nuls, List.append_assoc]⟩

/-- Salts agree up to zeros exactly if the ids agree up to NULs. -/
theorem sameUpToZeros_salt_iff (a b : String) :
    SameUpToZeros (salt a) (salt b) ↔ SameUpToNuls a b :=
  or_congr (zeroExtends_salt_iff a b) (zeroExtends_salt_iff b a)

/-- Sessions whose salts have one block have one extract, whatever the secret. -/
theorem extract_congr {a b : String} (h : blockKey (salt a) = blockKey (salt b)) (secret : Bytes) :
    extract secret a = extract secret b :=
  (Crypto.hmac_eq_iff _ _ _).mpr (.inl h)

/-- Sessions whose salts have one block derive the same from every secret. -/
theorem derive_congr {a b : String} (h : blockKey (salt a) = blockKey (salt b)) (secret : Key) :
    derive .software secret a = derive .software secret b := by
  by_cases hsecret : secret.bytes = []
  · simp [derive, hsecret]
  · simp only [derive_software hsecret, derived, extract_congr h]

/-- Two ids have one salt block if they differ in NULs at the end and their salts fit. -/
theorem blockKey_salt_of_nuls {a b : String} (ha : FitsBlock a) (hb : FitsBlock b)
    (h : SameUpToNuls a b) : blockKey (salt a) = blockKey (salt b) := by
  rw [Crypto.blockKey_eq_iff, Crypto.shortKey_of_le ha, Crypto.shortKey_of_le hb]
  exact (sameUpToZeros_salt_iff a b).mpr h

/-! ## Coincidences of digests -/

/-- The digest of a salt that is too long for a block reads like another salt, but for zeros at the end.
-/
def DigestReadsAs (a b : String) : Prop :=
  FitsBlock a ∧ ¬ FitsBlock b ∧ SameUpToZeros (salt a) (Crypto.Sha256.hash (salt b))

/-- The ways in which digests that should differ can make two sessions agree in a key. -/
inductive Coincidence (secret : Bytes) (a b : String) (p : Purpose) : Prop where
  /-- Both salts are too long for a block and their digests collide. -/
  | salts : ¬ FitsBlock a → ¬ FitsBlock b → Collide Crypto.tagSize (salt a) (salt b) →
      Coincidence secret a b p
  /-- One salt is hashed and its digest stands for the other salt. -/
  | digest : DigestReadsAs a b ∨ DigestReadsAs b a → Coincidence secret a b p
  /-- The outer hashes collide when the secret is extracted. -/
  | extraction : Collide Crypto.tagSize (outer (salt a) secret) (outer (salt b) secret) →
      Coincidence secret a b p
  /-- The outer hashes collide, as far as the key goes, when it is expanded. -/
  | expansion : Collide p.size (outer (extract secret a) p.message) (outer (extract secret b) p.message) →
      Coincidence secret a b p

/-- The salts of two different ids have one block exactly for ids that differ in NULs at the end, or by
a coincidence of the salts' digests. -/
theorem blockKey_salt_iff {a b : String} (hab : a ≠ b) :
    blockKey (salt a) = blockKey (salt b) ↔
      (FitsBlock a ∧ FitsBlock b ∧ SameUpToNuls a b)
        ∨ (¬ FitsBlock a ∧ ¬ FitsBlock b ∧ Collide Crypto.tagSize (salt a) (salt b))
        ∨ DigestReadsAs a b ∨ DigestReadsAs b a := by
  have hsalt : salt a ≠ salt b := fun h => hab (salt_injective h)
  rw [Crypto.blockKey_eq_iff]
  by_cases ha : FitsBlock a <;> by_cases hb : FitsBlock b
  · rw [Crypto.shortKey_of_le ha, Crypto.shortKey_of_le hb, sameUpToZeros_salt_iff]
    simp [DigestReadsAs, ha, hb]
  · rw [Crypto.shortKey_of_le ha, Crypto.shortKey_of_lt hb]
    simp [DigestReadsAs, ha, hb]
  · rw [Crypto.shortKey_of_lt ha, Crypto.shortKey_of_le hb, Bytes.sameUpToZeros_comm]
    simp [DigestReadsAs, ha, hb]
  · have hlen : (Crypto.Sha256.hash (salt a)).length = (Crypto.Sha256.hash (salt b)).length := by
      rw [Crypto.Sha256.length_hash, Crypto.Sha256.length_hash]
    rw [Crypto.shortKey_of_lt ha, Crypto.shortKey_of_lt hb,
      Bytes.sameUpToZeros_iff_of_length hlen, Crypto.hash_eq_iff]
    simp [DigestReadsAs, ha, hb, hsalt]

/-- The extracts of two sessions agree exactly if their salts have one block, or by a collision. -/
theorem extract_eq_iff (secret : Bytes) (a b : String) :
    extract secret a = extract secret b ↔
      blockKey (salt a) = blockKey (salt b)
        ∨ Collide Crypto.tagSize (outer (salt a) secret) (outer (salt b) secret) :=
  Crypto.hmac_eq_iff _ _ _

/-- The keys of two sessions for one purpose agree exactly if their extracts do, or by a collision. -/
theorem derived_eq_iff (secret : Bytes) (a b : String) (p : Purpose) :
    derived secret a p = derived secret b p ↔
      extract secret a = extract secret b
        ∨ Collide p.size (outer (extract secret a) p.message) (outer (extract secret b) p.message) := by
  -- an extract is shorter than a block, so HMAC tells all of them apart
  have hfits : (extract secret a).length ≤ Crypto.Sha256.blockSize := by
    rw [length_extract]
    decide
  have hlen : (extract secret a).length = (extract secret b).length := by
    rw [length_extract, length_extract]
  have hblock : blockKey (extract secret a) = blockKey (extract secret b) ↔
      extract secret a = extract secret b :=
    Crypto.blockKey_eq_iff_of_length hfits hlen
  rw [← hblock, ← Crypto.take_hmac_eq_iff]
  simp only [derived, Key.mk.injEq]

/-- **Which sessions share keys.** From every secret that is not empty both sessions get their keys, and
for different session ids the keys for a purpose are the same exactly if the ids differ in NULs at the
end and their salts fit into a block, or by a coincidence of digests. -/
theorem separated_iff {secret : Key} (hsecret : secret.bytes ≠ []) {a b : String} (hab : a ≠ b) :
    ∃ keysA keysB : SessionKeys,
      derive .software secret a = .ok keysA ∧ derive .software secret b = .ok keysB ∧
        ∀ p : Purpose, keysA.key p = keysB.key p ↔
          (FitsBlock a ∧ FitsBlock b ∧ SameUpToNuls a b) ∨ Coincidence secret.bytes a b p := by
  refine ⟨_, _, derive_software hsecret a, derive_software hsecret b, fun p => ?_⟩
  have agree : derived secret.bytes a p = derived secret.bytes b p ↔
      (FitsBlock a ∧ FitsBlock b ∧ SameUpToNuls a b) ∨ Coincidence secret.bytes a b p := by
    rw [derived_eq_iff, extract_eq_iff, blockKey_salt_iff hab]
    constructor
    · rintro (((h | ⟨ha, hb, h⟩ | h) | h) | h)
      · exact .inl h
      · exact .inr (.salts ha hb h)
      · exact .inr (.digest h)
      · exact .inr (.extraction h)
      · exact .inr (.expansion h)
    · rintro (h | h)
      · exact .inl (.inl (.inl h))
      · cases h with
        | salts ha hb h => exact .inl (.inl (.inr (.inl ⟨ha, hb, h⟩)))
        | digest h => exact .inl (.inl (.inr (.inr h)))
        | extraction h => exact .inl (.inr h)
        | expansion h => exact .inr h
  cases p <;> exact agree

/-- The sessions `s1` and `s2` share a key by a coincidence of digests only. -/
theorem separated_plain_ids :
    ∃ keysA keysB : SessionKeys,
      derive .software ⟨[1]⟩ "s1" = .ok keysA ∧ derive .software ⟨[1]⟩ "s2" = .ok keysB ∧
        ∀ p : Purpose, keysA.key p = keysB.key p → Coincidence [1] "s1" "s2" p := by
  obtain ⟨keysA, keysB, hA, hB, hkeys⟩ :=
    @separated_iff ⟨[1]⟩ (by decide) "s1" "s2" (by decide)
  refine ⟨keysA, keysB, hA, hB, fun p h => ?_⟩
  refine ((hkeys p).mp h).resolve_left ?_
  rintro ⟨-, -, ⟨n, hn⟩ | ⟨n, hn⟩⟩
  · simp [String.ext_iff] at hn
  · simp [String.ext_iff] at hn

/-- Two session ids that differ in a NUL at the end have one triple of keys. -/
theorem not_separated_by_nul :
    "s1" ≠ "s1\x00" ∧ ∃ keys : SessionKeys,
      derive .software ⟨List.replicate 32 0x5a⟩ "s1" = .ok keys ∧
        derive .software ⟨List.replicate 32 0x5a⟩ "s1\x00" = .ok keys := by
  have hsecret : (⟨List.replicate 32 0x5a⟩ : Key).bytes ≠ [] := by simp
  have hblock : blockKey (salt "s1") = blockKey (salt "s1\x00") :=
    blockKey_salt_of_nuls ((fitsBlock_iff _).mpr (by decide)) ((fitsBlock_iff _).mpr (by decide))
      (.inl ⟨1, by decide⟩)
  refine ⟨by decide, _, derive_software hsecret "s1", ?_⟩
  rw [← derive_congr hblock]
  exact derive_software hsecret "s1"

end SessionKeys
end Tether
