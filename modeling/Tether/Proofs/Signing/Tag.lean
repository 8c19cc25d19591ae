import Mathlib.Data.List.Forall2
import Tether.Signing

/-!
# `Tether.Proofs.Signing.Tag` — from a tag to a verdict

A signature is a tag in hexadecimal digits. Different tags have different digits, the digits are the
same in lower case, and no tag is spelled like the placeholder. So the verdict on a signed envelope
hangs on one comparison of tags.

* `Bytes.Hex.encode_inj` — a tag is known from its digits;
* `Signer.sign_eq`, `Signer.signature_of_tag`, `Signer.signature_of_untagged` — what a signed envelope
  carries;
* `Signer.verify_of_tag` — the verdict on digits under the key in force.
-/

namespace Tether

/-! ## Digits -/

namespace Bytes.Hex

/-- A half of a byte as a number below sixteen. -/
theorem exists_fin_of_lt {n : UInt8} (h : n < 16) : ∃ i : Fin 16, n = UInt8.ofNat i :=
  ⟨⟨n.toNat, h⟩, (UInt8.ofNat_toNat).symm⟩

theorem high_lt (b : UInt8) : b / 16 < 16 := by
  rw [UInt8.lt_iff_toNat_lt, UInt8.toNat_div]
  have := b.toNat_lt
  simp only [UInt8.reduceToNat]
  omega

theorem low_lt (b : UInt8) : b % 16 < 16 := by
  rw [UInt8.lt_iff_toNat_lt, UInt8.toNat_mod]
  simp only [UInt8.reduceToNat]
  omega

theorem digit_inj {m n : UInt8} (hm : m < 16) (hn : n < 16) (h : digit m = digit n) : m = n := by
  obtain ⟨i, rfl⟩ := exists_fin_of_lt hm
  obtain ⟨j, rfl⟩ := exists_fin_of_lt hn
  have hall : ∀ i j : Fin 16, digit (UInt8.ofNat i) = digit (UInt8.ofNat j) → i = j := by decide
  rw [hall i j h]

/-- A character that stands for itself in lower case, and is known from its upper case; not the first
    letter of the placeholder. -/
def Plain (c : Char) : Prop := c.toLower = c ∧ c.toUpper.toLower = c ∧ c ≠ 'v'

theorem plain_digit {n : UInt8} (h : n < 16) : Plain (digit n) := by
  obtain ⟨i, rfl⟩ := exists_fin_of_lt h
  have hall : ∀ i : Fin 16, (digit (UInt8.ofNat i)).toLower = digit (UInt8.ofNat i) ∧
      (digit (UInt8.ofNat i)).toUpper.toLower = digit (UInt8.ofNat i) ∧
      digit (UInt8.ofNat i) ≠ 'v' := by decide
  exact hall i

theorem pair_inj {a b : UInt8} (h : pair a = pair b) : a = b := by
  obtain ⟨hhigh, hlow⟩ := List.cons.inj h
  have hhigh := digit_inj (high_lt a) (high_lt b) hhigh
  have hlow := digit_inj (low_lt a) (low_lt b) (List.cons.inj hlow).1
  have hhigh := congrArg UInt8.toNat hhigh
  have hlow := congrArg UInt8.toNat hlow
  rw [UInt8.toNat_div, UInt8.toNat_div] at hhigh
  rw [UInt8.toNat_mod, UInt8.toNat_mod] at hlow
  simp only [UInt8.reduceToNat] at hhigh hlow
  exact UInt8.toNat_inj.mp (by omega)

theorem digits_inj {as bs : Bytes} (h : digits as = digits bs) : as = bs := by
  induction as generalizing bs with
  | nil =>
    cases bs with
    | nil => rfl
    | cons b bs => exact nomatch h
  | cons a as ih =>
    cases bs with
    | nil => exact nomatch h
    | cons b bs =>
      have hsplit : pair a ++ digits as = pair b ++ digits bs := h
      obtain ⟨hpair, hrest⟩ := List.append_inj hsplit rfl
      rw [pair_inj hpair, ih hrest]

/-- **A byte string is known from its digits.** -/
theorem encode_inj {as bs : Bytes} : encode as = encode bs ↔ as = bs :=
  ⟨fun h => digits_inj (String.ofList_injective h), fun h => h ▸ rfl⟩

theorem plain_of_mem_digits {bs : Bytes} {c : Char} (h : c ∈ digits bs) : Plain c := by
  obtain ⟨b, -, hc⟩ := List.mem_flatMap.mp h
  rcases List.mem_cons.mp hc with rfl | hc
  · exact plain_digit (high_lt b)
  · rw [List.mem_singleton.mp hc]; exact plain_digit (low_lt b)

end Bytes.Hex

namespace Signer

variable {p : Provider} {signer verifier : Signer} {milliseconds : Int} {random : Bytes}
  {sessionKey : Option Key} {key : Key} {e : Envelope}

/-- `t` is `s` with letters in another case. -/
def Recased (s t : String) : Prop :=
  List.Forall₂ (fun a b => b = a ∨ b = a.toUpper ∨ b = a.toLower) s.toList t.toList

theorem Recased.refl (s : String) : Recased s s := List.forall₂_same.mpr fun _ _ => Or.inl rfl

/-- The digits of a tag are the same in lower case, whatever case they were given in. -/
theorem lowerAscii_of_recased {bs : Bytes} {given : String}
    (h : Recased (Bytes.Hex.encode bs) given) : lowerAscii given = Bytes.Hex.encode bs := by
  have hlower : ∀ ds cs : List Char, (∀ d ∈ ds, Bytes.Hex.Plain d) →
      List.Forall₂ (fun a b => b = a ∨ b = a.toUpper ∨ b = a.toLower) ds cs →
      cs.map Char.toLower = ds := by
    intro ds cs hds hcs
    induction hcs with
    | nil => rfl
    | cons hd _ ih =>
      obtain ⟨⟨hlow, hup, -⟩, hds⟩ := List.forall_mem_cons.mp hds
      rw [List.map_cons, ih hds]
      rcases hd with rfl | rfl | rfl
      · rw [hlow]
      · rw [hup]
      · rw [hlow, hlow]
  unfold Recased at h
  rw [Bytes.Hex.encode, String.toList_ofList] at h
  rw [lowerAscii, hlower _ _ (fun _ => Bytes.Hex.plain_of_mem_digits) h, Bytes.Hex.encode]

/-- No tag is spelled like the placeholder, in whatever case. -/
theorem ne_placeholder_of_lowerAscii {given : String} {tag : Bytes}
    (h : lowerAscii given = Bytes.Hex.encode tag) : given ≠ Protocol.placeholderSignature := by
  rintro rfl
  have hv : 'v' ∈ (Bytes.Hex.encode tag).toList := by rw [← h]; decide
  rw [Bytes.Hex.encode, String.toList_ofList] at hv
  exact (Bytes.Hex.plain_of_mem_digits hv).2.2 rfl

/-! ## Signing -/

/-- The envelope with its nonce, about to be signed. -/
def stamp (signer : Signer) (milliseconds : Int) (random : Bytes) (e : Envelope) : Envelope :=
  { e with nonce := some (nonce signer.clientId milliseconds random) }

/-- Signing attaches a nonce and a signature, and changes nothing else. -/
theorem sign_eq (signer : Signer) (p : Provider) (milliseconds : Int) (random : Bytes)
    (sessionKey : Option Key) (e : Envelope) :
    ∃ text, (signer.sign p milliseconds random sessionKey e).1 =
      { signer.stamp milliseconds random e with signature := some text } := by
  unfold sign
  dsimp only
  split
  · exact ⟨_, rfl⟩
  · split <;> exact ⟨_, rfl⟩

/-- A signature covers neither itself nor what it is sent with. -/
theorem canonical_sign (signer : Signer) (p : Provider) (milliseconds : Int) (random : Bytes)
    (sessionKey : Option Key) (e : Envelope) :
    (signer.sign p milliseconds random sessionKey e).1.canonical =
      (signer.stamp milliseconds random e).canonical := by
  obtain ⟨text, h⟩ := sign_eq signer p milliseconds random sessionKey e
  rw [h]
  rfl

/-- Under a key whose HMAC succeeds, the signature is the tag in digits. -/
theorem signature_of_tag (hkey : signer.key sessionKey = some key) {tag : Bytes}
    (hmac : p.hmac key.bytes (signer.sign p milliseconds random sessionKey e).1.canonical = .ok tag) :
    (signer.sign p milliseconds random sessionKey e).1.signature =
      some (Bytes.Hex.encode tag) := by
  rw [canonical_sign] at hmac
  have hsignature : signature p key (signer.stamp milliseconds random e) =
      .ok (Bytes.Hex.encode tag) := by rw [signature, hmac]
  unfold sign
  rw [hkey]
  dsimp only
  rw [show signature p key { e with nonce := _ } = .ok _ from hsignature]

/-- Where no key is in force, or its HMAC fails, the signature is the placeholder. -/
theorem signature_of_untagged (h : ∀ key, signer.key sessionKey = some key →
      ∃ f, p.hmac key.bytes (signer.sign p milliseconds random sessionKey e).1.canonical = .error f) :
    (signer.sign p milliseconds random sessionKey e).1.signature =
      some Protocol.placeholderSignature := by
  rw [canonical_sign] at h
  unfold sign
  dsimp only
  split
  · rfl
  · rename_i key hkey
    obtain ⟨f, hf⟩ := h key hkey
    have hsignature : signature p key (signer.stamp milliseconds random e) = .error f := by
      rw [signature, hf]
    rw [show signature p key { e with nonce := _ } = .error f from hsignature]

/-! ## Checking -/

/-- An envelope that carries the placeholder counts as unsigned for everybody. -/
theorem verify_placeholder (h : e.signature = some Protocol.placeholderSignature) :
    verifier.verify p sessionKey e = .unsigned := by
  rw [verify, h]
  exact if_pos rfl

/-- **The verdict on digits**, in whatever case, is a comparison with the digits of the envelope's own
    tag. -/
theorem verify_of_tag (hkey : verifier.key sessionKey = some key) {given : String} {tag tag' : Bytes}
    (hgiven : e.signature = some given) (hlower : lowerAscii given = Bytes.Hex.encode tag)
    (hmac : p.hmac key.bytes e.canonical = .ok tag') :
    verifier.verify p sessionKey e =
      if p.equal (Bytes.ofText (Bytes.Hex.encode tag')) (Bytes.ofText (Bytes.Hex.encode tag)) then
        .valid else .mismatch := by
  rw [verify, hgiven]
  dsimp only
  rw [if_neg (ne_placeholder_of_lowerAscii hlower), hkey]
  dsimp only
  rw [signature, hmac]
  dsimp only
  rw [hlower]

end Signer
end Tether
