import Tether.Proofs.Json.Printed
import Tether.Proofs.Signing.Tag

/-!
# `Tether.Proofs.Signing.Canonical` — what a signature vouches for

The canonical text can be read back (`Json.render_inj`), and the record that it spells shows each of the
six parts it was made of, the session by its presence. So nothing can move from one part into another
while the text stays the same, and a signature that still verifies stands for the same six parts unless
two texts share a tag.

* `Envelope.canonical_eq_iff` — the canonical bytes are the same just when the six parts are;
* `Signer.verify_eq_valid_iff` — a carried signature is valid just when the tags are the same;
* `Signer.integrity` — both together, and what a signature does not cover.
-/

namespace Tether

namespace Envelope

/-- The envelopes agree on what a signature covers. -/
structure Agree (s t : Envelope) : Prop where
  name : s.kind.name = t.kind.name
  threadId : s.threadId = t.threadId
  sessionId : s.sessionId = t.sessionId
  timestamp : s.timestamp = t.timestamp
  /-- No nonce counts as an empty one. -/
  nonce : s.nonce.getD "" = t.nonce.getD ""
  payload : s.payload = t.payload

theorem exact_ofText? (s : Option String) : (Json.ofText? s).Exact := by
  cases s <;> trivial

theorem exact_signable {e : Envelope} (h : e.payload.Exact) : e.signable.Exact := by
  unfold signable
  cases e.sessionId with
  | none => exact ⟨trivial, exact_ofText? _, trivial, trivial, h, trivial⟩
  | some _ => exact ⟨trivial, exact_ofText? _, trivial, trivial, trivial, h, trivial⟩

theorem ofText?_inj {s t : Option String} (h : Json.ofText? s = Json.ofText? t) : s = t := by
  cases s <;> cases t <;> cases h <;> rfl

theorem ofInt64_inj {i j : Int64} (h : Whole.ofInt64 i = Whole.ofInt64 j) : i = j :=
  Int64.toInt_inj.mp (congrArg Whole.val h)

/-- The record shows its parts. -/
theorem agree_of_signable_eq {s t : Envelope} (h : s.signable = t.signable) : s.Agree t := by
  have hmembers := Json.object.inj h
  -- a session is told from its absence by the key that stands in third place
  cases hs : s.sessionId <;> cases ht : t.sessionId <;>
    simp only [hs, ht, Meta.present, Option.map_none, Option.map_some, List.cons_append,
      List.nil_append, List.cons.injEq, Prod.mk.injEq, Json.text.injEq, Json.number.injEq,
      Number.whole.injEq, true_and, and_true, String.reduceEq, false_and, and_false] at hmembers
  case none.none =>
    obtain ⟨hname, hthread, htime, hnonce, hpayload⟩ := hmembers
    exact ⟨hname, ofText?_inj hthread, hs.trans ht.symm, ofInt64_inj htime, hnonce, hpayload⟩
  case some.some =>
    obtain ⟨hname, hthread, hsession, htime, hnonce, hpayload⟩ := hmembers
    exact ⟨hname, ofText?_inj hthread, by rw [hs, ht, hsession], ofInt64_inj htime, hnonce, hpayload⟩

/-- **The canonical bytes are known from the six parts, and the six parts from the bytes**, whatever
    characters the texts hold. -/
theorem canonical_eq_iff {s t : Envelope} (hs : s.payload.Exact) (ht : t.payload.Exact) :
    s.canonical = t.canonical ↔ s.Agree t := by
  constructor
  · intro h
    have hrender : s.signable.render = t.signable.render := Bytes.ofText_injective h
    exact agree_of_signable_eq (Json.render_inj (exact_signable hs) (exact_signable ht) hrender)
  · rintro ⟨hname, hthread, hsession, htime, hnonce, hpayload⟩
    unfold canonical canonicalText signable
    rw [hname, hthread, hsession, htime, hnonce, hpayload]

end Envelope

namespace Signer

/-- The envelope was signed under a key, and the HMAC gave a tag. -/
structure Sealed (p : Provider) (key : Key) (tag : Bytes) (s : Envelope) : Prop where
  signed : ∃ (signer : Signer) (milliseconds : Int) (random : Bytes) (sessionKey : Option Key)
    (e : Envelope), signer.key sessionKey = some key ∧
      (signer.sign p milliseconds random sessionKey e).1 = s
  tagged : p.hmac key.bytes s.canonical = .ok tag

/-- A sealed envelope carries its tag. -/
theorem Sealed.signature_eq {p : Provider} {key : Key} {tag : Bytes} {s : Envelope}
    (h : Sealed p key tag s) : s.signature = some (Bytes.Hex.encode tag) := by
  obtain ⟨⟨signer, milliseconds, random, sessionKey, e, hkey, rfl⟩, htagged⟩ := h
  exact signature_of_tag hkey htagged

/-- **A signature that was carried over is valid just when the tags are the same.** -/
theorem verify_eq_valid_iff {p : Provider} (hequal : ∀ a b, p.equal a b = (a == b)) {key : Key}
    {tag tag' : Bytes} {s t : Envelope} {verifier : Signer} {sessionKey : Option Key}
    (hs : Sealed p key tag s) (ht : p.hmac key.bytes t.canonical = .ok tag')
    (hsame : t.signature = s.signature) (hkey : verifier.key sessionKey = some key) :
    verifier.verify p sessionKey t = .valid ↔ tag' = tag := by
  have hsignature : t.signature = some (Bytes.Hex.encode tag) := hsame.trans hs.signature_eq
  rw [verify_of_tag hkey hsignature (lowerAscii_of_recased (Recased.refl _)) ht, hequal]
  constructor
  · intro h
    split at h
    · exact Bytes.Hex.encode_inj.mp (Bytes.ofText_injective (beq_iff_eq.mp ‹_›))
    · cases h
  · rintro rfl
    exact if_pos (beq_self_eq_true _)

/-- **What a signature vouches for.** Canonical bytes are the same just when the envelopes agree on the
    six parts that a signature covers. A signature that was carried over to another envelope is valid
    there just when the two envelopes have the same tag; unless two texts share that tag, a valid one so
    means that the six parts are unchanged. Metadata and encoding have no part in any verdict. -/
theorem integrity :
    (∀ s t : Envelope, s.payload.Exact → t.payload.Exact →
      (s.canonical = t.canonical ↔ s.Agree t)) ∧
    (∀ (p : Provider) (key : Key) (tag tag' : Bytes) (s t : Envelope) (verifier : Signer)
      (sessionKey : Option Key), (∀ a b, p.equal a b = (a == b)) → Sealed p key tag s →
      p.hmac key.bytes t.canonical = .ok tag' → t.signature = s.signature →
      verifier.key sessionKey = some key →
      (verifier.verify p sessionKey t = .valid ↔ tag' = tag) ∧
      (s.payload.Exact → t.payload.Exact → (tag' = tag → t.canonical = s.canonical) →
        verifier.verify p sessionKey t = .valid → t.Agree s)) ∧
    ∀ (p : Provider) (verifier : Signer) (sessionKey : Option Key) (t : Envelope)
      (info : Option Meta) (encoding : Option Encoding),
      verifier.verify p sessionKey { t with info, encoding } = verifier.verify p sessionKey t := by
  refine ⟨fun s t hs ht => Envelope.canonical_eq_iff hs ht, ?_, fun _ _ _ _ _ _ => rfl⟩
  intro p key tag tag' s t verifier sessionKey hequal hs ht hsame hkey
  have hvalid := verify_eq_valid_iff hequal hs ht hsame hkey
  refine ⟨hvalid, fun hsexact htexact hnocollision h => ?_⟩
  exact (Envelope.canonical_eq_iff htexact hsexact).mp (hnocollision (hvalid.mp h))

/-- A signed update whose payload imitates other fields: it covers its nonce, and stays valid when it is
    marked as encoded otherwise. -/
theorem integrity_reencoded :
    let signer := Signer.create "c1" (some "secret") .lenient
    let e : Envelope :=
      { kind := .stateUpdate, threadId := some "t1", sessionId := none, timestamp := 1700000000,
        payload := .object [("\",\"nonce\":\"", .text "\x7d")], info := none, encoding := none,
        nonce := none, signature := none }
    let s := (signer.sign Provider.software 1700000000123 [1, 2, 3, 4, 5, 6, 7, 8] none e).1
    let t := { s with encoding := some .toon }
    s.canonical ≠ e.canonical ∧ signer.verify Provider.software none t = .valid ∧ t.Agree s := by
  intro signer e s t
  have hs : Sealed Provider.software ⟨Bytes.ofText "secret"⟩
      (Crypto.hmac (Bytes.ofText "secret") s.canonical) s := ⟨⟨signer, _, _, none, e, rfl, rfl⟩, rfl⟩
  have hexact : e.payload.Exact := ⟨trivial, trivial⟩
  obtain ⟨hvalid, hagree⟩ := integrity.2.1 Provider.software _ _ _ s t signer none (fun _ _ => rfl) hs
    rfl rfl rfl
  refine ⟨fun h => ?_, hvalid.mpr rfl, hagree hexact hexact (fun _ => rfl) (hvalid.mpr rfl)⟩
  exact absurd ((integrity.1 s e hexact hexact).mp h).nonce (by decide)

end Signer
end Tether
