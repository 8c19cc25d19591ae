import Tether.Proofs.Message.RoundTrip
import Tether.Proofs.Signing.Nonce

/-!
# `Tether.Proofs.Signing.Wire` — what was signed is verified after the wire

The receiver computes the tag anew, from the envelope that it read and not from the one that was signed.
Both have the same canonical bytes: the wire settles the spelling of the type and of the metadata, and a
signature covers neither. So whoever has the key that was in force finds the signature valid, and an
envelope that could not be signed counts as unsigned for everybody.

* `Envelope.canonical_normal` — the wire keeps the canonical bytes;
* `Signer.inj_of_sign_nonce` — signing again gives another nonce, unless all repeats;
* `Signer.signed_wire` — signing, sending and checking together.
-/

namespace Tether

namespace Envelope

variable {e : Envelope}

/-- **The wire keeps the canonical bytes.** -/
theorem canonical_normal (e : Envelope) : e.normal.canonical = e.canonical := by
  unfold canonical canonicalText signable normal
  rw [Kind.name_ofName]

/-- The frame of the envelope is read as its normal form, in the order of the text and, unless it has a
    handshake type, as a message. -/
structure Travels (e : Envelope) : Prop where
  read : ofFrame e.frame = .ok e.normal
  parsed : (Kind.ofName e.kind.name).isHandshake = false →
    Inbound.parse e.frame = .ok (.envelope e.normal)

/-- An envelope travels, whatever its nonce and its signature. -/
theorem travels (he : e.Plain) (hdepth : e.toJson.depth ≤ Json.maxDepth)
    (nonce signature : Option String) : Travels { e with nonce, signature } := by
  have hplain : Plain { e with nonce, signature } := ⟨he.payload, he.info⟩
  obtain ⟨hpayload, hinfo⟩ := (depth_toJson_le_iff (e := e)).mp hdepth
  have hdepth : ({ e with nonce, signature } : Envelope).toJson.depth ≤ Json.maxDepth :=
    depth_toJson_le_iff.mpr ⟨hpayload, hinfo⟩
  exact ⟨ofFrame_frame hplain hdepth, Inbound.parse_envelope hplain hdepth⟩

end Envelope

namespace Signer

variable {p : Provider} {signer : Signer} {milliseconds : Int} {random : Bytes}
  {sessionKey : Option Key} {key : Key} {e : Envelope}

/-! ## Signing and sending -/

/-- Signing again gives another nonce, unless the time and the random bytes are the same. -/
theorem inj_of_sign_nonce {signer' : Signer} {p' : Provider} {milliseconds' : Int} {random' : Bytes}
    {sessionKey' : Option Key} {e' : Envelope} (hclient : signer'.clientId = signer.clientId)
    (hlength : random'.length = random.length)
    (h : (signer'.sign p' milliseconds' random' sessionKey' e').1.nonce =
      (signer.sign p milliseconds random sessionKey e).1.nonce) :
    milliseconds' = milliseconds ∧ random' = random := by
  rw [nonce_sign, nonce_sign, hclient] at h
  exact nonce_inj hlength (Option.some.inj h)

/-- Signing anew leaves nothing of an earlier signing. -/
theorem sign_sign {signer' : Signer} {p' : Provider} {milliseconds' : Int} {random' : Bytes}
    {sessionKey' : Option Key} :
    signer'.sign p' milliseconds' random' sessionKey'
      (signer.sign p milliseconds random sessionKey e).1 =
        signer'.sign p' milliseconds' random' sessionKey' e := by
  obtain ⟨text, h⟩ := sign_eq signer p milliseconds random sessionKey e
  rw [h]
  rfl

/-- Everyone who has the key in force, and to whom the bytes have the tag, finds the signature valid. -/
def Accepted (key : Key) (covered tag : Bytes) (e : Envelope) : Prop :=
  ∀ (q : Provider) (verifier : Signer) (sessionKey : Option Key), (∀ a, q.equal a a = true) →
    q.hmac key.bytes covered = .ok tag → verifier.key sessionKey = some key →
    verifier.verify q sessionKey e = .valid

/-- The digits of the tag are accepted on the envelope that was read, in whatever case they came. -/
theorem accepted_normal {tag : Bytes} {given : String}
    (hgiven : Recased (Bytes.Hex.encode tag) given) (hsignature : e.signature = some given) :
    Accepted key e.canonical tag e.normal := by
  intro q verifier sessionKey hequal hmac hkey
  rw [← Envelope.canonical_normal] at hmac
  have hnormal : e.normal.signature = some given := hsignature
  rw [verify_of_tag hkey hnormal (lowerAscii_of_recased hgiven) hmac]
  exact if_pos (hequal _)

/-- **What was signed is verified after the wire.** A signed envelope travels. Under a key whose HMAC
    succeeds it carries the tag, and its signature is accepted on the envelope that is read, also when
    the digits travelled in another case. Without such a key it carries the placeholder, and the envelope
    that is read counts as unsigned for everybody. Nothing but nonce and signature has changed; signing
    anew leaves nothing of the first signing, and gives another nonce unless the clock and the random
    bytes are the same. -/
theorem signed_wire {e : Envelope} (he : e.Plain) (hdepth : e.toJson.depth ≤ Json.maxDepth)
    (signer : Signer) (p : Provider) (milliseconds : Int) (random : Bytes) (sessionKey : Option Key) :
    let s := (signer.sign p milliseconds random sessionKey e).1
    s.Travels ∧
    (∀ key tag, signer.key sessionKey = some key → p.hmac key.bytes s.canonical = .ok tag →
      s.signature = some (Bytes.Hex.encode tag) ∧ Accepted key s.canonical tag s.normal ∧
      ∀ given, Recased (Bytes.Hex.encode tag) given →
        let t := { s with signature := some given }
        t.Travels ∧ Accepted key s.canonical tag t.normal) ∧
    ((∀ key, signer.key sessionKey = some key → ∃ f, p.hmac key.bytes s.canonical = .error f) →
      s.signature = some Protocol.placeholderSignature ∧
      ∀ (q : Provider) (verifier : Signer) (sessionKey' : Option Key),
        verifier.verify q sessionKey' s.normal = .unsigned) ∧
    s = { e with nonce := s.nonce, signature := s.signature } ∧
    ∀ (signer' : Signer) (p' : Provider) (milliseconds' : Int) (random' : Bytes)
      (sessionKey' : Option Key),
      signer'.sign p' milliseconds' random' sessionKey' s =
        signer'.sign p' milliseconds' random' sessionKey' e ∧
      (signer'.clientId = signer.clientId → random'.length = random.length →
        (signer'.sign p' milliseconds' random' sessionKey' e).1.nonce = s.nonce →
        milliseconds' = milliseconds ∧ random' = random) := by
  intro s
  obtain ⟨text, hs⟩ := sign_eq signer p milliseconds random sessionKey e
  have hsigned : s = { signer.stamp milliseconds random e with signature := some text } := hs
  have htravels : ∀ signature, Envelope.Travels { s with signature } := by
    intro signature
    rw [hsigned]
    exact Envelope.travels he hdepth _ signature
  refine ⟨htravels s.signature, ?_, ?_, ?_, ?_⟩
  · intro key tag hkey hmac
    have hsignature : s.signature = some (Bytes.Hex.encode tag) := signature_of_tag hkey hmac
    exact ⟨hsignature, accepted_normal (Recased.refl _) hsignature, fun given hgiven =>
      ⟨htravels (some given), accepted_normal (e := { s with signature := some given }) hgiven rfl⟩⟩
  · intro huntagged
    have hsignature : s.signature = some Protocol.placeholderSignature :=
      signature_of_untagged huntagged
    exact ⟨hsignature, fun q verifier sessionKey' => verify_placeholder hsignature⟩
  · rw [hsigned]; rfl
  · intro signer' p' milliseconds' random' sessionKey'
    exact ⟨sign_sign, inj_of_sign_nonce⟩

/-- An update that is signed with a secret and checked with the same key of a session, by another client
    and in upper case; and one that nobody could sign. -/
theorem signed_wire_update :
    let e : Envelope :=
      { kind := .other "event", threadId := some "t1", sessionId := none, timestamp := 1700000000,
        payload := .object [("a", .text "\"")],
        info := some { affect := some .null, extra := [("k", .null)] },
        encoding := some .json, nonce := none, signature := none }
    let keyed := Signer.create "c1" (some "secret") .lenient
    let keyless := Signer.create "c1" (some "") .lenient
    let key : Key := ⟨Bytes.ofText "secret"⟩
    let s := (keyed.sign Provider.software 1700000000123 [1, 2, 3, 4, 5, 6, 7, 8] none e).1
    let u := (keyless.sign Provider.software 1700000000123 [1, 2, 3, 4, 5, 6, 7, 8] none e).1
    let loud := (Bytes.Hex.encode (Crypto.hmac key.bytes s.canonical)).toList.map Char.toUpper
    Inbound.parse s.frame = .ok (.envelope s.normal) ∧
    (Signer.create "c2" none .strict).verify Provider.software (some key)
      ({ s with signature := some (String.ofList loud) } : Envelope).normal = .valid ∧
    keyed.verify Provider.software none u.normal = .unsigned := by
  intro e keyed keyless key s u loud
  have hplain : e.Plain := by
    refine ⟨⟨⟨trivial, trivial, trivial⟩, trivial, trivial⟩, fun m hm => ?_⟩
    obtain rfl := Option.some.inj hm
    refine ⟨?_, trivial, ?_, ?_⟩
    · intro v hv; obtain rfl := Option.some.inj hv; exact ⟨trivial, trivial⟩
    · intro x hx; rw [List.mem_singleton.mp hx]; exact ⟨trivial, trivial⟩
    · intro x hx; rw [List.mem_singleton.mp hx]; decide
  have hdepth : e.toJson.depth ≤ Json.maxDepth := by decide
  have hloud : Recased (Bytes.Hex.encode (Crypto.hmac key.bytes s.canonical)) (String.ofList loud) := by
    rw [Recased, String.toList_ofList, List.forall₂_map_right_iff]
    exact List.forall₂_same.mpr fun _ _ => Or.inr (Or.inl rfl)
  obtain ⟨htravels, htagged, -⟩ := signed_wire hplain hdepth keyed Provider.software 1700000000123
    [1, 2, 3, 4, 5, 6, 7, 8] none
  obtain ⟨-, -, haccepted⟩ := htagged key _ rfl rfl
  obtain ⟨-, -, huntagged, -⟩ := signed_wire hplain hdepth keyless Provider.software 1700000000123
    [1, 2, 3, 4, 5, 6, 7, 8] none
  exact ⟨htravels.parsed (by decide),
    (haccepted _ hloud).2 Provider.software _ _ (fun _ => beq_self_eq_true _) rfl rfl,
    (huntagged nofun).2 Provider.software keyed none⟩

end Signer
end Tether
