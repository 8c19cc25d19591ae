import Tether.Proofs.Json.Spelled
import Tether.Proofs.Message.Viewed
import Tether.Signing

/-!
# `Tether.Proofs.Message.Agreement` — two ways to read an envelope

The client reads a frame to a free-form value first, whose objects are in order, and the envelope off that
value. Peers read the envelope off the text. Both see the same nine members, so both read the same
envelope or refuse the frame, as long as no object of it repeats a key.

* `Framed` — a text that spells an object without repeated keys, of a type that is no handshake;
* `Framed.result`, `Framed.outcome` — what either way makes of it;
* `Alike` — objects that agree on some members, whatever their order;
* `Envelope.readers_agree` — **both ways agree**, and neither the envelope nor what a signature covers
  depends on the spelling of the text, the order of its members or members that are no field.
-/

namespace Tether

open Json (Spells View Outcome Place Source)

namespace Envelope

/-- The text spells an object without repeated keys, nested no deeper than it may, of a type that is no
    handshake. -/
structure Framed (s : String) (ms : List (String × Json)) : Prop where
  spelled : Spells s (.object ms)
  depth : (Json.object ms).depth ≤ Json.maxDepth
  distinct : (Json.object ms).Distinct
  type : ∃ name, Json.find? "type" ms = some (.text name) ∧ name ∉ Kind.handshakes

namespace Framed

variable {s : String} {ms : List (String × Json)}

/-- What is made of the text by way of its value. -/
theorem result (h : Framed s ms) :
    Inbound.Result ((view (Json.seen ms)).map .envelope) (Inbound.parse s) := by
  obtain ⟨name, htype, hname⟩ := h.type
  have hparse : Json.parse s = .ok (Json.object ms).sorted :=
    Json.parse_eq_ok_iff.mpr ⟨_, h.spelled, h.depth, rfl⟩
  have hfits := Json.fits_of_parse hparse
  have hfinite := Json.finite_of_parse hparse
  rw [Json.sorted] at hparse hfits hfinite
  -- the members of the value are those of the text, put in order
  have hfind := Json.find?_ordered_sortedMembers h.distinct.1
  have htype' : Json.find? "type" (Json.ordered (Json.sortedMembers ms)) = some (.text name) := by
    rw [congrFun hfind "type", Json.seen, htype]
    rfl
  have hresult := Inbound.result_ofJson hfits hfinite htype'
  have hkind := Kind.isHandshake_ofName.not.mpr hname
  rw [Inbound.view_of_not_handshake hkind, hfind] at hresult
  rw [Inbound.parse, hparse]
  exact hresult

theorem parse_iff (h : Framed s ms) {e : Envelope} :
    Inbound.parse s = .ok (.envelope e) ↔ view (Json.seen ms) = some e := by
  rw [h.result.ok_iff, Option.map_eq_some_iff]
  constructor
  · rintro ⟨e', he', heq⟩
    cases heq
    exact he'
  · intro he
    exact ⟨e, he, rfl⟩

/-- What is made of the text itself. -/
theorem outcome (h : Framed s ms) : Outcome Place.text (view (Json.seen ms)) (ofFrame s) := by
  have hread : Outcome Place.text (view (Json.seen ms)) (reader Place.text (Json.object ms).toTree) :=
    (means_schema Source.noConfusion).reader lawful_schema "Envelope"
      ⟨h.distinct, h.spelled.finite, h.depth⟩
  have hframe : ofFrame s = reader Place.text (Json.object ms).toTree := by
    rw [ofFrame, Json.Document.ofText_eq_iff.mpr h.spelled, Json.Document.read]
    cases reader Place.text (Json.object ms).toTree <;> rfl
  rw [hframe]
  exact hread

end Framed

/-- The objects agree on these members, put in order. -/
def Alike (keys : List String) (ms ns : List (String × Json)) : Prop :=
  ∀ key ∈ keys, Json.seen ms key = Json.seen ns key

/-- The members that a signature covers, and the signature. -/
def signed : List String :=
  ["type", "thread_id", "session_id", "timestamp", "nonce", "payload", "signature"]

/-- What is read off members on which objects agree is the same. -/
theorem Alike.field_eq {keys : List String} {ms ns : List (String × Json)} (h : Alike keys ms ns)
    {α : Type} {name : String} (hname : name ∈ keys) {f : Json → Option α} {absence : Option α} {a a' : α}
    (ha : View.field name f absence (Json.seen ms) = some a)
    (ha' : View.field name f absence (Json.seen ns) = some a') : a = a' := by
  have hsame : View.field name f absence (Json.seen ms) = View.field name f absence (Json.seen ns) :=
    View.confined_field name f absence _ _ fun key hkey => h key (List.mem_singleton.mp hkey ▸ hname)
  rw [ha, ha'] at hsame
  exact Option.some.inj hsame

/-- **What a signature covers is read off seven members**, and so is the signature. -/
theorem signable_eq_of_alike {ms ns : List (String × Json)} (h : Alike signed ms ns) {e e' : Envelope}
    (he : view (Json.seen ms) = some e) (he' : view (Json.seen ns) = some e') :
    e.signable = e'.signable ∧ e.signature = e'.signature := by
  simp only [view, View.and, View.map, Option.bind_eq_some_iff, Option.map_eq_some_iff] at he he'
  obtain ⟨_, ⟨_, ⟨_, ⟨_, ⟨_, ⟨_, ⟨_, ⟨_, ⟨kind, hkind, rfl⟩, threadId, hthread, rfl⟩, sessionId, hsession,
    rfl⟩, timestamp, htime, rfl⟩, payload, hpayload, rfl⟩, info, -, rfl⟩, encoding, -, rfl⟩, nonce, hnonce,
    rfl⟩, signature, hsignature, rfl⟩ := he
  obtain ⟨_, ⟨_, ⟨_, ⟨_, ⟨_, ⟨_, ⟨_, ⟨_, ⟨kind', hkind', rfl⟩, threadId', hthread', rfl⟩, sessionId',
    hsession', rfl⟩, timestamp', htime', rfl⟩, payload', hpayload', rfl⟩, info', -, rfl⟩, encoding', -,
    rfl⟩, nonce', hnonce', rfl⟩, signature', hsignature', rfl⟩ := he'
  obtain rfl := h.field_eq (by decide) hkind hkind'
  obtain rfl := h.field_eq (by decide) hthread hthread'
  obtain rfl := h.field_eq (by decide) hsession hsession'
  obtain rfl := h.field_eq (by decide) htime htime'
  obtain rfl := h.field_eq (by decide) hpayload hpayload'
  obtain rfl := h.field_eq (by decide) hnonce hnonce'
  obtain rfl := h.field_eq (by decide) hsignature hsignature'
  exact ⟨rfl, rfl⟩

theorem canonical_eq_of_signable {e e' : Envelope} (h : e.signable = e'.signable) :
    e.canonical = e'.canonical := by
  unfold canonical canonicalText
  rw [h]

theorem verify_eq_of_signable {e e' : Envelope} (h : e.signable = e'.signable)
    (hsignature : e.signature = e'.signature) (verifier : Signer) (p : Provider) (key : Option Key) :
    verifier.verify p key e = verifier.verify p key e' := by
  unfold Signer.verify Signer.signature
  rw [hsignature, canonical_eq_of_signable h]

/-- **The two ways to read an envelope agree.** Of every text that spells an object without repeated keys,
    of a type that is no handshake, both read the same envelope or neither does. Two such texts that agree
    on the members of an envelope hold the same one or none, however they are spelled, whatever the order
    of their members, and whatever else they hold. Envelopes read off texts that agree on the signed
    members, in either way, have the same canonical bytes and the same verdict. -/
theorem readers_agree :
    (∀ s ms, Framed s ms →
      (∃ e, Inbound.parse s = .ok (.envelope e) ∧ ofFrame s = .ok e) ∨
        (∃ error, Inbound.parse s = .error error) ∧ ∃ fault, ofFrame s = .error fault) ∧
    (∀ s ms s' ns, Framed s ms → Framed s' ns → Alike names ms ns →
      ∀ e, Inbound.parse s = .ok (.envelope e) ↔ ofFrame s' = .ok e) ∧
    ∀ s ms s' ns, Framed s ms → Framed s' ns → Alike signed ms ns →
      ∀ e e', Inbound.parse s = .ok (.envelope e) → ofFrame s' = .ok e' →
        e.canonical = e'.canonical ∧ ∀ (verifier : Signer) (p : Provider) (key : Option Key),
          verifier.verify p key e = verifier.verify p key e' := by
  refine ⟨fun s ms h => ?_, fun s ms s' ns h h' hsame e => ?_, ?_⟩
  · have hresult := h.result
    have houtcome := h.outcome
    cases hview : view (Json.seen ms) with
    | some e => exact Or.inl ⟨e, h.parse_iff.mpr hview, houtcome.ok_iff.mpr hview⟩
    | none =>
      rw [hview] at hresult houtcome
      obtain ⟨m, hm, -⟩ := hresult
      obtain ⟨fault, hfault, -⟩ := houtcome
      exact Or.inr ⟨⟨_, hm⟩, fault, hfault⟩
  · rw [h.parse_iff, h'.outcome.ok_iff, confined_view _ _ hsame]
  · intro s ms s' ns h h' hsame e e' he he'
    obtain ⟨hsignable, hsignature⟩ :=
      signable_eq_of_alike hsame (h.parse_iff.mp he) (h'.outcome.ok_iff.mp he')
    exact ⟨canonical_eq_of_signable hsignable, verify_eq_of_signable hsignable hsignature⟩

/-- A bare ping, once with an escape in its key and once with a member that is no field. -/
theorem readers_agree_respelled :
    let s := " \x7b\"\\u0074ype\" : \"ping\"\x7d"
    let s' := (Json.object [("x", .list []), ("type", .text "ping")]).render
    Framed s [("type", .text "ping")] ∧ Framed s' [("x", .list []), ("type", .text "ping")] ∧
      ∃ e, Inbound.parse s = .ok (.envelope e) ∧ ofFrame s' = .ok e := by
  intro s s'
  have hping : Json.Grammar.Value ['"', 'p', 'i', 'n', 'g', '"', '\x7d'] (.text "ping") ['\x7d'] :=
    .text (Json.Grammar.text_of_plain (s := ['p', 'i', 'n', 'g']) (by decide) _)
  have hkey : Json.Grammar.Text (['\\', 'u', '0', '0', '7', '4', 'y', 'p', 'e', '"', ' ', ':', ' '] ++
      ['"', 'p', 'i', 'n', 'g', '"', '\x7d']) "type".toList
      [' ', ':', ' ', '"', 'p', 'i', 'n', 'g', '"', '\x7d'] :=
    .unit (n := 116) rfl rfl rfl (Json.Grammar.text_of_plain (s := ['y', 'p', 'e']) (by decide) _)
  have hcolon : Json.Grammar.Gap [' ', ':', ' ', '"', 'p', 'i', 'n', 'g', '"', '\x7d']
      [':', ' ', '"', 'p', 'i', 'n', 'g', '"', '\x7d'] := ⟨[' '], List.forall_mem_singleton.mpr rfl, rfl⟩
  have hs : Spells " \x7b\"\\u0074ype\" : \"ping\"\x7d" (.object [("type", .text "ping")]) := by
    refine ⟨_, [], ⟨[' '], List.forall_mem_singleton.mpr rfl, rfl⟩,
      .object (.last (.mk (.refl _) hkey hcolon ?_ hping) ?_), .refl []⟩
    · exact ⟨[' '], List.forall_mem_singleton.mpr rfl, rfl⟩
    · exact .refl _
  have hframed : Framed s [("type", .text "ping")] :=
    ⟨hs, by decide, ⟨by decide, trivial, trivial⟩, "ping", rfl, by decide⟩
  have hframed' : Framed s' [("x", .list []), ("type", .text "ping")] :=
    ⟨Json.spells_render ⟨trivial, trivial, trivial⟩, by decide, ⟨by decide, trivial, trivial, trivial⟩,
      "ping", rfl, by decide⟩
  have halike : Alike names [("type", .text "ping")] [("x", .list []), ("type", .text "ping")] := by
    intro key hkey
    have hne : key ≠ "x" := by
      rintro rfl
      exact absurd hkey (by decide)
    unfold Json.seen
    rw [Json.find?, Json.find?, Json.find?, if_neg hne.symm]
    rfl
  have hview : view (Json.seen [("type", .text "ping")]) = some
      { kind := .ping, threadId := none, sessionId := none, timestamp := 0, payload := .null, info := none,
        encoding := none, nonce := none, signature := none } := rfl
  refine ⟨hframed, hframed', _, hframed.parse_iff.mpr hview, ?_⟩
  exact (readers_agree.2.1 s _ s' _ hframed hframed' halike _).mp (hframed.parse_iff.mpr hview)

end Envelope
end Tether
