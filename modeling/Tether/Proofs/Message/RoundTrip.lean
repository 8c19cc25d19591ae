import Tether.Message.Inbound
import Tether.Proofs.Message.Written

/-!
# `Tether.Proofs.Message.RoundTrip` — frames and messages

A message that is well formed is parsed back from its own frame, and every message that is parsed from
any text is well formed, as long as the free-form parts of the text hold no doubles. So one pass through
parsing and writing settles every spelling that the reader tolerates: members out of order, left out or
null, keys repeated, times with a fraction, names of types and encodings given in another way.

* `Inbound.WellFormed` — what a message may look like;
* `Inbound.parse_frame` — a well-formed message is parsed back from its frame;
* `Inbound.wellFormed_of_parse` — a parsed message is well formed;
* `Inbound.roundTrip` — both together.
-/

namespace Tether

open Json (Schema Reader Place)

/-! ## Well-formed messages -/

/-- A type that an envelope may have: no handshake type, and no built-in name given as another one. -/
structure Kind.Proper (k : Kind) : Prop where
  notHandshake : k.isHandshake = false
  notBuiltin : ∀ name, k = .other name → ∀ b ∈ Kind.builtin, b.name ≠ name

/-- An envelope that can be told from its frame. -/
structure Envelope.WellFormed (e : Envelope) : Prop where
  kind : e.kind.Proper
  plain : e.Plain
  affect : ∀ m, e.info = some m → m.affect ≠ some .null
  depth : e.toJson.depth ≤ Json.maxDepth

/-- A handshake message that can be told from its frame. -/
structure Handshake.WellFormed (h : Handshake) : Prop where
  metadata : ∀ v, h.metadata = some v → v ≠ .null ∧ v.Plain
  depth : h.toJson.depth ≤ Json.maxDepth

namespace Inbound

/-- A message that can be told from its frame. -/
def WellFormed : Inbound → Prop
  | .handshake h => h.WellFormed
  | .envelope e => e.WellFormed

/-- The members that a message of a kind keeps as free-form JSON, or in which it keeps some. -/
def freeMembers : Kind → List String
  | .handshakeInit | .handshakeAck => ["metadata"]
  | .handshakeResume | .handshakeReject => []
  | _ => ["payload", "meta"]

/-- The free-form parts of the text hold no doubles. -/
def ExactText (s : String) : Prop :=
  ∀ v name, Json.parse s = .ok v → v.get? "type" = some (.text name) →
    ∀ key ∈ freeMembers (Kind.ofName name), ∀ w, v.get? key = some w → w.Exact

end Inbound

/-! ## From a message to its frame and back -/

theorem Kind.Proper.ofName_name {k : Kind} (h : k.Proper) : Kind.ofName k.name = k := by
  cases k with
  | other name =>
    have hnone : Kind.builtin.find? (fun b => b.name = name) = none :=
      List.find?_eq_none.mpr fun b hb => by simpa using h.notBuiltin name rfl b hb
    rw [Kind.name, Kind.ofName, hnone]; rfl
  | _ => exact Kind.ofName_name_of_mem (by decide)

theorem Handshake.ofName_name (h : Handshake) : Kind.ofName h.kind.name = h.kind := by
  cases h <;> exact Kind.ofName_name_of_mem (by simp [kind, Kind.builtin])

theorem Envelope.WellFormed.normal_eq {e : Envelope} (h : e.WellFormed) : e.normal = e := by
  have hinfo : e.info.map Meta.normal = e.info := by
    cases hi : e.info with
    | none => rfl
    | some m =>
      have haffect : Meta.settled m.affect = m.affect := by
        have hne := h.affect m hi
        unfold Meta.settled
        split
        · exact absurd ‹_› hne
        · rfl
      rw [Option.map_some, Meta.normal, haffect]
  rw [normal, h.kind.ofName_name, hinfo]

/-- **The frame of an envelope is read in the order of its text**, as the normal form. -/
theorem Envelope.ofFrame_frame {e : Envelope} (h : e.Plain) (hdepth : e.toJson.depth ≤ Json.maxDepth) :
    ofFrame e.frame = .ok e.normal := by
  have hread : reader Place.text e.toJson.toTree = .ok e.normal :=
    reads h (by decide) _ (Json.Reordered.refl (distinct_toJson h)) hdepth
  rw [ofFrame, frame, Json.Document.ofText_render (exact_toJson h), Json.Document.read, hread]
  rfl

namespace Inbound

/-- The value of a frame has the type of the message. -/
theorem get?_type_sorted {k : Kind} {ms : List (String × Json)}
    (hms : (("type" :: ms.map Prod.fst)).Nodup) :
    (Json.object (("type", .text k.name) :: ms)).sorted.get? "type" = some (.text k.name) := by
  rw [Json.sorted, Json.get?, Json.find?_ordered _ (by rw [Json.keys_sortedMembers]; exact hms),
    Json.find?_sortedMembers]
  rfl

/-- An envelope is parsed back from its frame as its normal form, unless it has a handshake type. -/
theorem parse_envelope {e : Envelope} (h : e.Plain) (hdepth : e.toJson.depth ≤ Json.maxDepth)
    (hkind : (Kind.ofName e.kind.name).isHandshake = false) :
    parse e.frame = .ok (.envelope e.normal) := by
  have hread : Envelope.reader Place.value e.toJson.sorted.toTree = .ok e.normal :=
    Envelope.reads h (by decide) _ (Json.reordered_sorted _) ((Json.depth_sorted_le _).trans hdepth)
  have htype : e.toJson.sorted.get? "type" = some (.text e.kind.name) :=
    get?_type_sorted e.nodup_members
  rw [Envelope.frame, parse, Json.parse_render (Envelope.exact_toJson h) hdepth]
  dsimp only
  rw [ofJson, htype]
  dsimp only [Option.bind_some, Json.text?]
  rw [hkind, if_neg Bool.false_ne_true, hread]

/-- A handshake message is parsed back from its frame. -/
theorem parse_handshake {m : Handshake} (h : m.WellFormed) : parse m.frame = .ok (.handshake m) := by
  have hexact := Handshake.exact_toJson fun v hv => (h.metadata v hv).2.exact
  have hread : Handshake.reader Place.value m.toJson.sorted.toTree = .ok m :=
    Handshake.reads (fun v hv => ⟨(h.metadata v hv).1, (h.metadata v hv).2.ordered⟩) _
      (Json.reordered_sorted _) ((Json.depth_sorted_le _).trans h.depth)
  have hkind : m.kind.isHandshake = true := by cases m <;> rfl
  have htype : m.toJson.sorted.get? "type" = some (.text m.kind.name) :=
    get?_type_sorted m.nodup_members
  rw [Handshake.frame, parse, Json.parse_render hexact h.depth]
  dsimp only
  rw [ofJson, htype]
  dsimp only [Option.bind_some, Json.text?]
  rw [m.ofName_name, if_pos hkind, hread]

/-- **A well-formed message is parsed back from its frame.** -/
theorem parse_frame {x : Inbound} (h : x.WellFormed) : parse x.frame = .ok x := by
  cases x with
  | handshake m => exact parse_handshake h
  | envelope e =>
    have hkind : (Kind.ofName e.kind.name).isHandshake = false := by
      rw [h.kind.ofName_name]; exact h.kind.notHandshake
    have hparse := parse_envelope h.plain h.depth hkind
    rwa [h.normal_eq] at hparse

end Inbound

/-! ## From a text to its message -/

theorem Kind.proper_ofName {s : String} (h : (Kind.ofName s).isHandshake = false) :
    (Kind.ofName s).Proper := by
  refine ⟨h, fun name hother b hb heq => ?_⟩
  have hname : name = s := by rw [← Kind.name_ofName s, hother]; rfl
  rw [hname] at heq
  -- a built-in name is found as such
  rw [← heq, Kind.ofName_name_of_mem hb] at hother
  subst hother
  simp [Kind.builtin] at hb

namespace Meta

/-- Metadata that was read is in its normal form, and as plain as the value that it was read from. -/
theorem of_reads {room : Nat} {p : Place} (hp : p.source ≠ .table) (hroom : p.inside.room = room)
    {w : Json} (hw : w.Fits (room + 1)) {m : Meta} (h : reader p w.toTree = .ok m) :
    (w.Exact → m.Plain) ∧ m.affect ≠ some .null ∧ m.toJson.depth ≤ room + 1 := by
  cases w with
  | null | bool | number | text | list => exact nomatch h
  | object ms =>
    obtain ⟨make, hmake, rfl⟩ := Schema.ofMembers_of_openReader hroom hw h
    obtain ⟨make', tag, hmake', -, rfl⟩ := Schema.ofMembers_and.mp hmake
    obtain ⟨make'', affect, hmake'', haffect, rfl⟩ := Schema.ofMembers_and.mp hmake'
    obtain ⟨client, -, rfl⟩ := Schema.ofMembers_map.mp hmake''
    -- the affect is a member of the value, and so are the further ones
    have hvalue : ∀ v, affect = some v →
        v ≠ .null ∧ Json.find? "affect" ms = some v ∧ v.Fits room := by
      rintro v rfl
      obtain ⟨hnull, t, ht, hv⟩ := Schema.ofMembers_optional_json (p := p.inside) hp haffect
      rw [hroom] at hv
      exact ⟨hnull, Json.find?_of_toJson hw ht hv⟩
    obtain ⟨hascending, hfits⟩ := Json.fits_object_iff.mp hw
    have hmem : ∀ x ∈ ms.filter fun x => (schema.fields.lookup x.1).isNone, x ∈ ms :=
      fun x => List.mem_of_mem_filter
    refine ⟨fun hexact => ?_, fun hnull => (hvalue _ hnull).1 rfl, ?_⟩
    · have hexact := Json.exactMembers_iff.mp hexact
      refine ⟨fun v hv => ?_, ?_, fun x hx => ?_, fun x hx => ?_⟩
      · obtain ⟨-, hfind, hvfits⟩ := hvalue v hv
        exact ⟨hvfits.1, hexact _ (Json.mem_of_find? hfind)⟩
      · exact Json.ascending_iff.mpr ((Json.ascending_iff.mp hascending).filter _)
      · exact ⟨(hfits x (hmem x hx)).1, hexact x (hmem x hx)⟩
      · exact isNone_lookup.mp (List.mem_filter.mp hx).2
    · exact depth_toJson_le_iff.mpr ⟨fun v hv => (hvalue v hv).2.2.2, fun x hx =>
        (hfits x (hmem x hx)).2⟩

end Meta

namespace Envelope

/-- Where the parts of an envelope that was read come from. -/
theorem of_reads {ms : List (String × Json)} (hms : (Json.object ms).Fits Json.maxDepth) {e : Envelope}
    (h : reader Place.value (Json.object ms).toTree = .ok e) :
    (∃ s, Json.find? "type" ms = some (.text s) ∧ e.kind = Kind.ofName s) ∧
    (e.payload ≠ .null → Json.find? "payload" ms = some e.payload) ∧ e.payload.Fits 126 ∧
    ∀ m, e.info = some m → ∃ w, Json.find? "meta" ms = some w ∧ w.Fits 126 ∧
      Meta.reader Place.value.inside w.toTree = .ok m := by
  have hfields := Schema.ofMembers_of_reader h
  simp only [schema, Schema.ofMembers_and, Schema.ofMembers_map] at hfields
  obtain ⟨_, _, ⟨_, _, ⟨_, _, ⟨_, info, ⟨_, payload, ⟨_, _, ⟨_, _, ⟨_, _, ⟨kind, hkind, rfl⟩, -, rfl⟩,
    -, rfl⟩, -, rfl⟩, hpayload, rfl⟩, hinfo, rfl⟩, -, rfl⟩, -, rfl⟩, -, rfl⟩ := hfields
  refine ⟨?_, ?_, ?_, ?_⟩
  · rcases Schema.ofMembers_field.mp hkind with ⟨t, ht, hread⟩ | ⟨_, hdefault⟩
    · obtain ⟨v, hv, rfl⟩ := Json.mem_toTreeMembers (Schema.mem_of_find? ht)
      obtain ⟨s, hs, rfl⟩ := Reader.of_map hread
      rw [Reader.of_text hs] at hv
      exact ⟨s, Json.find?_of_mem hms.1.1.nodup hv, rfl⟩
    · exact nomatch hdefault
  · rcases Schema.ofMembers_field.mp hpayload with ⟨t, ht, hread⟩ | ⟨_, hdefault⟩
    · exact fun _ => (Json.find?_of_toJson hms (Schema.mem_of_find? ht) hread).1
    · exact fun hne => absurd (Option.some.inj hdefault).symm hne
  · rcases Schema.ofMembers_field.mp hpayload with ⟨t, ht, hread⟩ | ⟨_, hdefault⟩
    · exact (Json.find?_of_toJson hms (Schema.mem_of_find? ht) hread).2
    · rw [← Option.some.inj hdefault]
      exact ⟨trivial, Nat.zero_le _⟩
  · rintro m rfl
    rcases Schema.ofMembers_field.mp hinfo with ⟨t, ht, hread⟩ | ⟨_, hdefault⟩
    · obtain ⟨w, hw, rfl⟩ := Json.mem_toTreeMembers (Schema.mem_of_find? ht)
      obtain ⟨hascending, hfits⟩ := Json.fits_object_iff.mp hms
      exact ⟨w, Json.find?_of_mem hascending.nodup hw, hfits _ hw,
        (Reader.of_optional (by decide) hread).2⟩
    · exact nomatch hdefault

end Envelope

theorem Init.metadata_of_schema {p : Place} {members : List (Option String × Json.Tree)} {m : Init}
    (h : Init.schema.ofMembers p members = .ok m) :
    (Schema.optional "metadata" Reader.json).ofMembers p members = .ok m.metadata := by
  simp only [Init.schema, Schema.ofMembers_and, Schema.ofMembers_map] at h
  obtain ⟨_, _, ⟨_, _, ⟨_, _, ⟨_, _, ⟨_, _, ⟨_, _, ⟨_, -, rfl⟩, -, rfl⟩, -, rfl⟩, -, rfl⟩, -, rfl⟩,
    hmetadata, rfl⟩, -, rfl⟩ := h
  exact hmetadata

theorem Ack.metadata_of_schema {p : Place} {members : List (Option String × Json.Tree)} {m : Ack}
    (h : Ack.schema.ofMembers p members = .ok m) :
    (Schema.optional "metadata" Reader.json).ofMembers p members = .ok m.metadata := by
  simp only [Ack.schema, Schema.ofMembers_and, Schema.ofMembers_map] at h
  obtain ⟨_, _, ⟨_, _, ⟨_, _, ⟨_, _, ⟨_, _, ⟨_, _, ⟨_, _, ⟨_, -, rfl⟩, -, rfl⟩, -, rfl⟩, -, rfl⟩, -,
    rfl⟩, -, rfl⟩, hmetadata, rfl⟩, -, rfl⟩ := h
  exact hmetadata

namespace Handshake

/-- Where the parts of a handshake message that was read come from. -/
theorem of_reads {ms : List (String × Json)} (hms : (Json.object ms).Fits Json.maxDepth) {h : Handshake}
    (hread : reader Place.value (Json.object ms).toTree = .ok h) :
    Json.find? "type" ms = some (.text h.kind.name) ∧ ∀ v, h.metadata = some v →
      v ≠ .null ∧ Json.find? "metadata" ms = some v ∧ v.Fits 126 := by
  obtain ⟨name, r, gathered, htag, hlookup, hmem, hrecord⟩ := Json.Union.variant_of_reader hread
  have htype : Json.find? "type" ms = some (.text name) := by
    obtain ⟨v, hv, htree⟩ := Json.mem_toTreeMembers htag
    rw [Json.toTree_inj v (.text name) htree.symm] at hv
    exact Json.find?_of_mem hms.1.1.nodup hv
  -- what was read as metadata stands among the members
  have hmetadata : ∀ (o : Option Json), (Schema.optional "metadata" Reader.json).ofMembers
      (Place.inside ⟨.gathered, Json.maxDepth⟩) gathered = .ok o → ∀ v, o = some v →
      v ≠ .null ∧ Json.find? "metadata" ms = some v ∧ v.Fits 126 := by
    rintro o ho v rfl
    obtain ⟨hnull, t, ht, hv⟩ := Schema.ofMembers_optional_json (by decide) ho
    exact ⟨hnull, Json.find?_of_toJson hms (hmem _ ht) hv⟩
  have hvariant : (name, r) ∈ variants := by
    obtain ⟨before, after, heq, -⟩ := List.lookup_eq_some_iff.mp hlookup
    rw [heq]; simp
  simp only [variants, List.mem_cons, Prod.mk.injEq, List.not_mem_nil, or_false] at hvariant
  rcases hvariant with ⟨rfl, rfl⟩ | ⟨rfl, rfl⟩ | ⟨rfl, rfl⟩ | ⟨rfl, rfl⟩
  · obtain ⟨m, hm, rfl⟩ := Reader.of_map hrecord
    exact ⟨htype, hmetadata _ (Init.metadata_of_schema (Schema.ofMembers_of_reader hm))⟩
  · obtain ⟨m, -, rfl⟩ := Reader.of_map hrecord
    exact ⟨htype, nofun⟩
  · obtain ⟨m, hm, rfl⟩ := Reader.of_map hrecord
    exact ⟨htype, hmetadata _ (Ack.metadata_of_schema (Schema.ofMembers_of_reader hm))⟩
  · obtain ⟨m, -, rfl⟩ := Reader.of_map hrecord
    exact ⟨htype, nofun⟩

end Handshake

/-- A handshake message that was read is well formed. -/
theorem Handshake.wellFormed_of_reads {ms : List (String × Json)}
    (hms : (Json.object ms).Fits Json.maxDepth) {h : Handshake}
    (hread : reader Place.value (Json.object ms).toTree = .ok h)
    (hexact : ∀ key ∈ Inbound.freeMembers h.kind, ∀ w, Json.find? key ms = some w → w.Exact) :
    h.WellFormed := by
  obtain ⟨-, hmetadata⟩ := of_reads hms hread
  refine ⟨fun v hv => ?_, depth_toJson_le fun v hv => (hmetadata v hv).2.2.2⟩
  obtain ⟨hnull, hfind, hordered, -⟩ := hmetadata v hv
  refine ⟨hnull, hordered, hexact "metadata" ?_ v hfind⟩
  cases h with
  | init | ack => exact List.mem_cons_self
  | resume | reject => exact nomatch hv

/-- An envelope that was read is well formed, unless it has a handshake type. -/
theorem Envelope.wellFormed_of_reads {ms : List (String × Json)}
    (hms : (Json.object ms).Fits Json.maxDepth) {e : Envelope}
    (hread : reader Place.value (Json.object ms).toTree = .ok e) (hkind : e.kind.isHandshake = false)
    (hexact : ∀ key ∈ Inbound.freeMembers e.kind, ∀ w, Json.find? key ms = some w → w.Exact) :
    e.WellFormed := by
  obtain ⟨⟨s, -, hs⟩, hpayload, hpayloadFits, hinfo⟩ := of_reads hms hread
  have hfree : ∀ key ∈ ["payload", "meta"], key ∈ Inbound.freeMembers e.kind := by
    intro key hkey
    cases hk : e.kind <;> rw [hk] at hkind <;> first | exact hkey | exact nomatch hkind
  have hmeta : ∀ m, e.info = some m →
      m.Plain ∧ m.affect ≠ some .null ∧ m.toJson.depth ≤ 126 := by
    intro m hm
    obtain ⟨w, hw, hwfits, hwread⟩ := hinfo m hm
    have hroom : Place.value.inside.inside.room = 125 := rfl
    obtain ⟨hplain, haffect, hdepth⟩ := Meta.of_reads (by decide) hroom hwfits hwread
    exact ⟨hplain (hexact "meta" (hfree _ (by simp)) w hw), haffect, hdepth⟩
  have hpayloadExact : e.payload.Exact := by
    by_cases hnull : e.payload = .null
    · rw [hnull]; trivial
    · exact hexact "payload" (hfree _ (by simp)) _ (hpayload hnull)
  have hplain : e.Plain := ⟨⟨hpayloadFits.1, hpayloadExact⟩, fun m hm => (hmeta m hm).1⟩
  exact ⟨hs ▸ Kind.proper_ofName (hs ▸ hkind), hplain, fun m hm => (hmeta m hm).2.1,
    depth_toJson_le_iff.mpr ⟨hpayloadFits.2, fun m hm => (hmeta m hm).2.2⟩⟩

namespace Inbound

/-- A message that was parsed was read from an object with a type. -/
theorem of_parse {s : String} {x : Inbound} (h : parse s = .ok x) :
    ∃ ms name, Json.parse s = .ok (.object ms) ∧ Json.find? "type" ms = some (.text name) ∧
      ((∃ m, Handshake.reader Place.value (Json.object ms).toTree = .ok m ∧ x = .handshake m) ∨
        ∃ e, (Kind.ofName name).isHandshake = false ∧
          Envelope.reader Place.value (Json.object ms).toTree = .ok e ∧ x = .envelope e) := by
  unfold parse at h
  split at h
  · rename_i v hv
    unfold ofJson at h
    split at h
    · exact nomatch h
    · rename_i name hname
      obtain ⟨type, htype, htext⟩ := Option.bind_eq_some_iff.mp hname
      cases type <;> cases htext
      cases v with
      | null | bool | number | text | list => exact nomatch htype
      | object ms =>
        refine ⟨ms, name, hv, htype, ?_⟩
        split at h
        · split at h
          · exact Or.inl ⟨_, ‹_›, (Except.ok.inj h).symm⟩
          · exact nomatch h
        · split at h
          · exact Or.inr ⟨_, eq_false_of_ne_true ‹_›, ‹_›, (Except.ok.inj h).symm⟩
          · exact nomatch h
  · exact nomatch h

/-- **A message that was parsed is well formed.** -/
theorem wellFormed_of_parse {s : String} (hs : ExactText s) {x : Inbound} (h : parse s = .ok x) :
    x.WellFormed := by
  obtain ⟨ms, name, hv, htype, ⟨m, hm, rfl⟩ | ⟨e, hhandshake, he, rfl⟩⟩ := of_parse h
  · have hfits := Json.fits_of_parse hv
    have hkind : name = m.kind.name := by
      cases htype.symm.trans (Handshake.of_reads hfits hm).1; rfl
    have hexact := hs _ name hv htype
    rw [hkind, m.ofName_name] at hexact
    exact Handshake.wellFormed_of_reads hfits hm hexact
  · have hfits := Json.fits_of_parse hv
    obtain ⟨⟨name', hname', hkind⟩, -⟩ := Envelope.of_reads hfits he
    obtain rfl : name = name' := by cases htype.symm.trans hname'; rfl
    have hexact := hs _ name hv htype
    rw [← hkind] at hexact hhandshake
    exact Envelope.wellFormed_of_reads hfits he hhandshake hexact

/-- A text that was printed without doubles has none in its free-form parts. -/
theorem exactText_render {v : Json} (hv : v.Exact) (hdepth : v.depth ≤ Json.maxDepth) :
    ExactText v.render := by
  intro w name hw _ key _ part hpart
  rw [Json.parse_render hv hdepth] at hw
  obtain rfl := Except.ok.inj hw
  have hsorted := Json.exact_sorted v hv
  cases hobject : v.sorted with
  | null | bool | number | text | list => rw [hobject] at hpart; exact nomatch hpart
  | object ms =>
    rw [hobject] at hpart hsorted
    exact Json.exactMembers_iff.mp hsorted _ (Json.mem_of_find? hpart)

/-- **The round trip between frames and messages.** A well-formed message is parsed back from its frame;
    and whatever message is parsed from a text without doubles in its free-form parts is well formed, so
    that its own frame is parsed as the same message again. -/
theorem roundTrip :
    (∀ x : Inbound, x.WellFormed → parse x.frame = .ok x) ∧
    ∀ (s : String) (x : Inbound), ExactText s → parse s = .ok x →
      x.WellFormed ∧ parse x.frame = .ok x := by
  refine ⟨fun x => parse_frame, fun s x hs h => ?_⟩
  have hx := wellFormed_of_parse hs h
  exact ⟨hx, parse_frame hx⟩

/-- A signed update with a payload, metadata and a nonce, there and back twice. -/
theorem roundTrip_update :
    let e : Envelope :=
      { kind := .stateUpdate, threadId := some "t1", sessionId := none, timestamp := -5,
        payload := .object [("a", .text "\"\n"), ("b", .list [Json.ofNat 7, .null])],
        info := some { clientId := some "c1", affect := some (.bool true), extra := [("k", .null)] },
        encoding := some .toon, nonce := some "n", signature := some "00" }
    (Inbound.envelope e).WellFormed ∧ parse e.frame = .ok (.envelope e) := by
  intro e
  have hmeta : ∀ m, e.info = some m → m.Plain ∧ m.affect ≠ some .null := by
    rintro m hm
    obtain rfl := Option.some.inj hm
    refine ⟨⟨?_, trivial, ?_, ?_⟩, nofun⟩
    · intro v hv; obtain rfl := Option.some.inj hv; exact ⟨trivial, trivial⟩
    · intro x hx; rw [List.mem_singleton.mp hx]; exact ⟨trivial, trivial⟩
    · intro x hx; rw [List.mem_singleton.mp hx]; decide
  have hplain : e.Plain :=
    ⟨⟨⟨⟨by decide, trivial⟩, trivial, ⟨trivial, trivial, trivial⟩, trivial⟩,
      trivial, ⟨trivial, trivial, trivial⟩, trivial⟩, fun m hm => (hmeta m hm).1⟩
  have hwell : (Inbound.envelope e).WellFormed :=
    ⟨⟨rfl, nofun⟩, hplain, fun m hm => (hmeta m hm).2, by decide⟩
  have hexact : ExactText e.frame := exactText_render (Envelope.exact_toJson hplain) hwell.depth
  exact roundTrip.2 e.frame (.envelope e) hexact (roundTrip.1 (.envelope e) hwell)

end Inbound
end Tether
