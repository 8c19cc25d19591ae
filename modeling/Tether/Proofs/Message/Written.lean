import Tether.Message.Handshake
import Tether.Proofs.Json.Records

/-!
# `Tether.Proofs.Message.Written` — messages are read as they were written

Each message is written as an object, and its reader takes every field back off that object, whatever
the order of the members. Two spellings are settled on the way: a type is read as the kind of its name,
and an affect that is null as none (`Envelope.normal`).

* `Plain` — what a message may hold of free-form JSON, in order and without doubles;
* `Envelope.reads` — an envelope is read as its normal form;
* `Handshake.reads` — a handshake message is read as it is.
-/

namespace Tether

open Json (Schema Reader Place)

/-- Free-form JSON in order and without doubles. -/
structure Json.Plain (v : Json) : Prop where
  ordered : v.Ordered
  exact : v.Exact

/-! ## Members -/

namespace Meta

@[simp] theorem find?_present (key k : String) (o : Option Json) :
    Json.find? key (present k o) = if k = key then o else none := by
  cases o with
  | none => rw [present, Json.find?, ite_self]
  | some v => rfl

/-- What is left out is no member. -/
theorem forall_mem_present {P : String × Json → Prop} {k : String} {o : Option Json} :
    (∀ m ∈ present k o, P m) ↔ ∀ v, o = some v → P (k, v) := by
  cases o <;> simp [present]

theorem keys_present (k : String) (o : Option Json) :
    ((present k o).map Prod.fst).Sublist [k] := by
  cases o with
  | none => exact List.nil_sublist _
  | some v => exact List.Sublist.refl _

end Meta

open Meta (present find?_present forall_mem_present keys_present)

/-! ## Scalars -/

namespace Envelope

/-- A time that is written as a whole number is read as the same time. -/
theorem clamp_toInt (t : Int64) : clamp t.toInt = t := by
  have hlow := t.le_toInt
  have hhigh := t.toInt_lt
  rw [clamp, Int.min_eq_left (by omega), Int.max_eq_right (by omega), Int64.ofInt_toInt]

/-- A time is read back as it was. -/
theorem reads_seconds (p : Place) (t : Int64) :
    secondsReader.Reads p (.number (.whole (Whole.ofInt64 t))) t := by
  have hnumber : (Reader.optional Reader.number).Reads p (.number (.whole (Whole.ofInt64 t)))
      (some (.whole (Whole.ofInt64 t))) := (Reader.reads_number _).optional Json.noConfusion
  intro w hw hdepth
  rw [secondsReader, hnumber w hw hdepth]
  exact congrArg Except.ok (clamp_toInt t)

/-- A type is read back by its name. -/
theorem reads_kind (p : Place) (k : Kind) : kindReader.Reads p (.text k.name) (Kind.ofName k.name) :=
  (Reader.reads_text k.name).map Kind.ofName

end Envelope

theorem Encoding.reads (p : Place) (c : Encoding) : Encoding.reader.Reads p (.text c.name) c :=
  Reader.reads_choice (by cases c <;> rfl)

/-- A list of texts is read back. -/
theorem reads_texts (p : Place) (ss : List String) : Reader.text.list.Reads p (texts ss) ss :=
  Reader.reads_texts p ss

/-! ## Metadata -/

namespace Meta

/-- The names of the fields with a meaning. -/
def names : List String := ["client_id", "affect", "context_tag"]

/-- The members on the wire. -/
def members (m : Meta) : List (String × Json) :=
  present "client_id" (m.clientId.map .text) ++ present "affect" m.affect
    ++ present "context_tag" (m.contextTag.map .text) ++ m.extra

/-- An affect that is read: null is none. -/
def settled : Option Json → Option Json
  | some .null => none
  | o => o

/-- The metadata that is read back. -/
def normal (m : Meta) : Meta := { m with affect := settled m.affect }

/-- The metadata holds plain JSON, and further members that are no field. -/
structure Plain (m : Meta) : Prop where
  affect : ∀ v, m.affect = some v → v.Plain
  ascending : Json.Ascending m.extra
  extra : ∀ x ∈ m.extra, x.2.Plain
  avoids : ∀ x ∈ m.extra, x.1 ∉ names

variable {m : Meta} {p : Place}

/-- What the fields of meta data take has passed their checks. -/
theorem lawful_schema : schema.Lawful :=
  ((Schema.lawful_field _ _ _).map _).and (Schema.lawful_field _ _ _)
    |>.and (Schema.lawful_field _ _ _)

/-- What is extra in meta data hides no field. -/
theorem Plain.find?_extra (h : m.Plain) {key : String} (hkey : key ∈ names) :
    Json.find? key m.extra = none := by
  refine Json.find?_eq_none.mpr fun hmem => ?_
  obtain ⟨x, hx, rfl⟩ := List.mem_map.mp hmem
  exact h.avoids x hx hkey

/-- Meta data is written without repeated keys. -/
theorem nodup_members (h : m.Plain) : (m.members.map Prod.fst).Nodup := by
  have hfields := ((keys_present "client_id" (m.clientId.map .text)).append
    (keys_present "affect" m.affect)).append (keys_present "context_tag" (m.contextTag.map .text))
  rw [← List.map_append, ← List.map_append] at hfields
  rw [members, List.map_append, List.nodup_append]
  refine ⟨List.Nodup.sublist hfields (by decide), h.ascending.nodup, ?_⟩
  rintro key hkey _ hextra rfl
  obtain ⟨x, hx, rfl⟩ := List.mem_map.mp hextra
  exact h.avoids x hx (hfields.subset hkey)

/-- What holds of the members on the wire holds of what they were made from. -/
theorem forall_mem_members {P : Json → Prop} (htext : ∀ s, P (.text s)) :
    (∀ x ∈ m.members, P x.2) ↔ (∀ v, m.affect = some v → P v) ∧ ∀ x ∈ m.extra, P x.2 := by
  simp only [members, List.forall_mem_append, forall_mem_present, Option.map_eq_some_iff]
  constructor
  · rintro ⟨⟨⟨-, haffect⟩, -⟩, hextra⟩
    exact ⟨haffect, hextra⟩
  · rintro ⟨haffect, hextra⟩
    refine ⟨⟨⟨?_, haffect⟩, ?_⟩, hextra⟩ <;> (rintro _ ⟨s, -, rfl⟩; exact htext s)

/-- Meta data keeps to numbers that are printed and read exactly. -/
theorem exact_toJson (h : m.Plain) : m.toJson.Exact :=
  Json.exactMembers_iff.mpr ((forall_mem_members fun _ => trivial).mpr
    ⟨fun v hv => (h.affect v hv).exact, fun x hx => (h.extra x hx).exact⟩)

theorem distinct_toJson (h : m.Plain) : m.toJson.Distinct :=
  ⟨nodup_members h, Json.distinctMembers_iff.mpr ((forall_mem_members fun _ => trivial).mpr
    ⟨fun v hv => Json.distinct_of_ordered v (h.affect v hv).ordered,
      fun x hx => Json.distinct_of_ordered x.2 (h.extra x hx).ordered⟩)⟩

/-- Meta data nests as deep as what it holds of other values. -/
theorem depth_toJson_le_iff {n : Nat} : m.toJson.depth ≤ n + 1 ↔
    (∀ v, m.affect = some v → v.depth ≤ n) ∧ ∀ x ∈ m.extra, x.2.depth ≤ n := by
  rw [← forall_mem_members (P := fun v => v.depth ≤ n) fun _ => Nat.zero_le n,
    ← Json.depthMembers_le_iff]
  exact Nat.add_le_add_iff_right

theorem reads_affect (hp : p.source ≠ .table) {ms : List (String × Json)} {o : Option Json}
    (hfind : Json.find? "affect" ms = o) (h : ∀ v, o = some v → v.Plain) :
    (Schema.optional "affect" Reader.json).Reads p ms (settled o) := by
  cases o with
  | none => exact Schema.reads_absent hfind rfl
  | some v =>
    by_cases hv : v = .null
    · subst hv
      exact Schema.reads_present hfind (Reader.reads_optional_null hp)
    · have hsettled : settled (some v) = some v := by cases v <;> first | exact absurd rfl hv | rfl
      rw [hsettled]
      exact Schema.reads_present hfind ((Reader.reads_json (h v rfl).ordered).optional hv)

/-- The fields of meta data are read back, but that a null affect is none. -/
theorem reads_schema (h : m.Plain) (hp : p.source ≠ .table) :
    schema.Reads p m.members (Meta.mk m.clientId (settled m.affect) m.contextTag) := by
  have hclient : Json.find? "client_id" m.members = m.clientId.map .text := by
    simp [members, h.find?_extra (show "client_id" ∈ names by decide)]
  have haffect : Json.find? "affect" m.members = m.affect := by
    simp [members, h.find?_extra (show "affect" ∈ names by decide)]
  have htag : Json.find? "context_tag" m.members = m.contextTag.map .text := by
    simp [members, h.find?_extra (show "context_tag" ∈ names by decide)]
  exact ((Schema.reads_optional_text hclient).map Meta.mk)
    |>.and (reads_affect hp haffect h.affect)
    |>.and (Schema.reads_optional_text htag)

theorem isNone_lookup {key : String} : (schema.fields.lookup key).isNone ↔ key ∉ names := by
  rw [Option.isNone_iff_eq_none, List.lookup_eq_none_iff]
  constructor
  · intro h hmem
    obtain ⟨field, hfield, rfl⟩ := List.mem_map.mp (show key ∈ schema.fields.map Prod.fst from hmem)
    exact absurd (h field hfield) (by simp)
  · intro h field hfield
    refine bne_iff_ne.mpr ?_
    rintro rfl
    exact h (show field.1 ∈ schema.fields.map Prod.fst from List.mem_map_of_mem hfield)

/-- **Metadata is read as its normal form.** -/
theorem reads (h : m.Plain) (hp : p.source ≠ .table) : reader.Reads p m.toJson m.normal := by
  refine Schema.Reads.openReader (reads_schema h hp) lawful_schema (nodup_members h)
    ⟨h.ascending, Json.orderedMembers_iff.mpr fun x hx => (h.extra x hx).ordered⟩ fun key => ?_
  -- the members that are no field are the further ones
  by_cases hkey : key ∈ names
  · rw [if_neg fun hnone => isNone_lookup.mp hnone hkey, h.find?_extra hkey]
  · have hfields : ∀ k ∈ names, k ≠ key := fun k hk heq => hkey (heq ▸ hk)
    rw [if_pos (isNone_lookup.mpr hkey), members, Json.find?_append, Json.find?_append,
      Json.find?_append, find?_present, find?_present, find?_present,
      if_neg (hfields _ (by decide)), if_neg (hfields _ (by decide)), if_neg (hfields _ (by decide))]
    rfl

end Meta

/-! ## Envelopes -/

namespace Envelope

/-- The members on the wire. -/
def members (e : Envelope) : List (String × Json) :=
  [("type", .text e.kind.name), ("thread_id", Json.ofText? e.threadId),
      ("session_id", Json.ofText? e.sessionId),
      ("timestamp", .number (.whole (Whole.ofInt64 e.timestamp))), ("payload", e.payload)]
    ++ present "meta" (e.info.map Meta.toJson)
    ++ present "content_encoding" (e.encoding.map fun c => .text c.name)
    ++ present "nonce" (e.nonce.map .text)
    ++ present "signature" (e.signature.map .text)

/-- The envelope that is read back. -/
def normal (e : Envelope) : Envelope :=
  { e with kind := Kind.ofName e.kind.name, info := e.info.map Meta.normal }

/-- The envelope holds plain JSON. -/
structure Plain (e : Envelope) : Prop where
  payload : e.payload.Plain
  info : ∀ m, e.info = some m → m.Plain

variable {e : Envelope} {p : Place}

/-- What the fields of an envelope take has passed their checks. -/
theorem lawful_schema : schema.Lawful :=
  ((Schema.lawful_field _ _ _).map _).and (Schema.lawful_field _ _ _)
    |>.and (Schema.lawful_field _ _ _)
    |>.and (Schema.lawful_field _ _ _)
    |>.and (Schema.lawful_field _ _ _)
    |>.and (Schema.lawful_field _ _ _)
    |>.and (Schema.lawful_field _ _ _)
    |>.and (Schema.lawful_field _ _ _)
    |>.and (Schema.lawful_field _ _ _)

/-- An envelope is written without repeated keys. -/
theorem nodup_members (e : Envelope) : (e.members.map Prod.fst).Nodup := by
  have hkeys := (((List.Sublist.refl ["type", "thread_id", "session_id", "timestamp",
    "payload"]).append (keys_present "meta" (e.info.map Meta.toJson))).append
    (keys_present "content_encoding" (e.encoding.map fun c => .text c.name))).append
    (keys_present "nonce" (e.nonce.map .text)) |>.append
    (keys_present "signature" (e.signature.map .text))
  rw [members, List.map_append, List.map_append, List.map_append, List.map_append]
  exact List.Nodup.sublist hkeys (by decide)

/-- The fields of an envelope are read back, settled. -/
theorem reads_schema (h : e.Plain) (hp : p.source ≠ .table) : schema.Reads p e.members e.normal := by
  have hkind : (Schema.required "type" kindReader).Reads p e.members (Kind.ofName e.kind.name) :=
    Schema.reads_present (by simp [members, Json.find?]) (reads_kind p e.kind)
  have hinfo : (Schema.optional "meta" Meta.reader).Reads p e.members (e.info.map Meta.normal) :=
    Schema.reads_optional_map (by simp [members, Json.find?]) fun m hm =>
      ⟨Json.noConfusion, Meta.reads (h.info m hm) hp⟩
  have hencoding : (Schema.optional "content_encoding" Encoding.reader).Reads p e.members e.encoding :=
    Schema.reads_optional (by simp [members, Json.find?]) fun c =>
      ⟨Json.noConfusion, Encoding.reads p c⟩
  exact (hkind.map Envelope.mk)
    |>.and (Schema.reads_present (by simp [members, Json.find?]) (Reader.reads_ofText? hp e.threadId))
    |>.and (Schema.reads_present (by simp [members, Json.find?]) (Reader.reads_ofText? hp e.sessionId))
    |>.and (Schema.reads_present (by simp [members, Json.find?]) (reads_seconds p e.timestamp))
    |>.and (Schema.reads_present (by simp [members, Json.find?]) (Reader.reads_json h.payload.ordered))
    |>.and hinfo
    |>.and hencoding
    |>.and (Schema.reads_optional_text (by simp [members, Json.find?]))
    |>.and (Schema.reads_optional_text (by simp [members, Json.find?]))

/-- What holds of the members on the wire holds of what they were made from. -/
theorem forall_mem_members {P : Json → Prop} (hnull : P .null) (hwhole : ∀ n, P (.number (.whole n)))
    (htext : ∀ s, P (.text s)) :
    (∀ x ∈ e.members, P x.2) ↔ P e.payload ∧ ∀ m, e.info = some m → P m.toJson := by
  have hid : ∀ o, P (Json.ofText? o) := fun o => by cases o <;> [exact hnull; exact htext _]
  simp only [members, List.forall_mem_append, forall_mem_present, Option.map_eq_some_iff,
    List.forall_mem_cons]
  constructor
  · rintro ⟨⟨⟨⟨⟨-, -, -, -, hpayload, -⟩, hinfo⟩, -⟩, -⟩, -⟩
    exact ⟨hpayload, fun m hm => hinfo _ ⟨m, hm, rfl⟩⟩
  · rintro ⟨hpayload, hinfo⟩
    refine ⟨⟨⟨⟨⟨htext _, hid _, hid _, hwhole _, hpayload, fun _ h => absurd h List.not_mem_nil⟩,
      ?_⟩, ?_⟩, ?_⟩, ?_⟩
    · rintro _ ⟨m, hm, rfl⟩; exact hinfo m hm
    · rintro _ ⟨c, -, rfl⟩; exact htext _
    · rintro _ ⟨s, -, rfl⟩; exact htext s
    · rintro _ ⟨s, -, rfl⟩; exact htext s

/-- An envelope keeps to numbers that are printed and read exactly. -/
theorem exact_toJson (h : e.Plain) : e.toJson.Exact :=
  Json.exactMembers_iff.mpr ((forall_mem_members trivial (fun _ => trivial) fun _ => trivial).mpr
    ⟨h.payload.exact, fun m hm => Meta.exact_toJson (h.info m hm)⟩)

theorem distinct_toJson (h : e.Plain) : e.toJson.Distinct :=
  ⟨nodup_members e, Json.distinctMembers_iff.mpr
    ((forall_mem_members trivial (fun _ => trivial) fun _ => trivial).mpr
      ⟨Json.distinct_of_ordered _ h.payload.ordered, fun m hm => Meta.distinct_toJson (h.info m hm)⟩)⟩

/-- An envelope nests one level deeper than its payload and its meta data. -/
theorem depth_toJson_le_iff {n : Nat} : e.toJson.depth ≤ n + 1 ↔
    e.payload.depth ≤ n ∧ ∀ m, e.info = some m → m.toJson.depth ≤ n := by
  rw [← forall_mem_members (P := fun v => v.depth ≤ n) (Nat.zero_le n) (fun _ => Nat.zero_le n)
    fun _ => Nat.zero_le n, ← Json.depthMembers_le_iff]
  exact Nat.add_le_add_iff_right

/-- **An envelope is read as its normal form.** -/
theorem reads (h : e.Plain) (hp : p.source ≠ .table) : reader.Reads p e.toJson e.normal :=
  (reads_schema (p := p.inside) h hp).reader lawful_schema (nodup_members e)

end Envelope

/-! ## Handshake messages -/

namespace Init

variable {m : Init} {p : Place}

theorem lawful_schema : schema.Lawful :=
  ((Schema.lawful_field _ _ _).map _).and (Schema.lawful_field _ _ _)
    |>.and (Schema.lawful_field _ _ _)
    |>.and (Schema.lawful_field _ _ _)
    |>.and (Schema.lawful_field _ _ _)
    |>.and (Schema.lawful_field _ _ _)
    |>.and (Schema.lawful_field _ _ _)

theorem nodup_members (m : Init) : ("type" :: m.members.map Prod.fst).Nodup := by
  have hkeys := (List.Sublist.refl ["type", "ltp_version", "client_id"]).append
    (keys_present "device_fingerprint" (m.deviceFingerprint.map .text)) |>.append
    (keys_present "intent" (m.intent.map .text)) |>.append
    (keys_present "capabilities" (m.capabilities.map texts)) |>.append
    (keys_present "metadata" m.metadata) |>.append
    (keys_present "client_public_key" (m.publicKey.map .text))
  simp only [members, List.map_append]
  exact List.Nodup.sublist hkeys (by decide)

theorem reads_schema (h : ∀ v, m.metadata = some v → v ≠ .null ∧ v.Ordered) :
    schema.Reads p m.members m :=
  ((Schema.reads_present (by simp [members, Json.find?]) (Reader.reads_text m.version)).map Init.mk)
    |>.and (Schema.reads_present (by simp [members, Json.find?]) (Reader.reads_text m.clientId))
    |>.and (Schema.reads_optional_text (by simp [members, Json.find?]))
    |>.and (Schema.reads_optional_text (by simp [members, Json.find?]))
    |>.and (Schema.reads_optional (by simp [members, Json.find?]) fun ss =>
      ⟨Json.noConfusion, reads_texts p ss⟩)
    |>.and (Schema.reads_optional_json (by simp [members, Json.find?]) h)
    |>.and (Schema.reads_optional_text (by simp [members, Json.find?]))

end Init

namespace Resume

variable {m : Resume} {p : Place}

theorem lawful_schema : schema.Lawful :=
  ((Schema.lawful_field _ _ _).map _).and (Schema.lawful_field _ _ _)
    |>.and (Schema.lawful_field _ _ _)
    |>.and (Schema.lawful_field _ _ _)
    |>.and (Schema.lawful_field _ _ _)

theorem nodup_members (m : Resume) : ("type" :: m.members.map Prod.fst).Nodup := by
  have hkeys := (List.Sublist.refl ["type", "ltp_version", "client_id", "thread_id"]).append
    (keys_present "resume_reason" (m.reason.map .text)) |>.append
    (keys_present "client_public_key" (m.publicKey.map .text))
  simp only [members, List.map_append]
  exact List.Nodup.sublist hkeys (by decide)

theorem reads_schema : schema.Reads p m.members m :=
  ((Schema.reads_present (by simp [members, Json.find?]) (Reader.reads_text m.version)).map Resume.mk)
    |>.and (Schema.reads_present (by simp [members, Json.find?]) (Reader.reads_text m.clientId))
    |>.and (Schema.reads_present (by simp [members, Json.find?]) (Reader.reads_text m.threadId))
    |>.and (Schema.reads_optional_text (by simp [members, Json.find?]))
    |>.and (Schema.reads_optional_text (by simp [members, Json.find?]))

end Resume

namespace Ack

variable {m : Ack} {p : Place}

theorem lawful_schema : schema.Lawful :=
  ((Schema.lawful_field _ _ _).map _).and (Schema.lawful_field _ _ _)
    |>.and (Schema.lawful_field _ _ _)
    |>.and (Schema.lawful_field _ _ _)
    |>.and (Schema.lawful_field _ _ _)
    |>.and (Schema.lawful_field _ _ _)
    |>.and (Schema.lawful_field _ _ _)
    |>.and (Schema.lawful_field _ _ _)

theorem nodup_members (m : Ack) : ("type" :: m.members.map Prod.fst).Nodup := by
  have hkeys := (List.Sublist.refl ["type", "ltp_version", "thread_id", "session_id",
    "server_capabilities", "heartbeat_interval_ms"]).append
    (keys_present "resumed" (m.resumed.map .bool)) |>.append
    (keys_present "metadata" m.metadata) |>.append
    (keys_present "server_public_key" (m.publicKey.map .text))
  simp only [members, List.map_append]
  exact List.Nodup.sublist hkeys (by decide)

theorem reads_schema (h : ∀ v, m.metadata = some v → v ≠ .null ∧ v.Ordered) :
    schema.Reads p m.members m :=
  ((Schema.reads_present (by simp [members, Json.find?]) (Reader.reads_text m.version)).map Ack.mk)
    |>.and (Schema.reads_present (by simp [members, Json.find?]) (Reader.reads_text m.threadId))
    |>.and (Schema.reads_present (by simp [members, Json.find?]) (Reader.reads_text m.sessionId))
    |>.and (Schema.reads_present (by simp [members, Json.find?]) (reads_texts p m.capabilities))
    |>.and (Schema.reads_present (by simp [members, Json.find?])
      (Reader.reads_natural64 m.heartbeatInterval))
    |>.and (Schema.reads_optional (by simp [members, Json.find?]) fun b =>
      ⟨Json.noConfusion, Reader.reads_flag b⟩)
    |>.and (Schema.reads_optional_json (by simp [members, Json.find?]) h)
    |>.and (Schema.reads_optional_text (by simp [members, Json.find?]))

end Ack

namespace Reject

variable {m : Reject} {p : Place}

theorem lawful_schema : schema.Lawful :=
  ((Schema.lawful_field _ _ _).map _).and (Schema.lawful_field _ _ _)
    |>.and (Schema.lawful_field _ _ _)

theorem nodup_members (m : Reject) : ("type" :: m.members.map Prod.fst).Nodup := by
  have hkeys := (List.Sublist.refl ["type", "ltp_version", "reason"]).append
    (keys_present "suggest_new" (m.suggestNew.map .bool))
  simp only [members, List.map_append]
  exact List.Nodup.sublist hkeys (by decide)

theorem reads_schema : schema.Reads p m.members m :=
  ((Schema.reads_present (by simp [members, Json.find?]) (Reader.reads_text m.version)).map Reject.mk)
    |>.and (Schema.reads_present (by simp [members, Json.find?]) (Reader.reads_text m.reason))
    |>.and (Schema.reads_optional (by simp [members, Json.find?]) fun b =>
      ⟨Json.noConfusion, Reader.reads_flag b⟩)

end Reject

namespace Handshake

/-- The free-form part of the message. -/
def metadata : Handshake → Option Json
  | .init m => m.metadata
  | .ack m => m.metadata
  | _ => none

theorem nodup_members (h : Handshake) : ("type" :: h.members.map Prod.fst).Nodup :=
  match h with
  | .init m => m.nodup_members
  | .resume m => m.nodup_members
  | .ack m => m.nodup_members
  | .reject m => m.nodup_members

/-- **A handshake message is read as it is**, if its metadata is in order and not null. -/
theorem reads {h : Handshake} {p : Place} (hm : ∀ v, h.metadata = some v → v ≠ .null ∧ v.Ordered) :
    reader.Reads p h.toJson h := by
  have hnodup := h.nodup_members
  cases h with
  | init m =>
    exact Reader.Reads.union
      (((Init.reads_schema hm).reader Init.lawful_schema hnodup.tail).map Handshake.init) rfl hnodup
  | resume m =>
    exact Reader.Reads.union
      ((Resume.reads_schema.reader Resume.lawful_schema hnodup.tail).map Handshake.resume) rfl hnodup
  | ack m =>
    exact Reader.Reads.union
      (((Ack.reads_schema hm).reader Ack.lawful_schema hnodup.tail).map Handshake.ack) rfl hnodup
  | reject m =>
    exact Reader.Reads.union
      ((Reject.reads_schema.reader Reject.lawful_schema hnodup.tail).map Handshake.reject) rfl hnodup

/-- A list of texts holds nothing that nests. -/
theorem depth_texts_le (ss : List String) : (texts ss).depth ≤ 1 := by
  have hitems : Json.depthItems (ss.map .text) ≤ 0 := by
    induction ss with
    | nil => exact le_rfl
    | cons s ss ih => exact Nat.max_le.mpr ⟨le_rfl, ih⟩
  exact Nat.succ_le_succ hitems

theorem exact_texts (ss : List String) : (texts ss).Exact := by
  show Json.ExactItems (ss.map .text)
  induction ss with
  | nil => trivial
  | cons s ss ih => exact ⟨trivial, ih⟩

/-- What holds of scalars, texts and the metadata holds of all members on the wire. -/
theorem forall_mem_members {P : Json → Prop} (hbool : ∀ b, P (.bool b))
    (hwhole : ∀ n, P (.number (.whole n))) (htext : ∀ s, P (.text s)) (htexts : ∀ ss, P (texts ss))
    {h : Handshake} (hm : ∀ v, h.metadata = some v → P v) : ∀ x ∈ h.members, P x.2 := by
  have hnil : ∀ x : String × Json, x ∈ [] → P x.2 := fun _ h => absurd h List.not_mem_nil
  have htext? : ∀ (o : Option String) v, (∃ s, o = some s ∧ Json.text s = v) → P v := by
    rintro _ _ ⟨s, -, rfl⟩; exact htext s
  have hbool? : ∀ (o : Option Bool) v, (∃ b, o = some b ∧ Json.bool b = v) → P v := by
    rintro _ _ ⟨b, -, rfl⟩; exact hbool b
  have htexts? : ∀ (o : Option (List String)) v, (∃ ss, o = some ss ∧ texts ss = v) → P v := by
    rintro _ _ ⟨ss, -, rfl⟩; exact htexts ss
  cases h <;> simp only [members, Init.members, Resume.members, Ack.members, Reject.members,
    List.forall_mem_append, forall_mem_present, Option.map_eq_some_iff, List.forall_mem_cons]
  case init m =>
    exact ⟨⟨⟨⟨⟨⟨htext _, htext _, hnil⟩, htext? _⟩, htext? _⟩, htexts? _⟩, hm⟩, htext? _⟩
  case resume m => exact ⟨⟨⟨htext _, htext _, htext _, hnil⟩, htext? _⟩, htext? _⟩
  case ack m =>
    exact ⟨⟨⟨⟨htext _, htext _, htext _, htexts _, hwhole _, hnil⟩, hbool? _⟩, hm⟩, htext? _⟩
  case reject m => exact ⟨⟨htext _, htext _, hnil⟩, hbool? _⟩

/-- Only the metadata of a handshake message holds numbers that could be inexact. -/
theorem exact_toJson {h : Handshake} (hm : ∀ v, h.metadata = some v → v.Exact) : h.toJson.Exact :=
  ⟨trivial, Json.exactMembers_iff.mpr (forall_mem_members (fun _ => trivial) (fun _ => trivial)
    (fun _ => trivial) exact_texts hm)⟩

/-- A handshake message nests as deep as its metadata, or as a list of texts. -/
theorem depth_toJson_le {h : Handshake} {n : Nat} (hm : ∀ v, h.metadata = some v → v.depth ≤ n + 1) :
    h.toJson.depth ≤ n + 2 :=
  Nat.succ_le_succ (Nat.max_le.mpr ⟨Nat.zero_le _, Json.depthMembers_le_iff.mpr
    (forall_mem_members (fun _ => Nat.zero_le _) (fun _ => Nat.zero_le _) (fun _ => Nat.zero_le _)
      (fun ss => (depth_texts_le ss).trans (Nat.le_add_left 1 n)) hm)⟩)

end Handshake
end Tether
