import Tether.Message.Inbound
import Tether.Proofs.Json.Meaning
import Tether.Proofs.Message.Written

/-!
# `Tether.Proofs.Message.Viewed` — what is read of a message

What is read of a message is a view of its members: one field after the other, each from the member of its
name alone. The views are put together like the schemas, and each says of every object whether it is read,
and as what, from a text and from a value alike.

* `Envelope.means_schema` and its like — the schemas mean the views;
* `Envelope.confined_view` — an envelope is read off nine members, whatever else there is;
* `Inbound.result_ofJson` — a value in order with a type is read as what its view holds.
-/

namespace Tether

open Json (Schema Reader Place View Outcome Source)

variable {p : Place}

/-! ## Fields -/

namespace Json

variable {α : Type}

/-- A field that has to be there. -/
def View.required (name : String) (f : Json → Option α) : View α := View.field name f none

/-- A field with a default. -/
def View.withDefault (name : String) (f : Json → Option α) (a : α) : View α := View.field name f (some a)

/-- A field that may be null or absent. -/
def View.optional (name : String) (f : Json → Option α) : View (Option α) :=
  View.field name (Reader.nullable f) (some none)

/-- A field that is required is read as its value, or not at all. -/
theorem Schema.means_required {r : Reader α} {f : Json → Option α} (h : r.Means p f) (name : String) :
    (Schema.required name r).Means p (View.required name f) := means_field h name .refused

/-- A field with a default is read as its value, or as the default. -/
theorem Schema.means_withDefault {r : Reader α} {f : Json → Option α} (h : r.Means p f) (name : String)
    (a : α) : (Schema.withDefault name r a).Means p (View.withDefault name f a) :=
  means_field h name (.default a)

/-- An optional field is read as its value, or as nothing. -/
theorem Schema.means_optional {r : Reader α} {f : Json → Option α} (h : r.Means p f)
    (hp : p.source ≠ .table) (name : String) :
    (Schema.optional name r).Means p (View.optional name f) :=
  means_field (h.optional hp) name (.default none)

/-- A field that may be null is read as its value, or as nothing. -/
theorem Schema.means_nullable {r : Reader α} {f : Json → Option α} (h : r.Means p f)
    (hp : p.source ≠ .table) (name : String) :
    (Schema.nullable name r).Means p (View.optional name f) :=
  means_field (h.optional hp) name (.inObject none)

end Json

/-! ## Envelopes -/

namespace Meta

/-- The fields with a meaning. -/
def fields : View (List (String × Json) → Meta) :=
  ((View.optional "client_id" Json.text?).map Meta.mk
    |>.and (View.optional "affect" some)
    |>.and (View.optional "context_tag" Json.text?))

/-- Metadata in an object, with the further members. -/
def view : Json → Option Meta := Schema.kept schema fields

/-- The schema of meta data means its fields. -/
theorem means_schema (hp : p.source ≠ .table) : schema.Means p fields :=
  ((Schema.means_optional Reader.means_text hp _).map Meta.mk)
    |>.and (Schema.means_optional Reader.means_json hp _)
    |>.and (Schema.means_optional Reader.means_text hp _)

/-- Meta data is read as its view, extra members included. -/
theorem means_reader (hp : p.source ≠ .table) : reader.Means p view :=
  (means_schema (p := p.inside) hp).openReader lawful_schema "Meta"

end Meta

namespace Envelope

/-- The kind of a name. -/
def kind? : Json → Option Kind := fun v => v.text?.map Kind.ofName

/-- The time that a number stands for; null stands for zero. -/
def seconds? : Json → Option Int64 := fun v =>
  (Reader.nullable Reader.number? v).map fun
    | some n => clamp (floor n)
    | none => 0

/-- **Every number of a text stands for a time**: what would be refused for want of a bound is no number of
    a text. -/
theorem means_seconds (hp : p.source ≠ .table) : secondsReader.Means p seconds? := by
  intro v hv
  have hread := (Reader.means_number.optional hp) v hv
  unfold secondsReader seconds?
  cases hnumber : Reader.number.optional p v.toTree with
  | error f =>
    obtain ⟨hnone, hcomplaint⟩ := hread.error hnumber
    rw [hnone]
    exact Json.outcome_none hcomplaint
  | ok o =>
    rw [hread.ok_iff.mp hnumber]
    cases o with
    | none => exact Json.outcome_some 0
    | some n =>
      have hvalue : v = .number n := by
        have hsome := hread.ok_iff.mp hnumber
        cases v <;> cases hsome
        rfl
      have hfinite : n.isFinite = true := by
        have hv := hv.finite
        rwa [hvalue] at hv
      dsimp only [Option.map_some]
      rw [if_pos hfinite]
      exact Json.outcome_some _

/-- A double is a time, late as it may be. What is no double is refused, and no text spells it. -/
example :
    let huge : Number := .real ⟨false, 2 ^ 52, 948⟩
    let infinite : Number := .real ⟨false, 2 ^ 52, 1948⟩
    secondsReader Place.value (Json.number huge).toTree = .ok 0x7fffffffffffffff ∧
      secondsReader Place.value (Json.number infinite).toTree =
        .error (.misfit (.infinite "timestamp" infinite)) := by
  decide

/-- The fields of an envelope. -/
def view : View Envelope :=
  (View.required "type" kind?).map Envelope.mk
    |>.and (View.optional "thread_id" Json.text?)
    |>.and (View.optional "session_id" Json.text?)
    |>.and (View.withDefault "timestamp" seconds? 0)
    |>.and (View.withDefault "payload" some .null)
    |>.and (View.optional "meta" Meta.view)
    |>.and (View.optional "content_encoding" (Reader.chosen? Encoding.known))
    |>.and (View.optional "nonce" Json.text?)
    |>.and (View.optional "signature" Json.text?)

/-- The schema of an envelope means its view. -/
theorem means_schema (hp : p.source ≠ .table) : schema.Means p view :=
  ((Schema.means_required (Reader.means_text.map Kind.ofName) _).map Envelope.mk)
    |>.and (Schema.means_nullable Reader.means_text hp _)
    |>.and (Schema.means_nullable Reader.means_text hp _)
    |>.and (Schema.means_withDefault (means_seconds hp) _ _)
    |>.and (Schema.means_withDefault Reader.means_json _ _)
    |>.and (Schema.means_optional (Meta.means_reader hp) hp _)
    |>.and (Schema.means_optional (Reader.means_choice _ hp) hp _)
    |>.and (Schema.means_optional Reader.means_text hp _)
    |>.and (Schema.means_optional Reader.means_text hp _)

/-- The members that an envelope is read off. -/
def names : List String :=
  ["type", "thread_id", "session_id", "timestamp", "payload", "meta", "content_encoding", "nonce",
    "signature"]

/-- **An envelope is read off nine members**, whatever else there is. -/
theorem confined_view : view.Confined names :=
  ((View.confined_field _ _ _).map Envelope.mk)
    |>.and (View.confined_field _ _ _)
    |>.and (View.confined_field _ _ _)
    |>.and (View.confined_field _ _ _)
    |>.and (View.confined_field _ _ _)
    |>.and (View.confined_field _ _ _)
    |>.and (View.confined_field _ _ _)
    |>.and (View.confined_field _ _ _)
    |>.and (View.confined_field _ _ _)

end Envelope

/-! ## Handshake messages -/

namespace Init

/-- The fields of an init. -/
def view : View Init :=
  (View.required "ltp_version" Json.text?).map Init.mk
    |>.and (View.required "client_id" Json.text?)
    |>.and (View.optional "device_fingerprint" Json.text?)
    |>.and (View.optional "intent" Json.text?)
    |>.and (View.optional "capabilities" (Reader.list? Json.text?))
    |>.and (View.optional "metadata" some)
    |>.and (View.optional "client_public_key" Json.text?)

/-- The schema of an init means its view. -/
theorem means_schema (hp : p.source ≠ .table) : schema.Means p view :=
  ((Schema.means_required Reader.means_text _).map Init.mk)
    |>.and (Schema.means_required Reader.means_text _)
    |>.and (Schema.means_optional Reader.means_text hp _)
    |>.and (Schema.means_optional Reader.means_text hp _)
    |>.and (Schema.means_optional Reader.means_text.list hp _)
    |>.and (Schema.means_optional Reader.means_json hp _)
    |>.and (Schema.means_optional Reader.means_text hp _)

theorem confined_view : view.Confined ["ltp_version", "client_id", "device_fingerprint", "intent",
    "capabilities", "metadata", "client_public_key"] :=
  ((View.confined_field _ _ _).map Init.mk)
    |>.and (View.confined_field _ _ _)
    |>.and (View.confined_field _ _ _)
    |>.and (View.confined_field _ _ _)
    |>.and (View.confined_field _ _ _)
    |>.and (View.confined_field _ _ _)
    |>.and (View.confined_field _ _ _)

end Init

namespace Resume

/-- The fields of a resume. -/
def view : View Resume :=
  (View.required "ltp_version" Json.text?).map Resume.mk
    |>.and (View.required "client_id" Json.text?)
    |>.and (View.required "thread_id" Json.text?)
    |>.and (View.optional "resume_reason" Json.text?)
    |>.and (View.optional "client_public_key" Json.text?)

/-- The schema of a resume means its view. -/
theorem means_schema (hp : p.source ≠ .table) : schema.Means p view :=
  ((Schema.means_required Reader.means_text _).map Resume.mk)
    |>.and (Schema.means_required Reader.means_text _)
    |>.and (Schema.means_required Reader.means_text _)
    |>.and (Schema.means_optional Reader.means_text hp _)
    |>.and (Schema.means_optional Reader.means_text hp _)

theorem confined_view : view.Confined ["ltp_version", "client_id", "thread_id", "resume_reason",
    "client_public_key"] :=
  ((View.confined_field _ _ _).map Resume.mk)
    |>.and (View.confined_field _ _ _)
    |>.and (View.confined_field _ _ _)
    |>.and (View.confined_field _ _ _)
    |>.and (View.confined_field _ _ _)

end Resume

namespace Ack

/-- The natural number of 64 bits that an integer is. -/
def natural64? (i : Int) : Option UInt64 :=
  if 0 ≤ i ∧ i < 0x10000000000000000 then some (UInt64.ofNat i.toNat) else none

/-- The fields of an ack. -/
def view : View Ack :=
  (View.withDefault "ltp_version" Json.text? Protocol.version).map Ack.mk
    |>.and (View.required "thread_id" Json.text?)
    |>.and (View.required "session_id" Json.text?)
    |>.and (View.withDefault "server_capabilities" (Reader.list? Json.text?) [])
    |>.and (View.required "heartbeat_interval_ms" (Reader.whole? natural64?))
    |>.and (View.optional "resumed" Reader.flag?)
    |>.and (View.optional "metadata" some)
    |>.and (View.optional "server_public_key" Json.text?)

/-- The schema of an ack means its view. -/
theorem means_schema (hp : p.source ≠ .table) : schema.Means p view :=
  ((Schema.means_withDefault Reader.means_text _ _).map Ack.mk)
    |>.and (Schema.means_required Reader.means_text _)
    |>.and (Schema.means_required Reader.means_text _)
    |>.and (Schema.means_withDefault Reader.means_text.list _ _)
    |>.and (Schema.means_required (Reader.means_natural natural64? .natural64) _)
    |>.and (Schema.means_optional Reader.means_flag hp _)
    |>.and (Schema.means_optional Reader.means_json hp _)
    |>.and (Schema.means_optional Reader.means_text hp _)

theorem confined_view : view.Confined ["ltp_version", "thread_id", "session_id", "server_capabilities",
    "heartbeat_interval_ms", "resumed", "metadata", "server_public_key"] :=
  ((View.confined_field _ _ _).map Ack.mk)
    |>.and (View.confined_field _ _ _)
    |>.and (View.confined_field _ _ _)
    |>.and (View.confined_field _ _ _)
    |>.and (View.confined_field _ _ _)
    |>.and (View.confined_field _ _ _)
    |>.and (View.confined_field _ _ _)
    |>.and (View.confined_field _ _ _)

end Ack

namespace Reject

/-- The fields of a reject. -/
def view : View Reject :=
  (View.withDefault "ltp_version" Json.text? Protocol.version).map Reject.mk
    |>.and (View.required "reason" Json.text?)
    |>.and (View.optional "suggest_new" Reader.flag?)

/-- The schema of a reject means its view. -/
theorem means_schema (hp : p.source ≠ .table) : schema.Means p view :=
  ((Schema.means_withDefault Reader.means_text _ _).map Reject.mk)
    |>.and (Schema.means_required Reader.means_text _)
    |>.and (Schema.means_optional Reader.means_flag hp _)

theorem confined_view : view.Confined ["ltp_version", "reason", "suggest_new"] :=
  ((View.confined_field _ _ _).map Reject.mk)
    |>.and (View.confined_field _ _ _)
    |>.and (View.confined_field _ _ _)

end Reject

namespace Handshake

/-- A handshake message is read as the record that its tag names; the tag is none of the fields. -/
theorem outcome_reader {α : Type} {s : Schema α} {g : View α} {keys : List String} {name title : String}
    {make : α → Handshake} (hr : variants.lookup name = some ((s.reader title).map make))
    (hs : s.Means (Place.inside ⟨.gathered, p.room⟩) g) (hlawful : s.Lawful) (hconfined : g.Confined keys)
    (hkeys : "type" ∉ keys) {ms : List (String × Json)} (hregular : (Json.object ms).Regular p.room)
    (htag : Json.find? "type" ms = some (.text name)) :
    Outcome p (g.map make (Json.seen ms)) (reader p (Json.object ms).toTree) := by
  -- the record is read off the members without the tag
  have hread := hs.reader (p := ⟨.gathered, p.room⟩) hlawful title (hregular.filter fun m => m.1 ≠ "type")
  have hsame : g (Json.seen (ms.filter fun m => m.1 ≠ "type")) = g (Json.seen ms) := by
    refine hconfined _ _ fun key hkey => ?_
    have hne : key ≠ "type" := fun heq => hkeys (heq ▸ hkey)
    unfold Json.seen
    rw [Json.find?_filter (fun key => decide (key ≠ "type")), if_pos (decide_eq_true hne)]
  rw [hsame] at hread
  rw [reader, Json.Union.reader_eq hr hregular.distinct.1 hregular.depth htag, Reader.map_apply]
  exact (hread.anywhere Source.noConfusion).map make

end Handshake

/-! ## Frames -/

/-- The names of the four handshake types. -/
def Kind.handshakes : List String :=
  ["handshake_init", "handshake_resume", "handshake_ack", "handshake_reject"]

/-- Four names are those of handshake messages. -/
theorem Kind.isHandshake_ofName {name : String} :
    (Kind.ofName name).isHandshake = true ↔ name ∈ handshakes := by
  constructor
  · intro h
    have hname := Kind.name_ofName name
    cases hkind : Kind.ofName name <;> rw [hkind] at h hname <;>
      first | (subst hname; decide) | cases h
  · intro h
    simp only [handshakes, List.mem_cons, List.not_mem_nil, or_false] at h
    rcases h with rfl | rfl | rfl | rfl <;> decide

namespace Inbound

/-- What the members of an object hold whose type has the name. -/
def view (name : String) : View Inbound :=
  match Kind.ofName name with
  | .handshakeInit => Init.view.map fun m => .handshake (.init m)
  | .handshakeResume => Resume.view.map fun m => .handshake (.resume m)
  | .handshakeAck => Ack.view.map fun m => .handshake (.ack m)
  | .handshakeReject => Reject.view.map fun m => .handshake (.reject m)
  | _ => Envelope.view.map .envelope

/-- Every other type is that of an envelope. -/
theorem view_of_not_handshake {name : String} (h : ¬ (Kind.ofName name).isHandshake = true) :
    view name = Envelope.view.map .envelope := by
  unfold view
  split <;> first | rfl | (rename_i hkind; exact absurd (by rw [hkind]; rfl) h)

/-- A message is what `o` holds, or refused for its content if `o` holds nothing, and then not for a number
    out of bounds. -/
def Result (o : Option Inbound) (x : Except Error Inbound) : Prop :=
  match o with
  | some a => x = .ok a
  | none => ∃ m : Json.Misfit, x = .error (.json (.misfit m)) ∧ m.isInfinite = false

/-- A message is read exactly if `o` holds it. -/
theorem Result.ok_iff {o : Option Inbound} {x : Except Error Inbound} (h : Result o x) {a : Inbound} :
    x = .ok a ↔ o = some a := by
  cases o with
  | some b =>
    obtain rfl : x = .ok b := h
    exact ⟨fun h => congrArg some (Except.ok.inj h), fun h => congrArg Except.ok (Option.some.inj h)⟩
  | none =>
    obtain ⟨m, rfl, -⟩ := h
    exact ⟨fun h => (by cases h), fun h => (by cases h)⟩

/-- What a reader makes of a value is a message, or the value is refused for its content. -/
theorem result_of_outcome {α : Type} {o : Option α} {x : Except Json.Fault α}
    (h : Outcome Place.value o x) (make : α → Inbound) {y : Except Error Inbound}
    (hok : ∀ a, x = .ok a → y = .ok (make a)) (herror : ∀ f, x = .error f → y = .error (.json f)) :
    Result (o.map make) y := by
  cases o with
  | some a => exact hok a h
  | none =>
    obtain ⟨f, hf, hcomplaint⟩ := h
    -- only a text could be malformed
    obtain ⟨m, rfl, hm⟩ := hcomplaint.resolve_left fun h => Source.noConfusion h.1
    exact ⟨m, herror _ hf, hm⟩

/-- A value with a type of the four is read as a handshake message. -/
theorem result_handshake {ms : List (String × Json)} {name : String}
    (htype : Json.find? "type" ms = some (.text name)) (hkind : (Kind.ofName name).isHandshake = true)
    {o : Option Handshake}
    (h : Outcome Place.value o (Handshake.reader Place.value (Json.object ms).toTree)) :
    Result (o.map .handshake) (ofJson (.object ms)) := by
  rw [ofJson, Json.get?, htype]
  dsimp only [Option.bind_some, Json.text?]
  rw [if_pos hkind]
  exact result_of_outcome h .handshake (fun _ ha => by rw [ha]) fun _ hf => by rw [hf]

/-- A value with any other type is read as an envelope. -/
theorem result_envelope {ms : List (String × Json)} {name : String}
    (htype : Json.find? "type" ms = some (.text name)) (hkind : (Kind.ofName name).isHandshake = false)
    {o : Option Envelope}
    (h : Outcome Place.value o (Envelope.reader Place.value (Json.object ms).toTree)) :
    Result (o.map .envelope) (ofJson (.object ms)) := by
  rw [ofJson, Json.get?, htype]
  dsimp only [Option.bind_some, Json.text?]
  rw [hkind, if_neg Bool.false_ne_true]
  exact result_of_outcome h .envelope (fun _ ha => by rw [ha]) fun _ hf => by rw [hf]

/-- A handshake message of one of the four types. -/
theorem result_variant {α : Type} {s : Schema α} {g : View α} {keys : List String} {name title : String}
    {make : α → Handshake} (hr : Handshake.variants.lookup name = some ((s.reader title).map make))
    (hs : ∀ p : Place, p.source ≠ .table → s.Means p g) (hlawful : s.Lawful)
    (hconfined : g.Confined keys) (hkeys : "type" ∉ keys) {ms : List (String × Json)}
    (hfits : (Json.object ms).Fits Json.maxDepth) (hfinite : (Json.object ms).Finite)
    (htype : Json.find? "type" ms = some (.text name))
    (hkind : (Kind.ofName name).isHandshake = true) :
    Result (g.map (fun m => .handshake (make m)) fun key => Json.find? key ms)
      (ofJson (.object ms)) := by
  have hread : Outcome Place.value (g.map make (Json.seen ms))
      (Handshake.reader Place.value (Json.object ms).toTree) :=
    Handshake.outcome_reader hr (hs _ Source.noConfusion) hlawful hconfined hkeys
      (Json.regular_of_fits hfits hfinite) htype
  have hresult := result_handshake htype hkind hread
  rw [Json.seen_of_ordered hfits.1.2, View.map, Option.map_map] at hresult
  exact hresult

/-- **A value in order with a type is read as what its view holds.** -/
theorem result_ofJson {ms : List (String × Json)} (hfits : (Json.object ms).Fits Json.maxDepth)
    (hfinite : (Json.object ms).Finite) {name : String} (htype : Json.find? "type" ms = some (.text name)) :
    Result (view name fun key => Json.find? key ms) (ofJson (.object ms)) := by
  have hname := Kind.name_ofName name
  unfold view
  cases hkind : Kind.ofName name with
  | handshakeInit =>
    obtain rfl : "handshake_init" = name := by rw [← hname, hkind]; rfl
    have hr : Handshake.variants.lookup "handshake_init" =
      some ((Init.schema.reader "HandshakeInit").map .init) := rfl
    exact result_variant hr (fun _ => Init.means_schema) Init.lawful_schema Init.confined_view (by decide)
      hfits hfinite htype (by rw [hkind]; rfl)
  | handshakeResume =>
    obtain rfl : "handshake_resume" = name := by rw [← hname, hkind]; rfl
    have hr : Handshake.variants.lookup "handshake_resume" =
      some ((Resume.schema.reader "HandshakeResume").map .resume) := rfl
    exact result_variant hr (fun _ => Resume.means_schema) Resume.lawful_schema Resume.confined_view
      (by decide) hfits hfinite htype (by rw [hkind]; rfl)
  | handshakeAck =>
    obtain rfl : "handshake_ack" = name := by rw [← hname, hkind]; rfl
    have hr : Handshake.variants.lookup "handshake_ack" =
      some ((Ack.schema.reader "HandshakeAck").map .ack) := rfl
    exact result_variant hr (fun _ => Ack.means_schema) Ack.lawful_schema Ack.confined_view (by decide)
      hfits hfinite htype (by rw [hkind]; rfl)
  | handshakeReject =>
    obtain rfl : "handshake_reject" = name := by rw [← hname, hkind]; rfl
    have hr : Handshake.variants.lookup "handshake_reject" =
      some ((Reject.schema.reader "HandshakeReject").map .reject) := rfl
    exact result_variant hr (fun _ => Reject.means_schema) Reject.lawful_schema Reject.confined_view
      (by decide) hfits hfinite htype (by rw [hkind]; rfl)
  | _ =>
    have hread : Outcome Place.value (Envelope.view (Json.seen ms))
        (Envelope.reader Place.value (Json.object ms).toTree) :=
      (Envelope.means_schema Source.noConfusion).reader Envelope.lawful_schema "Envelope"
        (Json.regular_of_fits hfits hfinite)
    rw [Json.seen_of_ordered hfits.1.2] at hread
    exact result_envelope htype (by rw [hkind]; rfl) hread

end Inbound

end Tether
