import Tether.Proofs.Json.Faults
import Tether.Proofs.Json.Spelled
import Tether.Proofs.Message.Viewed

/-!
# `Tether.Proofs.Message.Accepted` — which frames are read

A frame is refused for its syntax, for want of a type, or for a field that does not fit. Which of the
three it is, and that it is none of them, is read off the value of the text: every field has to be there,
may be absent, or may be null as well, and what stands in it has to suit.

* `Given`, `Spare`, `Loose` — the three demands on a field;
* `Envelope.Shape`, `Init.Shape` and their like — what the members of a message have to be;
* `Envelope.isSome_view` and its like — a view holds something just when the members have the shape;
* `Inbound.sifted_frame` — **every text is read or refused as its value demands**.
-/

namespace Tether

open Json (View Reader)

namespace Json

variable {α β : Type}

/-! ## What stands in a field -/

/-- The value is a text. -/
def IsText (v : Json) : Prop := ∃ s, v = .text s

/-- The value is a truth value. -/
def IsFlag (v : Json) : Prop := ∃ b, v = .bool b

/-- The value is a number. -/
def IsNumber (v : Json) : Prop := ∃ n, v = .number n

/-- The value is an integer that fits 64 bits without a sign. -/
def IsNatural64 (v : Json) : Prop :=
  ∃ n : Whole, v = .number (.whole n) ∧ 0 ≤ n.val ∧ n.val < 0x10000000000000000

/-- The value is a list of texts. -/
def IsTexts (v : Json) : Prop := ∃ vs, v = .list vs ∧ ∀ w ∈ vs, IsText w

/-- The value is one of the names, given as a text or as the only key of an object, with null inside. -/
def IsChoice (names : List String) (v : Json) : Prop :=
  ∃ name ∈ names, v = .text name ∨ v = .object [(name, .null)]

/-- Only a text is taken for one. -/
theorem isSome_text? (v : Json) : v.text?.isSome ↔ IsText v := by
  cases v <;> simp [text?, IsText]

/-- Only a truth value is taken for one. -/
theorem isSome_flag? (v : Json) : (Reader.flag? v).isSome ↔ IsFlag v := by
  cases v <;> simp [Reader.flag?, IsFlag]

/-- Any number is taken, whole or not. -/
theorem isSome_number? (v : Json) : (Reader.number? v).isSome ↔ IsNumber v := by
  cases v <;> simp [Reader.number?, IsNumber]

/-- A list is taken for a list of texts if every item is a text. -/
theorem isSome_texts? (v : Json) : (Reader.list? text? v).isSome ↔ IsTexts v := by
  cases v with
  | list vs =>
    rw [Reader.list?, Reader.isSome_each]
    simp only [isSome_text?]
    constructor
    · intro h
      exact ⟨vs, rfl, h⟩
    · rintro ⟨ws, heq, h⟩
      cases heq
      exact h
  | _ => simp [Reader.list?, IsTexts]

/-- A number is taken for a whole one of 64 bits if it is one. -/
theorem isSome_natural64? (v : Json) : (Reader.whole? Ack.natural64? v).isSome ↔ IsNatural64 v := by
  cases v with
  | number n => cases n <;> simp [Reader.whole?, Ack.natural64?, IsNatural64]
  | _ => simp [Reader.whole?, IsNatural64]

theorem isSome_lookup {known : List (String × α)} {name : String} :
    (known.lookup name).isSome ↔ name ∈ known.map Prod.fst := by
  rw [Option.isSome_iff_ne_none, Ne, List.lookup_eq_none_iff]
  simp

/-- A choice is taken by any of its names, in either form. -/
theorem isSome_chosen? (known : List (String × α)) (v : Json) :
    (Reader.chosen? known v).isSome ↔ IsChoice (known.map Prod.fst) v := by
  unfold Reader.chosen?
  split
  · rename_i s
    rw [isSome_lookup]
    simp [IsChoice]
  · rename_i key
    rw [isSome_lookup]
    simp [IsChoice]
  · rename_i htext hobject
    constructor
    · intro h
      cases h
    · rintro ⟨name, -, rfl | rfl⟩
      · exact absurd rfl (htext name)
      · exact absurd rfl (hobject name)

/-! ## Demands on a field -/

variable (look : String → Option Json) (key : String) (ok : Json → Prop)

/-- The member is there and suits. -/
def Given : Prop := ∃ v, look key = some v ∧ ok v

/-- The member suits if it is there. -/
def Spare : Prop := ∀ v, look key = some v → ok v

/-- The member suits if it is there and not null. -/
def Loose : Prop := Spare look key fun v => v = .null ∨ ok v

variable {look key ok} {f : Json → Option α}

/-- Null is taken where a value may be null. -/
theorem isSome_nullable (hf : ∀ v, (f v).isSome ↔ ok v) (v : Json) :
    (Reader.nullable f v).isSome ↔ v = .null ∨ ok v := by
  cases v <;> simp [Reader.nullable, hf]

namespace View

/-- A field that is required has to be there and suit. -/
theorem isSome_required (hf : ∀ v, (f v).isSome ↔ ok v) :
    (required key f look).isSome ↔ Given look key ok := by
  unfold required field Given
  cases look key <;> simp [hf]

/-- A field with a default suits or is absent. Null does not stand for absence. -/
theorem isSome_withDefault (hf : ∀ v, (f v).isSome ↔ ok v) (a : α) :
    (withDefault key f a look).isSome ↔ Spare look key ok := by
  unfold withDefault field Spare
  cases look key <;> simp [hf]

/-- An optional field suits, is null or is absent. -/
theorem isSome_optional (hf : ∀ v, (f v).isSome ↔ ok v) :
    (optional key f look).isSome ↔ Loose look key ok :=
  isSome_withDefault (isSome_nullable hf) none

/-- A field that takes any value is no demand. -/
theorem isSome_withDefault_any (a : Json) : (withDefault key some a look).isSome := by
  unfold withDefault field
  cases look key <;> rfl

theorem isSome_optional_any : (optional key some look).isSome := by
  unfold optional field
  cases look key with
  | none => rfl
  | some v => cases v <;> rfl

theorem isSome_map (g : View α) (h : α → β) : (g.map h look).isSome ↔ (g look).isSome := by
  unfold View.map
  rw [Option.isSome_map]

/-- Every part of a record has to suit. -/
theorem isSome_and (g : View (α → β)) (h : View α) :
    (g.and h look).isSome ↔ (g look).isSome ∧ (h look).isSome := by
  unfold View.and
  cases g look <;> cases h look <;> simp

end View
end Json

/-! ## What the members of a message have to be -/

open Json (Given Spare Loose IsText IsTexts IsFlag IsNumber IsNatural64 IsChoice)

variable {look : String → Option Json}

/-- Metadata is an object. Two of its members are texts, unless they are null or absent. -/
def Meta.Shape (v : Json) : Prop :=
  ∃ ms, v = .object ms ∧ Loose (fun key => Json.find? key ms) "client_id" IsText ∧
    Loose (fun key => Json.find? key ms) "context_tag" IsText

/-- Meta data is read exactly if it has the shape of meta data. -/
theorem Meta.isSome_view (v : Json) : (view v).isSome ↔ Shape v := by
  cases v with
  | object ms =>
    rw [view, Json.Schema.kept, Option.isSome_map, fields, View.isSome_and, View.isSome_and,
      View.isSome_map, View.isSome_optional Json.isSome_text?, View.isSome_optional Json.isSome_text?]
    constructor
    · rintro ⟨⟨hclient, -⟩, htag⟩
      exact ⟨ms, rfl, hclient, htag⟩
    · rintro ⟨ns, heq, hclient, htag⟩
      cases heq
      exact ⟨⟨hclient, View.isSome_optional_any⟩, htag⟩
  | _ => simp [view, Json.Schema.kept, Shape]

namespace Envelope

/-- The members of an envelope, apart from its type. The payload may be anything, and so may members that
    are no field. -/
structure Shape (look : String → Option Json) : Prop where
  threadId : Loose look "thread_id" IsText
  sessionId : Loose look "session_id" IsText
  timestamp : Loose look "timestamp" IsNumber
  info : Loose look "meta" Meta.Shape
  encoding : Loose look "content_encoding" (IsChoice ["json", "toon"])
  nonce : Loose look "nonce" IsText
  signature : Loose look "signature" IsText

/-- Any text names a type. -/
theorem isSome_kind? (v : Json) : (kind? v).isSome ↔ IsText v := by
  rw [kind?, Option.isSome_map, Json.isSome_text?]

/-- A time is null or any number. -/
theorem isSome_seconds? (v : Json) : (seconds? v).isSome ↔ v = .null ∨ IsNumber v := by
  rw [seconds?, Option.isSome_map, Json.isSome_nullable Json.isSome_number?]

/-- An envelope is read exactly if its members have the shape of one. -/
theorem isSome_view (htype : Given look "type" IsText) : (view look).isSome ↔ Shape look := by
  simp only [view, View.isSome_and, View.isSome_map, View.isSome_required isSome_kind?,
    View.isSome_optional Json.isSome_text?, View.isSome_withDefault isSome_seconds?,
    View.isSome_withDefault_any, View.isSome_optional Meta.isSome_view,
    View.isSome_optional (Json.isSome_chosen? Encoding.known)]
  constructor
  · rintro ⟨⟨⟨⟨⟨⟨⟨⟨-, hthread⟩, hsession⟩, htime⟩, -⟩, hinfo⟩, hencoding⟩, hnonce⟩, hsignature⟩
    exact ⟨hthread, hsession, htime, hinfo, hencoding, hnonce, hsignature⟩
  · rintro ⟨hthread, hsession, htime, hinfo, hencoding, hnonce, hsignature⟩
    exact ⟨⟨⟨⟨⟨⟨⟨⟨htype, hthread⟩, hsession⟩, htime⟩, trivial⟩, hinfo⟩, hencoding⟩, hnonce⟩, hsignature⟩

/-- An envelope is of the kind that its type names. -/
theorem kind_of_view {e : Envelope} (h : view look = some e) {name : String}
    (htype : look "type" = some (.text name)) : e.kind = Kind.ofName name := by
  simp only [view, View.and, View.map, Option.bind_eq_some_iff, Option.map_eq_some_iff] at h
  obtain ⟨_, ⟨_, ⟨_, ⟨_, ⟨_, ⟨_, ⟨_, ⟨_, ⟨kind, hkind, rfl⟩, _, -, rfl⟩, _, -, rfl⟩, _, -, rfl⟩, _, -,
    rfl⟩, _, -, rfl⟩, _, -, rfl⟩, _, -, rfl⟩, _, -, rfl⟩ := h
  rw [View.required, View.field, htype] at hkind
  exact (Option.some.inj hkind).symm

end Envelope

namespace Init

/-- The members of an init. -/
structure Shape (look : String → Option Json) : Prop where
  version : Given look "ltp_version" IsText
  clientId : Given look "client_id" IsText
  deviceFingerprint : Loose look "device_fingerprint" IsText
  intent : Loose look "intent" IsText
  capabilities : Loose look "capabilities" IsTexts
  publicKey : Loose look "client_public_key" IsText

/-- An init is read exactly if its members have the shape of one. -/
theorem isSome_view : (view look).isSome ↔ Shape look := by
  simp only [view, View.isSome_and, View.isSome_map, View.isSome_required Json.isSome_text?,
    View.isSome_optional Json.isSome_text?, View.isSome_optional Json.isSome_texts?,
    View.isSome_optional_any]
  constructor
  · rintro ⟨⟨⟨⟨⟨⟨hversion, hclient⟩, hdevice⟩, hintent⟩, hcapabilities⟩, -⟩, hkey⟩
    exact ⟨hversion, hclient, hdevice, hintent, hcapabilities, hkey⟩
  · rintro ⟨hversion, hclient, hdevice, hintent, hcapabilities, hkey⟩
    exact ⟨⟨⟨⟨⟨⟨hversion, hclient⟩, hdevice⟩, hintent⟩, hcapabilities⟩, trivial⟩, hkey⟩

end Init

namespace Resume

/-- The members of a resume. -/
structure Shape (look : String → Option Json) : Prop where
  version : Given look "ltp_version" IsText
  clientId : Given look "client_id" IsText
  threadId : Given look "thread_id" IsText
  reason : Loose look "resume_reason" IsText
  publicKey : Loose look "client_public_key" IsText

/-- A resume is read exactly if its members have the shape of one. -/
theorem isSome_view : (view look).isSome ↔ Shape look := by
  simp only [view, View.isSome_and, View.isSome_map, View.isSome_required Json.isSome_text?,
    View.isSome_optional Json.isSome_text?]
  constructor
  · rintro ⟨⟨⟨⟨hversion, hclient⟩, hthread⟩, hreason⟩, hkey⟩
    exact ⟨hversion, hclient, hthread, hreason, hkey⟩
  · rintro ⟨hversion, hclient, hthread, hreason, hkey⟩
    exact ⟨⟨⟨⟨hversion, hclient⟩, hthread⟩, hreason⟩, hkey⟩

end Resume

namespace Ack

/-- The members of an ack. -/
structure Shape (look : String → Option Json) : Prop where
  version : Spare look "ltp_version" IsText
  threadId : Given look "thread_id" IsText
  sessionId : Given look "session_id" IsText
  capabilities : Spare look "server_capabilities" IsTexts
  heartbeatInterval : Given look "heartbeat_interval_ms" IsNatural64
  resumed : Loose look "resumed" IsFlag
  publicKey : Loose look "server_public_key" IsText

/-- An ack is read exactly if its members have the shape of one. -/
theorem isSome_view : (view look).isSome ↔ Shape look := by
  simp only [view, View.isSome_and, View.isSome_map, View.isSome_required Json.isSome_text?,
    View.isSome_required Json.isSome_natural64?, View.isSome_withDefault Json.isSome_text?,
    View.isSome_withDefault Json.isSome_texts?, View.isSome_optional Json.isSome_flag?,
    View.isSome_optional Json.isSome_text?, View.isSome_optional_any]
  constructor
  · rintro ⟨⟨⟨⟨⟨⟨⟨hversion, hthread⟩, hsession⟩, hcapabilities⟩, hinterval⟩, hresumed⟩, -⟩, hkey⟩
    exact ⟨hversion, hthread, hsession, hcapabilities, hinterval, hresumed, hkey⟩
  · rintro ⟨hversion, hthread, hsession, hcapabilities, hinterval, hresumed, hkey⟩
    exact ⟨⟨⟨⟨⟨⟨⟨hversion, hthread⟩, hsession⟩, hcapabilities⟩, hinterval⟩, hresumed⟩, trivial⟩, hkey⟩

end Ack

namespace Reject

/-- The members of a reject. -/
structure Shape (look : String → Option Json) : Prop where
  version : Spare look "ltp_version" IsText
  reason : Given look "reason" IsText
  suggestNew : Loose look "suggest_new" IsFlag

/-- A reject is read exactly if its members have the shape of one. -/
theorem isSome_view : (view look).isSome ↔ Shape look := by
  simp only [view, View.isSome_and, View.isSome_map, View.isSome_required Json.isSome_text?,
    View.isSome_withDefault Json.isSome_text?, View.isSome_optional Json.isSome_flag?]
  constructor
  · rintro ⟨⟨hversion, hreason⟩, hsuggest⟩
    exact ⟨hversion, hreason, hsuggest⟩
  · rintro ⟨hversion, hreason, hsuggest⟩
    exact ⟨⟨hversion, hreason⟩, hsuggest⟩

end Reject

/-! ## The words of a refusal -/

namespace Json

theorem head?_append {c : Char} {s : String} (h : s.toList.head? = some c) (t : String) :
    (s ++ t).toList.head? = some c := by
  rw [String.toList_append, List.head?_append, h, Option.some_or]

/-- Only the misfit of a number that is not finite begins with a `t`. -/
theorem Misfit.head?_message {m : Misfit} (h : m.isInfinite = false) :
    ∃ c, c ≠ 't' ∧ m.message.toList.head? = some c := by
  cases m with
  | infinite field n => cases h
  | kind found wanted => exact ⟨'i', by decide, head?_append (head?_append (head?_append rfl _) _) _⟩
  | range found wanted => exact ⟨'i', by decide, head?_append (head?_append (head?_append rfl _) _) _⟩
  | length items wanted => exact ⟨'i', by decide, head?_append (head?_append (head?_append rfl _) _) _⟩
  | missing field => exact ⟨'m', by decide, head?_append (head?_append rfl _) _⟩
  | repeated field => exact ⟨'d', by decide, head?_append (head?_append rfl _) _⟩
  | variant name known => exact ⟨'u', by decide, head?_append (head?_append (head?_append rfl _) _) _⟩

/-- Only the misfit of a number that is not finite speaks of a time out of range. -/
theorem Fault.timely_message {f : Fault}
    (h : f.Syntactic ∨ ∃ m : Misfit, f = .misfit m ∧ m.isInfinite = false) :
    ¬ "timestamp out of range".toList <+: f.message.toList := by
  have hfirst : ∃ c, c ≠ 't' ∧ f.message.toList.head? = some c := by
    rcases h with (rfl | rfl) | ⟨m, rfl, hm⟩
    · exact ⟨'m', by decide, rfl⟩
    · exact ⟨'u', by decide, rfl⟩
    · exact Misfit.head?_message hm
  obtain ⟨c, hne, hc⟩ := hfirst
  rintro ⟨rest, h⟩
  rw [← h, List.head?_append] at hc
  exact hne (Option.some.inj hc).symm

end Json

/-! ## Frames -/

/-- The text has the value: it spells it with the members of objects in any order, nested no deeper than it
    may, and the last of equal keys wins. -/
def Json.Valued (s : String) (v : Json) : Prop :=
  ∃ w, Json.Spells s w ∧ w.depth ≤ Json.maxDepth ∧ v = w.sorted

/-- Handshake messages are of the four kinds. -/
theorem Handshake.isHandshake_kind (h : Handshake) : h.kind.isHandshake = true := by
  cases h <;> rfl

/-- A text has one value at most. -/
theorem Json.Valued.unique {s : String} {v v' : Json} (h : Json.Valued s v)
    (h' : Json.Valued s v') : v = v' := by
  obtain ⟨w, hw, -, rfl⟩ := h
  obtain ⟨w', hw', -, rfl⟩ := h'
  rw [hw.unique hw']

namespace Inbound

/-- A message that was read, or refused, off members with a type of this name. -/
structure Fitted (name : String) (look : String → Option Json) (x : Except Error Inbound) : Prop where
  /-- A message is of the type that it names. -/
  kind : ∀ a, x = .ok a → a.kind.name = name
  /-- It is a handshake message just when its type is one of the four. -/
  family : ∀ a, x = .ok a → ((∃ h, a = .handshake h) ↔ name ∈ Kind.handshakes)
  envelope : name ∉ Kind.handshakes → ((∃ a, x = .ok a) ↔ Envelope.Shape look)
  init : name = "handshake_init" → ((∃ a, x = .ok a) ↔ Init.Shape look)
  resume : name = "handshake_resume" → ((∃ a, x = .ok a) ↔ Resume.Shape look)
  ack : name = "handshake_ack" → ((∃ a, x = .ok a) ↔ Ack.Shape look)
  reject : name = "handshake_reject" → ((∃ a, x = .ok a) ↔ Reject.Shape look)
  /-- Whatever is refused is refused for its content, and never for a number that is not finite. -/
  refusal : ∀ e, x = .error e → ∃ m : Json.Misfit, e = .json (.misfit m) ∧ m.isInfinite = false

/-- A message is read exactly if the view holds something. -/
theorem Result.isSome_iff {o : Option Inbound} {x : Except Error Inbound} (h : Result o x) :
    (∃ a, x = .ok a) ↔ o.isSome := by
  rw [Option.isSome_iff_exists]
  exact exists_congr fun a => h.ok_iff

/-- A message that is refused is refused for its content. -/
theorem Result.refusal {o : Option Inbound} {x : Except Error Inbound} (h : Result o x) {e : Error}
    (he : x = .error e) : ∃ m : Json.Misfit, e = .json (.misfit m) ∧ m.isInfinite = false := by
  cases o with
  | some a =>
    obtain rfl : x = .ok a := h
    cases he
  | none =>
    obtain ⟨m, rfl, hm⟩ := h
    exact ⟨m, (Except.error.inj he).symm, hm⟩

/-- What a view holds is a handshake message of the kind of the name, or an envelope if that kind is no
    handshake. -/
theorem view_cases {name : String} {a : Inbound} (h : view name look = some a) :
    (∃ m, a = .handshake m ∧ m.kind = Kind.ofName name) ∨
      (Kind.ofName name).isHandshake = false ∧ ∃ e, a = .envelope e ∧ Envelope.view look = some e := by
  cases hhandshake : (Kind.ofName name).isHandshake with
  | true =>
    left
    unfold view at h
    cases hkind : Kind.ofName name
    all_goals
      rw [hkind] at h hhandshake
      first
        | exact absurd hhandshake Bool.false_ne_true
        | obtain ⟨m, -, rfl⟩ := Option.map_eq_some_iff.mp h
          exact ⟨_, rfl, rfl⟩
  | false =>
    right
    rw [view_of_not_handshake (Bool.eq_false_iff.mp hhandshake)] at h
    obtain ⟨e, he, rfl⟩ := Option.map_eq_some_iff.mp h
    exact ⟨rfl, e, rfl, he⟩

/-- What is read as its view holds fits its name. -/
theorem fitted_of_result {name : String} {x : Except Error Inbound}
    (htype : look "type" = some (.text name)) (h : Result (view name look) x) : Fitted name look x := by
  refine ⟨?_, ?_, ?_, ?_, ?_, ?_, ?_, fun e he => h.refusal he⟩
  · intro a ha
    rcases view_cases (h.ok_iff.mp ha) with ⟨m, rfl, hm⟩ | ⟨-, e, rfl, he⟩
    · rw [kind, hm, Kind.name_ofName]
    · rw [kind, Envelope.kind_of_view he htype, Kind.name_ofName]
  · intro a ha
    rw [← Kind.isHandshake_ofName]
    rcases view_cases (h.ok_iff.mp ha) with ⟨m, rfl, hm⟩ | ⟨hkind, e, rfl, -⟩
    · exact iff_of_true ⟨m, rfl⟩ (hm ▸ m.isHandshake_kind)
    · exact iff_of_false (by rintro ⟨_, heq⟩; cases heq) (by rw [hkind]; exact Bool.false_ne_true)
  · intro hname
    rw [h.isSome_iff, view_of_not_handshake (Kind.isHandshake_ofName.not.mpr hname), View.isSome_map,
      Envelope.isSome_view ⟨_, htype, name, rfl⟩]
  · rintro rfl
    exact h.isSome_iff.trans ((View.isSome_map _ _).trans Init.isSome_view)
  · rintro rfl
    exact h.isSome_iff.trans ((View.isSome_map _ _).trans Resume.isSome_view)
  · rintro rfl
    exact h.isSome_iff.trans ((View.isSome_map _ _).trans Ack.isSome_view)
  · rintro rfl
    exact h.isSome_iff.trans ((View.isSome_map _ _).trans Reject.isSome_view)

/-- The value is an object with a type. -/
def Typed (v : Json) : Prop := ∃ ms name, v = .object ms ∧ Json.find? "type" ms = some (.text name)

/-- What becomes of a text. -/
structure Sifted (s : String) : Prop where
  /-- It is refused for its syntax just when it has no value. -/
  syntactic : (∃ f, parse s = .error (.json f) ∧ f.Syntactic) ↔ ¬ ∃ v, Json.Valued s v
  /-- It is refused as no message just when its value is no object with a type. -/
  untyped : (∃ reason, parse s = .error (.invalidMessage reason)) ↔ ∃ v, Json.Valued s v ∧ ¬ Typed v
  /-- Any other text is read or refused for its members. -/
  fitted : ∀ ms name, Json.Valued s (.object ms) → Json.find? "type" ms = some (.text name) →
    Fitted name (fun key => Json.find? key ms) (parse s)
  /-- No text is refused for a time out of range. -/
  timely : ∀ f, parse s = .error (.json f) →
    ¬ "timestamp out of range".toList <+: f.message.toList

/-- A value without a type is no message. -/
theorem ofJson_of_not_typed {v : Json} (h : ¬ Typed v) :
    ofJson v = .error (.invalidMessage "missing `type` field") := by
  have hnone : (v.get? "type").bind Json.text? = none := by
    rw [Option.eq_none_iff_forall_not_mem]
    intro name hname
    obtain ⟨w, hw, hname⟩ := Option.bind_eq_some_iff.mp hname
    cases v with
    | object ms =>
      cases w with
      | text s => exact h ⟨ms, s, rfl, hw⟩
      | _ => cases hname
    | _ => cases hw
  rw [ofJson, hnone]

/-- A text has a value and a type, a value without a type, or no value. -/
theorem parse_cases (s : String) :
    (∃ ms name, Json.Valued s (.object ms) ∧ Json.find? "type" ms = some (.text name) ∧
      Result (view name fun key => Json.find? key ms) (parse s)) ∨
    (∃ v, Json.Valued s v ∧ ¬ Typed v ∧ parse s = .error (.invalidMessage "missing `type` field")) ∨
    (¬ ∃ v, Json.Valued s v) ∧ ∃ f, parse s = .error (.json f) ∧ f.Syntactic := by
  cases hvalue : Json.parse s with
  | ok v =>
    have hparse : parse s = ofJson v := by rw [parse, hvalue]
    by_cases htyped : Typed v
    · obtain ⟨ms, name, rfl, htype⟩ := htyped
      refine Or.inl ⟨ms, name, Json.parse_eq_ok_iff.mp hvalue, htype, ?_⟩
      rw [hparse]
      exact result_ofJson (Json.fits_of_parse hvalue) (Json.finite_of_parse hvalue) htype
    · exact Or.inr (Or.inl ⟨v, Json.parse_eq_ok_iff.mp hvalue, htyped, by
        rw [hparse, ofJson_of_not_typed htyped]⟩)
  | error f =>
    refine Or.inr (Or.inr ⟨?_, f, by rw [parse, hvalue], Json.syntactic_of_parse hvalue⟩)
    rintro ⟨v, hv⟩
    rw [Json.parse_eq_ok_iff.mpr hv] at hvalue
    cases hvalue

/-- **Every text is read or refused as its value demands.** -/
theorem sifted_frame (s : String) : Sifted s := by
  rcases parse_cases s with ⟨ms, name, hvalue, htype, hresult⟩ | ⟨v, hvalue, htyped, hparse⟩ |
    ⟨hnone, f, hparse, hf⟩
  · have hfitted := fitted_of_result htype hresult
    constructor
    · refine iff_of_false ?_ fun h => h ⟨_, hvalue⟩
      rintro ⟨f, hparse, hf⟩
      obtain ⟨m, hm, -⟩ := hfitted.refusal _ hparse
      cases hm
      exact hf.elim Json.Fault.noConfusion Json.Fault.noConfusion
    · refine iff_of_false ?_ ?_
      · rintro ⟨reason, hparse⟩
        obtain ⟨m, hm, -⟩ := hfitted.refusal _ hparse
        cases hm
      · rintro ⟨v, hv, htyped⟩
        exact htyped ⟨ms, name, hv.unique hvalue, htype⟩
    · intro ns name' hvalue' htype'
      obtain rfl := Json.object.inj (hvalue.unique hvalue')
      obtain rfl := Json.text.inj (Option.some.inj (htype.symm.trans htype'))
      exact hfitted
    · intro f hparse
      obtain ⟨m, hm, hfinite⟩ := hfitted.refusal _ hparse
      exact Json.Fault.timely_message (Or.inr ⟨m, Error.json.inj hm, hfinite⟩)
  · constructor
    · refine iff_of_false ?_ fun h => h ⟨_, hvalue⟩
      rintro ⟨f, hf, -⟩
      rw [hparse] at hf
      cases hf
    · exact iff_of_true ⟨_, hparse⟩ ⟨v, hvalue, htyped⟩
    · intro ms name hvalue' htype
      exact absurd ⟨ms, name, hvalue.unique hvalue', htype⟩ htyped
    · intro f hf
      rw [hparse] at hf
      cases hf
  · constructor
    · exact iff_of_true ⟨f, hparse, hf⟩ hnone
    · refine iff_of_false ?_ fun ⟨v, hv, _⟩ => hnone ⟨v, hv⟩
      rintro ⟨reason, hreason⟩
      rw [hparse] at hreason
      cases hreason
    · exact fun ms name hvalue _ => absurd ⟨_, hvalue⟩ hnone
    · intro g hg
      obtain rfl := Error.json.inj (Except.error.inj (hparse.symm.trans hg))
      exact Json.Fault.timely_message (Or.inl hf)

/-- A bare pong is read. -/
theorem sifted_frame_pong :
    let s := (Json.object [("type", .text "pong")]).render
    Json.Valued s (.object [("type", .text "pong")]) ∧ ∃ a, parse s = .ok a ∧ a.kind.name = "pong" := by
  intro s
  have hvalue : Json.Valued s (.object [("type", .text "pong")]) :=
    ⟨_, Json.spells_render ⟨trivial, trivial⟩, by decide, rfl⟩
  have hfitted := (sifted_frame s).fitted _ _ hvalue rfl
  have hshape : Envelope.Shape fun key => Json.find? key [("type", .text "pong")] := by
    constructor <;> simp [Loose, Spare, Json.find?]
  obtain ⟨a, ha⟩ := (hfitted.envelope (by decide)).mpr hshape
  exact ⟨hvalue, a, ha, hfitted.kind a ha⟩

end Inbound

end Tether
