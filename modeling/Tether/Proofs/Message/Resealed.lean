import Tether.Proofs.Message.RoundTrip

/-!
# `Tether.Proofs.Message.Resealed` — envelopes under another seal

The nonce and the signature seal an envelope. Whether a frame holds an envelope does not depend on them,
as long as each is absent, null or a text, and neither does anything else that is read from it.

* `Schema.Carries` — what a schema reads off two objects is related; over the fields of a record the
  relation is one between functions of what is still to be read, so each way to build a schema has its
  own lemma;
* `Envelope.Resealed` — two frames that differ in the seal at most;
* `Envelope.Resealed.parse` — both hold an envelope, the same but for the seal, or neither does.
-/

namespace Tether

namespace Json.Schema

variable {α β : Type} {p : Place} {ms ns : List (Option String × Tree)}

/-- What is read off the members `ms` has its like among what is read off the members `ns`. -/
def Carries (s : Schema α) (R : α → α → Prop) (p : Place) (ms ns : List (Option String × Tree)) :
    Prop :=
  ∀ a, s.ofMembers p ms = .ok a → ∃ a', s.ofMembers p ns = .ok a' ∧ R a a'

theorem Carries.map {s : Schema α} {f : α → β} {R : α → α → Prop} {R' : β → β → Prop}
    (h : s.Carries R p ms ns) (hf : ∀ a a', R a a' → R' (f a) (f a')) :
    (s.map f).Carries R' p ms ns := by
  intro b hb
  obtain ⟨a, ha, rfl⟩ := ofMembers_map.mp hb
  obtain ⟨a', ha', hr⟩ := h a ha
  exact ⟨f a', ofMembers_map.mpr ⟨a', ha', rfl⟩, hf a a' hr⟩

/-- The first record is a function of the second, and takes what is related to what is related. -/
theorem Carries.and {s : Schema (α → β)} {t : Schema α} {R : α → α → Prop} {R' : β → β → Prop}
    (hs : s.Carries (fun f f' => ∀ a a', R a a' → R' (f a) (f' a')) p ms ns)
    (ht : t.Carries R p ms ns) : (s.and t).Carries R' p ms ns := by
  intro b hb
  obtain ⟨f, a, hf, ha, rfl⟩ := ofMembers_and.mp hb
  obtain ⟨f', hf', hr⟩ := hs f hf
  obtain ⟨a', ha', hra⟩ := ht a ha
  exact ⟨f' a', ofMembers_and.mpr ⟨f', a', hf', ha', rfl⟩, hr a a' hra⟩

/-- A member that both objects have, or neither, is read the same. -/
theorem carries_field {name : String} (r : Reader α) (absence : Absence α)
    (h : Schema.find? name ms = Schema.find? name ns) :
    (field name r absence).Carries Eq p ms ns := by
  intro a ha
  refine ⟨a, ofMembers_field.mpr ?_, rfl⟩
  rw [← h]
  exact ofMembers_field.mp ha

/-- An optional text is read off every object in which it is absent, null or a text. -/
theorem carries_optional_text {name : String} (hp : p.source ≠ .table)
    (h : ∀ t, Schema.find? name ns = some t → t = .null ∨ ∃ s, t = .text (some s)) :
    (optional name Reader.text).Carries (fun _ _ => True) p ms ns := by
  intro _ _
  cases hfind : Schema.find? name ns with
  | none => exact ⟨none, ofMembers_field.mpr (Or.inr ⟨hfind, rfl⟩), trivial⟩
  | some t =>
    rcases h t hfind with rfl | ⟨s, rfl⟩
    · refine ⟨none, ofMembers_field.mpr (Or.inl ⟨.null, hfind, ?_⟩), trivial⟩
      obtain ⟨source, room⟩ := p
      cases source <;> first | rfl | exact absurd rfl hp
    · exact ⟨some s, ofMembers_field.mpr (Or.inl ⟨_, hfind, rfl⟩), trivial⟩

end Json.Schema

open Json (Schema Reader Place)

namespace Envelope

/-- The envelope without its seal. -/
def unsealed (e : Envelope) : Envelope := { e with nonce := none, signature := none }

/-- The members that seal an envelope. -/
def sealing : List String := ["nonce", "signature"]

/-- The other members. -/
def others (ms : List (String × Json)) : List (String × Json) := ms.filter fun m => m.1 ∉ sealing

/-- Each of the members that seal an envelope is null or a text, if it is there. -/
def Sealed (ms : List (String × Json)) : Prop :=
  ∀ key ∈ sealing, ∀ v, Json.find? key ms = some v → v = .null ∨ ∃ s, v = .text s

/-- Two frames are objects that differ in the seal of an envelope at most. Their type is not that of a
    handshake. -/
def Resealed (f g : String) : Prop :=
  ∃ ms ns, Json.parse f = .ok (.object ms) ∧ Json.parse g = .ok (.object ns) ∧
    others ms = others ns ∧ Sealed ms ∧ Sealed ns ∧
    ∀ name, Json.find? "type" ms = some (.text name) → (Kind.ofName name).isHandshake = false

variable {ms ns : List (String × Json)} {e : Envelope}

theorem find?_of_others (h : others ms = others ns) {key : String} (hkey : key ∉ sealing) :
    Json.find? key ms = Json.find? key ns := by
  have hfind : ∀ ms, Json.find? key (others ms) = Json.find? key ms := fun ms =>
    (Json.find?_filter (fun key => decide (key ∉ sealing)) key ms).trans
      (if_pos (decide_eq_true hkey))
  rw [← hfind ms, h, hfind]

/-- **What is read of an envelope does not depend on its seal**, but for the seal. -/
theorem carries_schema {p : Place} (hp : p.source ≠ .table) (hothers : others ms = others ns)
    (hsealed : Sealed ns) :
    schema.Carries (fun e e' => e'.unsealed = e.unsealed) p (Json.toTreeMembers ms)
      (Json.toTreeMembers ns) := by
  have hsame : ∀ key ∉ sealing, Schema.find? key (Json.toTreeMembers ms) =
      Schema.find? key (Json.toTreeMembers ns) := fun key hkey => by
    rw [Schema.find?_toTreeMembers, Schema.find?_toTreeMembers, find?_of_others hothers hkey]
  have htext : ∀ key ∈ sealing, ∀ t, Schema.find? key (Json.toTreeMembers ns) = some t →
      t = .null ∨ ∃ s, t = .text (some s) := by
    intro key hkey t ht
    rw [Schema.find?_toTreeMembers] at ht
    obtain ⟨v, hv, rfl⟩ := Option.map_eq_some_iff.mp ht
    rcases hsealed key hkey v hv with rfl | ⟨s, rfl⟩
    · exact Or.inl rfl
    · exact Or.inr ⟨s, rfl⟩
  refine (((Schema.carries_field kindReader .refused (hsame "type" (by decide))).map ?_)
    |>.and (Schema.carries_field _ _ (hsame "thread_id" (by decide)))
    |>.and (Schema.carries_field _ _ (hsame "session_id" (by decide)))
    |>.and (Schema.carries_field _ _ (hsame "timestamp" (by decide)))
    |>.and (Schema.carries_field _ _ (hsame "payload" (by decide)))
    |>.and (Schema.carries_field _ _ (hsame "meta" (by decide)))
    |>.and (Schema.carries_field _ _ (hsame "content_encoding" (by decide)))
    |>.and (Schema.carries_optional_text hp (htext "nonce" (by decide)))
    |>.and (Schema.carries_optional_text hp (htext "signature" (by decide))))
  -- all arguments but the last two are equal, and those two are the seal
  rintro kind _ rfl threadId _ rfl sessionId _ rfl timestamp _ rfl payload _ rfl info _ rfl
    encoding _ rfl nonce nonce' - signature signature' -
  rfl

/-- An object under another seal is read as an envelope if the object is. -/
theorem reader_of_others {p : Place} (hp : p.source ≠ .table) (hroom : p.room ≠ 0)
    (hns : (ns.map Prod.fst).Nodup) (hothers : others ms = others ns) (hsealed : Sealed ns)
    (h : reader p (Json.object ms).toTree = .ok e) :
    ∃ e', reader p (Json.object ns).toTree = .ok e' ∧ e'.unsealed = e.unsealed := by
  obtain ⟨e', hread, hsame⟩ := carries_schema (p := p.inside) hp hothers hsealed e
    (Schema.ofMembers_of_reader h)
  exact ⟨e', Schema.reader_of_ofMembers lawful_schema hns hroom hread, hsame⟩

namespace Resealed

variable {f g : String}

theorem symm (h : Resealed f g) : Resealed g f := by
  obtain ⟨ms, ns, hf, hg, hothers, hms, hns, hkind⟩ := h
  refine ⟨ns, ms, hg, hf, hothers.symm, hns, hms, fun name hname => hkind name ?_⟩
  rw [find?_of_others hothers (by decide)]
  exact hname

/-- Neither frame holds a handshake. -/
theorem not_handshake (h : Resealed f g) (m : Handshake) : Inbound.parse f ≠ .ok (.handshake m) := by
  intro hparse
  obtain ⟨ms, ns, hf, -, -, -, -, hkind⟩ := h
  rw [Inbound.parse, hf] at hparse
  dsimp only at hparse
  rw [Inbound.ofJson, Json.get?] at hparse
  cases htype : (Json.find? "type" ms).bind Json.text? with
  | none => rw [htype] at hparse; cases hparse
  | some name =>
    obtain ⟨v, hv, htext⟩ := Option.bind_eq_some_iff.mp htype
    have hname : v = .text name := by cases v <;> cases htext; rfl
    rw [htype] at hparse
    dsimp only at hparse
    rw [hkind name (hname ▸ hv), if_neg Bool.false_ne_true] at hparse
    cases hread : reader Place.value (Json.object ms).toTree <;> rw [hread] at hparse <;> cases hparse

/-- If one frame holds an envelope, so does the other, the same but for its seal. -/
theorem parse_envelope (h : Resealed f g) (hparse : Inbound.parse f = .ok (.envelope e)) :
    ∃ e', Inbound.parse g = .ok (.envelope e') ∧ e'.unsealed = e.unsealed := by
  obtain ⟨ms, ns, hf, hg, hothers, -, hsealed, -⟩ := h
  obtain ⟨ms', name, hms, hname, ⟨_, _, heq⟩ | ⟨e', hkind, hread, heq⟩⟩ := Inbound.of_parse hparse
  · cases heq
  · cases heq
    obtain rfl : ms = ms' := Json.object.inj (Except.ok.inj (hf.symm.trans hms))
    obtain ⟨e', hread', hsame⟩ := reader_of_others (by decide) (by decide)
      (Json.fits_of_parse hg).1.1.nodup hothers hsealed hread
    refine ⟨e', ?_, hsame⟩
    rw [find?_of_others hothers (by decide)] at hname
    rw [Inbound.parse, hg]
    dsimp only
    rw [Inbound.ofJson, Json.get?, hname]
    dsimp only [Option.bind_some, Json.text?]
    rw [hkind, if_neg Bool.false_ne_true, hread']

/-- **Both frames hold an envelope, the same but for its seal, or neither holds a message.** -/
theorem parse (h : Resealed f g) :
    (∃ e e', Inbound.parse f = .ok (.envelope e) ∧ Inbound.parse g = .ok (.envelope e') ∧
        e'.unsealed = e.unsealed) ∨
      ∃ error error', Inbound.parse f = .error error ∧ Inbound.parse g = .error error' := by
  cases hf : Inbound.parse f with
  | ok message =>
    cases message with
    | handshake m => exact absurd hf (h.not_handshake m)
    | envelope e =>
      obtain ⟨e', hg, hsame⟩ := h.parse_envelope hf
      exact Or.inl ⟨e, e', rfl, hg, hsame⟩
  | error error =>
    cases hg : Inbound.parse g with
    | ok message =>
      cases message with
      | handshake m => exact absurd hg (h.symm.not_handshake m)
      | envelope e =>
        obtain ⟨_, hf', _⟩ := h.symm.parse_envelope hg
        rw [hf] at hf'
        cases hf'
    | error error' => exact Or.inr ⟨error, error', rfl, rfl⟩

end Resealed

end Envelope
end Tether
