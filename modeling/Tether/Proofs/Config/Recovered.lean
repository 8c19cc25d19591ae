import Tether.Config.Codec
import Tether.Proofs.Json.Abridged
import Tether.Proofs.Json.Spelled

/-!
# `Tether.Proofs.Config.Recovered` — a configuration is read back, with defaults left out

A configuration is written with every setting and every section. It is read back from that, and from
whatever is left of it when settings or sections are taken out that are what they are by default, here or
in several places at once, and when members are added that are no setting. The defaults are given in
three ways: setting by setting, section by section, and for a whole configuration. They agree, since each
is what is read off the default configuration as it is written.

* `Config.omissible` — what may be left out: all of the default configuration but url and client;
* `ReconnectConfig.recovers` and its like — one lemma for each section;
* `Config.recovered` — **every abridged form of a configuration is read as the configuration**.
-/

namespace Tether

open Json (Schema Reader Place Abridges)

variable {p : Place}

namespace ReconnectConfig

theorem lawful_schema : schema.Lawful :=
  ((Schema.lawful_field _ _ _).map _).and (Schema.lawful_field _ _ _)
    |>.and (Schema.lawful_field _ _ _)

/-- The reconnect section is recovered from whatever is written of it. -/
theorem recovers (hroom : p.room ≠ 0) (c : ReconnectConfig) :
    reader.Recovers p (some ({} : ReconnectConfig).toJson) c.toJson c := by
  have hmillis : ∀ n, Reader.natural64 p.inside (Json.number (.whole (Whole.ofUInt64 n))).toTree = .ok n :=
    fun n => (Reader.reads_natural64 n).self trivial (Nat.zero_le _)
  have hcount : ∀ n, Reader.natural32 p.inside (Json.number (.whole (Whole.ofUInt32 n))).toTree = .ok n :=
    fun n => (Reader.reads_natural32 n).self trivial (Nat.zero_le _)
  refine Schema.Recovers.reader ?_ lawful_schema rfl (by decide) hroom
  exact ((Schema.recovers_leaf (by simp [Json.find?]) (by simp [Json.find?]) (by simp)
      (hmillis c.baseDelay) (hmillis _)).map ReconnectConfig.mk)
    |>.and (Schema.recovers_leaf (by simp [Json.find?]) (by simp [Json.find?]) (by simp)
      (hmillis c.maxDelay) (hmillis _))
    |>.and (Schema.recovers_leaf (by simp [Json.find?]) (by simp [Json.find?]) (by simp)
      (hcount c.maxRetries) (hcount _))

end ReconnectConfig

namespace HeartbeatConfig

theorem lawful_schema : schema.Lawful :=
  ((Schema.lawful_field _ _ _).map _).and (Schema.lawful_field _ _ _)
    |>.and (Schema.lawful_field _ _ _)

theorem reads_millis? (hp : p.source ≠ .table) (o : Option UInt64) :
    Reader.natural64.optional.Reads p (millis? o) o := by
  cases o with
  | none => exact Reader.reads_optional_null hp
  | some n => exact (Reader.reads_natural64 n).optional Json.noConfusion

/-- So is the heartbeat section, -/
theorem recovers (hp : p.source ≠ .table) (hroom : p.room ≠ 0) (c : HeartbeatConfig) :
    reader.Recovers p (some ({} : HeartbeatConfig).toJson) c.toJson c := by
  have hflag : ∀ b, Reader.flag p.inside (Json.bool b).toTree = .ok b := fun _ => rfl
  have hmillis : ∀ n, Reader.natural64 p.inside (Json.number (.whole (Whole.ofUInt64 n))).toTree = .ok n :=
    fun n => (Reader.reads_natural64 n).self trivial (Nat.zero_le _)
  have hmillis? : ∀ o, Reader.natural64.optional p.inside (millis? o).toTree = .ok o := by
    intro o
    have hshape : (millis? o).Distinct ∧ (millis? o).depth = 0 := by cases o <;> exact ⟨trivial, rfl⟩
    exact (reads_millis? hp o).self hshape.1 (by omega)
  refine Schema.Recovers.reader ?_ lawful_schema rfl (by decide) hroom
  exact ((Schema.recovers_leaf (by simp [Json.find?]) (by simp [Json.find?]) (by simp)
      (hflag c.enabled) (hflag _)).map HeartbeatConfig.mk)
    |>.and (Schema.recovers_leaf (by simp [Json.find?]) (by simp [Json.find?]) (by simp [millis?])
      (hmillis? c.interval) (hmillis? _))
    |>.and (Schema.recovers_leaf (by simp [Json.find?]) (by simp [Json.find?]) (by simp)
      (hmillis c.timeout) (hmillis _))

end HeartbeatConfig

namespace AuthConfig

theorem lawful_schema : schema.Lawful :=
  ((Schema.lawful_field _ _ _).map _).and (Schema.lawful_field _ _ _)
    |>.and (Schema.lawful_field _ _ _)

/-- and the one on authentication, -/
theorem recovers (hp : p.source ≠ .table) (hroom : p.room ≠ 0) (c : AuthConfig) :
    reader.Recovers p (some ({} : AuthConfig).toJson) c.toJson c := by
  have hflag : ∀ b, Reader.flag p.inside (Json.bool b).toTree = .ok b := fun _ => rfl
  have htext? := Reader.read_ofText? (p := p.inside) hp
  have hpolicy : ∀ policy : Policy,
      Reader.choice Policy.known p.inside (Json.text policy.name).toTree = .ok policy := by
    intro policy
    have hknown : Policy.known.lookup policy.name = some policy := by cases policy <;> rfl
    exact (Reader.reads_choice hknown).self trivial (Nat.zero_le _)
  refine Schema.Recovers.reader ?_ lawful_schema rfl (by decide) hroom
  exact ((Schema.recovers_leaf (by simp [Json.find?]) (by simp [Json.find?]) (by simp [Json.ofText?])
      (htext? c.secretKey) (htext? _)).map AuthConfig.mk)
    |>.and (Schema.recovers_leaf (by simp [Json.find?]) (by simp [Json.find?]) (by simp)
      (hpolicy c.verification) (hpolicy _))
    |>.and (Schema.recovers_leaf (by simp [Json.find?]) (by simp [Json.find?]) (by simp)
      (hflag c.keyExchange) (hflag _))

end AuthConfig

namespace HandshakeConfig

/-- The metadata is in order, and not null. -/
def Settled (c : HandshakeConfig) : Prop := ∀ v, c.metadata = some v → v ≠ .null ∧ v.Ordered

theorem lawful_schema : schema.Lawful :=
  ((Schema.lawful_field _ _ _).map _).and (Schema.lawful_field _ _ _)
    |>.and (Schema.lawful_field _ _ _)
    |>.and (Schema.lawful_field _ _ _)

theorem settled_default : ({} : HandshakeConfig).Settled := by
  intro v hv
  cases hv

theorem read_metadata (hp : p.source ≠ .table) {c : HandshakeConfig} (hc : c.Settled)
    (hdepth : (c.metadata.getD .null).depth ≤ p.room) :
    Reader.json.optional p (c.metadata.getD .null).toTree = .ok c.metadata := by
  cases hmetadata : c.metadata with
  | none => exact (Reader.reads_optional_null hp).self trivial (Nat.zero_le _)
  | some v =>
    obtain ⟨hnull, hordered⟩ := hc v hmetadata
    rw [hmetadata] at hdepth
    exact ((Reader.reads_json hordered).optional hnull).self (Json.distinct_of_ordered v hordered) hdepth

theorem depth_metadata_lt (c : HandshakeConfig) : (c.metadata.getD .null).depth < c.toJson.depth :=
  Nat.lt_succ_of_le
    (Json.depthMembers_le_iff.mp (Nat.le_refl _) ("metadata", c.metadata.getD .null) (by simp))

/-- There is a list inside the section. -/
theorem two_le_depth (c : HandshakeConfig) : 2 ≤ c.toJson.depth := by
  have hlist : 1 ≤ (Json.list (c.capabilities.map .text)).depth := Nat.le_add_left ..
  refine Nat.succ_le_succ (Nat.le_trans hlist ?_)
  exact Json.depthMembers_le_iff.mp (Nat.le_refl _) ("capabilities", _) (by simp)

/-- and that of the handshake, if its metadata is settled. -/
theorem recovers (hp : p.source ≠ .table) {c : HandshakeConfig} (hc : c.Settled)
    (hdepth : c.toJson.depth ≤ p.room) :
    reader.Recovers p (some ({} : HandshakeConfig).toJson) c.toJson c := by
  have hroom : 2 ≤ p.room ∧ (c.metadata.getD .null).depth + 1 ≤ p.room :=
    ⟨Nat.le_trans c.two_le_depth hdepth, Nat.le_trans c.depth_metadata_lt hdepth⟩
  have hinside : p.inside.room = p.room - 1 := rfl
  have htext? := Reader.read_ofText? (p := p.inside) hp
  have htexts := Reader.read_texts (p := p.inside) (by omega)
  have hmetadata := read_metadata (p := p.inside) hp hc (by omega)
  have hnone : Reader.json.optional p.inside Json.null.toTree = .ok none :=
    (Reader.reads_optional_null (p := p.inside) (r := Reader.json) hp).self trivial (Nat.zero_le _)
  refine Schema.Recovers.reader ?_ lawful_schema rfl (by decide) (by omega)
  exact ((Schema.recovers_leaf (by simp [Json.find?]) (by simp [Json.find?]) (by simp [Json.ofText?])
      (htext? c.deviceFingerprint) (htext? _)).map HandshakeConfig.mk)
    |>.and (Schema.recovers_leaf (by simp [Json.find?]) (by simp [Json.find?]) (by simp [Json.ofText?])
      (htext? c.intent) (htext? _))
    |>.and (Schema.recovers_leaf (by simp [Json.find?]) (by simp [Json.find?]) (by simp)
      (htexts c.capabilities) (htexts _))
    |>.and (Schema.recovers_leaf (by simp [Json.find?]) (by simp [Json.find?]) (by simp) hmetadata
      hnone)

end HandshakeConfig

namespace Config

/-- What may be left out of a configuration that is written: every part of the default configuration but
    the url and the client. -/
def omissible : List (String × Json) :=
  [("subprotocol", .text ({} : Config).subprotocol), ("ltp_version", .text ({} : Config).version),
    ("reconnect", ({} : Config).reconnect.toJson), ("heartbeat", ({} : Config).heartbeat.toJson),
    ("auth", ({} : Config).auth.toJson), ("handshake", ({} : Config).handshake.toJson)]

/-- The rest is the url and the client, which have to be given. -/
theorem toJson_default : ({} : Config).toJson =
    .object (("url", .text ({} : Config).url) :: ("client_id", .text ({} : Config).clientId) ::
      omissible) := rfl

theorem lawful_schema : schema.Lawful :=
  ((Schema.lawful_field _ _ _).map _).and (Schema.lawful_field _ _ _)
    |>.and (Schema.lawful_field _ _ _)
    |>.and (Schema.lawful_field _ _ _)
    |>.and (Schema.lawful_field _ _ _)
    |>.and (Schema.lawful_field _ _ _)
    |>.and (Schema.lawful_field _ _ _)
    |>.and (Schema.lawful_field _ _ _)

theorem depth_handshake_lt (c : Config) : c.handshake.toJson.depth < c.toJson.depth :=
  Nat.lt_succ_of_le
    (Json.depthMembers_le_iff.mp (Nat.le_refl _) ("handshake", c.handshake.toJson) (by simp))

/-- The sections agree with the configuration on what is left out. -/
theorem recovers (hp : p.source ≠ .table) {c : Config} (hc : c.handshake.Settled)
    (hdepth : c.toJson.depth ≤ p.room) :
    reader.Recovers p (some (.object omissible)) c.toJson c := by
  have hroom := Nat.le_trans c.depth_handshake_lt hdepth
  have hlist := c.handshake.two_le_depth
  have hinside : p.inside.room = p.room - 1 := rfl
  have htext : ∀ s, Reader.text p.inside (Json.text s).toTree = .ok s := fun _ => rfl
  have hreconnect := ReconnectConfig.recovers (p := p.inside) (by omega)
  have hheartbeat := HeartbeatConfig.recovers (p := p.inside) hp (by omega)
  have hauth := AuthConfig.recovers (p := p.inside) hp (by omega)
  have hhandshake := HandshakeConfig.recovers (p := p.inside) hp hc (by omega)
  have hshallow : ({} : HandshakeConfig).toJson.depth = 2 := by decide
  have hdefault := HandshakeConfig.recovers (p := p.inside) (c := {}) hp HandshakeConfig.settled_default (by omega)
  refine Schema.Recovers.reader ?_ lawful_schema rfl (by decide) (by omega)
  exact ((Schema.recovers_required (by simp [Json.find?]) (by simp [Json.find?, omissible])
      (htext c.url)).map Config.mk)
    |>.and (Schema.recovers_required (by simp [Json.find?]) (by simp [Json.find?, omissible])
      (htext c.clientId))
    |>.and (Schema.recovers_leaf (by simp [Json.find?]) (by simp [Json.find?, omissible]) (by simp)
      (htext c.subprotocol) (htext _))
    |>.and (Schema.recovers_leaf (by simp [Json.find?]) (by simp [Json.find?, omissible]) (by simp)
      (htext c.version) (htext _))
    |>.and (Schema.recovers_withDefault (by simp [Json.find?]) (by simp [Json.find?, omissible])
      (hreconnect c.reconnect) (hreconnect {}).self)
    |>.and (Schema.recovers_withDefault (by simp [Json.find?]) (by simp [Json.find?, omissible])
      (hheartbeat c.heartbeat) (hheartbeat {}).self)
    |>.and (Schema.recovers_withDefault (by simp [Json.find?]) (by simp [Json.find?, omissible])
      (hauth c.auth) (hauth {}).self)
    |>.and (Schema.recovers_withDefault (by simp [Json.find?]) (by simp [Json.find?, omissible])
      hhandshake hdefault.self)

/-- **A configuration is read back from every abridged form of its JSON**, as a value and as any text
    that spells it: whatever is left out of what was written, and whatever unknown is added. -/
theorem recovered (c : Config) (hnull : c.handshake.metadata ≠ some .null)
    (hordered : ∀ v, c.handshake.metadata = some v → v.Ordered)
    (hdepth : c.toJson.depth ≤ Json.maxDepth) :
    (c.toJson.Exact → ofText c.toJson.render = .ok c) ∧
      ∀ v, Abridges (some (.object omissible)) c.toJson v →
        ofJson v = .ok c ∧ (∀ s, Json.Spells s v → ofText s = .ok c) ∧
          (v.Exact → ofText v.render = .ok c) := by
  have hsettled : c.handshake.Settled := by
    intro v hv
    exact ⟨fun h => hnull (h ▸ hv), hordered v hv⟩
  have hspelled : ∀ v s, Abridges (some (.object omissible)) c.toJson v → Json.Spells s v →
      ofText s = .ok c := by
    intro v s hv hs
    have hread := recovers (p := Place.text) Json.Source.noConfusion hsettled hdepth v hv
    rw [ofText, Json.Document.ofText_eq_iff.mpr hs, Json.Document.read, hread]
    rfl
  refine ⟨fun hexact => ?_, fun v hv => ⟨?_, fun s hs => hspelled v s hv hs, fun hexact => ?_⟩⟩
  · exact hspelled _ _ (.whole ..) (Json.spells_render hexact)
  · exact recovers (p := Place.value) Json.Source.noConfusion hsettled hdepth v hv
  · exact hspelled v _ hv (Json.spells_render hexact)

/-- A strict client that leaves its defaults out, here and in two sections, with remarks. -/
theorem recovered_strict :
    ofText (Json.object [("remark", .list [.null]),
        ("auth", .object [("secret_key", .text "k"), ("verification", .text "strict"),
          ("remark", .null), ("remark", .bool true)]),
        ("client_id", .text "c1"), ("handshake", .object [("metadata", .object [("k", .bool true)])]),
        ("url", .text "ws://h")]).render =
      .ok { url := "ws://h", clientId := "c1", auth := { secretKey := some "k", verification := .strict },
            handshake := { metadata := some (.object [("k", .bool true)]) } } := by
  have hauth : Abridges (some ({} : AuthConfig).toJson)
      (AuthConfig.toJson { secretKey := some "k", verification := .strict })
      (.object [("secret_key", .text "k"), ("verification", .text "strict"), ("remark", .null),
        ("remark", .bool true)]) :=
    .of_filter (fun key => key ≠ "key_exchange") Prod.snd [("remark", .null), ("remark", .bool true)]
      (by decide) (by simp [Json.find?]) (fun _ _ => .whole ..) (by decide) (.refl _)
  have hhandshake : Abridges (some ({} : HandshakeConfig).toJson)
      (HandshakeConfig.toJson { metadata := some (.object [("k", .bool true)]) })
      (.object [("metadata", .object [("k", .bool true)])]) :=
    .of_filter (fun key => key = "metadata") Prod.snd [] (by decide)
      (by simp [Json.find?, Json.ofText?]) (fun _ _ => .whole ..) (by decide) (.refl _)
  refine ((recovered _ (by simp) ?_ (by decide)).2 _ (.object (by decide) ?_ ?_)).2.2 ?_
  · rintro v ⟨⟩
    simp [Json.Ordered, Json.Ascending, Json.OrderedMembers]
  · simp [Json.find?, omissible, Abridges.whole, hauth, hhandshake]
  · simp [Json.find?, omissible]
  · simp [Json.Exact, Json.ExactMembers, Json.ExactItems]

end Config

end Tether
