import Tether.Config.Basic

/-!
# `Tether.Proofs.Config.Layers` — what a layer of configuration overrides

`Config.merge` is meant to give the upper layer precedence in each setting where it differs from the
defaults, and to leave the rest to the lower one. `Setting` names the leaves of a configuration, so
that this is one law for all of them, `Config.Precedes`.

The merge compares with the defaults in three leaves only: the url, the client and the secret. Every
other leaf is the upper layer's, whether it was set there or not.

* `Config.get_merge_of_not_layered`, `Config.precedes_of_layered` — each leaf of a merge;
* `Config.precedence` — where the law holds, leaf by leaf, and which configurations an upper layer of
  defaults leaves as they are: those that have nothing but defaults outside the three leaves;
* `Config.not_precedes_defaults` — a strict client that a layer of defaults makes lenient.
-/

namespace Tether

/-- The settings of a configuration, one for each leaf of its sections. -/
inductive Setting where
  | url
  | clientId
  | subprotocol
  | version
  | baseDelay
  | maxDelay
  | maxRetries
  | heartbeatEnabled
  | heartbeatInterval
  | heartbeatTimeout
  | secretKey
  | verification
  | keyExchange
  | deviceFingerprint
  | intent
  | capabilities
  | metadata
  deriving DecidableEq, Repr

namespace Setting

/-- What a setting holds. -/
def Value : Setting → Type
  | url | clientId | subprotocol | version => String
  | baseDelay | maxDelay | heartbeatTimeout => UInt64
  | maxRetries => UInt32
  | heartbeatInterval => Option UInt64
  | heartbeatEnabled | keyExchange => Bool
  | secretKey | deviceFingerprint | intent => Option String
  | verification => Policy
  | capabilities => List String
  | metadata => Option Json

/-- Is the setting compared with its default when one configuration is layered over another? -/
def isLayered : Setting → Bool
  | url | clientId | secretKey => true
  | _ => false

end Setting

attribute [ext] ReconnectConfig HeartbeatConfig AuthConfig HandshakeConfig Config

namespace Config

/-- One setting of a configuration. -/
def get (c : Config) : (s : Setting) → s.Value
  | .url => c.url
  | .clientId => c.clientId
  | .subprotocol => c.subprotocol
  | .version => c.version
  | .baseDelay => c.reconnect.baseDelay
  | .maxDelay => c.reconnect.maxDelay
  | .maxRetries => c.reconnect.maxRetries
  | .heartbeatEnabled => c.heartbeat.enabled
  | .heartbeatInterval => c.heartbeat.interval
  | .heartbeatTimeout => c.heartbeat.timeout
  | .secretKey => c.auth.secretKey
  | .verification => c.auth.verification
  | .keyExchange => c.auth.keyExchange
  | .deviceFingerprint => c.handshake.deviceFingerprint
  | .intent => c.handshake.intent
  | .capabilities => c.handshake.capabilities
  | .metadata => c.handshake.metadata

/-- The settings are all there is to a configuration. -/
theorem ext_get {c c' : Config} (h : ∀ s, c.get s = c'.get s) : c = c' := by
  have reconnect : c.reconnect = c'.reconnect :=
    ReconnectConfig.ext (h .baseDelay) (h .maxDelay) (h .maxRetries)
  have heartbeat : c.heartbeat = c'.heartbeat :=
    HeartbeatConfig.ext (h .heartbeatEnabled) (h .heartbeatInterval) (h .heartbeatTimeout)
  have auth : c.auth = c'.auth :=
    AuthConfig.ext (h .secretKey) (h .verification) (h .keyExchange)
  have handshake : c.handshake = c'.handshake :=
    HandshakeConfig.ext (h .deviceFingerprint) (h .intent) (h .capabilities) (h .metadata)
  exact Config.ext (h .url) (h .clientId) (h .subprotocol) (h .version)
    reconnect heartbeat auth handshake

/-- Does the configuration leave a setting at its default? -/
def IsDefault (c : Config) (s : Setting) : Prop := c.get s = ({} : Config).get s

/-- The precedence of the upper layer in one setting: its value if it differs from the default, the
lower layer's otherwise. -/
def Precedes (base other : Config) (s : Setting) : Prop :=
  (¬ other.IsDefault s → (base.merge other).get s = other.get s)
    ∧ (other.IsDefault s → (base.merge other).get s = base.get s)

/-! ## The leaves of a merge -/

variable (base other : Config)

/-- Outside the three compared leaves a merge holds what the upper layer holds. -/
theorem get_merge_of_not_layered {s : Setting} (hs : s.isLayered = false) :
    (base.merge other).get s = other.get s := by
  cases s <;> first | rfl | cases hs

/-- In the three compared leaves the upper layer has precedence. -/
theorem precedes_of_layered {s : Setting} (hs : s.isLayered = true) : Precedes base other s := by
  cases s with
  | url => exact ⟨fun h => if_pos h, fun h => if_neg (not_not_intro h)⟩
  | clientId => exact ⟨fun h => if_pos h, fun h => if_neg (not_not_intro h)⟩
  | secretKey =>
    -- the secret is compared by `Option.or`, its default being none
    refine ⟨fun h => ?_, fun h => ?_⟩
    · have hsome : other.auth.secretKey ≠ none := h
      obtain ⟨key, hkey⟩ := Option.ne_none_iff_exists'.mp hsome
      show other.auth.secretKey.or base.auth.secretKey = other.auth.secretKey
      rw [hkey, Option.some_or]
    · have hnone : other.auth.secretKey = none := h
      show other.auth.secretKey.or base.auth.secretKey = base.auth.secretKey
      rw [hnone, Option.none_or]
  | _ => cases hs

/-- The law holds in a leaf that is not compared exactly if the upper layer sets it, or the lower one
does not. -/
theorem precedes_iff_of_not_layered {s : Setting} (hs : s.isLayered = false) :
    Precedes base other s ↔ (other.IsDefault s → base.IsDefault s) := by
  have hget := get_merge_of_not_layered base other hs
  constructor
  · intro law h
    have hbase : other.get s = base.get s := hget.symm.trans (law.2 h)
    exact hbase.symm.trans h
  · intro h
    exact ⟨fun _ => hget, fun ho => hget.trans (ho.trans (h ho).symm)⟩

/-- An upper layer of defaults leaves a configuration as it is exactly if that one has nothing but
defaults outside the compared leaves. -/
theorem merge_default_iff :
    base.merge {} = base ↔ ∀ s : Setting, s.isLayered = false → base.IsDefault s := by
  constructor
  · intro h s hs
    have hget := get_merge_of_not_layered base {} hs
    rw [h] at hget
    exact hget
  · intro h
    refine ext_get fun s => ?_
    cases hs : s.isLayered with
    | false => exact (get_merge_of_not_layered base {} hs).trans (h s hs).symm
    | true => exact (precedes_of_layered base {} hs).2 rfl

/-! ## The law of precedence -/

/-- What the law of precedence comes to for two layers. -/
structure Precedence (base other : Config) : Prop where
  /-- A setting follows the law if it is one of the compared leaves, if the upper layer sets it, or if
  there is nothing below that could be lost; it breaks it otherwise. -/
  leaf : ∀ s, Precedes base other s ↔ s.isLayered = true ∨ ¬ other.IsDefault s ∨ base.IsDefault s
  /-- An upper layer of defaults is neutral only over defaults. -/
  neutral : base.merge {} = base ↔ ∀ s : Setting, s.isLayered = false → base.IsDefault s
  /-- Strict verification is lost under every upper layer that does not ask for it. -/
  weakened : base.auth.verification = .strict ∧ (base.merge other).auth.verification = .lenient ↔
    base.auth.verification = .strict ∧ other.IsDefault .verification

/-- **Where the upper layer has the precedence it is meant to have**, for all pairs of
configurations: everywhere in the compared leaves, and elsewhere only where it sets the leaf or the
lower layer does not. -/
theorem precedence : Precedence base other where
  leaf s := by
    cases hs : s.isLayered with
    | true => simp [precedes_of_layered base other hs]
    | false =>
      rw [precedes_iff_of_not_layered base other hs]
      simp [Classical.or_iff_not_imp_left]
  neutral := merge_default_iff base
  weakened := by
    have kept : (base.merge other).auth.verification = other.auth.verification :=
      get_merge_of_not_layered base other (s := .verification) rfl
    rw [kept]
    rfl

/-- A client that insists on signatures, and on more attempts than by default. -/
def guarded : Config :=
  { create "ws://h" "c1" with
    reconnect := { maxRetries := 9 }
    auth := { secretKey := some "k", verification := .strict } }

/-- A layer of defaults over a strict client makes it lenient and resets its number of attempts: the
law of precedence fails. -/
theorem not_precedes_defaults :
    ¬ Precedes guarded {} .verification ∧ ¬ Precedes guarded {} .maxRetries
      ∧ guarded.merge {} ≠ guarded
      ∧ guarded.auth.verification = .strict
      ∧ (guarded.merge {}).auth.verification = .lenient := by
  have lost : (guarded.merge {}).auth.verification ≠ guarded.auth.verification := by decide
  have fewer : (guarded.merge {}).reconnect.maxRetries ≠ guarded.reconnect.maxRetries := by decide
  refine ⟨fun law => lost (law.2 rfl), fun law => fewer (law.2 rfl), ?_, rfl, rfl⟩
  intro h
  exact lost (by rw [h])

end Config
end Tether
