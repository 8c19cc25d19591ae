import Tether.Config.Basic
import Tether.Toml.Reader

/-!
# `Tether.Config.Codec` — configurations as JSON and TOML

Both formats share one schema. Only `url` and `client_id` have to be given; whatever else is absent,
a whole section or a single setting, has its default. Writing spells out every setting.

* `Config.ofText`, `Config.ofJson` — reading JSON;
* `Config.ofToml` — reading a TOML file, which has to hold a valid configuration;
* `Config.toJson` — writing.
-/

namespace Tether

open Json (Schema Reader)

namespace ReconnectConfig

/-- The settings of the section. -/
def schema : Schema ReconnectConfig :=
  (Schema.withDefault "base_delay_ms" Reader.natural64 ({} : ReconnectConfig).baseDelay).map
      ReconnectConfig.mk
    |>.and (Schema.withDefault "max_delay_ms" Reader.natural64 ({} : ReconnectConfig).maxDelay)
    |>.and (Schema.withDefault "max_retries" Reader.natural32 ({} : ReconnectConfig).maxRetries)

/-- Reads the section. -/
def reader : Reader ReconnectConfig := schema.reader "ReconnectConfig"

/-- Writes the section. -/
def toJson (c : ReconnectConfig) : Json :=
  .object [("base_delay_ms", .number (.whole (Whole.ofUInt64 c.baseDelay))),
    ("max_delay_ms", .number (.whole (Whole.ofUInt64 c.maxDelay))),
    ("max_retries", .number (.whole (Whole.ofUInt32 c.maxRetries)))]

end ReconnectConfig

namespace HeartbeatConfig

/-- The settings of the section. -/
def schema : Schema HeartbeatConfig :=
  (Schema.withDefault "enabled" Reader.flag true).map HeartbeatConfig.mk
    |>.and (Schema.optional "interval_ms" Reader.natural64)
    |>.and (Schema.withDefault "timeout_ms" Reader.natural64 ({} : HeartbeatConfig).timeout)

/-- Reads the section. -/
def reader : Reader HeartbeatConfig := schema.reader "HeartbeatConfig"

/-- A number of milliseconds, or null. -/
def millis? : Option UInt64 → Json
  | some n => .number (.whole (Whole.ofUInt64 n))
  | none => .null

/-- Writes the section. -/
def toJson (c : HeartbeatConfig) : Json :=
  .object [("enabled", .bool c.enabled), ("interval_ms", millis? c.interval),
    ("timeout_ms", .number (.whole (Whole.ofUInt64 c.timeout)))]

end HeartbeatConfig

namespace AuthConfig

/-- The settings of the section. -/
def schema : Schema AuthConfig :=
  (Schema.optional "secret_key" Reader.text).map AuthConfig.mk
    |>.and (Schema.withDefault "verification" (Reader.choice Policy.known) .lenient)
    |>.and (Schema.withDefault "key_exchange" Reader.flag false)

/-- Reads the section. -/
def reader : Reader AuthConfig := schema.reader "AuthConfig"

/-- Writes the section. -/
def toJson (c : AuthConfig) : Json :=
  .object [("secret_key", Json.ofText? c.secretKey), ("verification", .text c.verification.name),
    ("key_exchange", .bool c.keyExchange)]

end AuthConfig

namespace HandshakeConfig

/-- The settings of the section. -/
def schema : Schema HandshakeConfig :=
  (Schema.optional "device_fingerprint" Reader.text).map HandshakeConfig.mk
    |>.and (Schema.optional "intent" Reader.text)
    |>.and (Schema.withDefault "capabilities" Reader.text.list ({} : HandshakeConfig).capabilities)
    |>.and (Schema.optional "metadata" Reader.json)

/-- Reads the section. -/
def reader : Reader HandshakeConfig := schema.reader "HandshakeConfig"

/-- Writes the section. -/
def toJson (c : HandshakeConfig) : Json :=
  .object [("device_fingerprint", Json.ofText? c.deviceFingerprint),
    ("intent", Json.ofText? c.intent), ("capabilities", .list (c.capabilities.map .text)),
    ("metadata", c.metadata.getD .null)]

end HandshakeConfig

namespace Config

/-- The settings of a configuration. -/
def schema : Schema Config :=
  (Schema.required "url" Reader.text).map Config.mk
    |>.and (Schema.required "client_id" Reader.text)
    |>.and (Schema.withDefault "subprotocol" Reader.text ({} : Config).subprotocol)
    |>.and (Schema.withDefault "ltp_version" Reader.text ({} : Config).version)
    |>.and (Schema.withDefault "reconnect" ReconnectConfig.reader {})
    |>.and (Schema.withDefault "heartbeat" HeartbeatConfig.reader {})
    |>.and (Schema.withDefault "auth" AuthConfig.reader {})
    |>.and (Schema.withDefault "handshake" HandshakeConfig.reader {})

/-- Reads a configuration. -/
def reader : Reader Config := schema.reader "ClientConfig"

/-- Writes a configuration. -/
def toJson (c : Config) : Json :=
  .object [("url", .text c.url), ("client_id", .text c.clientId),
    ("subprotocol", .text c.subprotocol), ("ltp_version", .text c.version),
    ("reconnect", c.reconnect.toJson), ("heartbeat", c.heartbeat.toJson),
    ("auth", c.auth.toJson), ("handshake", c.handshake.toJson)]

/-- The configuration of a JSON text. -/
def ofText (s : String) : Except Json.Fault Config :=
  (Json.Document.ofText s).read (reader Json.Place.text)

/-- The configuration of a JSON value. -/
def ofJson (v : Json) : Except Json.Fault Config := reader Json.Place.value v.toTree

/-- The configuration of a TOML text, valid or not. -/
def ofToml? (s : String) : Option Config :=
  match Toml.parse s with
  | none => none
  | some members =>
    match reader Json.Place.table (.object (Toml.memberTrees members) none) with
    | .ok c => some c
    | .error _ => none

/-- The configuration of a file, given its content; `none` for a file that cannot be read. It has to
be UTF-8 text in TOML and hold a valid configuration. -/
def ofFile (content : Option Bytes) : Except Error Config :=
  match content.bind Bytes.toText? with
  | none => .error (.config "Failed to read config file")
  | some s =>
    match ofToml? s with
    | none => .error (.config "Failed to parse config")
    | some c =>
      match c.validate with
      | .ok () => .ok c
      | .error e => .error e

end Config
end Tether
