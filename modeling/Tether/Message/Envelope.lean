import Tether.Json.Schema
import Tether.Message.Kind

/-!
# `Tether.Message.Envelope` — the wrapper of every message that is no handshake

An envelope carries a payload with the ids of the thread and session it was sent in, a time, and
optionally metadata, the encoding of the payload, a nonce and a signature.

* `Envelope.toJson` — the record on the wire: ids are always written, null if there are none; the
  optional fields from `meta` on are left out when absent;
* `Envelope.reader` — reads it back, from a text or from a value;
* `Draft` — a message before ids, time, nonce and signature are attached.

A time may be any finite number, absent or null: it is rounded down to whole seconds and clamped to 64
bits.
-/

namespace Tether

/-- The marker of how a payload is encoded. -/
inductive Encoding where
  | json
  | toon
  deriving DecidableEq, Repr

namespace Encoding

/-- The wire name. -/
def name : Encoding → String
  | .json => "json"
  | .toon => "toon"

/-- The encodings by name. -/
def known : List (String × Encoding) := [("json", .json), ("toon", .toon)]

/-- Reads an encoding. -/
def reader : Json.Reader Encoding := Json.Reader.choice known

end Encoding

/-- Metadata of an envelope; members without a meaning here are kept in `extra`. -/
structure Meta where
  clientId : Option String := none
  affect : Option Json := none
  contextTag : Option String := none
  extra : List (String × Json) := []
  deriving Repr, Inhabited

namespace Meta

/-- Metadata that names the client only. -/
def forClient (clientId : String) : Meta := { clientId := some clientId }

/-- The fields with a meaning. -/
def schema : Json.Schema (List (String × Json) → Meta) :=
  ((Json.Schema.optional "client_id" Json.Reader.text).map Meta.mk
    |>.and (Json.Schema.optional "affect" Json.Reader.json)
    |>.and (Json.Schema.optional "context_tag" Json.Reader.text))

/-- Reads metadata; it has to be an object. -/
def reader : Json.Reader Meta := schema.openReader "Meta"

/-- A field that is left out when there is no value. -/
def present (key : String) : Option Json → List (String × Json)
  | some v => [(key, v)]
  | none => []

/-- The record on the wire. -/
def toJson (m : Meta) : Json :=
  .object (present "client_id" (m.clientId.map .text) ++ present "affect" m.affect
    ++ present "context_tag" (m.contextTag.map .text) ++ m.extra)

end Meta

/-- A message that is no handshake. -/
structure Envelope where
  kind : Kind
  threadId : Option String
  sessionId : Option String
  /-- Unix time in whole seconds. -/
  timestamp : Int64
  payload : Json
  info : Option Meta
  encoding : Option Encoding
  nonce : Option String
  signature : Option String
  deriving Repr, Inhabited

namespace Envelope

/-- A number rounded down to an integer. -/
def floor : Number → Int
  | .whole n => n.val
  | .real x => x.floor

/-- The signed word nearest to an integer. -/
def clamp (i : Int) : Int64 :=
  Int64.ofInt (max (-0x8000000000000000) (min i 0x7fffffffffffffff))

/-- Reads a time in seconds, which has to be finite; null is zero. -/
def secondsReader : Json.Reader Int64 := fun p t =>
  match Json.Reader.optional Json.Reader.number p t with
  | .error f => .error f
  | .ok none => .ok 0
  | .ok (some n) =>
    if n.isFinite then .ok (clamp (floor n)) else .error (.misfit (.infinite "timestamp" n))

/-- Reads a message type. -/
def kindReader : Json.Reader Kind := Json.Reader.text.map Kind.ofName

/-- The fields of an envelope. -/
def schema : Json.Schema Envelope :=
  (Json.Schema.required "type" kindReader).map Envelope.mk
    |>.and (Json.Schema.nullable "thread_id" Json.Reader.text)
    |>.and (Json.Schema.nullable "session_id" Json.Reader.text)
    |>.and (Json.Schema.withDefault "timestamp" secondsReader 0)
    |>.and (Json.Schema.withDefault "payload" Json.Reader.json .null)
    |>.and (Json.Schema.optional "meta" Meta.reader)
    |>.and (Json.Schema.optional "content_encoding" Encoding.reader)
    |>.and (Json.Schema.optional "nonce" Json.Reader.text)
    |>.and (Json.Schema.optional "signature" Json.Reader.text)

/-- Reads an envelope. -/
def reader : Json.Reader Envelope := schema.reader "Envelope"

/-- The record on the wire. -/
def toJson (e : Envelope) : Json :=
  .object ([("type", .text e.kind.name), ("thread_id", Json.ofText? e.threadId),
      ("session_id", Json.ofText? e.sessionId),
      ("timestamp", .number (.whole (Whole.ofInt64 e.timestamp))), ("payload", e.payload)]
    ++ Meta.present "meta" (e.info.map Meta.toJson)
    ++ Meta.present "content_encoding" (e.encoding.map fun c => .text c.name)
    ++ Meta.present "nonce" (e.nonce.map .text)
    ++ Meta.present "signature" (e.signature.map .text))

/-- The frame of an envelope. -/
def frame (e : Envelope) : String := e.toJson.render

/-- The envelope of a frame, read in the order of the text. -/
def ofFrame (s : String) : Except Json.Fault Envelope :=
  (Json.Document.ofText s).read (reader Json.Place.text)

end Envelope

/-- A message before ids, time, nonce and signature are attached. -/
structure Draft where
  kind : Kind
  payload : Json := .null
  info : Option Meta := none
  encoding : Option Encoding := none
  deriving Repr, Inhabited

namespace Draft

/-- A state update with a payload. -/
def stateUpdate (payload : Json) : Draft := { kind := .stateUpdate, payload }

/-- An event of a type, with data. -/
def event (eventType : String) (data : Json) : Draft :=
  { kind := .event, payload := .object [("data", data), ("event_type", .text eventType)] }

/-- A ping with an empty payload. -/
def ping : Draft := { kind := .ping, payload := .object [] }

/-- The envelope of a draft; nonce and signature stay empty. -/
def build (d : Draft) (threadId sessionId : Option String) (timestamp : Int64) : Envelope where
  kind := d.kind
  threadId
  sessionId
  timestamp
  payload := d.payload
  info := d.info
  encoding := d.encoding
  nonce := none
  signature := none

end Draft
end Tether
