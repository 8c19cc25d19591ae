import Tether.Json.Schema
import Tether.Message.Kind
import Tether.Message.Envelope
import Tether.Protocol

/-!
# `Tether.Message.Handshake` — the messages that open a session

A client opens a new thread with `init` or returns to an earlier one with `resume`; the server
answers with `ack` or `reject`. The fields stand at top level beside the tag `type`; optional fields
are left out when absent, the server's capabilities are always written.

* `Handshake.toJson`, `Handshake.frame` — the record on the wire;
* `Handshake.reader` — reads it back;
* `Handshake.kind` — its message type.
-/

namespace Tether

open Json (Schema Reader)

/-- Asks for a new thread. -/
structure Init where
  version : String
  clientId : String
  deviceFingerprint : Option String := none
  intent : Option String := none
  capabilities : Option (List String) := none
  metadata : Option Json := none
  publicKey : Option String := none
  deriving Repr

/-- Asks to return to a thread. -/
structure Resume where
  version : String
  clientId : String
  threadId : String
  reason : Option String := none
  publicKey : Option String := none
  deriving Repr

/-- Grants a session. -/
structure Ack where
  version : String
  threadId : String
  sessionId : String
  capabilities : List String
  /-- The time between pings, in milliseconds. -/
  heartbeatInterval : UInt64
  resumed : Option Bool := none
  metadata : Option Json := none
  publicKey : Option String := none
  deriving Repr, Inhabited

/-- Refuses a session. -/
structure Reject where
  version : String
  reason : String
  suggestNew : Option Bool := none
  deriving Repr

/-- A handshake message. -/
inductive Handshake where
  | init (m : Init)
  | resume (m : Resume)
  | ack (m : Ack)
  | reject (m : Reject)
  deriving Repr

/-- Texts as a value. -/
def texts (ss : List String) : Json := .list (ss.map .text)

open Meta (present)

namespace Init

/-- The least init of a client. -/
def ofClient (clientId : String) : Init := { version := Protocol.version, clientId }

/-- The fields of an init. -/
def schema : Schema Init :=
  (Schema.required "ltp_version" Reader.text).map Init.mk
    |>.and (Schema.required "client_id" Reader.text)
    |>.and (Schema.optional "device_fingerprint" Reader.text)
    |>.and (Schema.optional "intent" Reader.text)
    |>.and (Schema.optional "capabilities" Reader.text.list)
    |>.and (Schema.optional "metadata" Reader.json)
    |>.and (Schema.optional "client_public_key" Reader.text)

/-- The fields on the wire. -/
def members (m : Init) : List (String × Json) :=
  [("ltp_version", .text m.version), ("client_id", .text m.clientId)]
    ++ present "device_fingerprint" (m.deviceFingerprint.map .text)
    ++ present "intent" (m.intent.map .text)
    ++ present "capabilities" (m.capabilities.map texts)
    ++ present "metadata" m.metadata
    ++ present "client_public_key" (m.publicKey.map .text)

end Init

namespace Resume

/-- The fields of a resume. -/
def schema : Schema Resume :=
  (Schema.required "ltp_version" Reader.text).map Resume.mk
    |>.and (Schema.required "client_id" Reader.text)
    |>.and (Schema.required "thread_id" Reader.text)
    |>.and (Schema.optional "resume_reason" Reader.text)
    |>.and (Schema.optional "client_public_key" Reader.text)

/-- The fields on the wire. -/
def members (m : Resume) : List (String × Json) :=
  [("ltp_version", .text m.version), ("client_id", .text m.clientId),
      ("thread_id", .text m.threadId)]
    ++ present "resume_reason" (m.reason.map .text)
    ++ present "client_public_key" (m.publicKey.map .text)

end Resume

namespace Ack

/-- The fields of an ack. -/
def schema : Schema Ack :=
  (Schema.withDefault "ltp_version" Reader.text Protocol.version).map Ack.mk
    |>.and (Schema.required "thread_id" Reader.text)
    |>.and (Schema.required "session_id" Reader.text)
    |>.and (Schema.withDefault "server_capabilities" Reader.text.list [])
    |>.and (Schema.required "heartbeat_interval_ms" Reader.natural64)
    |>.and (Schema.optional "resumed" Reader.flag)
    |>.and (Schema.optional "metadata" Reader.json)
    |>.and (Schema.optional "server_public_key" Reader.text)

/-- Reads an ack without its tag. -/
def reader : Reader Ack := schema.reader "HandshakeAck"

/-- The fields on the wire. -/
def members (m : Ack) : List (String × Json) :=
  [("ltp_version", .text m.version), ("thread_id", .text m.threadId),
      ("session_id", .text m.sessionId), ("server_capabilities", texts m.capabilities),
      ("heartbeat_interval_ms", .number (.whole (Whole.ofUInt64 m.heartbeatInterval)))]
    ++ present "resumed" (m.resumed.map .bool)
    ++ present "metadata" m.metadata
    ++ present "server_public_key" (m.publicKey.map .text)

end Ack

namespace Reject

/-- The fields of a reject. -/
def schema : Schema Reject :=
  (Schema.withDefault "ltp_version" Reader.text Protocol.version).map Reject.mk
    |>.and (Schema.required "reason" Reader.text)
    |>.and (Schema.optional "suggest_new" Reader.flag)

/-- The fields on the wire. -/
def members (m : Reject) : List (String × Json) :=
  [("ltp_version", .text m.version), ("reason", .text m.reason)]
    ++ present "suggest_new" (m.suggestNew.map .bool)

end Reject

namespace Handshake

/-- The message type. -/
def kind : Handshake → Kind
  | .init _ => .handshakeInit
  | .resume _ => .handshakeResume
  | .ack _ => .handshakeAck
  | .reject _ => .handshakeReject

/-- The fields of the message beside the tag. -/
def members : Handshake → List (String × Json)
  | .init m => m.members
  | .resume m => m.members
  | .ack m => m.members
  | .reject m => m.members

/-- The record on the wire. -/
def toJson (h : Handshake) : Json := .object (("type", .text h.kind.name) :: h.members)

/-- The frame of a handshake message. -/
def frame (h : Handshake) : String := h.toJson.render

/-- The four messages by tag. -/
def variants : List (String × Reader Handshake) :=
  [("handshake_init", (Init.schema.reader "HandshakeInit").map .init),
    ("handshake_resume", (Resume.schema.reader "HandshakeResume").map .resume),
    ("handshake_ack", Ack.reader.map .ack),
    ("handshake_reject", (Reject.schema.reader "HandshakeReject").map .reject)]

/-- Reads a handshake message. -/
def reader : Reader Handshake := Json.Union.reader "Handshake" "type" variants

/-- The handshake message of a frame, read in the order of the text. -/
def ofFrame (s : String) : Except Json.Fault Handshake :=
  (Json.Document.ofText s).read (reader Json.Place.text)

end Handshake
end Tether
