import Tether.Message.Handshake
import Tether.Error

/-!
# `Tether.Message.Inbound` — frames from the server

A frame is read to a free-form value first, so that the last of repeated keys wins; the text of its
member `type` then decides which family it belongs to. A name of the four handshake messages makes it
a handshake message, any other name an envelope.
-/

namespace Tether

/-- A frame from the server. -/
inductive Inbound where
  | handshake (h : Handshake)
  | envelope (e : Envelope)
  deriving Repr

namespace Inbound

/-- The message type. -/
def kind : Inbound → Kind
  | .handshake h => h.kind
  | .envelope e => e.kind

/-- The frame of the message. -/
def frame : Inbound → String
  | .handshake h => h.frame
  | .envelope e => e.frame

/-- The message of a value. -/
def ofJson (v : Json) : Except Error Inbound :=
  match (v.get? "type").bind Json.text? with
  | none => .error (.invalidMessage "missing `type` field")
  | some name =>
    if (Kind.ofName name).isHandshake then
      match Handshake.reader Json.Place.value v.toTree with
      | .ok h => .ok (.handshake h)
      | .error f => .error (.json f)
    else
      match Envelope.reader Json.Place.value v.toTree with
      | .ok e => .ok (.envelope e)
      | .error f => .error (.json f)

/-- The message of a frame. -/
def parse (s : String) : Except Error Inbound :=
  match Json.parse s with
  | .ok v => ofJson v
  | .error f => .error (.json f)

end Inbound
end Tether
