import Tether.Bytes
import Tether.Error
import Tether.Transport
import Tether.WebSocket.Address

/-!
# `Tether.WebSocket` — a web socket before it is open

A web socket checks its arguments before it uses the network: first the url, then the subprotocol,
which travels as a header value, then the scheme. Without a peer to answer, arguments that pass lead
to a failed attempt too. A socket that never opened stays closed and refuses every frame.
-/

namespace Tether.WebSocket

/-- The name of the transport. -/
def name : String := "websocket"

/-- The readiness of a socket that never opened. -/
def readiness : Readiness := .closed

/-- The answer of a socket that never opened to a frame. -/
def send : Except Error Unit := .error (.transport ("cannot send while " ++ readiness.name))

/-- May the byte stand in a header value? -/
def inHeader (b : UInt8) : Bool := b == 9 || (32 ≤ b && b != 127)

/-- Is the scheme of the url one of the two of web sockets? -/
def hasScheme (url : String) : Bool := "ws://".isPrefixOf url || "wss://".isPrefixOf url

/-- Why an attempt to connect fails while no peer can be reached. -/
def refusal (url subprotocol : String) : Error :=
  if !Address.isValid url then .transport ("Invalid URL " ++ url ++ ": no host to connect to")
  else if !(Bytes.ofText subprotocol).all inHeader then
    .transport "Invalid subprotocol: no header value"
  else if !hasScheme url then .transport "WebSocket connect failed: URL scheme not supported"
  else .transport "WebSocket connect failed: no peer answers"

end Tether.WebSocket
