/-!
# `Tether.Protocol` — the fixed words of the protocol

Versions and default names that appear on the wire, in configuration defaults and in signatures.
-/

namespace Tether.Protocol

/-- The version of this library. -/
def libraryVersion : String := "0.5.0"

/-- The protocol version announced in handshakes. -/
def version : String := "0.5"

/-- The subprotocol negotiated when a socket is opened. -/
def defaultSubprotocol : String := "ltp.v0.5"

/-- The signature of an envelope that could not be signed. -/
def placeholderSignature : String := "v0-placeholder"

end Tether.Protocol
