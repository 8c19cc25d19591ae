/-!
# `Tether.Transport` — what the session engine sees of a socket

The engine needs an ordered stream of signals for each connection, and a way to write text frames.
Every attempt to open a connection hands out a new receiver; late signals of a connection that was
given up go to a receiver nobody reads.
-/

namespace Tether

/-- A signal of one connection. -/
inductive Signal where
  /-- The socket can be written to. -/
  | opened
  /-- A text frame arrived. -/
  | message (frame : String)
  /-- The socket closed, with a code if the peer sent one. -/
  | closed (code : Option UInt16) (reason : String)
  /-- The socket failed; nothing reliable follows. -/
  | failed (reason : String)
  deriving DecidableEq, Repr

namespace Signal

/-- Does the signal end a connection? -/
def isClose : Signal → Bool
  | .closed _ _ => true
  | _ => false

end Signal

/-- How far a socket has got. -/
inductive Readiness where
  | connecting
  | opened
  | closing
  /-- Closed, or never opened. -/
  | closed
  deriving DecidableEq, Repr

namespace Readiness

instance : Inhabited Readiness := ⟨.closed⟩

/-- The readiness in words. -/
def name : Readiness → String
  | .connecting => "connecting"
  | .opened => "open"
  | .closing => "closing"
  | .closed => "closed"

/-- The four values in the order a socket passes through them. -/
def all : List Readiness := [.connecting, .opened, .closing, .closed]

end Readiness
end Tether
