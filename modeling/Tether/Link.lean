import Tether.Error
import Tether.Transport

/-!
# `Tether.Link` — a connection within one process

A link joins a client to a peer that plays the server. The client dials, writes frames and closes;
the peer sees the requests and frames and injects signals. Every accepted attempt gets a line of its
own, numbered from zero, on which signals wait for the client. Only the latest line is fed; closing,
from either side, puts one last signal on it and detaches it.

* `Link.dial`, `Link.send`, `Link.close` — the client's end;
* `Link.accept`, `Link.deliver`, `Link.fail`, `Link.hangUp`, `Link.refuse`, `Link.nextRequest`,
  `Link.nextFrame`, `Link.dropPeer` — the peer's end;
* `Link.receive`, `Link.drain`, `Link.release` — a line as its receiver sees it.
-/

namespace Tether

/-- The signals of one connection on their way to the client. -/
structure Line where
  queue : List Signal := []
  /-- The client still holds the receiver. -/
  held : Bool := true
  deriving DecidableEq, Repr, Inhabited

/-- Both ends of a connection within one process. -/
structure Link where
  lines : List Line := []
  /-- The line that signals are put on. -/
  feeding : Option Nat := none
  readiness : Readiness := .closed
  /-- Attempts to connect, refused ones included. -/
  attempts : Nat := 0
  refusing : Bool := false
  /-- Attempts the peer has not looked at: url and subprotocol. -/
  requests : List (String × String) := []
  /-- Frames the peer has not looked at. -/
  frames : List String := []
  /-- The peer has not been dropped. -/
  peerPresent : Bool := true
  deriving DecidableEq, Repr, Inhabited

namespace Link

/-! ## Lines -/

/-- Is a line held by the client? -/
def isHeld (l : Link) (n : Nat) : Bool := (l.lines[n]?.map Line.held).getD false

/-- Puts a signal on a line that is held, and says whether it was. -/
def put (l : Link) (n : Nat) (s : Signal) : Link × Bool :=
  if l.isHeld n then
    ({ l with lines := l.lines.modify n fun line => { line with queue := line.queue ++ [s] } }, true)
  else (l, false)

/-- Puts a signal on the line that is fed, if there is one. -/
def emit (l : Link) (s : Signal) : Link × Bool :=
  match l.feeding with
  | some n => l.put n s
  | none => (l, false)

/-- Closes the link: the line that was fed gets a last signal and is detached. -/
def emitClose (l : Link) (code : UInt16) (reason : String) : Link × Bool :=
  let detached := { l with readiness := .closed, feeding := none }
  match l.feeding with
  | some n => detached.put n (.closed (some code) reason)
  | none => (detached, false)

/-- What a receiver finds on its line. -/
inductive Received where
  | signal (s : Signal)
  /-- Nothing yet. -/
  | waiting
  /-- Nothing, for good. -/
  | ended
  deriving DecidableEq, Repr

/-- Takes the first signal off a line. -/
def receive (l : Link) (n : Nat) : Link × Received :=
  match (l.lines[n]?.map Line.queue).getD [] with
  | s :: rest =>
    ({ l with lines := l.lines.modify n fun line => { line with queue := rest } }, .signal s)
  | [] => (l, if l.feeding = some n then .waiting else .ended)

/-- Takes every signal off a line that is held; also says whether more can come. -/
def drain (l : Link) (n : Nat) : Option (Link × List Signal × Bool) :=
  match l.lines[n]? with
  | some line =>
    if line.held then
      some ({ l with lines := l.lines.modify n fun line => { line with queue := [] } }, line.queue,
        l.feeding = some n)
    else none
  | none => none

/-- Gives up a receiver. -/
def release (l : Link) (n : Nat) : Link :=
  { l with lines := l.lines.modify n fun _ => { queue := [], held := false } }

/-- A receiver nobody feeds. -/
def orphan (l : Link) : Link × Nat := ({ l with lines := l.lines ++ [default] }, l.lines.length)

/-! ## The client's end -/

/-- Tries to connect. The answer is the number of the new line, which is fed from now on. -/
def dial (l : Link) (url subprotocol : String) : Link × Except Error Nat :=
  let asked := { l with
    attempts := l.attempts + 1
    requests := if l.peerPresent then l.requests ++ [(url, subprotocol)] else l.requests }
  if l.refusing then
    ({ asked with readiness := .closed }, .error (.transport "connection refused"))
  else
    ({ asked with
        lines := l.lines ++ [default]
        feeding := some l.lines.length
        readiness := .connecting }, .ok l.lines.length)

/-- The answer to a frame. -/
def sendAnswer (l : Link) : Except Error Unit :=
  if l.readiness ≠ .opened then .error (.transport ("cannot send while " ++ l.readiness.name))
  else if l.peerPresent then .ok ()
  else .error (.transport "peer gone")

/-- Writes a frame. -/
def send (l : Link) (frame : String) : Link × Except Error Unit :=
  match l.sendAnswer with
  | .ok () => ({ l with frames := l.frames ++ [frame] }, .ok ())
  | .error e => (l, .error e)

/-- Closes the current connection. -/
def close (l : Link) : Link := (l.emitClose 1000 "closed by client").1

/-! ## The peer's end -/

/-- Opens the current connection. -/
def accept (l : Link) : Link × Bool :=
  match l.feeding with
  | some _ => { l with readiness := .opened }.emit .opened
  | none => (l, false)

/-- Delivers a frame to the client. -/
def deliver (l : Link) (frame : String) : Link × Bool := l.emit (.message frame)

/-- Closes the current connection from the peer's side. -/
def hangUp (l : Link) (reason : String) : Link × Bool := l.emitClose 1006 reason

/-- Signals a failure of the socket. -/
def fail (l : Link) (reason : String) : Link × Bool := l.emit (.failed reason)

/-- Refuses attempts to connect from now on, or stops refusing. -/
def refuse (l : Link) (on : Bool) : Link := { l with refusing := on }

/-- The next attempt to connect. -/
def nextRequest (l : Link) : Link × Option (String × String) :=
  match l.requests with
  | r :: rest => ({ l with requests := rest }, some r)
  | [] => (l, none)

/-- The next frame of the client. -/
def nextFrame (l : Link) : Link × Option String :=
  match l.frames with
  | f :: rest => ({ l with frames := rest }, some f)
  | [] => (l, none)

/-- Drops the peer. Attempts to connect are still counted, frames are refused. -/
def dropPeer (l : Link) : Link := { l with peerPresent := false, requests := [], frames := [] }

end Link
end Tether
