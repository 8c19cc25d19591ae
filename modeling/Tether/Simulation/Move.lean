import Tether.Simulation.World

/-!
# `Tether.Simulation.Move` — what can happen in a world

The host, the peer, the clock and the client itself take turns in any order. A move that cannot be
made leaves the world as it is, so every list of moves is a history of some world.

* `PeerAct.apply` — what the peer does to the link, and whether it reached the client;
* `World.act`, `World.history` — one move, and a list of them.
-/

namespace Tether

/-- Something the peer does. -/
inductive PeerAct where
  | accept
  | deliver (frame : String)
  | hangUp (reason : String)
  | fail (reason : String)
  | refuse (on : Bool)
  | drop
  deriving DecidableEq, Repr

/-- Carries out an act of the peer; a dropped peer does nothing. The answer says whether the act
reached the client. -/
def PeerAct.apply (l : Link) (a : PeerAct) : Link × Bool :=
  if l.peerPresent then
    match a with
    | .accept => l.accept
    | .deliver frame => l.deliver frame
    | .hangUp reason => l.hangUp reason
    | .fail reason => l.fail reason
    | .refuse on => (l.refuse on, false)
    | .drop => (l.dropPeer, false)
  else (l, false)

/-- Something that happens in a world. -/
inductive Move where
  /-- The host calls the client. -/
  | call (c : Command)
  /-- The host starts a call in the background. -/
  | start (c : Command)
  /-- The calls in the background reach the client. -/
  | arrive
  /-- The host lets go of the client. -/
  | drop
  /-- The peer does something. -/
  | peer (a : PeerAct)
  /-- Somebody else who holds the transport closes it. -/
  | close
  /-- Time runs on, in milliseconds. -/
  | wait (span : Nat)
  /-- From now on these storage operations fail. -/
  | breakStore (failing : List String)
  /-- From now on receivers end at once, or no longer do. -/
  | deaden (on : Bool)
  /-- The client takes a call of the host. -/
  | take
  /-- The transport answers a request for a connection. -/
  | dial
  /-- The client takes a signal of its connection. -/
  | receive
  /-- A timer of the heartbeat fires, if it is due. -/
  | tick (t : Tick)
  /-- The timer of the scheduled attempt fires, if it is due. -/
  | reconnect
  /-- The checks put off report. -/
  | report
  /-- The client ends, if nobody holds it. -/
  | stop
  deriving Repr

namespace World

/-- One move. -/
def act (w : World) : Move → World
  | .call c => if w.dropped then w else { w with commands := w.commands ++ [c] }
  | .start c => if w.dropped then w else { w with background := w.background ++ [c] }
  | .arrive => { w with commands := w.commands ++ w.background, background := [] }
  | .drop => { w with dropped := true }
  | .peer a => { w with link := (a.apply w.link).1 }
  | .close => { w with link := w.link.close }
  | .wait span => { w with now := w.now + span }
  | .breakStore failing => { w with failing }
  | .deaden on => { w with dead := on }
  | .take => if w.engine.running then w.take else w
  | .dial => if w.engine.dialing then w.dial else w
  | .receive => w.receive
  | .tick t => w.feed (.tick t)
  | .reconnect => w.feed .reconnect
  | .report => w.report
  | .stop => if w.isForsaken then w.feed .shutdown else w

/-- One move after the other. -/
def history (w : World) (moves : List Move) : World := moves.foldl act w

end World
end Tether
