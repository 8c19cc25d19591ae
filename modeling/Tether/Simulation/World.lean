import Tether.Engine.Step
import Tether.Link

/-!
# `Tether.Simulation.World` — a client among its surroundings

A world holds a client, the link to its peer, its storage and a clock. The peer, the host and the
clock act on it from outside; the client takes one input at a time (`World.feed`), and its effects
are carried out in order and recorded.

* `World.start` — starts a client on a storage;
* `World.feed` — one step of the client;
* `World.dial`, `World.receive`, `World.take` — where the inputs of a step come from.
-/

namespace Tether

/-- What stays the same while a world runs. -/
structure Setup where
  provider : Provider := .software
  /-- The wall clock at time zero, in milliseconds. -/
  startMillis : Int := 0
  /-- The random bytes of nonces, in the order they are drawn. -/
  nonce : Nat → Bytes := fun _ => []
  /-- The key pairs of handshakes, in the order they are drawn. -/
  pair : Nat → KeyPair := fun _ => default

/-- An effect as it was carried out. -/
structure Record where
  /-- When, in milliseconds. -/
  time : Nat
  /-- The readiness of the link just before. -/
  readiness : Readiness
  effect : Effect
  deriving Repr

/-- A client among its surroundings. -/
structure World where
  setup : Setup := {}
  engine : Engine
  link : Link := {}
  store : Store := {}
  /-- The names of storage operations that fail. -/
  failing : List String := []
  /-- The clock, in milliseconds. -/
  now : Nat := 0
  /-- Nonces drawn. -/
  nonces : Nat := 0
  /-- Key pairs drawn. -/
  pairs : Nat := 0
  /-- The transport hands out receivers that end at once. -/
  dead : Bool := false
  /-- Calls of the host that the client has not taken. -/
  commands : List Command := []
  /-- Calls the host makes in the background that have not reached the client. -/
  background : List Command := []
  /-- The host let go of the client. -/
  dropped : Bool := false
  /-- Warnings by checks that have not run. -/
  later : List Notice := []
  /-- What the client did, in order, as far as nobody took the records away. -/
  log : List Record := []

namespace World

/-- The answer of a storage some operations of which fail. -/
def storeAnswer (failing : List String) (call : StoreCall) : Except Error Unit :=
  if failing.contains call.name then .error call.refusal else .ok ()

/-- Starts a client on a storage. Its configuration is checked first, then whether there is a runtime
to drive it, and then the persisted thread is read. -/
def start (setup : Setup) (config : Config) (store : Store) (failing : List String)
    (hasRuntime : Bool) : Except Error World := do
  config.validate
  if !hasRuntime then throw (.config "LtpClient needs a Tokio runtime")
  let identity : Identity := ⟨config.clientId⟩
  storeAnswer failing identity.reading
  return {
    setup
    store
    failing
    engine := .create config (identity.thread? store)
    log := [⟨0, .closed, .store identity.reading (.ok ())⟩] }

/-- What the client may use during a step. -/
def surroundings (w : World) : Surroundings where
  provider := w.setup.provider
  now := w.now
  unixMillis := w.setup.startMillis + w.now
  write := w.link.sendAnswer
  store := storeAnswer w.failing
  nonce := w.setup.nonce w.nonces
  pair := if w.engine.config.auth.keyExchange then w.setup.pair w.pairs else default

/-- Records an effect. -/
def record (w : World) (effect : Effect) : World :=
  { w with log := w.log ++ [⟨w.now, w.link.readiness, effect⟩] }

/-- Carries out an effect. A request for a connection is left to the transport, which answers it
later. -/
def perform (w : World) (effect : Effect) : World :=
  let w := w.record effect
  match effect with
  | .write message answer =>
    let w := match message with
      | .envelope _ => { w with nonces := w.nonces + 1 }
      | .handshake _ =>
        if w.engine.config.auth.keyExchange then { w with pairs := w.pairs + 1 } else w
    match answer with
    | .ok () => { w with link := (w.link.send message.frame).1 }
    | .error _ => w
  | .close => { w with link := w.link.close }
  | .store call (.ok ()) => { w with store := call.apply w.store }
  | .warnLater notice => { w with later := w.later ++ [notice] }
  | _ => w

/-- Gives up a receiver that the client no longer holds. -/
def release (before after : Option Nat) (l : Link) : Link :=
  match before with
  | some n => if after = some n then l else l.release n
  | none => l

/-- One step of the client. -/
def feed (w : World) (input : Input) : World :=
  let o := w.engine.step w.surroundings input
  o.effects.foldl perform
    { w with engine := o.engine, link := release w.engine.receiver o.engine.receiver w.link }

/-- The transport answers a request for a connection. -/
def dial (w : World) : World :=
  if w.dead then
    let (link, n) := w.link.orphan
    { w with link }.feed (.dialed (.ok n))
  else
    let (link, answer) := w.link.dial w.engine.config.url w.engine.config.subprotocol
    { w with link }.feed (.dialed answer)

/-- The client takes what its receiver holds, if anything. -/
def receive (w : World) : World :=
  match w.engine.receiver with
  | none => w
  | some n =>
    match w.link.receive n with
    | (link, .signal s) => { w with link }.feed (.signal s)
    | (_, .ended) => w.feed .detached
    | (_, .waiting) => w

/-- The client takes the first call of the host. -/
def take (w : World) : World :=
  match w.commands with
  | c :: rest => { w with commands := rest }.feed (.command c)
  | [] => w

/-- The checks put off report. -/
def report (w : World) : World :=
  w.later.foldl (fun w notice => w.record (.warn notice)) { w with later := [] }

/-- Does nobody hold the client any more? A caller without an answer holds it. -/
def isForsaken (w : World) : Bool :=
  w.dropped && w.commands.isEmpty && w.background.isEmpty && w.engine.waiting.isEmpty

end World
end Tether
