import Tether.Proofs.Crypto.PublicKey
import Tether.Proofs.Engine.Offers
import Tether.Proofs.Simulation.Carry

/-!
# `Tether.Proofs.Simulation.Secrets` — one key pair for each handshake, one set of keys for each session

A client that negotiates session keys draws a key pair for every handshake and keeps it until the
handshake has its answer. The pairs of a world come in a sequence; its `n`-th handshake carries the
`n`-th of them, also after losses and rejected resumes. So when an ack arrives, the pair at hand is that
of the last handshake, which was written on the very connection, and the keys of the session are those
that a server derives from that handshake.

* `Engine.Drawn` — which pair a step's handshake carries, and which exchange then waits;
* `World.Paired` — the invariant: as many pairs were drawn as handshakes written;
* `Engine.Installed` — what a session that is granted has for keys, and that the server has the same;
* `rekeyed_history` — both, over every list of moves.
-/

namespace Tether

namespace Handshake

/-- The public key that a client offers. -/
def clientKey? : Handshake → Option String
  | .init m => m.publicKey
  | .resume m => m.publicKey
  | .ack _ | .reject _ => none

end Handshake

namespace Milestone

/-- The handshake that is offered. -/
def handshake? : Milestone → Option Handshake
  | .offered handshake _ => some handshake
  | _ => none

/-- The handshakes offered, in order. -/
def handshakes (ms : List Milestone) : List Handshake := ms.filterMap handshake?

@[simp] theorem handshakes_append (ms ms' : List Milestone) :
    handshakes (ms ++ ms') = handshakes ms ++ handshakes ms' := List.filterMap_append ..

end Milestone

/-- Two key pairs can be used with each other: each public key is on the curve, and both sides come to
    the same secret. -/
structure KeyPair.Matches (p : Provider) (client server : KeyPair) : Prop where
  readable : Crypto.Curve.contains client.publicKey.point
  offered : Crypto.Curve.contains server.publicKey.point
  commutes : p.agree client server.publicKey = p.agree server client.publicKey

namespace Engine

open Effect (seen milestone?)
open Milestone (handshakes)

variable {e : Engine} {s : Surroundings} {input : Input}

/-! ## Drawing -/

/-- The public key that goes out with a fresh key exchange, if there is one. -/
def freshKey? (s : Surroundings) (e : Engine) : Option String :=
  (e.freshExchange s).map fun x => x.pair.publicKey.toBase64

/-- What a step from `e` to `e'` with the milestones `ms` draws. -/
inductive Drawn (s : Surroundings) (e e' : Engine) (ms : List Milestone) : Prop where
  /-- No handshake is written; if one waits for its answer then, it has waited before. -/
  | none (handshakes : handshakes ms = [])
      (waits : ∀ k, e'.phase = .awaiting k → e.phase = .awaiting k ∧ e'.exchange = e.exchange) :
      Drawn s e e' ms
  /-- One handshake is written, with a key pair of its own. -/
  | one {handshake : Handshake} (handshakes : handshakes ms = [handshake])
      (key : handshake.clientKey? = e.freshKey? s)
      (waits : ∀ k, e'.phase = .awaiting k → e'.exchange = e.freshExchange s) : Drawn s e e' ms

theorem clientKey?_offering (s : Surroundings) (e : Engine) :
    (e.offering s).2.clientKey? = e.freshKey? s := by
  unfold offering offer freshKey?
  cases e.thread? <;> rfl

/-- A handshake that waits for its answer has the key exchange that was drawn for it. -/
theorem drawn_sendHandshake (s : Surroundings) (h : e.Sound) (hr : e.receiver.isSome)
    (hp : e.phase ≠ .established) :
    handshakes (seen milestone? (e.sendHandshake s).control) = [(e.offering s).2] ∧
      ∀ k, (e.sendHandshake s).engine.phase = .awaiting k →
        (e.sendHandshake s).engine.exchange = e.freshExchange s := by
  obtain ⟨answer, hms, _⟩ := offered_sendHandshake s h hr hp
  refine ⟨by rw [hms]; rfl, fun k hk => ?_⟩
  cases h.offered s hr hp with
  | waits engine _ => rw [engine]; rfl
  | unsent lost engine _ =>
    rw [engine] at hk
    exact absurd hk ((dealt_lost lost).2.2.1 k)

/-- **A step writes at most one handshake**, and each has a key pair of its own. -/
theorem step_drawn (s : Surroundings) (input : Input) (h : e.Sound) :
    Drawn s e (e.step s input).engine (e.milestones s input) := by
  have hstep := step_stepped s input e
  generalize ht : e.turn s.now input = t at hstep
  cases hstep with
  | passing _ passes =>
    obtain ⟨⟨_, _, _, he⟩, hc⟩ := passes
    exact .none (by rw [milestones_eq ht hc]; rfl) fun k hk => by rw [he] at hk ⊢; exact ⟨hk, rfl⟩
  | greet _ _ engine control | join _ _ engine control | alarm _ _ engine control
  | attach _ _ engine control =>
    exact .none (by rw [milestones_eq ht control]; rfl) fun k hk => by
      rw [engine] at hk ⊢; exact ⟨hk, rfl⟩
  | depart _ _ engine control | redial _ _ engine control =>
    refine .none (by rw [milestones_eq ht control]; simp [Turn.milestone?, milestone?, handshakes]) ?_
    intro k hk
    rw [engine] at hk
    exact absurd hk (by simp [departed])
  | leave _ engine control =>
    obtain ⟨_, he⟩ := engine
    refine .none (by rw [milestones_eq ht control]; simp [Turn.milestone?, milestone?, handshakes]) ?_
    intro k hk
    rw [he] at hk
    exact absurd hk (by simp)
  | offer _ receiver phase engine control =>
    obtain ⟨hone, hwaits⟩ := drawn_sendHandshake s h receiver (by rw [phase]; simp)
    refine .one ?_ (clientKey?_offering s e) ?_
    · rw [milestones_eq ht control]; exact hone
    · rw [engine]; exact hwaits
  | accept _ _ _ _ engine control =>
    refine .none (by
      rw [milestones_eq ht control]; simp [Turn.milestone?, milestone?, handshakes, Milestone.handshake?]) ?_
    intro k hk
    rw [engine] at hk
    exact absurd hk (by simp [granted])
  | fallBack _ _ receiver phase _ engine control =>
    -- the refusal comes first, and the exchange of the resume is replaced
    have hne : e.phase ≠ .established := by rw [phase]; simp
    obtain ⟨hone, hwaits⟩ := drawn_sendHandshake s (h.fallenBack hne) receiver hne
    refine .one ?_ (clientKey?_offering s e.fallenBack) ?_
    · rw [milestones_eq ht control, Milestone.handshakes_append, hone, phase]; rfl
    · rw [engine]; exact hwaits
  | refuse _ _ _ phase _ engine control =>
    refine .none (by
      rw [milestones_eq ht control, phase]
      simp [Turn.milestone?, Phase.offer?, milestone?, handshakes, Milestone.handshake?]) ?_
    intro k hk
    rw [engine] at hk
    exact absurd hk (by simp)
  | @lose cause live engine control =>
    have hl := h.timed.lost (h.wired.expected live) s.now cause
    refine .none (by rw [milestones_eq ht control, milestones_lost hl]; rfl) ?_
    intro k hk
    rw [engine] at hk
    exact absurd hk ((dealt_lost hl).2.2.1 k)

/-- The handshakes of a step are those among its effects. -/
theorem length_handshakes (s : Surroundings) (input : Input) (e : Engine) :
    (handshakes (e.milestones s input)).length =
      (e.step s input).effects.countP Effect.isHandshake := by
  have hbrought : handshakes (e.brought? input).toList = [] := by
    unfold brought?
    split
    · split <;> rfl
    · split
      · split <;> rfl
      · rfl
    · rfl
  have hseen : ∀ xs : List Effect,
      (handshakes (seen milestone? xs)).length = xs.countP Effect.isHandshake := by
    intro xs
    induction xs with
    | nil => rfl
    | cons x xs ih =>
      have hone : (handshakes (milestone? x).toList).length = if x.isHandshake then 1 else 0 := by
        cases x with
        | write message _ => cases message <;> rfl
        | host event => cases event <;> rfl
        | _ => rfl
      rw [Effect.seen_cons, Milestone.handshakes_append, List.length_append, ih, hone,
        List.countP_cons, Nat.add_comm]
  rw [milestones, Milestone.handshakes_append, hbrought, List.nil_append, hseen]

/-! ## Keys -/

/-- The keys that a client with a key pair comes to by an ack: it has a public key, that can be read, and
    the derivation succeeds. -/
def Derived (p : Provider) (pair : KeyPair) (ack : Ack) (keys : SessionKeys) : Prop :=
  ∃ encoded peer, ack.publicKey = some encoded ∧ PublicKey.ofBase64 encoded = .ok peer ∧
    SessionKeys.derive p ⟨p.agree pair peer⟩ ack.sessionId = .ok keys

theorem derivedKeys?_eq_ok_iff {pair : KeyPair} {ack : Ack} {keys : SessionKeys} :
    derivedKeys? s (some { pair }) ack = some (.ok keys) ↔ Derived s.provider pair ack keys := by
  unfold derivedKeys? Derived
  cases ack.publicKey with
  | none => simp
  | some encoded =>
    cases hpeer : PublicKey.ofBase64 encoded with
    | error fault => simp [hpeer]
    | ok peer => simp [hpeer, KeyExchange.complete, KeyExchange.sessionKeys]

/-- A session has the keys that its ack leads to, and no others. -/
theorem keys_grantedSession (ack : Ack) (keys : SessionKeys) (h : e.session.keys = none) :
    (e.grantedSession s ack).keys = some keys ↔
      derivedKeys? s e.exchange ack = some (.ok keys) := by
  unfold grantedSession keyed
  split
  · rename_i found hfound
    rw [hfound]
    simp [Session.setKeys]
  · rename_i hother
    have hnone : (e.session.establish ack e.config.heartbeat.interval s.now).keys = none := h
    rw [hnone]
    constructor
    · intro heq; cases heq
    · intro heq; exact absurd heq (hother keys)

/-- A server that has read the client's public key comes to the same keys. -/
theorem derived_iff_server {p : Provider} {client server : KeyPair} {ack : Ack} {keys : SessionKeys}
    (hm : client.Matches p server) (hk : ack.publicKey = some server.publicKey.toBase64) :
    Derived p client ack keys ↔
      SessionKeys.derive p ⟨p.agree server client.publicKey⟩ ack.sessionId = .ok keys := by
  unfold Derived
  rw [hk, ← hm.commutes]
  constructor
  · rintro ⟨encoded, peer, hencoded, hpeer, hkeys⟩
    rw [← Option.some.inj hencoded, PublicKey.ofBase64_toBase64 hm.offered] at hpeer
    rw [← Except.ok.inj hpeer] at hkeys
    exact hkeys
  · intro hkeys
    exact ⟨_, _, rfl, PublicKey.ofBase64_toBase64 hm.offered, hkeys⟩

/-- A session that an ack has granted to an engine with the milestones `ms`, where pairs come from a
    sequence. -/
structure Granted (p : Provider) (pairs : Nat → KeyPair) (ms : List Milestone) (ack : Ack)
    (e : Engine) : Prop where
  /-- The session is established whether there are keys or not, -/
  phase : e.phase = .established
  /-- and it records the id that the keys are bound to. -/
  sessionId : e.session.sessionId = some ack.sessionId
  /-- The last milestone before the ack is the last of the handshakes, number `n`. It carries a public
      key of which the client holds the pair, and the keys are derived with that pair. -/
  keys : ∃ handshake n, ms.getLast? = some (.offered handshake (.ok ())) ∧
    (handshakes ms).length = n + 1 ∧
    handshake.clientKey? = some (pairs n).publicKey.toBase64 ∧
    (∀ keys, e.session.keys = some keys ↔ Derived p (pairs n) ack keys) ∧
    -- a server with a matching pair, which reads the handshake, derives just those
    ∀ server : KeyPair, ack.publicKey = some server.publicKey.toBase64 →
      (pairs n).Matches p server → ∃ encoded client, handshake.clientKey? = some encoded ∧
        PublicKey.ofBase64 encoded = .ok client ∧ ∀ keys, e.session.keys = some keys ↔
          SessionKeys.derive p ⟨p.agree server client⟩ ack.sessionId = .ok keys

end Engine

namespace World

open Engine (Sound)
open Milestone (handshakes)

variable {w v : World} {input : Input} {m : Move} {setup : Setup}

/-! ## The pairs of a world -/

/-- The milestones of moves, in order. -/
def milestones (w : World) (moves : List Move) : List Milestone :=
  Engine.chronicle (w.trace moves) w.engine

theorem milestones_of_not_fed {rest : List Move} (h : w.fed? m = none) :
    w.milestones (m :: rest) = (w.act m).milestones rest := by
  rw [milestones, trace, h, milestones, (act_of_not_fed h).1]; rfl

theorem milestones_of_fed {rest : List Move} (h : w.fed? m = some (v, input)) :
    w.milestones (m :: rest) =
      v.engine.milestones v.surroundings input ++ (w.act m).milestones rest := by
  rw [milestones, trace, h, milestones, engine_of_fed h, (act_of_fed h).2.1]; rfl

/-- The `n`-th handshake carries the `n`-th key pair of a world, and if one waits for its answer, its
    pair is the last that was drawn. -/
structure Paired (setup : Setup) (hs : List Handshake) (w : World) : Prop where
  sameSetup : w.setup = setup
  negotiates : w.engine.config.auth.keyExchange = true
  sound : w.engine.Sound
  pairs : w.pairs = hs.length
  keys : hs.map Handshake.clientKey? =
    (List.range hs.length).map fun n => some (setup.pair n).publicKey.toBase64
  exchange : ∀ k, w.engine.phase = .awaiting k →
    ∃ n, hs.length = n + 1 ∧ w.engine.exchange = some { pair := setup.pair n }

/-- A handshake more takes the next pair. -/
theorem keys_concat {hs : List Handshake} {handshake : Handshake}
    (hkeys : hs.map Handshake.clientKey? =
      (List.range hs.length).map fun n => some (setup.pair n).publicKey.toBase64)
    (hkey : handshake.clientKey? = some (setup.pair hs.length).publicKey.toBase64) :
    (hs ++ [handshake]).map Handshake.clientKey? =
      (List.range (hs ++ [handshake]).length).map fun n =>
        some (setup.pair n).publicKey.toBase64 := by
  rw [List.length_append, List.length_singleton, List.range_succ, List.map_append, List.map_append,
    hkeys]
  show _ ++ [handshake.clientKey?] = _ ++ [some (setup.pair hs.length).publicKey.toBase64]
  rw [hkey]

/-- **A step keeps handshakes and pairs together.** -/
theorem paired_feed {hs : List Handshake} (input : Input) (hv : Paired setup hs v) :
    Paired setup (hs ++ handshakes (v.engine.milestones v.surroundings input)) (v.feed input) := by
  obtain ⟨_, _, _, hfeed, _⟩ := feed_eq v input
  have hconfig := Engine.config_step v.surroundings input hv.sound
  have hnegotiates : (v.engine.step v.surroundings input).engine.config.auth.keyExchange = true := by
    rw [hconfig]; exact hv.negotiates
  have hpairs : (v.feed input).pairs =
      (hs ++ handshakes (v.engine.milestones v.surroundings input)).length := by
    rw [hfeed, List.length_append, Engine.length_handshakes, ← hv.pairs]
    show v.pairs + drawn _ _ = _
    unfold drawn
    rw [if_pos hnegotiates]
  have hfresh : v.engine.freshExchange v.surroundings = some { pair := setup.pair hs.length } := by
    have hpair : v.surroundings.pair = setup.pair hs.length := by
      rw [← hv.sameSetup, ← hv.pairs]; exact if_pos hv.negotiates
    rw [Engine.freshExchange, if_pos hv.negotiates, hpair]
  refine ⟨by rw [hfeed]; exact hv.sameSetup, by rw [engine_feed]; exact hnegotiates,
    by rw [engine_feed]; exact Engine.sound_step _ _ hv.sound, hpairs, ?_, ?_⟩
  · cases Engine.step_drawn v.surroundings input hv.sound with
    | none hnone _ => rw [hnone, List.append_nil]; exact hv.keys
    | one hone key _ =>
      rw [hone]
      refine keys_concat hv.keys ?_
      rw [key, Engine.freshKey?, hfresh]; rfl
  · intro k hk
    rw [engine_feed] at hk ⊢
    cases Engine.step_drawn v.surroundings input hv.sound with
    | none hnone waits =>
      obtain ⟨hbefore, hexchange⟩ := waits k hk
      rw [hnone, List.append_nil, hexchange]; exact hv.exchange k hbefore
    | one hone _ waits =>
      refine ⟨hs.length, by rw [hone]; exact List.length_append .., ?_⟩
      rw [waits k hk, hfresh]

theorem Paired.of_eq {w' : World} {hs : List Handshake} (hw : Paired setup hs w)
    (he : w'.engine = w.engine) (hs' : w'.setup = w.setup) (hp : w'.pairs = w.pairs) :
    Paired setup hs w' :=
  ⟨hs'.trans hw.sameSetup, he ▸ hw.negotiates, he ▸ hw.sound, hp.trans hw.pairs, hw.keys,
    he ▸ hw.exchange⟩

/-- **Any moves keep handshakes and pairs together.** -/
theorem paired_history {hs : List Handshake} (moves : List Move) (hw : Paired setup hs w) :
    Paired setup (hs ++ handshakes (w.milestones moves)) (w.history moves) := by
  induction moves generalizing w hs with
  | nil => rw [milestones, trace, Engine.chronicle, handshakes, List.filterMap_nil, List.append_nil]; exact hw
  | cons m rest ih =>
    cases hf : w.fed? m with
    | none =>
      have hidle := idle_of_not_fed hf
      rw [milestones_of_not_fed hf]
      exact ih (hw.of_eq (act_of_not_fed hf).1 hidle.setup hidle.pairs)
    | some x =>
      obtain ⟨v, input⟩ := x
      obtain ⟨hact, he, _⟩ := act_of_fed hf
      have hgiven := given_of_fed hf
      have hfed := paired_feed input (hw.of_eq he hgiven.setup hgiven.pairs)
      rw [← hact] at hfed
      rw [milestones_of_fed hf, Milestone.handshakes_append, ← List.append_assoc]
      exact ih hfed

/-! ## A client that negotiates keys -/

/-- Handshakes and keys of a client over moves, where pairs come from a setup. -/
structure Rekeyed (setup : Setup) (w : World) (moves : List Move) : Prop where
  /-- The `n`-th handshake carries the public key of the `n`-th pair. -/
  drawn : (handshakes (w.milestones moves)).map Handshake.clientKey? =
    (List.range (handshakes (w.milestones moves)).length).map fun n =>
      some (setup.pair n).publicKey.toBase64
  /-- So where pairs never repeat, no two handshakes carry the same key. -/
  fresh : (Function.Injective fun n => (setup.pair n).publicKey.toBase64) →
    ((handshakes (w.milestones moves)).map Handshake.clientKey?).Nodup
  /-- An ack that is accepted then grants a session with keys of the last handshake, or without. -/
  granted : ∀ m v input ack, (w.history moves).fed? m = some (v, input) →
    v.engine.turn v.now input = .accept ack →
    Engine.Granted setup.provider setup.pair (w.milestones moves) ack
      ((w.history moves).act m).engine

/-- An ack grants a session with the keys of the handshake that it answers. -/
theorem granted_feed {thread : Option String} {ms : List Milestone} {ack : Ack}
    (hv : Paired setup (handshakes ms) v) (hk : v.engine.Kept thread ms)
    (ht : v.engine.turn v.now input = .accept ack) :
    Engine.Granted setup.provider setup.pair ms ack (v.feed input).engine := by
  have hstep := Engine.step_stepped v.surroundings input v.engine
  rw [show v.engine.turn v.surroundings.now input = .accept ack from ht] at hstep
  rw [engine_feed]
  cases hstep with
  | @accept _ _ kind _ _ _ phase engine _ =>
    obtain ⟨_, handshake, hlast, _⟩ := hk.last kind phase
    obtain ⟨n, hlength, hexchange⟩ := hv.exchange kind phase
    have hprovider : v.surroundings.provider = setup.provider :=
      congrArg Setup.provider hv.sameSetup
    have hnone : v.engine.session.keys = none :=
      hv.sound.secretive.no_keys (by rw [phase]; simp)
    -- the last milestone is the last handshake, and so carries the last pair
    have hkey : handshake.clientKey? = some (setup.pair n).publicKey.toBase64 := by
      obtain ⟨before, rfl⟩ := List.getLast?_eq_some_iff.mp hlast
      have hkeys := congrArg List.getLast? hv.keys
      rw [hlength, List.range_succ, List.map_append, Milestone.handshakes_append,
        List.map_append] at hkeys
      simpa [handshakes, Milestone.handshake?] using hkeys
    have hderived : ∀ keys, (v.engine.granted v.surroundings ack).session.keys = some keys ↔
        Engine.Derived setup.provider (setup.pair n) ack keys := by
      intro keys
      show (v.engine.grantedSession v.surroundings ack).keys = some keys ↔ _
      rw [Engine.keys_grantedSession ack keys hnone, hexchange, Engine.derivedKeys?_eq_ok_iff,
        hprovider]
    rw [engine]
    refine ⟨rfl, (Engine.ids_grantedSession v.surroundings ack v.engine).2, handshake, n, hlast,
      hlength, hkey, hderived, fun server hserver hmatches => ?_⟩
    refine ⟨_, _, hkey, PublicKey.ofBase64_toBase64 hmatches.readable, fun keys => ?_⟩
    rw [hderived, Engine.derived_iff_server hmatches hserver]

end World
end Tether
