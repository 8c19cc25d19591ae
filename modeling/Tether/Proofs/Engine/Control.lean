import Tether.Engine.Run

/-!
# `Tether.Proofs.Engine.Control` — what each handler does to the connection

Of everything a step does, the **control effects** concern the connection and those who wait for it:
published phases, requests for a connection, handshakes, closing, the host's callbacks on the life of
a session, and answers to callers of connect. Messages, storage calls and log lines are not among them.

Each handler is described once, by the engine it leaves (`engine_*`) and the control effects it has,
in order (`control_*`). Later modules cite these facts and open no handler:

* `disconnect`, `fail`, `openTransport` — unconditional;
* `lose_of_retry`, `lose_of_exhausted` — a loss, by the answer of the backoff;
* `sendHandshake_of_ok`, `sendHandshake_of_error` — a handshake, by the answer of the transport;
* `acked_of_awaiting`, `rejected_of_fallBack`, `rejected_of_refuse` — answers of the server, and
  `acked_of_not_awaiting`, `rejected_of_not_awaiting` those that come out of turn.
-/

namespace Tether

namespace Effect

/-- Does the effect concern the connection, or those who wait for it? -/
def isControl : Effect → Bool
  | .phase _ | .dial _ _ | .close | .connectReply _ _ => true
  | .write (.handshake _) _ => true
  | .host (.connected _ _) | .host .disconnected | .host (.permanentFailure _) => true
  | _ => false

end Effect

namespace Engine

namespace Outcome

/-- The control effects, in order. -/
def control (o : Outcome) : List Effect := o.effects.filter Effect.isControl

/-- What two handlers leave behind is what the second one makes of the first one's engine. -/
@[simp] theorem engine_andThen (o : Outcome) (f : Engine → Outcome) :
    (o.andThen f).engine = (f o.engine).engine := rfl

/-- Control effects of two handlers follow each other, and the second sees what the first one left. -/
@[simp] theorem control_andThen (o : Outcome) (f : Engine → Outcome) :
    (o.andThen f).control = o.control ++ (f o.engine).control :=
  List.filter_append ..

@[simp] theorem engine_emit (o : Outcome) (x : Effect) : (o.emit x).engine = o.engine := rfl

@[simp] theorem control_emit (o : Outcome) (x : Effect) :
    (o.emit x).control = o.control ++ [x].filter Effect.isControl :=
  List.filter_append ..

end Outcome

@[simp] theorem engine_idle (e : Engine) : e.idle.engine = e := rfl

@[simp] theorem control_idle (e : Engine) : e.idle.control = [] := rfl

@[simp] theorem engine_doing (e : Engine) (xs : List Effect) : (e.doing xs).engine = e := rfl

@[simp] theorem control_doing (e : Engine) (xs : List Effect) :
    (e.doing xs).control = xs.filter Effect.isControl := rfl

/-! ## Parts of handlers -/

/-- The effect of entering a phase: none if it is the phase already. -/
def announcement (e : Engine) (phase : Phase) : List Effect :=
  if e.phase = phase then [] else [.phase phase]

/-- A phase that is new is published. -/
theorem announcement_of_ne {e : Engine} {phase : Phase} (h : e.phase ≠ phase) :
    e.announcement phase = [.phase phase] := if_neg h

/-- What the host hears when a connection goes: an established session has ended. -/
def farewell (e : Engine) : List Effect :=
  if e.phase.isEstablished then [.host .disconnected] else []

/-- One answer for everyone who waits. -/
def answers (e : Engine) (answer : Except Error Unit) : List Effect :=
  e.waiting.map fun caller => .connectReply caller answer

/-- Entering a phase sets it, even if it was set before and nothing is published. -/
@[simp] theorem engine_enter (phase : Phase) (e : Engine) :
    (e.enter phase).engine = { e with phase } := by
  unfold enter
  by_cases h : e.phase = phase
  · rw [if_pos h, ← h]; rfl
  · rw [if_neg h]

/-- Of entering a phase nothing but its announcement is seen. -/
@[simp] theorem control_enter (phase : Phase) (e : Engine) :
    (e.enter phase).control = e.announcement phase := by
  unfold enter announcement
  by_cases h : e.phase = phase
  · rw [if_pos h, if_pos h]; rfl
  · rw [if_neg h, if_neg h]; rfl

/-- Nobody waits once everybody is answered. -/
@[simp] theorem engine_answerAll (answer : Except Error Unit) (e : Engine) :
    (e.answerAll answer).engine = { e with waiting := [] } := rfl

/-- Everybody who waits is answered, in the order of asking. -/
@[simp] theorem control_answerAll (answer : Except Error Unit) (e : Engine) :
    (e.answerAll answer).control = e.answers answer := by
  refine List.filter_eq_self.mpr (fun x hx => ?_)
  obtain ⟨caller, _, rfl⟩ := List.mem_map.mp hx
  rfl

/-! ## Views of effects -/

end Engine

namespace Effect

/-- What a view sees of effects, in order. -/
def seen {β : Type} (view : Effect → Option β) (xs : List Effect) : List β := xs.filterMap view

section Seen

variable {β : Type} (view : Effect → Option β)

@[simp] theorem seen_nil : seen view [] = [] := rfl

@[simp] theorem seen_cons (x : Effect) (xs : List Effect) :
    seen view (x :: xs) = (view x).toList ++ seen view xs := by
  unfold seen
  cases h : view x with
  | none => exact List.filterMap_cons_none h
  | some y => exact List.filterMap_cons_some h

/-- A view sees the effects of two handlers one after the other. -/
@[simp] theorem seen_append (xs ys : List Effect) :
    seen view (xs ++ ys) = seen view xs ++ seen view ys := List.filterMap_append ..

variable {view}

/-- A view that ignores all that is left out sees of effects what it sees of those that are kept. -/
theorem seen_kept {keep : Effect → Option Effect} (hkeep : ∀ x y, keep x = some y → y = x)
    (hv : ∀ x, keep x = none → view x = none) (xs : List Effect) :
    seen view (seen keep xs) = seen view xs := by
  unfold seen
  rw [List.filterMap_filterMap]
  refine congrArg (List.filterMap · xs) (funext fun x => ?_)
  cases hx : keep x with
  | none => exact (hv x hx).symm
  | some y => rw [hkeep x y hx]; rfl

end Seen

/-- The answer to a caller of connect. -/
def reply? : Effect → Option (Nat × Except Error Unit)
  | .connectReply caller answer => some (caller, answer)
  | _ => none

/-- The error of a permanent failure that the host is told. -/
def failure? : Effect → Option Error
  | .host (.permanentFailure error) => some error
  | _ => none

/-- A request for a connection: url and subprotocol. -/
def request? : Effect → Option (String × String)
  | .dial url subprotocol => some (url, subprotocol)
  | _ => none

end Effect

namespace Engine

open Effect (seen reply? failure? request?)

/-- A view that ignores all but control effects sees of effects what it sees of the control effects. -/
theorem seen_control {β : Type} {view : Effect → Option β}
    (hv : ∀ x, x.isControl = false → view x = none) (o : Outcome) :
    seen view o.control = seen view o.effects := by
  have hsame : (fun x => if x.isControl = true then view x else none) = view := by
    funext x
    by_cases hx : x.isControl
    · exact if_pos hx
    · rw [if_neg hx, hv x (eq_false_of_ne_true hx)]
  rw [Outcome.control, seen, List.filterMap_filter, hsame, seen]

/-- Answers to callers are control effects, so a view of them may look at those only. -/
theorem replies_control (o : Outcome) : seen reply? o.control = seen reply? o.effects := by
  refine seen_control (fun x hx => ?_) o
  cases x with
  | connectReply _ _ => exact absurd hx (by simp [Effect.isControl])
  | _ => rfl

/-- Permanent failures are control effects. -/
theorem failures_control (o : Outcome) : seen failure? o.control = seen failure? o.effects := by
  refine seen_control (fun x hx => ?_) o
  cases x with
  | host event =>
    cases event with
    | permanentFailure _ => exact absurd hx (by simp [Effect.isControl])
    | _ => rfl
  | _ => rfl

/-- Requests for a connection are control effects. -/
theorem requests_control (o : Outcome) : seen request? o.control = seen request? o.effects := by
  refine seen_control (fun x hx => ?_) o
  cases x with
  | dial _ _ => exact absurd hx (by simp [Effect.isControl])
  | _ => rfl

/-- A view that sees no phases sees no announcement. -/
theorem seen_announcement {β : Type} {view : Effect → Option β} (e : Engine) {phase : Phase}
    (hv : view (.phase phase) = none) : seen view (e.announcement phase) = [] := by
  unfold announcement
  split
  · rfl
  · exact List.filterMap_cons_none hv

/-- A view that hears nothing of a disconnected host hears no farewell. -/
theorem seen_farewell {β : Type} {view : Effect → Option β} (e : Engine)
    (hv : view (.host .disconnected) = none) : seen view e.farewell = [] := by
  unfold farewell
  split
  · exact List.filterMap_cons_none hv
  · rfl

/-- A view that sees no answers to callers sees none of these. -/
theorem seen_answers {β : Type} {view : Effect → Option β} (e : Engine)
    {answer : Except Error Unit} (hv : ∀ caller, view (.connectReply caller answer) = none) :
    seen view (e.answers answer) = [] := by
  refine List.filterMap_eq_nil_iff.mpr (fun x hx => ?_)
  obtain ⟨caller, _, rfl⟩ := List.mem_map.mp hx
  exact hv caller

section Parts

variable (e : Engine) (phase : Phase) (answer : Except Error Unit)

@[simp] theorem replies_announcement : seen reply? (e.announcement phase) = [] :=
  seen_announcement e rfl

@[simp] theorem failures_announcement : seen failure? (e.announcement phase) = [] :=
  seen_announcement e rfl

@[simp] theorem requests_announcement : seen request? (e.announcement phase) = [] :=
  seen_announcement e rfl

@[simp] theorem replies_farewell : seen reply? e.farewell = [] := seen_farewell e rfl

@[simp] theorem failures_farewell : seen failure? e.farewell = [] := seen_farewell e rfl

@[simp] theorem requests_farewell : seen request? e.farewell = [] := seen_farewell e rfl

/-- Every caller who waits gets this answer, in the order of asking. -/
@[simp] theorem replies_answers :
    seen reply? (e.answers answer) = e.waiting.map fun caller => (caller, answer) := by
  unfold answers seen
  rw [List.filterMap_map]
  exact congrFun (List.filterMap_eq_map (f := fun caller => (caller, answer))) e.waiting

@[simp] theorem failures_answers : seen failure? (e.answers answer) = [] :=
  seen_answers e fun _ => rfl

@[simp] theorem requests_answers : seen request? (e.answers answer) = [] :=
  seen_answers e fun _ => rfl

end Parts

/-! ## Lifecycle -/

/-- The transport is being asked, and nothing else changes. -/
theorem engine_openTransport (e : Engine) :
    e.openTransport.engine = { e with phase := .connecting, dialing := true } := by
  rw [openTransport, Outcome.engine_andThen, engine_enter]

/-- The phase is published before the transport is asked. -/
theorem control_openTransport (e : Engine) :
    e.openTransport.control =
      e.announcement .connecting ++ [.dial e.config.url e.config.subprotocol] := by
  rw [openTransport, Outcome.control_andThen, control_enter, engine_enter]; rfl

/-- The engine settles, and nobody waits any more. -/
theorem engine_disconnect (e : Engine) :
    e.disconnect.engine = { e.settle with phase := .disconnected, waiting := [] } := by
  unfold disconnect
  cases h : e.phase.isEstablished <;> simp

/-- The connection is closed first, callers are refused before the phase is published, and the host is told
    last. -/
theorem control_disconnect (e : Engine) :
    e.disconnect.control =
      .close :: (e.answers (.error .clientDisconnected) ++ e.announcement .disconnected
        ++ e.farewell) := by
  unfold disconnect farewell
  cases h : e.phase.isEstablished <;> simp [List.filter_cons, Effect.isControl, answers, announcement, settle, abandon]

/-- A client that failed for good has settled as well. -/
theorem engine_fail (error : Error) (e : Engine) :
    (e.fail error).engine = { e.settle with phase := .permanentlyFailed, waiting := [] } := by
  simp [fail]

/-- The connection is closed first, and callers hear of the failure last, after the host. -/
theorem control_fail (error : Error) (e : Engine) :
    (e.fail error).control =
      .close :: (e.announcement .permanentlyFailed ++ [.host (.permanentFailure error)]
        ++ e.answers (.error error.rejection)) := by
  simp [fail, List.filter_cons, Effect.isControl, answers, announcement, settle, abandon]

/-- The engine that has lost its connection, with what the backoff makes of it. -/
def lapsed (e : Engine) (backoff : Backoff) : Engine :=
  { e.abandon with session := e.session.ended, lost := true, backoff }

/-- A loss where a transport is expected: the connection goes, then the backoff decides. -/
theorem lose_eq {e : Engine} (now : Nat) (cause : String) (hp : e.phase.reconnectsOnLoss) :
    (e.lose now cause).engine =
        ((e.lapsed e.backoff.schedule.1).retry now cause e.backoff.schedule.2).engine ∧
      (e.lose now cause).control =
        .close :: (e.farewell ++
          ((e.lapsed e.backoff.schedule.1).retry now cause e.backoff.schedule.2).control) := by
  unfold lose farewell
  rw [if_pos hp]
  cases h : e.phase.isEstablished <;>
    simp [h, List.filter_cons, Effect.isControl, lapsed, abandon]

/-- The backoff grants another attempt: a timer is set, and no connection is asked for. -/
theorem lose_of_retry {e : Engine} {b : Backoff} {attempt : UInt32} {delay : UInt64} (now : Nat)
    (cause : String) (hp : e.phase.reconnectsOnLoss)
    (hb : e.backoff.schedule = (b, .retry attempt delay)) :
    (e.lose now cause).engine =
        { e.lapsed b with
          reconnectAt := some (now + delay.toNat)
          phase := .reconnecting attempt } ∧
      (e.lose now cause).control = .close :: (e.farewell ++ [.phase (.reconnecting attempt)]) := by
  obtain ⟨he, hc⟩ := lose_eq now cause hp
  have hne : e.phase ≠ .reconnecting attempt := by
    intro h; rw [h] at hp; exact absurd hp Bool.false_ne_true
  rw [he, hc, hb]
  refine ⟨engine_enter .., ?_⟩
  rw [retry, control_enter]
  exact congrArg (fun xs => Effect.close :: (e.farewell ++ xs)) (announcement_of_ne hne)

/-- No attempt is left: the client gives up for good, over the very cause of the loss. -/
theorem lose_of_exhausted {e : Engine} {attempts : UInt32} (now : Nat) (cause : String)
    (hp : e.phase.reconnectsOnLoss)
    (hb : e.backoff.schedule = (e.backoff, .exhausted attempts)) :
    (e.lose now cause).engine =
        { (e.lapsed e.backoff).settle with phase := .permanentlyFailed, waiting := [] } ∧
      (e.lose now cause).control =
        .close :: (e.farewell ++ .close :: .phase .permanentlyFailed ::
          .host (.permanentFailure (.retryExhausted attempts cause)) ::
          e.answers (.error (.retryExhausted attempts cause))) := by
  obtain ⟨he, hc⟩ := lose_eq now cause hp
  have hne : (e.lapsed e.backoff).phase ≠ .permanentlyFailed := by
    show e.phase ≠ .permanentlyFailed
    intro h; rw [h] at hp; exact absurd hp Bool.false_ne_true
  rw [he, hc, hb]
  refine ⟨engine_fail .., ?_⟩
  rw [retry, control_fail, announcement_of_ne hne]; rfl

/-! ## Handshakes -/

/-- The key exchange of a handshake, if keys are negotiated. -/
def freshExchange (s : Surroundings) (e : Engine) : Option KeyExchange :=
  if e.config.auth.keyExchange then some { pair := s.pair } else none

/-- The handshake an engine would send now. -/
def offering (s : Surroundings) (e : Engine) : Offer × Handshake :=
  e.offer ((e.freshExchange s).map fun x => x.pair.publicKey.toBase64)

/-- The engine that waits for the answer to its handshake. -/
def awaitingAnswer (s : Surroundings) (e : Engine) : Engine :=
  { e with exchange := e.freshExchange s, phase := .awaiting (e.offering s).1 }

/-- The cause of a loss by a handshake that could not be written. -/
def unsent (h : Handshake) (error : Error) : String :=
  "failed to send " ++ h.kind.name ++ ": " ++ error.message

/-- A handshake that is written is awaited, and the phase is published before it goes out. -/
theorem sendHandshake_of_ok {s : Surroundings} (e : Engine) (hw : s.write = .ok ()) :
    (e.sendHandshake s).engine = e.awaitingAnswer s ∧
      (e.sendHandshake s).control =
        e.announcement (.awaiting (e.offering s).1) ++
          [.write (.handshake (e.offering s).2) (.ok ())] := by
  unfold sendHandshake
  rw [hw]
  refine ⟨engine_enter .., ?_⟩
  rw [Outcome.control_andThen, control_enter]; rfl

/-- A handshake that cannot be written is a loss. -/
theorem sendHandshake_of_error {s : Surroundings} {error : Error} (e : Engine)
    (hw : s.write = .error error) :
    (e.sendHandshake s).engine =
        ((e.awaitingAnswer s).lose s.now (unsent (e.offering s).2 error)).engine ∧
      (e.sendHandshake s).control =
        e.announcement (.awaiting (e.offering s).1) ++
          .write (.handshake (e.offering s).2) (.error error) ::
            ((e.awaitingAnswer s).lose s.now (unsent (e.offering s).2 error)).control := by
  unfold sendHandshake
  rw [hw]
  simp only [Outcome.engine_andThen, Outcome.control_andThen, control_enter, engine_enter,
    engine_doing]
  exact ⟨rfl, rfl⟩

/-- Calls of the store leave the engine as it is, whatever the store answers. -/
@[simp] theorem engine_callStore (s : Surroundings) (calls : List StoreCall)
    (warning : Error → Notice) (e : Engine) : (e.callStore s calls warning).engine = e := by
  unfold callStore
  cases StoreCall.failure? s.store calls <;> rfl

/-- Calls of the store do not concern the connection. -/
@[simp] theorem control_callStore (s : Surroundings) (calls : List StoreCall)
    (warning : Error → Notice) (e : Engine) : (e.callStore s calls warning).control = [] := by
  have hmade : ((StoreCall.made s.store calls).map fun made =>
      Effect.store made.1 made.2).filter Effect.isControl = [] := by
    refine List.filter_eq_nil_iff.mpr (fun x hx => ?_)
    obtain ⟨made, _, rfl⟩ := List.mem_map.mp hx
    exact Bool.false_ne_true
  unfold callStore
  cases StoreCall.failure? s.store calls with
  | none => exact hmade
  | some error => rw [Outcome.control_emit, control_doing, hmade]; rfl

/-- A session with the keys that an ack and a key exchange lead to, if they lead to any. -/
def keyed (s : Surroundings) (exchange : Option KeyExchange) (ack : Ack) (session : Session) :
    Session :=
  match derivedKeys? s exchange ack with
  | some (.ok keys) => session.setKeys keys
  | _ => session

@[simp] theorem heartbeatInterval_keyed (s : Surroundings) (exchange : Option KeyExchange)
    (ack : Ack) (session : Session) :
    (keyed s exchange ack session).heartbeatInterval = session.heartbeatInterval := by
  unfold keyed
  split <;> rfl

/-- The key pair is spent, and the session gets what was derived from it, if anything was. -/
@[simp] theorem engine_installKeys (s : Surroundings) (ack : Ack) (e : Engine) :
    (e.installKeys s ack).engine =
      { e with exchange := none, session := keyed s e.exchange ack e.session } := by
  unfold installKeys keyed
  rcases derivedKeys? s e.exchange ack with _ | (_ | _) <;> rfl

/-- A failed derivation is not a matter of the connection: the session goes on without keys. -/
@[simp] theorem control_installKeys (s : Surroundings) (ack : Ack) (e : Engine) :
    (e.installKeys s ack).control = [] := by
  unfold installKeys
  rcases derivedKeys? s e.exchange ack with _ | (_ | _) <;> rfl

/-- The heartbeat of a session: it starts if it is enabled and there is an interval. -/
def beating (now : Nat) (e : Engine) : Heartbeat :=
  match e.session.heartbeatInterval with
  | some interval =>
    if e.config.heartbeat.enabled ∧ interval ≠ 0 then e.heartbeat.start now interval.toNat
    else e.heartbeat
  | none => e.heartbeat

/-- The heartbeat is all that changes. -/
theorem startHeartbeat_eq (now : Nat) (e : Engine) :
    e.startHeartbeat now = { e with heartbeat := e.beating now } := by
  unfold startHeartbeat beating
  cases e.session.heartbeatInterval with
  | none => rfl
  | some interval => dsimp only; split <;> rfl

/-- The session that an ack grants. -/
def grantedSession (s : Surroundings) (ack : Ack) (e : Engine) : Session :=
  keyed s e.exchange ack (e.session.establish ack e.config.heartbeat.interval s.now)

/-- The session that an ack grants has the ids of the ack. -/
theorem ids_grantedSession (s : Surroundings) (ack : Ack) (e : Engine) :
    (e.grantedSession s ack).threadId = some ack.threadId ∧
      (e.grantedSession s ack).sessionId = some ack.sessionId := by
  unfold grantedSession keyed
  split <;> exact ⟨rfl, rfl⟩

/-- The engine after an ack. -/
def granted (s : Surroundings) (ack : Ack) (e : Engine) : Engine :=
  { e with
    phase := .established
    session := e.grantedSession s ack
    heartbeat := { e with session := e.grantedSession s ack }.beating s.now
    backoff := e.backoff.reset
    exchange := none
    waiting := []
    resumeRetried := false
    lost := false }

/-- An ack while a handshake waits for its answer. -/
theorem acked_of_awaiting {s : Surroundings} {e : Engine} {kind : Offer} (ack : Ack)
    (hp : e.phase = .awaiting kind) :
    (e.acked s ack).engine = e.granted s ack ∧
      (e.acked s ack).control =
        .phase .established :: .host (.connected ack.threadId ack.sessionId) ::
          e.answers (.ok ()) := by
  unfold acked
  rw [hp]
  simp only [Outcome.engine_andThen, Outcome.control_andThen, Outcome.engine_emit,
    Outcome.control_emit, engine_callStore, control_callStore, engine_installKeys,
    control_installKeys, startHeartbeat_eq, engine_enter, control_enter, engine_answerAll,
    control_answerAll]
  exact ⟨rfl, rfl⟩

/-- The engine that falls back to a fresh handshake. -/
def fallenBack (e : Engine) : Engine :=
  { e with resumeRetried := true, session := e.session.cleared, resumeThread := none }

/-- A resume is rejected for the first time: a fresh handshake follows. -/
theorem rejected_of_fallBack {s : Surroundings} {e : Engine} (reject : Reject)
    (hp : e.phase = .awaiting .resume) (hr : e.resumeRetried = false) :
    (e.rejected s reject).engine = (e.fallenBack.sendHandshake s).engine ∧
      (e.rejected s reject).control = (e.fallenBack.sendHandshake s).control := by
  have hcond : Offer.resume = .resume ∧ ¬e.resumeRetried = true := ⟨rfl, by rw [hr]; simp⟩
  obtain ⟨config, phase⟩ := e
  subst hp
  unfold rejected
  dsimp only
  rw [if_pos hcond]
  simp only [Outcome.engine_andThen, Outcome.control_andThen, engine_callStore, control_callStore,
    engine_doing, control_doing]
  exact ⟨rfl, rfl⟩

/-- Any other rejection is final. -/
theorem rejected_of_refuse {s : Surroundings} {e : Engine} {kind : Offer} (reject : Reject)
    (hp : e.phase = .awaiting kind) (hr : ¬(kind = .resume ∧ e.resumeRetried = false)) :
    e.rejected s reject = e.fail (.protocolRejection reject.reason) := by
  unfold rejected
  rw [hp]
  exact if_neg (by simpa using hr)

/-- An answer that no handshake waits for is ignored. -/
theorem acked_of_not_awaiting {s : Surroundings} {e : Engine} (ack : Ack)
    (hp : ∀ kind, e.phase ≠ .awaiting kind) : e.acked s ack = e.idle := by
  unfold acked
  split
  · exact absurd ‹_› (hp _)
  · rfl

/-- A reject that answers no handshake is ignored. -/
theorem rejected_of_not_awaiting {s : Surroundings} {e : Engine} (reject : Reject)
    (hp : ∀ kind, e.phase ≠ .awaiting kind) : e.rejected s reject = e.idle := by
  unfold rejected
  split
  · exact absurd ‹_› (hp _)
  · rfl

end Engine
end Tether
