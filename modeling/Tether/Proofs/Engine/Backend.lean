import Tether.Proofs.Engine.Phases
import Tether.Proofs.Engine.Routine

/-!
# `Tether.Proofs.Engine.Backend` — no failure of a storage reaches the session

A client persists its ids while it takes in an ack, and forgets them while it falls back to a fresh
handshake. Both calls may fail, and the handler goes on as if they had not: the ids it works with are its
own, and it never reads the storage again. Two runs over the same inputs, on storages that answer
differently, can therefore be told apart by their calls to the storage and by the warnings about these
alone.

* `Agrees` — two outcomes with the same engine and the same effects beside the storage's; it composes
  along `andThen`;
* `agrees_step`, `agrees_serve` — a step, and a history, under two sets of answers;
* `unaffected_run` — what a host, a transport and a caller see of a client is the same on every backend
  that holds the same thread at the start.
-/

namespace Tether

namespace Effect

/-- All but calls to the storage, and warnings that such a call failed. -/
def apart? : Effect → Option Effect
  | .store _ _ | .warn (.identityNotSaved _) | .warn (.identityNotCleared _) => none
  | x => some x

/-- A frame that is written, with the answer of the transport. -/
def written? : Effect → Option (String × Except Error Unit)
  | .write message answer => some (message.frame, answer)
  | _ => none

/-- A callback of the host. -/
def event? : Effect → Option HostEvent
  | .host event => some event
  | _ => none

/-- The session that a caller is shown. -/
def shown? : Effect → Option (Nat × Snapshot)
  | .snapshotReply caller snapshot => some (caller, snapshot)
  | _ => none

/-- A view that ignores the storage sees the same wherever all else is the same. -/
theorem seen_of_apart {β : Type} {view : Effect → Option β} {xs ys : List Effect}
    (h : seen apart? ys = seen apart? xs) (hv : ∀ x, apart? x = none → view x = none) :
    seen view ys = seen view xs := by
  have hkeep : ∀ x y, apart? x = some y → y = x := by
    intro x y hy
    unfold apart? at hy
    split at hy <;> cases hy
    rfl
  rw [← seen_kept hkeep hv, h, seen_kept hkeep hv]

end Effect

namespace Engine

open Effect (seen apart? phase? request? written? event? reply? shown?)

variable {e : Engine} {o o' : Outcome}

/-! ## Outcomes that agree -/

/-- Two outcomes are the same beside calls to the storage and warnings about them. -/
structure Agrees (o o' : Outcome) : Prop where
  engine : o'.engine = o.engine
  apart : seen apart? o'.effects = seen apart? o.effects

namespace Agrees

theorem refl (o : Outcome) : Agrees o o := ⟨rfl, rfl⟩

theorem andThen {f f' : Engine → Outcome} (h : Agrees o o')
    (hf : Agrees (f o.engine) (f' o.engine)) : Agrees (o.andThen f) (o'.andThen f') := by
  unfold Outcome.andThen
  rw [h.engine]
  refine ⟨hf.engine, ?_⟩
  dsimp only
  rw [Effect.seen_append, Effect.seen_append, h.apart, hf.apart]

/-- What comes after may be the same. -/
theorem andThen_same (h : Agrees o o') (f : Engine → Outcome) :
    Agrees (o.andThen f) (o'.andThen f) := h.andThen (.refl _)

theorem emit (h : Agrees o o') (x : Effect) : Agrees (o.emit x) (o'.emit x) := by
  refine ⟨h.engine, ?_⟩
  unfold Outcome.emit
  dsimp only
  rw [Effect.seen_append, Effect.seen_append, h.apart]

end Agrees

/-! ## Handlers that call the storage -/

/-- Calls to the storage leave no trace apart from themselves, whatever comes of them. -/
theorem apart_callStore (s : Surroundings) (calls : List StoreCall) {warning : Error → Notice}
    (hw : ∀ error, apart? (.warn (warning error)) = none) (e : Engine) :
    seen apart? (e.callStore s calls warning).effects = [] := by
  have hmade : seen apart? ((StoreCall.made s.store calls).map fun made =>
      Effect.store made.1 made.2) = [] := by
    refine List.filterMap_eq_nil_iff.mpr fun x hx => ?_
    obtain ⟨made, -, rfl⟩ := List.mem_map.mp hx
    rfl
  unfold callStore
  cases StoreCall.failure? s.store calls with
  | none => exact hmade
  | some error =>
    show seen apart? (((StoreCall.made s.store calls).map fun made => Effect.store made.1 made.2) ++
      [.warn (warning error)]) = []
    rw [Effect.seen_append, Effect.seen_cons, hw error, hmade]; rfl

theorem agrees_callStore (s s' : Surroundings) (calls : List StoreCall) {warning : Error → Notice}
    (hw : ∀ error, apart? (.warn (warning error)) = none) (e : Engine) :
    Agrees (e.callStore s calls warning) (e.callStore s' calls warning) := by
  refine ⟨?_, ?_⟩
  · rw [engine_callStore, engine_callStore]
  · rw [apart_callStore s calls hw, apart_callStore s' calls hw]

section Answers

variable (s : Surroundings) (store : StoreCall → Except Error Unit)

/-- An ack grants the same session, whether it can be persisted or not. -/
theorem agrees_acked (ack : Ack) (e : Engine) :
    Agrees (e.acked s ack) (e.acked { s with store } ack) := by
  by_cases hp : ∃ kind, e.phase = .awaiting kind
  · obtain ⟨kind, hp⟩ := hp
    obtain ⟨config, phase⟩ := e
    subst hp
    unfold acked
    dsimp only
    refine (((Agrees.andThen_same ?_ _).andThen_same _).emit _).andThen_same _
    exact agrees_callStore s { s with store } _ (fun _ => rfl) _
  · have hne : ∀ kind, e.phase ≠ .awaiting kind := fun kind h => hp ⟨kind, h⟩
    rw [acked_of_not_awaiting ack hne, acked_of_not_awaiting ack hne]
    exact .refl _

/-- A rejected resume is followed by the same handshake, whether its ids can be forgotten or not. -/
theorem agrees_rejected (reject : Reject) (e : Engine) :
    Agrees (e.rejected s reject) (e.rejected { s with store } reject) := by
  by_cases hp : ∃ kind, e.phase = .awaiting kind
  · obtain ⟨kind, hp⟩ := hp
    obtain ⟨config, phase⟩ := e
    subst hp
    unfold rejected
    dsimp only
    split
    · refine Agrees.andThen_same (Agrees.andThen (.refl _) ?_) _
      exact agrees_callStore s { s with store } _ (fun _ => rfl) _
    · exact .refl _
  · have hne : ∀ kind, e.phase ≠ .awaiting kind := fun kind h => hp ⟨kind, h⟩
    rw [rejected_of_not_awaiting reject hne, rejected_of_not_awaiting reject hne]
    exact .refl _

theorem agrees_framed (frame : String) (e : Engine) :
    Agrees (e.framed s frame) (e.framed { s with store } frame) := by
  unfold framed
  refine Agrees.andThen (.refl _) ?_
  cases Inbound.parse frame with
  | error error => exact .refl _
  | ok message =>
    cases message with
    | envelope envelope => exact .refl _
    | handshake h =>
      cases h with
      | ack ack => exact agrees_acked s store ack _
      | reject reject => exact agrees_rejected s store reject _
      | init _ | resume _ => exact .refl _

/-- **One step agrees** under any two sets of answers of the storage. -/
theorem agrees_step (input : Input) (e : Engine) :
    Agrees (e.step s input) (e.step { s with store } input) := by
  unfold step
  split
  · cases input with
    | signal signal =>
      unfold handle
      dsimp only
      split
      · cases signal with
        | message frame => exact agrees_framed s store frame e
        | opened | closed _ _ | failed _ => exact .refl _
      · exact .refl _
    -- no other input has a call to make
    | command _ | shutdown | dialed _ | detached | tick _ | reconnect => exact .refl _
  · exact .refl _

end Answers

/-! ## Backends -/

/-- A storage as a client meets it: the thread that it holds when the client is created, and its answers
    to the calls of each step from then on. A step makes a call at most once, so these are all answers
    there can be. -/
structure Backend where
  thread : Option String
  answers : Nat → StoreCall → Except Error Unit

namespace Backend

/-- The history in which the backend answers the calls, from the `n`-th step on. -/
def serve (b : Backend) : Nat → History → History
  | _, [] => []
  | n, (s, input) :: rest => ({ s with store := b.answers n }, input) :: b.serve (n + 1) rest

/-- What a history leads to on the backend. -/
def run (b : Backend) (config : Config) (history : History) : Outcome :=
  Engine.run (b.serve 0 history) (create config b.thread)

end Backend

/-- **Every history agrees** on any two backends, for a client that is already there. -/
theorem agrees_serve (b b' : Backend) (n : Nat) (history : History) (e : Engine) :
    Agrees (run (b.serve n history) e) (run (b'.serve n history) e) := by
  induction history generalizing n e with
  | nil => exact .refl _
  | cons head rest ih =>
    obtain ⟨s, input⟩ := head
    have hstep := agrees_step { s with store := b.answers n } (b'.answers n) input e
    exact hstep.andThen (ih (n + 1) _)

/-- Two outcomes that nobody but the storage and the log can tell apart. -/
structure Unaffected (o o' : Outcome) : Prop where
  /-- The same phases are published, -/
  phases : seen phase? o'.effects = seen phase? o.effects
  /-- the same connections are requested, -/
  attempts : seen request? o'.effects = seen request? o.effects
  /-- the same frames are written, with the same answers, -/
  frames : seen written? o'.effects = seen written? o.effects
  /-- the host is called back alike, -/
  callbacks : seen event? o'.effects = seen event? o.effects
  /-- the callers of connect get the same answers, -/
  replies : seen reply? o'.effects = seen reply? o.effects
  /-- and whoever asks is shown the same session. -/
  snapshots : seen shown? o'.effects = seen shown? o.effects
  /-- Indeed the effects are the same, and in the same order, but for calls to the storage and warnings
      that one of them failed; -/
  apart : seen apart? o'.effects = seen apart? o.effects
  /-- and the client is the same. -/
  engine : o'.engine = o.engine

theorem Agrees.unaffected (h : Agrees o o') : Unaffected o o' := by
  have hseen : ∀ {β : Type} {view : Effect → Option β}, (∀ call answer, view (.store call answer) = none) →
      (∀ notice, view (.warn notice) = none) → seen view o'.effects = seen view o.effects := by
    intro β view hstore hwarn
    refine Effect.seen_of_apart h.apart fun x hx => ?_
    cases x with
    | store call answer => exact hstore call answer
    | warn notice => exact hwarn notice
    | _ => cases hx
  exact ⟨hseen (fun _ _ => rfl) fun _ => rfl, hseen (fun _ _ => rfl) fun _ => rfl,
    hseen (fun _ _ => rfl) fun _ => rfl, hseen (fun _ _ => rfl) fun _ => rfl,
    hseen (fun _ _ => rfl) fun _ => rfl, hseen (fun _ _ => rfl) fun _ => rfl, h.apart, h.engine⟩

/-- **No failure of a storage affects a session**: whatever the configuration and the history of a
    client, on two backends that hold the same thread when it is created. -/
theorem unaffected_run (config : Config) (history : History) (b b' : Backend)
    (hthread : b'.thread = b.thread) : Unaffected (b.run config history) (b'.run config history) := by
  unfold Backend.run
  rw [hthread]
  exact (agrees_serve b b' 0 history _).unaffected

/-- A client whose resume is rejected, and that is then granted another thread, on a storage that works and
    on one that refuses every call: the second is called half as often, since each refusal ends a series
    of calls. -/
theorem unaffected_refusing :
    let config : Config := {}
    let s : Surroundings :=
      { now := 0, unixMillis := 0, write := .ok (), store := fun _ => .ok (), nonce := []
        pair := default }
    let reject := "\x7b\"type\":\"handshake_reject\",\"reason\":\"unknown thread\"\x7d"
    let ack := "\x7b\"type\":\"handshake_ack\",\"thread_id\":\"t\",\"session_id\":\"s\"," ++
      "\"heartbeat_interval_ms\":1000\x7d"
    let history : History := [(s, .command (.connect 0)), (s, .dialed (.ok 0)), (s, .signal .opened),
      (s, .signal (.message reject)), (s, .signal (.message ack)), (s, .command (.snapshot 1))]
    let working : Backend := ⟨some "old", fun _ _ => .ok ()⟩
    let refusing : Backend := ⟨some "old", fun _ call => .error call.refusal⟩
    refusing.thread = working.thread ∧
      Unaffected (working.run config history) (refusing.run config history) ∧
      (refusing.run config history).engine.phase = .established ∧
      (seen Effect.stored? (working.run config history).effects).length = 4 ∧
      (seen Effect.stored? (refusing.run config history).effects).length = 2 := by
  intro config s reject ack history working refusing
  exact ⟨rfl, unaffected_run config history working refusing rfl, by decide +kernel,
    by decide +kernel, by decide +kernel⟩

end Engine
end Tether
