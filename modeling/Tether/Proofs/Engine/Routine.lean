import Tether.Proofs.Engine.Messages

/-!
# `Tether.Proofs.Engine.Routine` — handlers that need neither the secret nor the storage

Only two kinds of handlers look at the secret of a client: those that sign and those that verify. Only
two touch its storage: an ack persists the ids of its session, and a rejected resume forgets those of an
earlier one. All others are *routine*: under another secret they do the very same, they make no call to
the storage, and the host hears of no frame.

* `Alike`, `Routine` — compose along `andThen`, so one lemma for each handler is enough;
* `step_routine` — a step that neither sends a message nor takes in a frame is routine;
* `alike_answered` — neither does a frame need the secret, unless it holds an envelope;
* `stored_step` — the calls that a step makes to the storage.
-/

namespace Tether

namespace Effect

/-- The call to the storage, with its answer. -/
def stored? : Effect → Option (StoreCall × Except Error Unit)
  | .store call answer => some (call, answer)
  | _ => none

/-- What the host hears of a frame: its text, and the message in it. -/
def heard? : Effect → Option HostEvent
  | .host (.message frame) => some (.message frame)
  | .host .pong => some .pong
  | .host (.stateUpdate payload) => some (.stateUpdate payload)
  | .host (.event payload) => some (.event payload)
  | .host (.error payload) => some (.error payload)
  | _ => none

end Effect

namespace Config

/-- The configuration with another secret. -/
def withSecret (secret : Option String) (config : Config) : Config :=
  { config with auth := { config.auth with secretKey := secret } }

end Config

namespace Engine

open Effect (seen stored? heard?)

/-- The client with another secret. -/
def withSecret (secret : Option String) (e : Engine) : Engine :=
  { e with config := e.config.withSecret secret }

/-- The outcome with another secret. -/
def Outcome.withSecret (secret : Option String) (o : Outcome) : Outcome :=
  ⟨o.engine.withSecret secret, o.effects⟩

/-- Two outcomes are the same but for the secret. Both make these calls to the storage, and the host
    hears of no frame. -/
structure Alike (secret : Option String) (calls : List (StoreCall × Except Error Unit))
    (o o' : Outcome) : Prop where
  same : o' = o.withSecret secret
  stored : seen stored? o.effects = calls
  unheard : seen heard? o.effects = []

/-- Two outcomes are the same but for the secret. They leave the storage alone, and the host hears of
    no frame. -/
abbrev Routine (secret : Option String) (o o' : Outcome) : Prop := Alike secret [] o o'

variable {secret : Option String} {e : Engine} {s : Surroundings} {input : Input}

/-! ## Composition -/

/-- Effects that neither touch the store nor reach the host are routine. -/
theorem routine_doing (e : Engine) {xs : List Effect} (hxs : seen stored? xs = [])
    (hheard : seen heard? xs = []) :
    Routine secret (e.doing xs) ((e.withSecret secret).doing xs) := ⟨rfl, hxs, hheard⟩

/-- Doing nothing is routine. -/
theorem routine_idle (e : Engine) : Routine secret e.idle (e.withSecret secret).idle :=
  routine_doing e rfl rfl

namespace Alike

variable {calls calls' : List (StoreCall × Except Error Unit)} {o o' : Outcome}

/-- Two handlers in a row are alike if each of them is, and their calls of the store add up. -/
theorem andThen {f f' : Engine → Outcome} (h : Alike secret calls o o')
    (hf : Alike secret calls' (f o.engine) (f' (o.engine.withSecret secret))) :
    Alike secret (calls ++ calls') (o.andThen f) (o'.andThen f') := by
  obtain ⟨rfl, hcalls, hheard⟩ := h
  refine ⟨?_, ?_, ?_⟩
  · show (⟨(f' (o.engine.withSecret secret)).engine,
      o.effects ++ (f' (o.engine.withSecret secret)).effects⟩ : Outcome) = _
    rw [hf.same]; rfl
  · rw [Outcome.andThen, Effect.seen_append, hcalls, hf.stored]
  · rw [Outcome.andThen, Effect.seen_append, hheard, hf.unheard]; rfl

/-- What comes after may be routine. -/
theorem andThen_routine {f f' : Engine → Outcome} (h : Alike secret calls o o')
    (hf : ∀ e, Routine secret (f e) (f' (e.withSecret secret))) :
    Alike secret calls (o.andThen f) (o'.andThen f') := by
  rw [← List.append_nil calls]
  exact h.andThen (hf o.engine)

/-- What comes before may be routine. -/
theorem routine_andThen {f f' : Engine → Outcome} (h : Routine secret o o')
    (hf : Alike secret calls (f o.engine) (f' (o.engine.withSecret secret))) :
    Alike secret calls (o.andThen f) (o'.andThen f') := by
  rw [← List.nil_append calls]
  exact h.andThen hf

theorem emit (h : Alike secret calls o o') {x : Effect} (hx : stored? x = none)
    (hhx : heard? x = none) : Alike secret calls (o.emit x) (o'.emit x) := by
  obtain ⟨rfl, hcalls, hheard⟩ := h
  refine ⟨rfl, ?_, ?_⟩
  · rw [Outcome.emit, Effect.seen_append, hcalls, Effect.seen_cons, hx]
    exact List.append_nil calls
  · rw [Outcome.emit, Effect.seen_append, hheard, Effect.seen_cons, hhx]; rfl

theorem ite {p : Prop} [Decidable p] {a a' b b' : Outcome} (h : p → Alike secret calls a a')
    (h' : ¬p → Alike secret calls b b') :
    Alike secret calls (if p then a else b) (if p then a' else b') := by
  by_cases hp : p
  · rw [if_pos hp, if_pos hp]; exact h hp
  · rw [if_neg hp, if_neg hp]; exact h' hp

end Alike

/-! ## Handlers -/

theorem routine_enter (phase : Phase) (e : Engine) :
    Routine secret (e.enter phase) ((e.withSecret secret).enter phase) :=
  .ite (fun _ => routine_idle e) fun _ => ⟨rfl, rfl, rfl⟩

theorem routine_answerAll (answer : Except Error Unit) (e : Engine) :
    Routine secret (e.answerAll answer) ((e.withSecret secret).answerAll answer) :=
  ⟨rfl, seen_answers e fun _ => rfl, seen_answers e fun _ => rfl⟩

theorem routine_openTransport (e : Engine) :
    Routine secret e.openTransport (e.withSecret secret).openTransport :=
  (routine_enter .connecting e).andThen_routine fun _ => ⟨rfl, rfl, rfl⟩

/-- Nothing that follows on a call of connect depends on the secret. -/
theorem routine_connect (caller : Nat) (e : Engine) :
    Routine secret (e.connect caller) ((e.withSecret secret).connect caller) :=
  .ite (fun _ => routine_doing e rfl rfl) fun _ =>
    .ite (fun _ => ⟨rfl, rfl, rfl⟩) fun _ => routine_openTransport _

/-- Nor does a disconnection. -/
theorem routine_disconnect (e : Engine) :
    Routine secret e.disconnect (e.withSecret secret).disconnect := by
  have hclosed : Routine secret (e.settle.doing [.close])
      ((e.withSecret secret).settle.doing [.close]) := routine_doing e.settle rfl rfl
  have hanswered := hclosed.andThen_routine (routine_answerAll (.error .clientDisconnected))
  have hleft := hanswered.andThen_routine (routine_enter .disconnected)
  unfold disconnect
  refine hleft.andThen_routine fun e' => ?_
  exact .ite (fun _ => routine_doing e' rfl rfl) fun _ => routine_idle e'

theorem routine_fail (error : Error) (e : Engine) :
    Routine secret (e.fail error) ((e.withSecret secret).fail error) := by
  have hclosed : Routine secret (e.settle.doing [.close])
      ((e.withSecret secret).settle.doing [.close]) := routine_doing e.settle rfl rfl
  have hfailed := hclosed.andThen_routine (routine_enter .permanentlyFailed)
  exact ((hfailed.emit rfl rfl).emit rfl rfl).andThen_routine (routine_answerAll _)

theorem routine_retry (now : Nat) (cause : String) (decision : Backoff.Decision) (e : Engine) :
    Routine secret (e.retry now cause decision) ((e.withSecret secret).retry now cause decision) := by
  cases decision with
  | retry attempt delay => exact routine_enter _ { e with reconnectAt := _ }
  | alreadyPending => exact routine_idle e
  | exhausted attempts => exact routine_fail _ e

/-- Nor does a loss, whatever the backoff answers. -/
theorem routine_lose (now : Nat) (cause : String) (e : Engine) :
    Routine secret (e.lose now cause) ((e.withSecret secret).lose now cause) := by
  have hclosed : Routine secret (e.abandon.doing [.close])
      ((e.withSecret secret).abandon.doing [.close]) := routine_doing e.abandon rfl rfl
  refine .ite (fun _ => ?_) fun _ => hclosed
  refine Alike.andThen_routine (Alike.andThen_routine
    (hclosed.andThen_routine fun e' => ⟨rfl, rfl, rfl⟩) fun e' => ?_) fun e' => ?_
  · exact .ite (fun _ => routine_doing e' rfl rfl) fun _ => routine_idle e'
  · exact routine_retry now cause _ { e' with backoff := _ }

/-- Nor does the answer of the transport. -/
theorem routine_dialed (now : Nat) (answer : Except Error Nat) (e : Engine) :
    Routine secret (e.dialed now answer) ((e.withSecret secret).dialed now answer) := by
  cases answer with
  | ok receiver => exact ⟨rfl, rfl, rfl⟩
  | error error => exact routine_lose now _ { e with dialing := false }

/-- A handshake holds a public key, but nothing that the secret was used for. -/
theorem routine_sendHandshake (s : Surroundings) (e : Engine) :
    Routine secret (e.sendHandshake s) ((e.withSecret secret).sendHandshake s) := by
  have hoffer : ∀ key, (e.withSecret secret).offer key = e.offer key := fun key => by
    unfold offer; rfl
  unfold sendHandshake
  dsimp only
  rw [hoffer]
  refine Alike.andThen_routine (routine_enter _ { e with exchange := _ }) fun e' => ?_
  cases s.write with
  | ok _ => exact routine_doing e' rfl rfl
  | error error => exact (routine_doing e' rfl rfl).andThen_routine (routine_lose _ _)

theorem routine_timedOut (e : Engine) : Routine secret e.timedOut (e.withSecret secret).timedOut :=
  .ite (fun _ => ⟨rfl, rfl, rfl⟩) fun _ => routine_idle e

/-! ## Steps -/

/-- A tick that is not due does nothing. -/
theorem ticked_of_not_due {t : Tick} (hd : ¬Heartbeat.isDue (e.heartbeat.deadline? t) s.now) :
    e.ticked s t = e.idle := by
  unfold ticked
  rw [Heartbeat.fire?_of_not_due hd]

/-- A watchdog that is due is disarmed and has timed out. -/
theorem ticked_of_timeout (hd : Heartbeat.isDue e.heartbeat.timeoutAt s.now) :
    e.ticked s .timeout = timedOut { e with heartbeat := e.heartbeat.disarm .timeout } := by
  unfold ticked
  rw [Heartbeat.fire?_of_due (t := .timeout) hd]

/-- A ping that is due goes out, and is disarmed first. -/
theorem ticked_of_ping (hd : Heartbeat.isDue e.heartbeat.pingAt s.now) :
    e.ticked s .ping = pingDue s { e with heartbeat := e.heartbeat.disarm .ping } := by
  unfold ticked
  rw [Heartbeat.fire?_of_due (t := .ping) hd]

/-- A tick is routine unless it sends a ping, which is signed. -/
theorem routine_ticked {t : Tick} (s : Surroundings)
    (hd : t = .ping → ¬Heartbeat.isDue e.heartbeat.pingAt s.now) :
    Routine secret (e.ticked s t) ((e.withSecret secret).ticked s t) := by
  by_cases hdue : Heartbeat.isDue (e.heartbeat.deadline? t) s.now
  · cases t with
    | ping => exact absurd hdue (hd rfl)
    | timeout =>
      have hdue' : Heartbeat.isDue (e.withSecret secret).heartbeat.timeoutAt s.now := hdue
      rw [ticked_of_timeout hdue, ticked_of_timeout hdue']
      exact routine_timedOut { e with heartbeat := _ }
  · have hdue' : ¬Heartbeat.isDue ((e.withSecret secret).heartbeat.deadline? t) s.now := hdue
    rw [ticked_of_not_due hdue, ticked_of_not_due hdue']
    exact routine_idle e

/-- **A step that neither sends a message nor takes in a frame is routine.** -/
theorem step_routine (s : Surroundings) (hd : e.draft? s.now input = none)
    (hf : ∀ frame, input ≠ .signal (.message frame)) :
    Routine secret (e.step s input) ((e.withSecret secret).step s input) := by
  -- every guard of a step is on a part of the client that the secret is not in
  refine .ite (fun hrun => ?_) fun _ => routine_idle e
  cases input with
  | command c =>
    cases c with
    | connect caller => exact routine_connect caller e
    | disconnect caller => exact (routine_disconnect e).emit rfl rfl
    | send draft =>
      have hsome : e.draft? s.now (.command (.send draft)) = some draft := if_pos hrun
      rw [hsome] at hd
      exact absurd hd (by simp)
    | snapshot caller => exact routine_doing e rfl rfl
  | shutdown =>
    obtain ⟨hsame, hnone, hheard⟩ : Routine secret e.disconnect _ := routine_disconnect e
    refine ⟨?_, hnone, hheard⟩
    show (⟨{ (e.withSecret secret).disconnect.engine with running := false },
      (e.withSecret secret).disconnect.effects⟩ : Outcome) = _
    rw [hsame]; rfl
  | dialed answer => exact .ite (fun _ => routine_dialed s.now answer e) fun _ => routine_idle e
  | signal signal =>
    refine .ite (fun _ => ?_) fun _ => routine_idle e
    cases signal with
    | opened => exact .ite (fun _ => routine_sendHandshake s e) fun _ => routine_idle e
    | message frame => exact absurd rfl (hf frame)
    | closed code reason => exact routine_lose _ _ e
    | failed reason => exact routine_lose _ _ e
  | detached => exact .ite (fun _ => routine_lose _ _ e) fun _ => routine_idle e
  | tick t =>
    refine routine_ticked s fun hping hdue => ?_
    subst hping
    have hsome : e.draft? s.now (.tick .ping) = some .ping := if_pos ⟨hrun, hdue⟩
    rw [hsome] at hd
    exact absurd hd (by simp)
  | reconnect =>
    exact .ite (fun _ => routine_openTransport { e with reconnectAt := _, backoff := _ })
      fun _ => routine_idle e

/-! ## Answers of the server -/

/-- The same calls of the store are made with either secret. -/
theorem alike_callStore (s : Surroundings) (calls : List StoreCall) (warning : Error → Notice)
    (e : Engine) : Alike secret (StoreCall.made s.store calls) (e.callStore s calls warning)
      ((e.withSecret secret).callStore s calls warning) := by
  have hmade : Alike secret (StoreCall.made s.store calls)
      (e.doing ((StoreCall.made s.store calls).map fun made => Effect.store made.1 made.2))
      ((e.withSecret secret).doing
        ((StoreCall.made s.store calls).map fun made => Effect.store made.1 made.2)) := by
    refine ⟨rfl, ?_, ?_⟩
    · show List.filterMap stored? (List.map _ _) = _
      rw [List.filterMap_map]
      exact List.filterMap_some
    · show List.filterMap heard? (List.map _ _) = _
      rw [List.filterMap_map]
      exact List.filterMap_eq_nil_iff.mpr fun _ _ => rfl
  unfold callStore
  cases StoreCall.failure? s.store calls with
  | none => exact hmade
  | some error => exact hmade.emit rfl rfl

/-- Keys for a session are derived from the key exchange, not from the secret. -/
theorem routine_installKeys (s : Surroundings) (ack : Ack) (e : Engine) :
    Routine secret (e.installKeys s ack) ((e.withSecret secret).installKeys s ack) := by
  have hkeys : derivedKeys? s (e.withSecret secret).exchange ack = derivedKeys? s e.exchange ack :=
    rfl
  unfold installKeys
  rw [hkeys]
  rcases derivedKeys? s e.exchange ack with _ | (_ | _) <;> exact ⟨rfl, rfl, rfl⟩

/-- An ack that is accepted persists the ids of its session. -/
theorem alike_acked {kind : Offer} (s : Surroundings) (ack : Ack) (hp : e.phase = .awaiting kind) :
    Alike secret (StoreCall.made s.store (e.identity.saving ack.threadId ack.sessionId))
      (e.acked s ack) ((e.withSecret secret).acked s ack) := by
  obtain ⟨config, phase⟩ := e
  subst hp
  unfold acked withSecret
  dsimp only
  refine Alike.andThen_routine (Alike.emit (Alike.andThen_routine (Alike.andThen_routine ?_
    (routine_installKeys s ack)) fun e' => ?_) rfl rfl) (routine_answerAll _)
  · exact alike_callStore s _ _ _
  · rw [startHeartbeat_eq, startHeartbeat_eq]
    exact routine_enter .established _

/-- Any other ack does nothing. -/
theorem routine_acked (s : Surroundings) (ack : Ack) (hp : ∀ kind, e.phase ≠ .awaiting kind) :
    Routine secret (e.acked s ack) ((e.withSecret secret).acked s ack) := by
  rw [acked_of_not_awaiting ack hp, acked_of_not_awaiting (e := e.withSecret secret) ack hp]
  exact routine_idle e

/-- A resume that is rejected for the first time forgets the ids. -/
theorem alike_rejected (s : Surroundings) (reject : Reject) (hp : e.phase = .awaiting .resume)
    (hr : e.resumeRetried = false) :
    Alike secret (StoreCall.made s.store e.identity.clearing) (e.rejected s reject)
      ((e.withSecret secret).rejected s reject) := by
  have hr' : ¬e.resumeRetried := by rw [hr]; exact Bool.false_ne_true
  obtain ⟨config, phase⟩ := e
  subst hp
  unfold rejected withSecret
  dsimp only
  rw [if_pos ⟨rfl, hr'⟩, if_pos ⟨rfl, hr'⟩]
  have hretried : ∀ e : Engine, Routine secret
      (e.doing [.warn (.resumeRejected reject.reason)])
      ((e.withSecret secret).doing [.warn (.resumeRejected reject.reason)]) :=
    fun e => routine_doing e rfl rfl
  refine Alike.andThen_routine ?_ fun e' => routine_sendHandshake s _
  exact Alike.routine_andThen (hretried _) (alike_callStore s _ _ _)

/-- Any other rejection leaves the storage alone. -/
theorem routine_rejected (s : Surroundings) (reject : Reject)
    (hr : ¬(e.phase = .awaiting .resume ∧ e.resumeRetried = false)) :
    Routine secret (e.rejected s reject) ((e.withSecret secret).rejected s reject) := by
  by_cases hp : ∃ kind, e.phase = .awaiting kind
  · obtain ⟨kind, hp⟩ := hp
    have hkind : ¬(kind = .resume ∧ e.resumeRetried = false) := fun h => hr ⟨h.1 ▸ hp, h.2⟩
    rw [rejected_of_refuse reject hp hkind,
      rejected_of_refuse (e := e.withSecret secret) reject hp hkind]
    exact routine_fail _ e
  · have hne : ∀ kind, e.phase ≠ .awaiting kind := fun kind h => hp ⟨kind, h⟩
    rw [rejected_of_not_awaiting reject hne,
      rejected_of_not_awaiting (e := e.withSecret secret) reject hne]
    exact routine_idle e

/-! ## The calls of a step -/

/-- The calls to the storage that a turn makes. -/
def calls (e : Engine) : Turn → List StoreCall
  | .accept ack => e.identity.saving ack.threadId ack.sessionId
  | .fallBack _ => e.identity.clearing
  | _ => []

/-- An ack is taken alike with either secret, its session stored alike. -/
theorem alike_ack {frame : String} {ack : Ack} (s : Surroundings) (e : Engine)
    (hm : Inbound.parse frame = .ok (.handshake (.ack ack))) :
    Alike secret (StoreCall.made s.store (e.calls (e.frameTurn frame))) (e.acked s ack)
      ((e.withSecret secret).acked s ack) := by
  unfold frameTurn
  rw [hm]
  cases hp : e.phase with
  | awaiting kind => exact alike_acked s ack hp
  | disconnected | connecting | established | reconnecting _ | permanentlyFailed =>
    exact routine_acked s ack (by rw [hp]; simp)

/-- So is a reject, its session forgotten alike. -/
theorem alike_reject {frame : String} {reject : Reject} (s : Surroundings) (e : Engine)
    (hm : Inbound.parse frame = .ok (.handshake (.reject reject))) :
    Alike secret (StoreCall.made s.store (e.calls (e.frameTurn frame))) (e.rejected s reject)
      ((e.withSecret secret).rejected s reject) := by
  unfold frameTurn
  rw [hm]
  cases hp : e.phase with
  | awaiting kind =>
    dsimp only
    by_cases hf : kind = .resume ∧ e.resumeRetried = false
    · rw [if_pos hf]
      exact alike_rejected s reject (hp.trans (by rw [hf.1])) hf.2
    · rw [if_neg hf]
      exact routine_rejected s reject fun h => hf ⟨Phase.awaiting.inj (hp.symm.trans h.1), h.2⟩
  | disconnected | connecting | established | reconnecting _ | permanentlyFailed =>
    exact routine_rejected s reject (by rw [hp]; simp)

/-- What a frame leads to, once the host has heard its text. -/
def answered (s : Surroundings) (frame : String) (e : Engine) : Outcome :=
  match Inbound.parse frame with
  | .ok (.handshake (.ack ack)) => e.acked s ack
  | .ok (.handshake (.reject reject)) => e.rejected s reject
  | .ok (.handshake _) => e.idle
  | .ok (.envelope envelope) => e.received s envelope
  | .error error => e.doing [.warn (.malformedFrame error)]

theorem framed_eq (s : Surroundings) (frame : String) (e : Engine) :
    e.framed s frame =
      ⟨(e.answered s frame).engine, .host (.message frame) :: (e.answered s frame).effects⟩ := rfl

/-- Whatever a frame holds but an envelope, what it leads to needs no secret. -/
theorem alike_answered {frame : String} (s : Surroundings) (e : Engine)
    (hm : ∀ envelope, Inbound.parse frame ≠ .ok (.envelope envelope)) :
    Alike secret (StoreCall.made s.store (e.calls (e.frameTurn frame))) (e.answered s frame)
      ((e.withSecret secret).answered s frame) := by
  unfold answered
  cases hparse : Inbound.parse frame with
  | error error =>
    unfold frameTurn
    rw [hparse]
    exact routine_doing e rfl rfl
  | ok message =>
    cases message with
    | envelope envelope => exact absurd hparse (hm envelope)
    | handshake h =>
      cases h with
      | ack ack => exact alike_ack s e hparse
      | reject reject => exact alike_reject s e hparse
      | init _ | resume _ =>
        unfold frameTurn
        rw [hparse]
        exact routine_idle e

/-- To send a message is to write an envelope and to warn: a view that ignores both sees nothing. -/
theorem Submitted.unseen {β : Type} {view : Effect → Option β} {draft : Draft} {o : Outcome}
    (h : Submitted s draft e o) (hwarn : ∀ notice, view (.warn notice) = none)
    (hwrite : ∀ envelope answer, view (.write (.envelope envelope) answer) = none) :
    seen view o.effects = [] := by
  have hwarnings : ∀ notices : List Notice, seen view (notices.map Effect.warn) = [] := by
    intro notices
    refine List.filterMap_eq_nil_iff.mpr fun x hx => ?_
    obtain ⟨notice, _, rfl⟩ := List.mem_map.mp hx
    exact hwarn notice
  cases h with
  | posted _ _ _ effects | refused _ _ _ effects =>
    obtain ⟨before, after, hx⟩ := effects
    rw [hx, Effect.seen_append, Effect.seen_cons, hwarnings, hwarnings, hwrite]; rfl
  | dropped _ _ effects => rw [effects]; exact hwarnings [_]

/-- To take in a message leaves the storage alone. -/
theorem unstored_received (s : Surroundings) (envelope : Envelope) (e : Engine) :
    seen stored? (e.received s envelope).effects = [] := by
  have hdelivery : seen stored? (delivery envelope) = [] := by
    unfold delivery; split <;> rfl
  unfold received checked
  dsimp only
  split
  · rfl
  · split
    · show seen stored? (delivery envelope ++ _) = []
      rw [Effect.seen_append, hdelivery]
      split <;> rfl
    · split
      · exact hdelivery
      · rfl

/-- Only an answer of the server has calls to make. -/
theorem calls_of_not_frame (s : Surroundings) (hf : ∀ frame, input ≠ .signal (.message frame)) :
    e.calls (e.turn s.now input) = [] := by
  have hstep := step_stepped s input e
  generalize e.turn s.now input = t at hstep
  cases hstep with
  | accept is | fallBack is => exact absurd is (hf _)
  | _ => rfl

/-- A frame reaches a running engine that has a receiver. -/
theorem step_frame (s : Surroundings) (frame : String) (e : Engine) :
    e.step s (.signal (.message frame)) =
      if e.running ∧ e.receiver.isSome then e.framed s frame else e.idle := by
  by_cases hrun : e.running
  · rw [step, if_pos hrun]
    by_cases hr : e.receiver.isSome
    · rw [if_pos ⟨hrun, hr⟩]; exact if_pos hr
    · rw [if_neg fun h => hr h.2]; exact if_neg hr
  · rw [step, if_neg hrun, if_neg fun h => hrun h.1]

/-- A frame is looked at while the client runs and holds a receiver. -/
theorem turn_frame (now : Nat) (frame : String) (e : Engine) :
    e.turn now (.signal (.message frame)) =
      if e.running ∧ e.receiver.isSome then e.frameTurn frame else .passing := by
  by_cases hrun : e.running
  · rw [turn, if_pos hrun]
    by_cases hr : e.receiver.isSome
    · rw [if_pos ⟨hrun, hr⟩]; exact if_pos hr
    · rw [if_neg fun h => hr h.2]; exact if_neg hr
  · rw [turn, if_neg hrun, if_neg fun h => hrun h.1]

/-- The calls of the store that follow on a frame are those of its turn. -/
theorem stored_framed (s : Surroundings) (frame : String) (e : Engine) :
    seen stored? (e.framed s frame).effects =
      StoreCall.made s.store (e.calls (e.frameTurn frame)) := by
  show seen stored? (e.answered s frame).effects = _
  by_cases hm : ∃ envelope, Inbound.parse frame = .ok (.envelope envelope)
  · obtain ⟨envelope, hm⟩ := hm
    unfold answered frameTurn
    rw [hm]
    exact unstored_received s envelope e
  · have hanswered : Alike none _ (e.answered s frame) _ :=
      alike_answered s e fun envelope h => hm ⟨envelope, h⟩
    exact hanswered.stored

/-- **The calls to the storage that a step makes** are those of its turn. -/
theorem stored_step (s : Surroundings) (input : Input) (e : Engine) :
    seen stored? (e.step s input).effects =
      StoreCall.made s.store (e.calls (e.turn s.now input)) := by
  by_cases hf : ∃ frame, input = .signal (.message frame)
  · obtain ⟨frame, rfl⟩ := hf
    rw [step_frame, turn_frame]
    split
    · exact stored_framed s frame e
    · rfl
  · have hf' : ∀ frame, input ≠ .signal (.message frame) := fun frame h => hf ⟨frame, h⟩
    rw [calls_of_not_frame s hf']
    cases hd : e.draft? s.now input with
    | some draft => exact (step_of_draft hd).unseen (fun _ => rfl) fun _ _ => rfl
    | none =>
      have hroutine : Routine none (e.step s input) _ := step_routine s hd hf'
      exact hroutine.stored

end Engine
end Tether
