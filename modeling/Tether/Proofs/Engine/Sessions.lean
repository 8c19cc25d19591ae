import Tether.Proofs.Engine.Phases

/-!
# `Tether.Proofs.Engine.Sessions` — what the host hears of sessions

Three callbacks tell a host of the life of its client: a session is established, a session has ended,
the client has given up. With the entries into permanent failure they are the *vital* effects.

* `Told` — the vital effects of one step, in one of four cases;
* `Orderly` — a session ends only if there is one, and nobody gives up during a session;
* `Engine.acks` — the acks that are accepted, each of which the host hears of once;
* `Narrated` — what the host hears over every history.
-/

namespace Tether

namespace Effect

/-- The effect, if it tells of the life of a client. -/
def vital? : Effect → Option Effect
  | .phase .permanentlyFailed => some (.phase .permanentlyFailed)
  | .host (.connected threadId sessionId) => some (.host (.connected threadId sessionId))
  | .host .disconnected => some (.host .disconnected)
  | .host (.permanentFailure error) => some (.host (.permanentFailure error))
  | _ => none

/-- The effect, if it is the entry into permanent failure or the callback on it. -/
def ending? : Effect → Option Effect
  | .phase .permanentlyFailed => some (.phase .permanentlyFailed)
  | .host (.permanentFailure error) => some (.host (.permanentFailure error))
  | _ => none

/-- Is the host told that a session has begun, or that one has ended? -/
def session? : Effect → Option Bool
  | .host (.connected _ _) => some true
  | .host .disconnected => some false
  | _ => none

/-- The ids of the session that the host is told of. -/
def connected? : Effect → Option (String × String)
  | .host (.connected threadId sessionId) => some (threadId, sessionId)
  | _ => none

/-- The entry into permanent failure, and the callback on it. -/
def obituaryOf (error : Error) : List Effect :=
  [.phase .permanentlyFailed, .host (.permanentFailure error)]

end Effect

/-- Vital effects in order, from whether there is a session to whether there is one then. -/
inductive Orderly : Bool → List Effect → Bool → Prop where
  | nil {up : Bool} : Orderly up [] up
  | connected {threadId sessionId : String} {xs : List Effect} {up : Bool}
      (rest : Orderly true xs up) : Orderly false (.host (.connected threadId sessionId) :: xs) up
  | disconnected {xs : List Effect} {up : Bool} (rest : Orderly false xs up) :
      Orderly true (.host .disconnected :: xs) up
  | failed {xs : List Effect} {up : Bool} (rest : Orderly false xs up) :
      Orderly false (.phase .permanentlyFailed :: xs) up
  | permanentFailure {error : Error} {xs : List Effect} {up : Bool} (rest : Orderly false xs up) :
      Orderly false (.host (.permanentFailure error) :: xs) up

namespace Orderly

variable {a b c : Bool} {xs ys : List Effect}

/-- What is orderly goes on orderly. -/
theorem append (h : Orderly a xs b) (h' : Orderly b ys c) : Orderly a (xs ++ ys) c := by
  induction h with
  | nil => exact h'
  | connected _ ih => exact .connected (ih h')
  | disconnected _ ih => exact .disconnected (ih h')
  | failed _ ih => exact .failed (ih h')
  | permanentFailure _ ih => exact .permanentFailure (ih h')

/-- What is orderly can be cut anywhere. -/
theorem of_append (h : Orderly a (xs ++ ys) c) : ∃ b, Orderly a xs b ∧ Orderly b ys c := by
  induction xs generalizing a with
  | nil => exact ⟨a, .nil, h⟩
  | cons x xs ih =>
    cases h with
    | connected rest => obtain ⟨b, hxs, hys⟩ := ih rest; exact ⟨b, .connected hxs, hys⟩
    | disconnected rest => obtain ⟨b, hxs, hys⟩ := ih rest; exact ⟨b, .disconnected hxs, hys⟩
    | failed rest => obtain ⟨b, hxs, hys⟩ := ih rest; exact ⟨b, .failed hxs, hys⟩
    | permanentFailure rest =>
      obtain ⟨b, hxs, hys⟩ := ih rest
      exact ⟨b, .permanentFailure hxs, hys⟩

/-- Sessions begin and end by turns. -/
theorem path (h : Orderly a xs b) : Path (· ≠ ·) a (Effect.seen Effect.session? xs) b := by
  induction h with
  | nil => exact .nil
  | connected _ ih => exact .cons Bool.false_ne_true ih
  | disconnected _ ih => exact .cons Bool.false_ne_true.symm ih
  | failed _ ih | permanentFailure _ ih => exact ih

/-- Whoever gives up has no session. -/
theorem of_permanentFailure {error : Error}
    (h : Orderly a (xs ++ .host (.permanentFailure error) :: ys) c) : Orderly a xs false := by
  obtain ⟨b, hxs, hrest⟩ := h.of_append
  cases hrest with
  | permanentFailure _ => exact hxs

end Orderly

namespace Engine

open Effect (seen failure? connected? session? vital? ending? obituaryOf)

variable {e : Engine} {s : Surroundings} {input : Input}

/-! ## Vital effects -/

/-- Vital effects are control effects. -/
theorem vital_control (o : Outcome) : seen vital? o.control = seen vital? o.effects := by
  refine seen_control (fun x hx => ?_) o
  cases x with
  | phase _ => exact absurd hx (by simp [Effect.isControl])
  | host event =>
    cases event with
    | connected _ _ | disconnected | permanentFailure _ =>
      exact absurd hx (by simp [Effect.isControl])
    | _ => rfl
  | _ => rfl

/-- A view that ignores all but vital effects sees of effects what it sees of the vital ones. -/
theorem seen_vital {β : Type} {view : Effect → Option β} (hv : ∀ x, vital? x = none → view x = none)
    (xs : List Effect) : seen view (seen vital? xs) = seen view xs := by
  refine Effect.seen_kept (fun x y h => ?_) hv xs
  unfold vital? at h
  split at h <;> cases h <;> rfl

theorem session_vital (xs : List Effect) : seen session? (seen vital? xs) = seen session? xs := by
  refine seen_vital (fun x hx => ?_) xs
  unfold session?
  split <;> first | rfl | cases hx

theorem connected_vital (xs : List Effect) :
    seen connected? (seen vital? xs) = seen connected? xs := by
  refine seen_vital (fun x hx => ?_) xs
  unfold connected?
  split <;> first | rfl | cases hx

theorem failures_vital (xs : List Effect) : seen failure? (seen vital? xs) = seen failure? xs := by
  refine seen_vital (fun x hx => ?_) xs
  unfold failure?
  split <;> first | rfl | cases hx

theorem endings_vital (xs : List Effect) : seen ending? (seen vital? xs) = seen ending? xs := by
  refine seen_vital (fun x hx => ?_) xs
  unfold ending?
  split <;> first | rfl | cases hx

/-- Only the phase of a failure for good is vital. -/
theorem vital_announcement (e : Engine) {p : Phase} (hp : p ≠ .permanentlyFailed) :
    seen vital? (e.announcement p) = [] := by
  refine seen_announcement e ?_
  cases p with
  | permanentlyFailed => exact absurd rfl hp
  | _ => rfl

@[simp] theorem vital_farewell (e : Engine) : seen vital? e.farewell = e.farewell := by
  unfold farewell
  split <;> rfl

@[simp] theorem vital_answers (e : Engine) (answer : Except Error Unit) :
    seen vital? (e.answers answer) = [] := seen_answers e fun _ => rfl

/-- Nobody takes leave of a session that was not established. -/
theorem farewell_of_not {e : Engine} (hp : e.phase ≠ .established) : e.farewell = [] :=
  if_neg fun h => hp (Phase.isEstablished_iff.mp h)

/-! ## What the host is told in a step -/

/-- The ack that a turn accepts. -/
def Turn.ack? : Turn → Option Ack
  | .accept ack => some ack
  | _ => none

/-- The acks that are accepted over a history, in order. -/
def acks : History → Engine → List Ack
  | [], _ => []
  | (s, input) :: rest, e => (e.turn s.now input).ack?.toList ++ acks rest (e.step s input).engine

/-- What is told of the life of a client between two states, if `ack` was accepted. -/
inductive Told (ack : Option Ack) (e : Engine) : List Effect → Engine → Prop where
  | nothing {e' : Engine} (none : ack = none)
      (same : e'.phase.isEstablished = e.phase.isEstablished) : Told ack e [] e'
  /-- A session is established. -/
  | began {accepted : Ack} {e' : Engine} (some : ack = some accepted)
      (before : e.phase.isEstablished = false) (after : e'.phase.isEstablished = true) :
      Told ack e [.host (.connected accepted.threadId accepted.sessionId)] e'
  /-- A session has ended, if there was one. -/
  | ended {e' : Engine} (none : ack = none) (after : e'.phase.isEstablished = false) :
      Told ack e e.farewell e'
  /-- The client gives up, at the end of a session or without one. -/
  | gaveUp {error : Error} {e' : Engine} (none : ack = none) (before : e.phase.reconnectsOnLoss)
      (after : e'.phase = .permanentlyFailed) : Told ack e (e.farewell ++ obituaryOf error) e'

/-- What is told depends on the phase alone. -/
theorem Told.of_eq {ack : Option Ack} {xs : List Effect} {e' e'' : Engine} (h : Told ack e' xs e'')
    (hp : e.phase.isEstablished = e'.phase.isEstablished) (hx : e.phase.reconnectsOnLoss) :
    Told ack e xs e'' := by
  have hfare : e.farewell = e'.farewell := by unfold farewell; rw [hp]
  cases h with
  | nothing none same => exact .nothing none (same.trans hp.symm)
  | began some before after => exact .began some (hp.trans before) after
  | ended none after => rw [← hfare]; exact .ended none after
  | gaveUp none _ after => rw [← hfare]; exact .gaveUp none hx after

/-- What is told of a loss: the end of the session, and permanent failure if the client gives up. -/
theorem told_lost {now : Nat} {cause : String} {o : Outcome} (hp : e.phase.reconnectsOnLoss)
    (hl : Lost now cause e o) : Told none e (seen vital? o.control) o.engine := by
  cases hl with
  | retry _ engine control =>
    have hvital : seen vital? o.control = e.farewell := by rw [control]; simp [vital?]
    rw [hvital, engine]
    exact .ended rfl rfl
  | giveUp _ engine control =>
    have hvital : seen vital? o.control = e.farewell ++
        obituaryOf (.retryExhausted e.config.reconnect.maxRetries cause) := by
      rw [control]; simp [vital?, obituaryOf]
    rw [hvital, engine]
    exact .gaveUp rfl hp rfl

/-- A handshake tells nothing, unless it cannot be written and no attempt is left. -/
theorem told_sendHandshake (h : e.Sound) (hr : e.receiver.isSome) (hp : e.phase ≠ .established) :
    Told none e (seen vital? (e.sendHandshake s).control) (e.sendHandshake s).engine := by
  have hkind : seen vital? (e.announcement (.awaiting (e.offering s).1)) = [] :=
    vital_announcement e (by simp)
  have hdown : e.phase.isEstablished = false :=
    eq_false_of_ne_true fun hest => hp (Phase.isEstablished_iff.mp hest)
  cases h.offered s hr hp with
  | waits engine control =>
    have hvital : seen vital? (e.sendHandshake s).control = [] := by
      rw [control, Effect.seen_append, hkind]; rfl
    rw [hvital, engine]
    exact .nothing rfl hdown.symm
  | @unsent _ o lost engine control =>
    have hvital : seen vital? (e.sendHandshake s).control = seen vital? o.control := by
      rw [control, Effect.seen_append, Effect.seen_append, hkind]; rfl
    rw [hvital, engine]
    exact (told_lost rfl lost).of_eq hdown (h.wired.expected (Or.inr hr))

/-- **Every step tells one thing at most**, and a failure at the end of a session two. -/
theorem told_step (s : Surroundings) (input : Input) (h : e.Sound) :
    Told (e.turn s.now input).ack? e (seen vital? (e.step s input).effects)
      (e.step s input).engine := by
  have hstep := step_stepped s input e
  generalize e.turn s.now input = t at hstep
  rw [← vital_control]
  cases hstep with
  | passing _ passes =>
    obtain ⟨⟨_, _, _, he⟩, hc⟩ := passes
    rw [hc, he]; exact .nothing rfl rfl
  | greet _ _ engine control | join _ _ engine control | attach _ _ engine control
  | alarm _ _ engine control => rw [control, engine]; exact .nothing rfl rfl
  | depart _ phase engine control =>
    rw [control, engine]
    refine .nothing rfl ?_
    rcases phase with hp | hp <;> rw [hp] <;> rfl
  | leave _ engine control =>
    obtain ⟨_, he⟩ := engine
    have hvital : seen vital? (e.step s input).control = e.farewell := by
      rw [control]; simp [vital?, vital_announcement]
    rw [hvital, he]
    exact .ended rfl rfl
  | offer _ receiver phase engine control =>
    rw [control, engine]
    exact told_sendHandshake h receiver (by rw [phase]; simp)
  | @accept _ ack _ _ _ _ phase engine control =>
    have hvital : seen vital? (e.step s input).control =
        [.host (.connected ack.threadId ack.sessionId)] := by
      rw [control]; simp [vital?]
    rw [hvital, engine]
    exact .began rfl (by rw [phase]; rfl) rfl
  | fallBack _ _ receiver phase _ engine control =>
    have hne : e.phase ≠ .established := by rw [phase]; simp
    rw [control, engine]
    exact (told_sendHandshake (h.fallenBack hne) receiver hne).of_eq rfl (by rw [phase]; rfl)
  | @refuse _ reject _ _ _ _ phase _ engine control =>
    have hvital : seen vital? (e.step s input).control =
        e.farewell ++ obituaryOf (.protocolRejection reject.reason) := by
      rw [control, farewell_of_not (by rw [phase]; simp)]; simp [vital?, obituaryOf]
    rw [hvital, engine]
    exact .gaveUp rfl (by rw [phase]; rfl) rfl
  | lose live engine control =>
    have hp := h.wired.expected live
    rw [control, engine]
    exact told_lost hp (h.timed.lost hp s.now _)
  | redial _ due engine control =>
    obtain ⟨n, hn⟩ := h.timed.reconnecting_of_due due
    have hvital : seen vital? (e.step s input).control = [] := by
      rw [control]; simp [vital?, vital_announcement]
    rw [hvital, engine]
    exact .nothing rfl (by rw [hn]; rfl)

/-! ## Reading what is told -/

variable {ack : Option Ack} {xs : List Effect} {e' : Engine}

/-- A connection that goes takes its session with it. -/
theorem orderly_farewell (e : Engine) : Orderly e.phase.isEstablished e.farewell false := by
  unfold farewell
  cases e.phase.isEstablished with
  | true => exact .disconnected .nil
  | false => exact .nil

/-- What one turn tells the host is orderly. -/
theorem Told.orderly (h : Told ack e xs e') :
    Orderly e.phase.isEstablished xs e'.phase.isEstablished := by
  cases h with
  | nothing _ same => rw [same]; exact .nil
  | began _ before after => rw [before, after]; exact .connected .nil
  | ended _ after => rw [after]; exact orderly_farewell e
  | gaveUp _ _ after =>
    rw [after]
    exact (orderly_farewell e).append (.failed (.permanentFailure .nil))

@[simp] theorem connected_farewell (e : Engine) : seen connected? e.farewell = [] :=
  seen_farewell e rfl

@[simp] theorem endings_farewell (e : Engine) : seen ending? e.farewell = [] :=
  seen_farewell e rfl

/-- The host hears of a session if an ack is accepted, and only then. -/
theorem Told.connected (h : Told ack e xs e') :
    seen connected? xs = ack.toList.map fun ack => (ack.threadId, ack.sessionId) := by
  cases h with
  | began some _ _ => rw [some]; rfl
  | nothing none _ => rw [none]; rfl
  | ended none _ | gaveUp none _ _ => rw [none]; simp [connected?, obituaryOf]

/-- Entries into permanent failure and callbacks on them come in pairs. -/
theorem Told.endings (h : Told ack e xs e') :
    seen ending? xs = (seen failure? xs).flatMap obituaryOf := by
  cases h with
  | nothing _ _ | began _ _ _ => rfl
  | ended _ _ => simp
  | gaveUp _ _ _ => simp [ending?, failure?, obituaryOf]

/-- Whoever gives up expected a transport, and gives up once. -/
theorem Told.failures (h : Told ack e xs e') :
    seen failure? xs = [] ∨ (seen failure? xs).length = 1 ∧ e.phase.reconnectsOnLoss ∧
      e'.phase = .permanentlyFailed := by
  cases h with
  | nothing _ _ | began _ _ _ => exact Or.inl rfl
  | ended _ _ => exact Or.inl (failures_farewell e)
  | gaveUp _ before after => exact Or.inr ⟨by simp [failure?, obituaryOf], before, after⟩

/-! ## Histories -/

/-- What a whole run tells the host is orderly. -/
theorem orderly_run (history : History) (h : e.Sound) :
    Orderly e.phase.isEstablished (seen vital? (run history e).effects)
      (run history e).engine.phase.isEstablished := by
  induction history generalizing e with
  | nil => exact .nil
  | cons head rest ih =>
    obtain ⟨s, input⟩ := head
    rw [run, Outcome.andThen, Effect.seen_append]
    exact (told_step s input h).orderly.append (ih (sound_step s input h))

/-- The host hears of a session once for each ack that is accepted. -/
theorem connected_run (history : History) (h : e.Sound) :
    seen connected? (run history e).effects =
      (acks history e).map fun ack => (ack.threadId, ack.sessionId) := by
  induction history generalizing e with
  | nil => rfl
  | cons head rest ih =>
    obtain ⟨s, input⟩ := head
    have hstep := (told_step s input h).connected
    rw [connected_vital] at hstep
    rw [run, Outcome.andThen, Effect.seen_append, hstep, ih (sound_step s input h), acks,
      List.map_append]

/-- Each permanent failure is a phase and a callback, one after the other. -/
theorem endings_run (history : History) (h : e.Sound) :
    seen ending? (run history e).effects =
      (seen failure? (run history e).effects).flatMap obituaryOf := by
  induction history generalizing e with
  | nil => rfl
  | cons head rest ih =>
    obtain ⟨s, input⟩ := head
    have hstep := (told_step s input h).endings
    rw [endings_vital, failures_vital] at hstep
    rw [run, Outcome.andThen, Effect.seen_append, Effect.seen_append, List.flatMap_append, hstep,
      ih (sound_step s input h)]

/-- A step that fails for good does so once, from a phase that could reconnect, and ends there. -/
theorem failures_step (s : Surroundings) (input : Input) (h : e.Sound) :
    seen failure? (e.step s input).effects = [] ∨
      (seen failure? (e.step s input).effects).length = 1 ∧ e.phase.reconnectsOnLoss ∧
        (e.step s input).engine.phase = .permanentlyFailed := by
  have hstep := (told_step s input h).failures
  rw [failures_vital] at hstep
  exact hstep

/-- A client that has disconnected or given up has done so until somebody calls connect. -/
theorem settled_run (history : History) (h : e.Sound)
    (hp : e.phase = .disconnected ∨ e.phase = .permanentlyFailed)
    (hi : ∀ x ∈ history, ∀ caller, x.2 ≠ .command (.connect caller)) :
    (run history e).engine.phase = .disconnected ∨
      (run history e).engine.phase = .permanentlyFailed := by
  induction history generalizing e with
  | nil => exact hp
  | cons head rest ih =>
    obtain ⟨s, input⟩ := head
    obtain ⟨hinput, hrest⟩ := List.forall_mem_cons.mp hi
    have hnext := settled_step s h hp hinput
    exact ih (sound_step s input h) (hnext.elim (fun hsame => hsame ▸ hp) Or.inl) hrest

/-- Between two failures somebody calls connect. -/
theorem connect_of_failures {between : History} {s' : Surroundings} {input' : Input} (h : e.Sound)
    (hf : seen failure? (e.step s input).effects ≠ [])
    (hf' : seen failure? (((run between (e.step s input).engine).engine).step s' input').effects ≠
      []) :
    ∃ x ∈ between, ∃ caller, x.2 = .command (.connect caller) := by
  have hfailed := ((failures_step s input h).resolve_left hf).2.2
  have hsound := sound_step s input h
  have hexpected := ((failures_step s' input' (sound_run between hsound)).resolve_left hf').2.1
  refine Classical.byContradiction fun hnone => ?_
  have hsettled := settled_run between hsound (Or.inr hfailed)
    fun x hx caller hc => hnone ⟨x, hx, caller, hc⟩
  rcases hsettled with hp | hp <;> rw [hp] at hexpected <;> exact Bool.false_ne_true hexpected

/-! ## Acks -/

/-- An ack is accepted if it comes while a handshake waits for its answer. -/
theorem ack?_turn_iff (h : e.Sound) {ack : Ack} :
    (e.turn s.now input).ack? = some ack ↔
      ∃ frame kind, input = .signal (.message frame) ∧
        Inbound.parse frame = .ok (.handshake (.ack ack)) ∧ e.receiver.isSome ∧
        e.phase = .awaiting kind := by
  constructor
  · intro ht
    have hstep := step_stepped s input e
    generalize e.turn s.now input = t at hstep ht
    cases hstep with
    | @accept frame _ kind is message receiver phase _ _ =>
      cases ht
      exact ⟨frame, kind, is, message, receiver, phase⟩
    | _ => cases ht
  · rintro ⟨frame, kind, rfl, hm, hr, hp⟩
    have hturn : e.turn s.now (.signal (.message frame)) = .accept ack := by
      calc e.turn s.now (.signal (.message frame))
          = e.inputTurn s.now (.signal (.message frame)) := if_pos (h.running hr)
        _ = e.frameTurn frame := if_pos hr
        _ = .accept ack := by unfold frameTurn; rw [hm, hp]
    rw [hturn]; rfl

/-- An ack that is accepted establishes a session with its ids. -/
theorem granted_of_ack {ack : Ack} (ht : (e.turn s.now input).ack? = some ack) :
    (e.step s input).engine.phase = .established ∧
      (e.step s input).engine.session.threadId = some ack.threadId ∧
      (e.step s input).engine.session.sessionId = some ack.sessionId := by
  have hstep := step_stepped s input e
  generalize e.turn s.now input = t at hstep ht
  cases hstep with
  | accept _ _ _ _ engine _ =>
    cases ht
    rw [engine]
    exact ⟨rfl, ids_grantedSession s _ e⟩
  | _ => cases ht

/-! ## A session that is lost for good -/

/-- A loss in a session is the turn of its input. -/
theorem turn_of_loss {cause : String} (h : e.Sound) (hp : e.phase = .established)
    (hl : Loss s input e cause) : e.turn s.now input = .lose cause := by
  cases hl with
  | refused is running dialing =>
    subst is
    rw [turn, if_pos running]
    exact if_pos dialing
  | closed is running receiver | failed is running receiver | detached is running receiver =>
    subst is
    rw [turn, if_pos running]
    exact if_pos receiver
  | @unsent handshake error written =>
    -- no handshake is written in a session
    have hmem : .offered handshake (.error error) ∈ e.milestones s input :=
      List.mem_append_right _ (List.mem_filterMap.mpr ⟨_, written, rfl⟩)
    have hdealt := dealt_step s input h
    generalize e.milestones s input = ms at hmem hdealt
    cases hdealt with
    | offer ready => rw [hp] at ready; exact absurd ready.1 (by simp)
    | fallBack phase => rw [hp] at phase; cases phase
    | silent => cases hmem
    | attach | grant | refuse => simp at hmem

/-- **A session that is lost, where no attempt is allowed, ends and fails in one step.** -/
theorem exhausted_step {cause : String} (h : e.Sound) (hr : e.Rested) (hp : e.phase = .established)
    (hm : e.config.reconnect.maxRetries = 0) (hl : Loss s input e cause) :
    seen vital? (e.step s input).effects =
      .host .disconnected :: obituaryOf (.retryExhausted 0 cause) := by
  have hstep := step_stepped s input e
  rw [turn_of_loss h hp hl] at hstep
  rw [← vital_control]
  cases hstep with
  | lose _ _ control =>
    rw [control]
    cases h.timed.lost (by rw [hp]; rfl) s.now cause with
    | retry left _ _ =>
      rw [hm, hr hp] at left
      exact absurd left (UInt32.lt_irrefl 0)
    | giveUp _ _ control =>
      have hfare : e.farewell = [.host .disconnected] := if_pos (by rw [hp]; rfl)
      rw [control, hm, hfare]
      simp [vital?, obituaryOf]

/-! ## What the host hears -/

/-- What the host hears of its client's life over a history. -/
structure Narrated (config : Config) (history : History) (start : Engine) : Prop where
  /-- Sessions begin and end by turns, and the first thing is that one begins. -/
  turns : (false :: seen session? (run history start).effects).IsChain (· ≠ ·)
  /-- The host was told last of a session exactly if there is one. -/
  current : (false :: seen session? (run history start).effects).getLast? =
    some (run history start).engine.phase.isEstablished
  /-- The host hears once of every ack that is accepted, with its ids. -/
  connected : seen connected? (run history start).effects =
    (acks history start).map fun ack => (ack.threadId, ack.sessionId)
  /-- An ack is accepted exactly if a handshake waits for its answer, -/
  accepts : ∀ (s : Surroundings) input ack,
    ((run history start).engine.turn s.now input).ack? = some ack ↔
    ∃ frame kind, input = .signal (.message frame) ∧
      Inbound.parse frame = .ok (.handshake (.ack ack)) ∧
      (run history start).engine.receiver.isSome ∧
      (run history start).engine.phase = .awaiting kind
  /-- and establishes the session that has its ids. -/
  establishes : ∀ (s : Surroundings) input ack,
    ((run history start).engine.turn s.now input).ack? = some ack →
    ((run history start).engine.step s input).engine.phase = .established ∧
    ((run history start).engine.step s input).engine.session.threadId = some ack.threadId ∧
    ((run history start).engine.step s input).engine.session.sessionId = some ack.sessionId
  /-- Every entry into permanent failure is told before anything else of the kind happens, and nothing
      else is told as one. -/
  failures : seen ending? (run history start).effects =
    (seen failure? (run history start).effects).flatMap obituaryOf
  /-- Nobody is told of a failure in the middle of a session. -/
  apart : ∀ before error after,
    (run history start).effects = before ++ .host (.permanentFailure error) :: after →
    (false :: seen session? before).getLast? = some false
  /-- A step tells of one failure at most. -/
  once : ∀ s input,
    (seen failure? ((run history start).engine.step s input).effects).length ≤ 1
  /-- Between two failures somebody calls connect. -/
  called : ∀ before s input between s' input' after,
    history = before ++ (s, input) :: (between ++ (s', input') :: after) →
    seen failure? ((run before start).engine.step s input).effects ≠ [] →
    seen failure? ((run (before ++ (s, input) :: between) start).engine.step s' input').effects ≠ [] →
    ∃ x ∈ between, ∃ caller, x.2 = .command (.connect caller)
  /-- Where no attempt is allowed, the loss of a session is told as its end and then as a failure. -/
  exhausted : ∀ s input cause, config.reconnect.maxRetries = 0 →
    (run history start).engine.phase = .established →
    Loss s input (run history start).engine cause →
    seen vital? ((run history start).engine.step s input).effects =
      .host .disconnected :: obituaryOf (.retryExhausted 0 cause)

/-- **What the host hears of its client's life**, whatever the configuration, the persisted thread and
    the history. -/
theorem narrated_run (config : Config) (thread : Option String) (history : History) :
    Narrated config history (create config thread) := by
  have hcreate := sound_create config thread
  have h := sound_run history hcreate
  have hrested := (advances_run history hcreate fun _ => rfl).rested
  have hconfig := config_run history hcreate
  have horderly := orderly_run history hcreate
  have hpath := horderly.path
  rw [session_vital] at hpath
  refine ⟨hpath.isChain, hpath.getLast?, connected_run history hcreate,
    fun s input ack => ack?_turn_iff h, fun s input ack => granted_of_ack,
    endings_run history hcreate, ?_, fun s input => ?_, ?_, fun s input cause hm hp hl => ?_⟩
  · intro before error after heq
    rw [heq, Effect.seen_append, Effect.seen_cons] at horderly
    have hbefore := horderly.of_permanentFailure.path
    rw [session_vital] at hbefore
    exact hbefore.getLast?
  · rcases failures_step s input h with hnone | ⟨hone, _⟩
    · rw [hnone]; exact Nat.zero_le 1
    · exact Nat.le_of_eq hone
  · intro before s input between s' input' after _ hf hf'
    rw [run_append] at hf'
    exact connect_of_failures (sound_run before hcreate) hf hf'
  · exact exhausted_step h hrested hp (hconfig ▸ hm) hl

end Engine
end Tether
