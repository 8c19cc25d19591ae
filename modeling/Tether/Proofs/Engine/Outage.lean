import Tether.Proofs.Engine.Resources

/-!
# `Tether.Proofs.Engine.Outage` — losses, attempts and the end of trying

Losses come in five ways: an attempt that is refused, a close, a failure of the socket, a receiver
whose line ends, and a handshake that cannot be written. `Engine.causes` lists those of a step, and an
`Outage` counts them, and the requests for a connection, from one reset to the next.

* `Course` — what a step is in the course of an outage, one case for each way it goes;
* `Tallied` — the engine's own count agrees with what is seen from outside;
* `Lawful` — so losses are answered by number, with doubling delays, up to the greatest number of
  attempts, whatever their kinds.
-/

namespace Tether

namespace Phase

/-- Is an attempt scheduled? -/
def isScheduled : Phase → Bool
  | .reconnecting _ => true
  | _ => false

end Phase

namespace Effect

/-- The cause of a loss by a handshake that the transport did not take. -/
def unsent? : Effect → Option String
  | .write (.handshake h) (.error error) => some (Engine.unsent h error)
  | _ => none

end Effect

namespace Engine

open Effect (seen failure? request? unsent?)

theorem unsent_control (o : Outcome) : seen unsent? o.control = seen unsent? o.effects := by
  refine seen_control (fun x hx => ?_) o
  cases x with
  | write message answer =>
    cases message with
    | handshake _ => exact absurd hx (by simp [Effect.isControl])
    | envelope _ => rfl
  | _ => rfl

@[simp] theorem unsent_announcement (e : Engine) (phase : Phase) :
    seen unsent? (e.announcement phase) = [] := seen_announcement e rfl

@[simp] theorem unsent_farewell (e : Engine) : seen unsent? e.farewell = [] := seen_farewell e rfl

@[simp] theorem unsent_answers (e : Engine) (answer : Except Error Unit) :
    seen unsent? (e.answers answer) = [] := seen_answers e fun _ => rfl

/-! ## An outage seen from outside -/

namespace Turn

/-- The cause of the loss that a turn is. -/
def cause? : Turn → Option String
  | .lose cause => some cause
  | _ => none

/-- Does the count of losses begin anew? It does with a first attempt, an ack, and leaving. -/
def resets : Turn → Bool
  | .depart _ | .leave | .accept _ => true
  | _ => false

/-- Is the turn a caller's first attempt? -/
def departs : Turn → Bool
  | .depart _ => true
  | _ => false

end Turn

/-- The causes of the losses in a step: that of its turn, and those of handshakes not written. -/
def causes (s : Surroundings) (input : Input) (e : Engine) : List String :=
  (e.turn s.now input).cause?.toList ++ seen unsent? (e.step s input).effects

/-- The losses that an engine processes, with their causes. -/
inductive Loss (s : Surroundings) (input : Input) (e : Engine) : String → Prop where
  /-- An attempt is refused. -/
  | refused {error : Error} (is : input = .dialed (.error error)) (running : e.running)
      (dialing : e.dialing) : Loss s input e error.message
  /-- The connection closes. -/
  | closed {code : Option UInt16} {reason : String} (is : input = .signal (.closed code reason))
      (running : e.running) (receiver : e.receiver.isSome) : Loss s input e (closeCause code reason)
  /-- The socket fails. -/
  | failed {reason : String} (is : input = .signal (.failed reason)) (running : e.running)
      (receiver : e.receiver.isSome) : Loss s input e ("transport error: " ++ reason)
  /-- The line of the receiver ends. -/
  | detached (is : input = .detached) (running : e.running) (receiver : e.receiver.isSome) :
      Loss s input e (closeCause none "transport dropped")
  /-- A handshake cannot be written. -/
  | unsent {h : Handshake} {error : Error}
      (written : .write (.handshake h) (.error error) ∈ (e.step s input).effects) :
      Loss s input e (unsent h error)

/-- What happened since the count of losses began. -/
structure Outage where
  /-- It began with a call to connect. -/
  called : Bool := false
  losses : Nat := 0
  /-- Requests for a connection. -/
  requests : Nat := 0
  deriving DecidableEq, Repr

/-- One step more. -/
def Outage.next (s : Surroundings) (input : Input) (e : Engine) (a : Outage) : Outage :=
  let t := e.turn s.now input
  let a := if t.resets then { called := t.departs } else a
  { a with
    losses := a.losses + (e.causes s input).length
    requests := a.requests + (seen request? (e.step s input).effects).length }

/-- The outage at the end of a history. -/
def outage : History → Engine → Outage → Outage
  | [], _, a => a
  | (s, input) :: rest, e, a => outage rest (e.step s input).engine (a.next s input e)

/-! ## The course of an outage -/

/-- What a step is in the course of an outage. -/
inductive Course (s : Surroundings) (input : Input) (e : Engine) (o : Outcome) : Prop where
  /-- A loss, and an attempt is left. -/
  | retry {cause : String} (resets : (e.turn s.now input).resets = false)
      (causes : e.causes s input = [cause]) (expected : e.phase.reconnectsOnLoss)
      (left : e.backoff.attempts < e.config.reconnect.maxRetries)
      (phase : o.engine.phase = .reconnecting (e.backoff.attempts + 1))
      (timer : o.engine.reconnectAt = some (s.now + (e.backoff.delay e.backoff.attempts).toNat))
      (attempts : o.engine.backoff.attempts = e.backoff.attempts + 1)
      (requests : seen request? o.effects = []) (failures : seen failure? o.effects = [])
  /-- A loss, and none is left. -/
  | giveUp {cause : String} (resets : (e.turn s.now input).resets = false)
      (causes : e.causes s input = [cause]) (expected : e.phase.reconnectsOnLoss)
      (none : e.backoff.attempts = e.config.reconnect.maxRetries)
      (phase : o.engine.phase = .permanentlyFailed) (timer : o.engine.reconnectAt = .none)
      (requests : seen request? o.effects = [])
      (failures : seen failure? o.effects =
        [.retryExhausted e.config.reconnect.maxRetries cause])
  /-- A first attempt. -/
  | depart {caller : Nat} (is : input = .command (.connect caller))
      (resets : (e.turn s.now input).resets = true) (departs : (e.turn s.now input).departs = true)
      (causes : e.causes s input = [])
      (settled : e.phase = .disconnected ∨ e.phase = .permanentlyFailed)
      (phase : o.engine.phase = .connecting) (timer : o.engine.reconnectAt = e.reconnectAt)
      (attempts : o.engine.backoff.attempts = 0)
      (requests : seen request? o.effects = [(e.config.url, e.config.subprotocol)])
      (failures : seen failure? o.effects = [])
  /-- The host disconnects, or lets go of the client. -/
  | leave (is : (∃ caller, input = .command (.disconnect caller)) ∨ input = .shutdown)
      (resets : (e.turn s.now input).resets = true) (departs : (e.turn s.now input).departs = false)
      (causes : e.causes s input = []) (phase : o.engine.phase = .disconnected)
      (timer : o.engine.reconnectAt = none) (attempts : o.engine.backoff.attempts = 0)
      (requests : seen request? o.effects = []) (failures : seen failure? o.effects = [])
  /-- A session is granted. -/
  | accept (resets : (e.turn s.now input).resets = true)
      (departs : (e.turn s.now input).departs = false) (causes : e.causes s input = [])
      (expected : e.phase.reconnectsOnLoss) (phase : o.engine.phase = .established)
      (timer : o.engine.reconnectAt = e.reconnectAt) (attempts : o.engine.backoff.attempts = 0)
      (requests : seen request? o.effects = []) (failures : seen failure? o.effects = [])
  /-- A session is refused. -/
  | refuse {reason : String} (resets : (e.turn s.now input).resets = false)
      (causes : e.causes s input = []) (expected : e.phase.reconnectsOnLoss)
      (phase : o.engine.phase = .permanentlyFailed) (timer : o.engine.reconnectAt = none)
      (requests : seen request? o.effects = [])
      (failures : seen failure? o.effects = [.protocolRejection reason])
  /-- The timer of the scheduled attempt fires. -/
  | redial (is : input = .reconnect) (due : Heartbeat.isDue e.reconnectAt s.now)
      (resets : (e.turn s.now input).resets = false) (causes : e.causes s input = [])
      (phase : o.engine.phase = .connecting) (timer : o.engine.reconnectAt = none)
      (attempts : o.engine.backoff.attempts = e.backoff.attempts)
      (requests : seen request? o.effects = [(e.config.url, e.config.subprotocol)])
      (failures : seen failure? o.effects = [])
  /-- Nothing that counts. -/
  | other (resets : (e.turn s.now input).resets = false) (causes : e.causes s input = [])
      (idle : input = .reconnect → Heartbeat.isDue e.reconnectAt s.now = false ∨ ¬e.running)
      (phase : o.engine.phase = e.phase ∨
        e.phase.reconnectsOnLoss ∧ o.engine.phase.reconnectsOnLoss)
      (timer : o.engine.reconnectAt = e.reconnectAt)
      (attempts : o.engine.backoff.attempts = e.backoff.attempts)
      (requests : seen request? o.effects = []) (failures : seen failure? o.effects = [])

variable {e : Engine} {s : Surroundings} {input : Input}

/-- The causes of a step, from its turn and its control effects. -/
theorem causes_eq {t : Turn} {xs : List Effect} (ht : e.turn s.now input = t)
    (hc : (e.step s input).control = xs) :
    e.causes s input = t.cause?.toList ++ seen unsent? xs := by
  rw [causes, ht, ← unsent_control, hc]

/-- A turn that loses the connection has the cause of a loss. -/
theorem loss_of_turn {cause : String} (ht : e.turn s.now input = .lose cause) :
    Loss s input e cause := by
  have hrun := running_of_turn s.now input e (by rw [ht]; simp)
  rw [turn, if_pos hrun] at ht
  unfold inputTurn at ht
  cases input with
  | command c =>
    cases c with
    | connect caller =>
      dsimp only at ht
      unfold connectTurn at ht
      split at ht
      · cases ht
      · split at ht <;> cases ht
    | disconnect _ | send _ | snapshot _ => cases ht
  | shutdown => cases ht
  | dialed answer =>
    cases answer with
    | ok _ => dsimp only at ht; split at ht <;> cases ht
    | error error =>
      dsimp only at ht
      split at ht
      · cases ht; exact .refused rfl hrun ‹_›
      · cases ht
  | signal signal =>
    dsimp only at ht
    split at ht
    · unfold signalTurn at ht
      cases signal with
      | opened => dsimp only at ht; split at ht <;> cases ht
      | message frame =>
        dsimp only at ht
        unfold frameTurn at ht
        split at ht
        · cases ht
        · split at ht <;> cases ht
        · cases ht
      | closed code reason => cases ht; exact .closed rfl hrun ‹_›
      | failed reason => cases ht; exact .failed rfl hrun ‹_›
    · cases ht
  | detached =>
    dsimp only at ht
    split at ht
    · cases ht; exact .detached rfl hrun ‹_›
    · cases ht
  | tick t =>
    cases t with
    | ping => cases ht
    | timeout => dsimp only at ht; split at ht <;> cases ht
  | reconnect => dsimp only at ht; split at ht <;> cases ht

/-- The causes of a step are those of the losses it processes. -/
theorem mem_causes_iff {cause : String} : cause ∈ e.causes s input ↔ Loss s input e cause := by
  have hturn : ∀ {cause}, e.running → e.inputTurn s.now input = .lose cause →
      cause ∈ e.causes s input := by
    intro cause hrun ht
    rw [causes, turn, if_pos hrun, ht]
    exact List.mem_cons_self
  constructor
  · intro hc
    rcases List.mem_append.mp hc with hc | hc
    · cases ht : e.turn s.now input with
      | lose cause' =>
        rw [ht] at hc
        obtain rfl := List.mem_singleton.mp hc
        exact loss_of_turn ht
      | _ => rw [ht] at hc; exact absurd hc List.not_mem_nil
    · obtain ⟨x, hx, hcause⟩ := List.mem_filterMap.mp hc
      cases x with
      | write message answer =>
        cases message with
        | handshake h =>
          cases answer with
          | error error => cases hcause; exact .unsent hx
          | ok _ => cases hcause
        | envelope _ => cases hcause
      | _ => cases hcause
  · intro hl
    cases hl with
    | refused is running dialing => subst is; exact hturn running (if_pos dialing)
    | closed is running receiver | failed is running receiver | detached is running receiver =>
      subst is; exact hturn running (if_pos receiver)
    | unsent written =>
      exact List.mem_append_right _ (List.mem_filterMap.mpr ⟨_, written, rfl⟩)

/-- What follows a loss tries no handshake. -/
theorem unsent_lost {now : Nat} {cause : String} {o : Outcome} (hl : Lost now cause e o) :
    seen unsent? o.control = [] := by
  cases hl with
  | retry _ _ control | giveUp _ _ control => rw [control]; simp [unsent?]

/-- A loss of an engine that differs in nothing that counts. -/
theorem course_lost {cause : String} {e' : Engine} {o' : Outcome} (xs : List Effect)
    (resets : (e.turn s.now input).resets = false) (causes : e.causes s input = [cause])
    (hp : e.phase.reconnectsOnLoss) (hl : Lost s.now cause e' o') (h : e'.Timed)
    (hp' : e'.phase.reconnectsOnLoss) (hb : e'.backoff = e.backoff) (hcfg : e'.config = e.config)
    (he : (e.step s input).engine = o'.engine) (hc : (e.step s input).control = xs ++ o'.control)
    (hr : seen request? xs = []) (hf : seen failure? xs = []) :
    Course s input e (e.step s input) := by
  have hpend := h.not_pending hp'
  cases hl with
  | retry left engine control =>
    -- what is known of `e'` is said of `e`, whose backoff is the same
    rw [hb, hcfg] at left
    have hconfig : e.backoff.config = e.config.reconnect := by rw [← hb, h.config, hcfg]
    have hsched := Backoff.schedule_of_lt (b := e.backoff) (hb ▸ hpend) (by rw [hconfig]; exact left)
    refine .retry resets causes hp left ?_ ?_ ?_ ?_ ?_
    · rw [he, engine, ← hb]; rfl
    · rw [he, engine, ← hb]; rfl
    · rw [he, engine]
      show e'.backoff.schedule.1.attempts = _
      rw [hb, hsched]
    · rw [← requests_control, hc, control]; simp [hr, request?]
    · rw [← failures_control, hc, control]; simp [hf, failure?]
  | giveUp none engine control =>
    rw [hb, hcfg] at none
    refine .giveUp resets causes hp none ?_ ?_ ?_ ?_
    · rw [he, engine]; rfl
    · rw [he, engine]; rfl
    · rw [← requests_control, hc, control]; simp [hr, request?]
    · rw [← failures_control, hc, control, hcfg]; simp [hf, failure?]

/-- A handshake counts for nothing, unless it cannot be written. -/
theorem course_sendHandshake {t : Turn} {e' : Engine} (ht : e.turn s.now input = t)
    (hcause : t.cause? = none) (hresets : t.resets = false) (hi : input ≠ .reconnect)
    (hp : e.phase.reconnectsOnLoss) (h : e'.Sound) (hr : e'.receiver.isSome)
    (hp' : e'.phase ≠ .established) (hb : e'.backoff = e.backoff) (hcfg : e'.config = e.config)
    (htimer : e'.reconnectAt = e.reconnectAt)
    (he : (e.step s input).engine = (e'.sendHandshake s).engine)
    (hc : (e.step s input).control = (e'.sendHandshake s).control) :
    Course s input e (e.step s input) := by
  have hsound := h.awaitingAnswer (s := s) hr hp'
  have hkeep : (e.turn s.now input).resets = false := ht ▸ hresets
  cases h.offered s hr hp' with
  | waits engine control =>
    refine .other hkeep ?_ (fun h => absurd h hi) (Or.inr ⟨hp, ?_⟩) ?_ ?_ ?_ ?_
    · rw [causes_eq ht (hc.trans control), hcause]; simp [unsent?]
    · rw [he, engine]; rfl
    · rw [he, engine]; exact htimer
    · rw [he, engine]; exact congrArg Backoff.attempts hb
    · rw [← requests_control, hc, control]; simp [request?]
    · rw [← failures_control, hc, control]; simp [failure?]
  | unsent lost engine control =>
    refine course_lost _ hkeep ?_ hp lost hsound.timed rfl hb hcfg (he.trans engine)
      (hc.trans control) ?_ ?_
    · rw [causes_eq ht (hc.trans control), hcause, Effect.seen_append, unsent_lost lost]
      simp [unsent?]
    · simp [request?]
    · simp [failure?]

/-- A timer that has come is not passed over. -/
theorem not_due_of_passing {now : Nat} (ht : e.turn now .reconnect = .passing) :
    Heartbeat.isDue e.reconnectAt now = false ∨ ¬e.running := by
  refine Classical.or_iff_not_imp_right.mpr fun hrun => eq_false_of_ne_true fun hdue => ?_
  have hredial : e.turn now .reconnect = .redial := by
    rw [turn, if_pos (Classical.not_not.mp hrun)]
    exact if_pos hdue
  rw [hredial] at ht
  exact absurd ht (by simp)

/-- **Every step has its place in the course of an outage.** -/
theorem step_course (s : Surroundings) (input : Input) (h : e.Sound) :
    Course s input e (e.step s input) := by
  have hstep := step_stepped s input e
  generalize ht : e.turn s.now input = t at hstep
  cases hstep with
  | passing _ passes =>
    obtain ⟨⟨_, _, _, he⟩, hc⟩ := passes
    refine .other (by rw [ht]; rfl) (causes_eq ht hc) ?_ (Or.inl (by rw [he])) (by rw [he])
      (by rw [he]) ?_ ?_
    · rintro rfl; exact not_due_of_passing ht
    · rw [← requests_control, hc]; rfl
    · rw [← failures_control, hc]; rfl
  | greet is _ engine control | join is _ engine control | attach is _ engine control
  | alarm is _ engine control =>
    refine .other (by rw [ht]; rfl) (causes_eq ht control) (by rw [is]; simp)
      (Or.inl (by rw [engine])) (by rw [engine]) (by rw [engine]) ?_ ?_
    · rw [← requests_control, control]; rfl
    · rw [← failures_control, control]; rfl
  | depart is phase engine control =>
    refine .depart is (by rw [ht]; rfl) (by rw [ht]; rfl) (causes_eq ht control) phase
      (by rw [engine]; rfl) (by rw [engine]; rfl) (by rw [engine]; rfl) ?_ ?_
    · rw [← requests_control, control]; rfl
    · rw [← failures_control, control]; rfl
  | leave is engine control =>
    obtain ⟨_, he⟩ := engine
    refine .leave is (by rw [ht]; rfl) (by rw [ht]; rfl) ?_ (by rw [he]) (by rw [he]; rfl)
      (by rw [he]; rfl) ?_ ?_
    · rw [causes_eq ht control]; simp [Turn.cause?, unsent?]
    · rw [← requests_control, control]; simp [request?]
    · rw [← failures_control, control]; simp [failure?]
  | offer is receiver phase engine control =>
    exact course_sendHandshake ht rfl rfl (by rw [is]; simp) (by rw [phase]; rfl) h receiver
      (by rw [phase]; simp) rfl rfl rfl engine control
  | fallBack is _ receiver phase _ engine control =>
    have hne : e.phase ≠ .established := by rw [phase]; simp
    exact course_sendHandshake ht rfl rfl (by rw [is]; simp) (by rw [phase]; rfl)
      (h.fallenBack hne) receiver hne rfl rfl rfl engine control
  | accept _ _ _ phase engine control =>
    refine .accept (by rw [ht]; rfl) (by rw [ht]; rfl) ?_ (by rw [phase]; rfl)
      (by rw [engine]; rfl) (by rw [engine]; rfl) (by rw [engine]; rfl) ?_ ?_
    · rw [causes_eq ht control]; simp [Turn.cause?, unsent?]
    · rw [← requests_control, control]; simp [request?]
    · rw [← failures_control, control]; simp [failure?]
  | @refuse _ reject _ _ _ _ phase _ engine control =>
    have hfail : seen failure? (e.step s input).effects = [.protocolRejection reject.reason] := by
      rw [← failures_control, control]; simp [failure?]
    refine .refuse (by rw [ht]; rfl) ?_ (by rw [phase]; rfl) (by rw [engine])
      (by rw [engine]; rfl) ?_ hfail
    · rw [causes_eq ht control]; simp [Turn.cause?, unsent?]
    · rw [← requests_control, control]; simp [request?]
  | @lose cause live engine control =>
    have hp := h.wired.expected live
    have hlost := h.timed.lost hp s.now cause
    refine course_lost [] (by rw [ht]; rfl) ?_ hp hlost h.timed hp rfl rfl engine control
      rfl rfl
    rw [causes_eq ht control, unsent_lost hlost]; rfl
  | redial is due engine control =>
    refine .redial is due (by rw [ht]; rfl) ?_ (by rw [engine]) (by rw [engine])
      (by rw [engine]; rfl) ?_ ?_
    · rw [causes_eq ht control]; simp [Turn.cause?, unsent?]
    · rw [← requests_control, control]; simp [request?]
    · rw [← failures_control, control]; simp [failure?]

/-! ## The count -/

/-- The greatest number of attempts. -/
def limit (e : Engine) : Nat := e.config.reconnect.maxRetries.toNat

/-- The engine's count agrees with what is seen from outside. -/
structure Tallied (e : Engine) (a : Outage) : Prop where
  /-- Every loss was granted an attempt. -/
  losses : e.phase ≠ .permanentlyFailed → a.losses = e.backoff.attempts.toNat
  /-- Every attempt was made, but for one that is scheduled. -/
  requests : e.phase ≠ .permanentlyFailed →
    a.requests + e.phase.isScheduled.toNat = a.losses + a.called.toNat
  /-- An engine that gave up has lost at most one connection too many. -/
  failed : e.phase = .permanentlyFailed → a.losses ≤ e.limit + 1 ∧
    a.requests ≤ e.limit + a.called.toNat

theorem Phase.not_scheduled {p : Phase} (hp : p.reconnectsOnLoss) : p.isScheduled = false := by
  cases p with
  | connecting | awaiting _ | established => rfl
  | disconnected | reconnecting _ | permanentlyFailed => exact absurd hp Bool.false_ne_true

theorem Phase.not_failed {p : Phase} (hp : p.reconnectsOnLoss) : p ≠ .permanentlyFailed := by
  intro h; rw [h] at hp; exact absurd hp Bool.false_ne_true

/-- The outage after a step that resets no count. -/
theorem next_of_keeps {a : Outage} {causes : List String} {requests : List (String × String)}
    (hr : (e.turn s.now input).resets = false) (hc : e.causes s input = causes)
    (hq : seen request? (e.step s input).effects = requests) :
    a.next s input e =
      { a with
        losses := a.losses + causes.length
        requests := a.requests + requests.length } := by
  unfold Outage.next
  dsimp only
  rw [hc, hq, hr]; rfl

/-- The outage after a step that resets the count. -/
theorem next_of_resets {a : Outage} {called : Bool} {requests : List (String × String)}
    (hr : (e.turn s.now input).resets = true) (hd : (e.turn s.now input).departs = called)
    (hc : e.causes s input = []) (hq : seen request? (e.step s input).effects = requests) :
    a.next s input e = { called, losses := 0, requests := requests.length } := by
  unfold Outage.next
  dsimp only
  rw [hc, hq, hr, hd]
  show Outage.mk called (0 + 0) (0 + requests.length) = _
  rw [Nat.zero_add, Nat.zero_add]

/-- **One step keeps the count.** -/
theorem tallied_step (s : Surroundings) (input : Input) {a : Outage} (h : e.Sound)
    (ha : e.Tallied a) : Tallied (e.step s input).engine (a.next s input e) := by
  have hlimit : (e.step s input).engine.limit = e.limit := by
    rw [limit, limit, config_step s input h]
  cases step_course s input h with
  | retry resets causes expected left phase timer attempts requests _ =>
    have hl := ha.losses (Phase.not_failed expected)
    have hq := ha.requests (Phase.not_failed expected)
    have hnext := Backoff.toNat_attempts_add_one (b := e.backoff) (h.timed.config ▸ left)
    rw [next_of_keeps resets causes requests]
    rw [Phase.not_scheduled expected] at hq
    refine ⟨fun _ => ?_, fun _ => ?_, fun hf => absurd (phase.symm.trans hf) (by simp)⟩
    · rw [attempts, hnext, hl]; rfl
    · rw [phase]
      show a.requests + 0 + 1 = a.losses + 1 + a.called.toNat
      simp only [Bool.toNat_false] at hq
      omega
  | giveUp resets causes expected none phase _ requests _ =>
    -- the engine forgets its count when it gives up, so only the bounds are left
    have hl := ha.losses (Phase.not_failed expected)
    have hq := ha.requests (Phase.not_failed expected)
    rw [next_of_keeps resets causes requests]
    rw [Phase.not_scheduled expected] at hq
    have hmax : a.losses = e.limit := by rw [hl, none]; rfl
    refine ⟨fun hf => absurd phase hf, fun hf => absurd phase hf, fun _ => ?_⟩
    rw [hlimit]
    show a.losses + 1 ≤ e.limit + 1 ∧ a.requests + 0 ≤ e.limit + a.called.toNat
    simp only [Bool.toNat_false] at hq
    omega
  | depart _ resets departs causes _ phase _ attempts requests _
  | leave _ resets departs causes phase _ attempts requests _
  | accept resets departs causes _ phase _ attempts requests _ =>
    -- both counts begin anew, the engine's and ours
    rw [next_of_resets resets departs causes requests]
    refine ⟨fun _ => ?_, fun _ => ?_, fun hf => absurd (phase.symm.trans hf) (by simp)⟩
    · rw [attempts]; rfl
    · rw [phase]; rfl
  | refuse resets causes expected phase _ requests _ =>
    have hl := ha.losses (Phase.not_failed expected)
    have hq := ha.requests (Phase.not_failed expected)
    have hmax : e.backoff.attempts.toNat ≤ e.limit := UInt32.le_iff_toNat_le.mp h.timed.attempts
    rw [next_of_keeps resets causes requests]
    rw [Phase.not_scheduled expected] at hq
    refine ⟨fun hf => absurd phase hf, fun hf => absurd phase hf, fun _ => ?_⟩
    rw [hlimit]
    show a.losses + 0 ≤ e.limit + 1 ∧ a.requests + 0 ≤ e.limit + a.called.toNat
    simp only [Bool.toNat_false] at hq
    omega
  | redial _ due resets causes phase _ attempts requests _ =>
    -- the attempt that was scheduled is the one that is made
    obtain ⟨n, hn⟩ := h.timed.reconnecting_of_due due
    have hne : e.phase ≠ .permanentlyFailed := by rw [hn]; simp
    have hq := ha.requests hne
    rw [hn] at hq
    rw [next_of_keeps resets causes requests]
    refine ⟨fun _ => ?_, fun _ => ?_, fun hf => absurd (phase.symm.trans hf) (by simp)⟩
    · rw [attempts]; exact ha.losses hne
    · rw [phase]; exact hq
  | other resets causes _ phase _ attempts requests _ =>
    -- the phase may change, but only between those that expect a transport
    rw [next_of_keeps resets causes requests]
    have hscheduled : (e.step s input).engine.phase.isScheduled = e.phase.isScheduled := by
      rcases phase with hp | ⟨hp, hp'⟩
      · rw [hp]
      · rw [Phase.not_scheduled hp, Phase.not_scheduled hp']
    have hfailed : (e.step s input).engine.phase = .permanentlyFailed ↔
        e.phase = .permanentlyFailed := by
      rcases phase with hp | ⟨hp, hp'⟩
      · rw [hp]
      · exact iff_of_false (Phase.not_failed hp') (Phase.not_failed hp)
    refine ⟨fun hf => ?_, fun hf => ?_, fun hf => ?_⟩
    · rw [attempts]; exact ha.losses (mt hfailed.mpr hf)
    · rw [hscheduled]; exact ha.requests (mt hfailed.mpr hf)
    · rw [hlimit]; exact ha.failed (hfailed.mp hf)

/-- **Every history keeps the count.** -/
theorem tallied_run (history : History) {a : Outage} (h : e.Sound) (ha : e.Tallied a) :
    Tallied (run history e).engine (outage history e a) := by
  induction history generalizing e a with
  | nil => exact ha
  | cons head rest ih =>
    obtain ⟨s, input⟩ := head
    exact ih (sound_step s input h) (tallied_step s input h ha)

/-- A client that was just created has lost nothing. -/
theorem tallied_create (config : Config) (thread : Option String) :
    Tallied (create config thread) {} :=
  ⟨fun _ => rfl, fun _ => rfl, fun hf => absurd hf (by simp [create])⟩

/-! ## The law of outages -/

/-- A loss, when `losses` others came before it: it is granted an attempt and a delay, or it is the
    last. -/
def Counted (config : Config) (losses : Nat) (now : Nat) (cause : String) (o : Outcome) : Prop :=
  if losses < config.reconnect.maxRetries.toNat then
    (∃ attempt, o.engine.phase = .reconnecting attempt ∧ attempt.toNat = losses + 1) ∧
      o.engine.reconnectAt = some (now +
        min (config.reconnect.baseDelay.toNat * 2 ^ losses) config.reconnect.maxDelay.toNat) ∧
      seen request? o.effects = [] ∧ seen failure? o.effects = []
  else
    losses = config.reconnect.maxRetries.toNat ∧ o.engine.phase = .permanentlyFailed ∧
      o.engine.reconnectAt = none ∧ seen request? o.effects = [] ∧
      seen failure? o.effects = [.retryExhausted config.reconnect.maxRetries cause]

/-- What a step does to an attempt scheduled for a time: it begins at its time and not before, unless
    the host disconnects. -/
inductive Awaited (config : Config) (time : Nat) (s : Surroundings) (input : Input) (e : Engine)
    (o : Outcome) : Prop where
  | begins (is : input = .reconnect) (due : time ≤ s.now)
      (requests : seen request? o.effects = [(config.url, config.subprotocol)])
      (phase : o.engine.phase = .connecting) (timer : o.engine.reconnectAt = none)
  | abandoned (is : (∃ caller, input = .command (.disconnect caller)) ∨ input = .shutdown)
      (requests : seen request? o.effects = []) (phase : o.engine.phase = .disconnected)
      (timer : o.engine.reconnectAt = none)
  | still (early : input = .reconnect → s.now < time) (requests : seen request? o.effects = [])
      (phase : o.engine.phase = e.phase) (timer : o.engine.reconnectAt = some time)

/-- The law of outages, for an engine and the outage it is in, over any step that may follow. -/
structure Lawful (config : Config) (e : Engine) (a : Outage) : Prop where
  /-- Every loss is counted, and nothing else. -/
  counted : ∀ s input cause, cause ∈ e.causes s input ↔ Loss s input e cause
  /-- Losses come one at a time, and each is answered by its number. -/
  loss : ∀ s input cause, Loss s input e cause → e.causes s input = [cause] ∧
    e.reconnectAt = none ∧ Counted config a.losses s.now cause (e.step s input)
  /-- Without a loss no timer is set, and nobody gives up but over a rejection. -/
  noLoss : ∀ s input, e.causes s input = [] →
    ((e.step s input).engine.reconnectAt = none ∨
      (e.step s input).engine.reconnectAt = e.reconnectAt) ∧
    ∀ error ∈ seen failure? (e.step s input).effects, ∃ reason, error = .protocolRejection reason
  /-- A scheduled attempt has the number of the last loss, and begins at its time. -/
  scheduled : ∀ n, e.phase = .reconnecting n → n.toNat = a.losses ∧
    ∃ time, e.reconnectAt = some time ∧ ∀ s input, Awaited config time s input e (e.step s input)
  /-- Nothing else asks for a connection but a call that finds the client settled. -/
  requests : ∀ s input, seen request? (e.step s input).effects = [] ∨
    seen request? (e.step s input).effects = [(config.url, config.subprotocol)] ∧
      ((input = .reconnect ∧ ∃ n, e.phase = .reconnecting n) ∨
        (∃ caller, input = .command (.connect caller)) ∧
          (e.phase = .disconnected ∨ e.phase = .permanentlyFailed))
  /-- Once the client has given up, nothing is lost and nobody is told again. -/
  failed : e.phase = .permanentlyFailed → ∀ s input, e.causes s input = [] ∧
    seen failure? (e.step s input).effects = [] ∧
    ((e.step s input).engine.phase = .permanentlyFailed ∨ (e.turn s.now input).resets = true)
  /-- Between two resets there are at most as many attempts as configured, and one more if a call to
      connect began them. -/
  bounded : a.losses ≤ config.reconnect.maxRetries.toNat + 1 ∧
    a.requests ≤ config.reconnect.maxRetries.toNat + a.called.toNat

/-- Losses and requests are bounded by the limit of the configuration. -/
theorem Tallied.bounded {a : Outage} (h : e.Sound) (ha : e.Tallied a) :
    a.losses ≤ e.limit + 1 ∧ a.requests ≤ e.limit + a.called.toNat := by
  by_cases hf : e.phase = .permanentlyFailed
  · exact ha.failed hf
  · have hl := ha.losses hf
    have hq := ha.requests hf
    have hmax : e.backoff.attempts.toNat ≤ e.limit := UInt32.le_iff_toNat_le.mp h.timed.attempts
    omega

/-- **Each loss is answered by its number.** -/
theorem counted_loss (s : Surroundings) (input : Input) {a : Outage} {cause : String} (h : e.Sound)
    (ha : e.Tallied a) (hc : cause ∈ e.causes s input) :
    e.causes s input = [cause] ∧ e.reconnectAt = none ∧
      Counted e.config a.losses s.now cause (e.step s input) := by
  cases step_course s input h with
  | retry _ causes expected left phase timer _ requests failures =>
    rw [causes] at hc
    obtain rfl := List.mem_singleton.mp hc
    have hl := ha.losses (Phase.not_failed expected)
    have hlt : a.losses < e.config.reconnect.maxRetries.toNat :=
      hl ▸ UInt32.lt_iff_toNat_lt.mp left
    have hnext := Backoff.toNat_attempts_add_one (b := e.backoff) (h.timed.config ▸ left)
    refine ⟨causes, h.timed.timer_eq_none (h.timed.not_pending expected), ?_⟩
    rw [Counted, if_pos hlt]
    refine ⟨⟨_, phase, by rw [hnext, hl]⟩, ?_, requests, failures⟩
    rw [timer, Backoff.toNat_delay, h.timed.config, hl]
  | giveUp _ causes expected none phase timer requests failures =>
    rw [causes] at hc
    obtain rfl := List.mem_singleton.mp hc
    have hl : a.losses = e.config.reconnect.maxRetries.toNat := by
      rw [ha.losses (Phase.not_failed expected), none]
    refine ⟨causes, h.timed.timer_eq_none (h.timed.not_pending expected), ?_⟩
    rw [Counted, if_neg (by omega)]
    exact ⟨hl, phase, timer, requests, failures⟩
  | depart _ _ _ causes | leave _ _ _ causes | accept _ _ causes | refuse _ causes
  | redial _ _ _ causes | other _ causes => rw [causes] at hc; exact absurd hc List.not_mem_nil

/-- Without a loss no timer is set, and nobody gives up but over a rejection. -/
theorem noLoss_step (s : Surroundings) (input : Input) (h : e.Sound) (hc : e.causes s input = []) :
    ((e.step s input).engine.reconnectAt = none ∨
      (e.step s input).engine.reconnectAt = e.reconnectAt) ∧
    ∀ error ∈ seen failure? (e.step s input).effects,
      ∃ reason, error = .protocolRejection reason := by
  cases step_course s input h with
  | retry _ causes | giveUp _ causes =>
    rw [causes] at hc; exact absurd hc (List.cons_ne_nil _ _)
  | depart _ _ _ _ _ _ timer _ _ failures | accept _ _ _ _ _ timer _ _ failures
  | other _ _ _ _ timer _ _ failures =>
    exact ⟨Or.inr timer, fun error he => absurd (failures ▸ he) List.not_mem_nil⟩
  | leave _ _ _ _ _ timer _ _ failures | redial _ _ _ _ _ timer _ _ failures =>
    exact ⟨Or.inl timer, fun error he => absurd (failures ▸ he) List.not_mem_nil⟩
  | refuse _ _ _ _ timer _ failures =>
    exact ⟨Or.inl timer, fun error he => ⟨_, List.mem_singleton.mp (failures ▸ he)⟩⟩

/-- **A scheduled attempt begins at its time, and not before.** -/
theorem awaited_step (s : Surroundings) (input : Input) {time : Nat} {n : UInt32} (h : e.Sound)
    (hp : e.phase = .reconnecting n) (ht : e.reconnectAt = some time) :
    Awaited e.config time s input e (e.step s input) := by
  have hloss : ¬e.phase.reconnectsOnLoss := by rw [hp]; exact Bool.false_ne_true
  have hrun : e.running := by
    refine Classical.byContradiction fun hr => ?_
    exact absurd (hp.symm.trans (h.stopped (eq_false_of_ne_true hr))) (by simp)
  cases step_course s input h with
  | retry _ _ expected | giveUp _ _ expected | accept _ _ _ expected | refuse _ _ expected =>
    exact absurd expected hloss
  | depart _ _ _ _ settled =>
    rw [hp] at settled
    exact absurd settled (by simp)
  | leave is _ _ _ phase timer _ requests _ => exact .abandoned is requests phase timer
  | redial is due _ _ phase timer _ requests _ =>
    rw [ht] at due
    exact .begins is (of_decide_eq_true due) requests phase timer
  | other _ _ idle phase timer _ requests _ =>
    -- a running engine passes over its timer only before the time
    refine .still (fun hi => ?_) requests (phase.resolve_right fun hp' => hloss hp'.1)
      (timer.trans ht)
    have hnot : Heartbeat.isDue e.reconnectAt s.now = false :=
      (idle hi).resolve_right (not_not_intro hrun)
    rw [ht] at hnot
    exact Nat.not_le.mp (of_decide_eq_false hnot)

/-- A step requests a connection once at most: when the timer fires, or for a caller of connect. -/
theorem requests_step (s : Surroundings) (input : Input) (h : e.Sound) :
    seen request? (e.step s input).effects = [] ∨
    seen request? (e.step s input).effects = [(e.config.url, e.config.subprotocol)] ∧
      ((input = .reconnect ∧ ∃ n, e.phase = .reconnecting n) ∨
        (∃ caller, input = .command (.connect caller)) ∧
          (e.phase = .disconnected ∨ e.phase = .permanentlyFailed)) := by
  cases step_course s input h with
  | retry _ _ _ _ _ _ _ requests | giveUp _ _ _ _ _ _ requests | leave _ _ _ _ _ _ _ requests
  | accept _ _ _ _ _ _ _ requests | refuse _ _ _ _ _ requests | other _ _ _ _ _ _ requests =>
    exact Or.inl requests
  | depart is _ _ _ settled _ _ _ requests =>
    exact Or.inr ⟨requests, Or.inr ⟨⟨_, is⟩, settled⟩⟩
  | redial is due _ _ _ _ _ requests =>
    exact Or.inr ⟨requests, Or.inl ⟨is, h.timed.reconnecting_of_due due⟩⟩

/-- After permanent failure nothing is lost and nobody is told again, until the books are started over. -/
theorem failed_step (s : Surroundings) (input : Input) (h : e.Sound)
    (hp : e.phase = .permanentlyFailed) : e.causes s input = [] ∧
    seen failure? (e.step s input).effects = [] ∧
    ((e.step s input).engine.phase = .permanentlyFailed ∨
      (e.turn s.now input).resets = true) := by
  have hloss : ¬e.phase.reconnectsOnLoss := by rw [hp]; exact Bool.false_ne_true
  cases step_course s input h with
  | retry _ _ expected | giveUp _ _ expected | accept _ _ _ expected | refuse _ _ expected =>
    exact absurd expected hloss
  | depart _ resets _ causes _ _ _ _ _ failures | leave _ resets _ causes _ _ _ _ failures =>
    exact ⟨causes, failures, Or.inr resets⟩
  | redial _ due =>
    obtain ⟨_, hn⟩ := h.timed.reconnecting_of_due due
    exact absurd (hp.symm.trans hn) (by simp)
  | other _ causes _ phase _ _ _ failures =>
    exact ⟨causes, failures, Or.inl ((phase.resolve_right fun hp' => hloss hp'.1).trans hp)⟩

/-- **The law of outages** holds after every history of a client, whatever its configuration and its
    persisted thread. -/
theorem lawful_run (config : Config) (thread : Option String) (history : History) :
    Lawful config (run history (create config thread)).engine
      (outage history (create config thread) {}) := by
  have hcreate := sound_create config thread
  have h := sound_run history hcreate
  have ha := tallied_run history hcreate (tallied_create config thread)
  have hconfig : (run history (create config thread)).engine.config = config :=
    config_run history hcreate
  generalize (run history (create config thread)).engine = e at h ha hconfig
  generalize outage history (create config thread) {} = a at ha
  subst hconfig
  refine ⟨fun s input cause => mem_causes_iff,
    fun s input cause hc => counted_loss s input h ha (mem_causes_iff.mpr hc),
    fun s input hc => noLoss_step s input h hc, fun n hp => ⟨?_, ?_⟩,
    fun s input => requests_step s input h, fun hp s input => failed_step s input h hp,
    ha.bounded h⟩
  · rw [ha.losses (by rw [hp]; simp), (h.timed.number n hp).1]
  · have hpend : e.reconnectAt.isSome := h.timed.timer.trans (h.timed.pending.mpr ⟨n, hp⟩)
    obtain ⟨time, ht⟩ := Option.isSome_iff_exists.mp hpend
    exact ⟨time, ht, fun s input => awaited_step s input h hp ht⟩

end Engine
end Tether
