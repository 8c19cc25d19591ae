import Tether.Proofs.Engine.Resources

/-!
# `Tether.Proofs.Engine.Messages` — what a step does to messages

Messages within a session are envelopes that the client writes, and envelopes that it takes in. An input
asks for one of the first (`Engine.draft?`), brings one of the second (`Engine.taken?`), or has nothing
to do with messages. In the third case the step is `Mute`: it writes no envelope, tells the host of no
message and moves no counter, however many handlers call each other.

* `Mute` — composes along `andThen`, so one lemma for each handler is enough;
* `Submitted` — what becomes of a message that is to be sent, one case for each way it goes;
* `step_mute`, `step_of_draft`, `step_of_taken` — a step is one of the three;
* `wire_step` — what a step does to the transport: at most one message, and closing afterwards.
-/

namespace Tether

namespace Effect

/-- Is the effect about a message within a session: an envelope that is written, or what the host hears
    of one that arrived? -/
def isTraffic : Effect → Bool
  | .write (.envelope _) _ => true
  | .host (.error _) | .host (.stateUpdate _) | .host (.event _) | .host .pong => true
  | _ => false

/-- Does the effect reach the transport of a connection: a message or a close? -/
def isWire : Effect → Bool
  | .write _ _ | .close => true
  | _ => false

end Effect

namespace Session

/-- What was counted of messages: those sent, those received and those that did not verify. -/
def counters (σ : Session) : Nat × Nat × Nat := (σ.sent, σ.received, σ.verificationFailures)

end Session

namespace Engine

namespace Outcome

/-- The effects about messages within a session, in order. -/
def traffic (o : Outcome) : List Effect := o.effects.filter Effect.isTraffic

/-- The effects that reach the transport of a connection, in order. -/
def wire (o : Outcome) : List Effect := o.effects.filter Effect.isWire

end Outcome

/-! ## Handlers that have nothing to do with messages -/

/-- No envelope is written, the host hears of no message, and no counter moves. -/
structure Mute (e : Engine) (o : Outcome) : Prop where
  counters : o.engine.session.counters = e.session.counters
  traffic : o.traffic = []

variable {e : Engine} {s : Surroundings} {input : Input}

/-- A handler is mute that only has effects of other kinds. -/
theorem mute_doing (e : Engine) {xs : List Effect} (hxs : xs.filter Effect.isTraffic = []) :
    Mute e (e.doing xs) := ⟨rfl, hxs⟩

theorem mute_idle (e : Engine) : Mute e e.idle := mute_doing e rfl

/-- The counters are all that `Mute` compares of two engines. -/
theorem Mute.of_counters {e' : Engine} {o : Outcome} (h : Mute e' o)
    (he : e'.session.counters = e.session.counters) : Mute e o :=
  ⟨h.counters.trans he, h.traffic⟩

/-- Mute handlers in a row are mute. -/
theorem Mute.andThen {o : Outcome} {f : Engine → Outcome} (h : Mute e o)
    (hf : ∀ e', Mute e' (f e')) : Mute e (o.andThen f) := by
  have hf := hf o.engine
  refine ⟨hf.counters.trans h.counters, ?_⟩
  show (o.effects ++ (f o.engine).effects).filter Effect.isTraffic = []
  rw [List.filter_append]
  show o.traffic ++ (f o.engine).traffic = []
  rw [h.traffic, hf.traffic]; rfl

theorem Mute.emit {o : Outcome} (h : Mute e o) {x : Effect} (hx : x.isTraffic = false) :
    Mute e (o.emit x) := by
  refine ⟨h.counters, ?_⟩
  show (o.effects ++ [x]).filter Effect.isTraffic = []
  rw [List.filter_append, List.filter_cons_of_neg (by simp [hx])]
  show o.traffic ++ [] = []
  rw [h.traffic]; rfl

/-- Phases are no messages. -/
theorem mute_enter (phase : Phase) (e : Engine) : Mute e (e.enter phase) := by
  unfold enter
  split
  · exact mute_idle e
  · exact ⟨rfl, rfl⟩

/-- Neither are answers to callers. -/
theorem mute_answerAll (answer : Except Error Unit) (e : Engine) : Mute e (e.answerAll answer) := by
  refine ⟨rfl, List.filter_eq_nil_iff.mpr fun x hx => ?_⟩
  obtain ⟨caller, _, rfl⟩ := List.mem_map.mp hx
  exact Bool.false_ne_true

theorem mute_openTransport (e : Engine) : Mute e e.openTransport :=
  (mute_enter .connecting e).andThen fun _ => ⟨rfl, rfl⟩

theorem mute_connect (caller : Nat) (e : Engine) : Mute e (e.connect caller) := by
  unfold connect
  split
  · exact mute_doing e rfl
  · split
    · exact ⟨rfl, rfl⟩
    · exact (mute_openTransport _).of_counters rfl

/-- To let go of everything ends the session, and its counters stay. -/
theorem mute_settle (e : Engine) : Mute e (e.settle.doing [.close]) := ⟨rfl, rfl⟩

/-- Disconnecting sends no message and keeps the counters. -/
theorem mute_disconnect (e : Engine) : Mute e e.disconnect := by
  unfold disconnect
  refine (((mute_settle e).andThen (mute_answerAll _)).andThen (mute_enter _)).andThen fun e' => ?_
  split
  · exact mute_doing e' rfl
  · exact mute_idle e'

theorem mute_fail (error : Error) (e : Engine) : Mute e (e.fail error) :=
  ((((mute_settle e).andThen (mute_enter _)).emit rfl).emit rfl).andThen (mute_answerAll _)

/-- A retry sets a timer and publishes a phase. -/
theorem mute_retry (now : Nat) (cause : String) (decision : Backoff.Decision) (e : Engine) :
    Mute e (e.retry now cause decision) := by
  cases decision with
  | retry attempt delay => exact (mute_enter _ _).of_counters rfl
  | alreadyPending => exact mute_idle e
  | exhausted attempts => exact mute_fail _ e

/-- A loss says nothing of messages, whatever the backoff answers. -/
theorem mute_lose (now : Nat) (cause : String) (e : Engine) : Mute e (e.lose now cause) := by
  have hclosed : Mute e (e.abandon.doing [.close]) := ⟨rfl, rfl⟩
  unfold lose
  dsimp only
  split
  · refine ((hclosed.andThen fun e' => ⟨rfl, rfl⟩).andThen fun e' => ?_).andThen fun e' => ?_
    · split
      · exact mute_doing e' rfl
      · exact mute_idle e'
    · exact (mute_retry now cause _ _).of_counters rfl
  · exact hclosed

theorem mute_dialed (now : Nat) (answer : Except Error Nat) (e : Engine) :
    Mute e (e.dialed now answer) := by
  cases answer with
  | ok receiver => exact ⟨rfl, rfl⟩
  | error error => exact (mute_lose now _ _).of_counters rfl

/-- A handshake is no message within a session. -/
theorem mute_sendHandshake (s : Surroundings) (e : Engine) : Mute e (e.sendHandshake s) := by
  unfold sendHandshake
  dsimp only
  refine Mute.andThen ?_ fun e' => ?_
  · exact (mute_enter _ _).of_counters rfl
  · split
    · exact mute_doing e' rfl
    · exact (mute_doing e' rfl).andThen (mute_lose _ _)

/-- Neither is a call of the store, or the warning of one that fails. -/
theorem mute_callStore (s : Surroundings) (calls : List StoreCall) (warning : Error → Notice)
    (e : Engine) : Mute e (e.callStore s calls warning) := by
  have hmade : Mute e (e.doing ((StoreCall.made s.store calls).map fun made =>
      Effect.store made.1 made.2)) := by
    refine mute_doing e (List.filter_eq_nil_iff.mpr fun x hx => ?_)
    obtain ⟨made, _, rfl⟩ := List.mem_map.mp hx
    exact Bool.false_ne_true
  unfold callStore
  cases StoreCall.failure? s.store calls with
  | none => exact hmade
  | some error => exact hmade.emit rfl

/-- Keys do not touch the counters. -/
theorem mute_installKeys (s : Surroundings) (ack : Ack) (e : Engine) :
    Mute e (e.installKeys s ack) := by
  unfold installKeys
  rcases derivedKeys? s e.exchange ack with _ | (_ | _) <;> exact ⟨rfl, rfl⟩

/-- An ack gives a session its ids, and leaves the counters of the client as they are. -/
theorem mute_acked (s : Surroundings) (ack : Ack) (e : Engine) : Mute e (e.acked s ack) := by
  unfold acked
  split
  · refine Mute.andThen (Mute.emit (Mute.andThen (Mute.andThen ?_ (mute_installKeys s ack))
      fun e' => ?_) ?_) (mute_answerAll _)
    · exact (mute_callStore s _ _ _).of_counters rfl
    · rw [startHeartbeat_eq]
      exact (mute_enter _ _).of_counters rfl
    · rfl
  · exact mute_idle e

theorem mute_rejected (s : Surroundings) (reject : Reject) (e : Engine) :
    Mute e (e.rejected s reject) := by
  unfold rejected
  split
  · split
    · have hretried : Mute e ({ e with resumeRetried := true }.doing
          [.warn (.resumeRejected reject.reason)]) := ⟨rfl, rfl⟩
      refine (hretried.andThen (mute_callStore s _ _)).andThen fun e' => ?_
      exact (mute_sendHandshake s _).of_counters rfl
    · exact mute_fail _ e
  · exact mute_idle e

theorem mute_timedOut (e : Engine) : Mute e e.timedOut := by
  unfold timedOut
  split
  · exact ⟨rfl, rfl⟩
  · exact mute_idle e

/-! ## What an input has to do with messages -/

/-- The message that an input asks a running engine to send: that of a call, or a ping that is due. -/
def draft? (now : Nat) (input : Input) (e : Engine) : Option Draft :=
  match input with
  | .command (.send draft) => if e.running then some draft else none
  | .tick .ping =>
    if e.running ∧ Heartbeat.isDue e.heartbeat.pingAt now then some .ping else none
  | _ => none

/-- The envelope that an input brings to an engine: a frame of the connection at hand that is one. -/
def taken? (input : Input) (e : Engine) : Option Envelope :=
  match input with
  | .signal (.message frame) =>
    match Inbound.parse frame with
    | .ok (.envelope envelope) => if e.running ∧ e.receiver.isSome then some envelope else none
    | _ => none
  | _ => none

/-- A frame that holds no envelope is no message. -/
theorem mute_framed {frame : String} (s : Surroundings) (e : Engine)
    (hm : ∀ envelope, Inbound.parse frame ≠ .ok (.envelope envelope)) :
    Mute e (e.framed s frame) := by
  unfold framed
  refine (mute_doing e rfl).andThen fun e' => ?_
  cases hparse : Inbound.parse frame with
  | error error => exact mute_doing e' rfl
  | ok message =>
    cases message with
    | envelope envelope => exact absurd hparse (hm envelope)
    | handshake h =>
      cases h with
      | ack ack => exact mute_acked s ack e'
      | reject reject => exact mute_rejected s reject e'
      | init _ | resume _ => exact mute_idle e'

/-- No signal is one but that of a frame with an envelope. -/
theorem mute_signaled {signal : Signal} (s : Surroundings) (e : Engine)
    (hm : ∀ frame, signal = .message frame →
      ∀ envelope, Inbound.parse frame ≠ .ok (.envelope envelope)) :
    Mute e (e.signaled s signal) := by
  cases signal with
  | opened =>
    unfold signaled
    dsimp only
    split
    · exact mute_sendHandshake s e
    · exact mute_idle e
  | message frame => exact mute_framed s e (hm frame rfl)
  | closed code reason => exact mute_lose _ _ e
  | failed reason => exact mute_lose _ _ e

/-- A tick is silent unless a ping is due. -/
theorem mute_ticked {t : Tick} (s : Surroundings)
    (hd : t = .ping → ¬Heartbeat.isDue e.heartbeat.pingAt s.now) : Mute e (e.ticked s t) := by
  unfold ticked
  cases t with
  | ping =>
    rw [Heartbeat.fire?_of_not_due (t := .ping) (hd rfl)]
    exact mute_idle e
  | timeout =>
    by_cases hdue : Heartbeat.isDue e.heartbeat.timeoutAt s.now
    · rw [Heartbeat.fire?_of_due (t := .timeout) hdue]
      exact (mute_timedOut _).of_counters rfl
    · rw [Heartbeat.fire?_of_not_due (t := .timeout) hdue]
      exact mute_idle e

/-- **A step that neither sends nor takes in a message is mute.** -/
theorem step_mute (s : Surroundings) (hd : e.draft? s.now input = none)
    (ht : e.taken? input = none) : Mute e (e.step s input) := by
  unfold step
  by_cases hrun : e.running
  · rw [if_pos hrun]
    unfold handle
    cases input with
    | command c =>
      cases c with
      | connect caller => exact mute_connect caller e
      | disconnect caller => exact (mute_disconnect e).emit rfl
      | send draft =>
        have hsome : e.draft? s.now (.command (.send draft)) = some draft := if_pos hrun
        rw [hsome] at hd
        exact absurd hd (by simp)
      | snapshot caller => exact mute_doing e rfl
    | shutdown =>
      have hleft := mute_disconnect e
      exact ⟨hleft.counters, hleft.traffic⟩
    | dialed answer =>
      dsimp only
      split
      · exact mute_dialed s.now answer e
      · exact mute_idle e
    | signal signal =>
      dsimp only
      split
      · rename_i hr
        refine mute_signaled s e ?_
        rintro frame rfl envelope hparse
        have hsome : e.taken? (.signal (.message frame)) = some envelope := by
          unfold taken?
          dsimp only
          rw [hparse]
          exact if_pos ⟨hrun, hr⟩
        rw [hsome] at ht
        exact absurd ht (by simp)
      · exact mute_idle e
    | detached =>
      dsimp only
      split
      · exact mute_lose _ _ e
      · exact mute_idle e
    | tick t =>
      refine mute_ticked s fun hping hdue => ?_
      subst hping
      have hsome : e.draft? s.now (.tick .ping) = some .ping := if_pos ⟨hrun, hdue⟩
      rw [hsome] at hd
      exact absurd hd (by simp)
    | reconnect =>
      dsimp only
      split
      · exact (mute_openTransport _).of_counters rfl
      · exact mute_idle e
  · rw [if_neg hrun]
    exact mute_idle e

/-! ## Messages that are sent -/

/-- The envelope that an engine would write for a draft: addressed to its session, and signed. -/
def sealed (s : Surroundings) (draft : Draft) (e : Engine) : Envelope :=
  (e.signer.sign s.provider s.unixMillis s.nonce e.session.macKey (e.address s.unixMillis draft)).1

/-- What becomes of a message that is to be sent. Beside the counter only the heartbeat may differ
    afterwards, and beside the message only warnings are given. -/
inductive Submitted (s : Surroundings) (draft : Draft) (e : Engine) (o : Outcome) : Prop where
  /-- The transport takes it, and it is counted. -/
  | posted (phase : e.phase = .established) (answer : s.write = .ok ())
      (engine : ∃ heartbeat, o.engine = { e with session := e.session.countSent, heartbeat })
      (effects : ∃ before after : List Notice,
        o.effects = before.map .warn ++ .write (.envelope (e.sealed s draft)) (.ok ()) ::
          after.map .warn)
  /-- The transport does not take it. -/
  | refused {error : Error} (phase : e.phase = .established) (answer : s.write = .error error)
      (engine : ∃ heartbeat, o.engine = { e with heartbeat })
      (effects : ∃ before after : List Notice,
        o.effects = before.map .warn ++ .write (.envelope (e.sealed s draft)) (.error error) ::
          after.map .warn)
  /-- There is no session to send it in. -/
  | dropped (phase : e.phase ≠ .established) (engine : ∃ heartbeat, o.engine = { e with heartbeat })
      (effects : o.effects = [.warn (.outboundDropped draft.kind e.phase)])

/-- What `send` makes of a message is one of the cases of `Submitted`. -/
theorem submitted_send (s : Surroundings) (draft : Draft) (e : Engine) :
    Submitted s draft e (e.send s draft) := by
  unfold send
  by_cases hp : e.phase.isEstablished
  · rw [if_pos hp]
    have hphase := Phase.isEstablished_iff.mp hp
    have hsealed : e.sealed s draft = (e.signer.sign s.provider s.unixMillis s.nonce
      e.session.macKey (e.address s.unixMillis draft)).1 := rfl
    -- whatever the signer says, the frame is written and the answer noted
    rcases hsign : e.signer.sign s.provider s.unixMillis s.nonce e.session.macKey
      (e.address s.unixMillis draft) with ⟨envelope, fault⟩
    rw [hsign] at hsealed
    dsimp only at hsealed ⊢
    cases hw : s.write with
    | ok _ =>
      refine .posted hphase hw ⟨e.heartbeat, ?_⟩ ?_
      · cases fault <;> rfl
      · rw [hsealed]
        cases fault with
        | none => exact ⟨[], [], rfl⟩
        | some error => exact ⟨[.signingFailed envelope.kind error], [], rfl⟩
    | error error =>
      refine .refused hphase hw ⟨e.heartbeat, ?_⟩ ?_
      · cases fault <;> rfl
      · rw [hsealed]
        cases fault with
        | none => exact ⟨[], [.sendFailed envelope.kind error], rfl⟩
        | some fault =>
          exact ⟨[.signingFailed envelope.kind fault], [.sendFailed envelope.kind error], rfl⟩
  · rw [if_neg hp]
    exact .dropped (fun h => hp (Phase.isEstablished_iff.mpr h)) ⟨e.heartbeat, rfl⟩ rfl

/-- A ping is a message like others; the heartbeat is set anew afterwards. -/
theorem submitted_pingDue (s : Surroundings) (e : Engine) : Submitted s .ping e (e.pingDue s) := by
  unfold pingDue
  have hsend := submitted_send s .ping e
  generalize e.send s .ping = o at hsend
  have heffects : (o.andThen fun e => { e with heartbeat := e.heartbeat.pingSent s.now }.idle).effects
      = o.effects := List.append_nil _
  cases hsend with
  | posted phase answer engine effects =>
    obtain ⟨_, he⟩ := engine
    exact .posted phase answer ⟨_, by rw [Outcome.engine_andThen, he]; rfl⟩ (heffects ▸ effects)
  | refused phase answer engine effects =>
    obtain ⟨_, he⟩ := engine
    exact .refused phase answer ⟨_, by rw [Outcome.engine_andThen, he]; rfl⟩ (heffects ▸ effects)
  | dropped phase engine effects =>
    obtain ⟨_, he⟩ := engine
    exact .dropped phase ⟨_, by rw [Outcome.engine_andThen, he]; rfl⟩ (heffects.trans effects)

/-- The heartbeat has no part in what becomes of a message. -/
theorem Submitted.of_heartbeat {draft : Draft} {heartbeat : Heartbeat} {o : Outcome}
    (h : Submitted s draft { e with heartbeat } o) : Submitted s draft e o := by
  cases h with
  | posted phase answer engine effects => exact .posted phase answer engine effects
  | refused phase answer engine effects => exact .refused phase answer engine effects
  | dropped phase engine effects => exact .dropped phase engine effects

/-- **What a step does with the message that it is to send.** -/
theorem step_of_draft {draft : Draft} (hd : e.draft? s.now input = some draft) :
    Submitted s draft e (e.step s input) := by
  unfold draft? at hd
  split at hd
  · split at hd
    · rename_i hrun
      obtain rfl := Option.some.inj hd
      rw [step, if_pos hrun]
      exact submitted_send s _ e
    · exact absurd hd (by simp)
  · split at hd
    · rename_i h
      obtain ⟨hrun, hdue⟩ := h
      obtain rfl := Option.some.inj hd
      rw [step, if_pos hrun]
      show Submitted s .ping e (e.ticked s .ping)
      unfold ticked
      rw [Heartbeat.fire?_of_due (t := .ping) hdue]
      exact (submitted_pingDue s _).of_heartbeat
    · exact absurd hd (by simp)
  · exact absurd hd (by simp)

/-! ## Messages that are taken in -/

/-- An envelope arrives as a frame of the connection at hand, of which the host hears first. -/
theorem step_of_taken {envelope : Envelope} (s : Surroundings)
    (ht : e.taken? input = some envelope) :
    ∃ frame, input = .signal (.message frame) ∧ Inbound.parse frame = .ok (.envelope envelope) ∧
      e.step s input = (e.doing [.host (.message frame)]).andThen fun e => e.received s envelope := by
  unfold taken? at ht
  split at ht
  · rename_i frame
    split at ht
    · rename_i envelope' hparse
      split at ht
      · rename_i h
        obtain rfl := Option.some.inj ht
        obtain ⟨hrun, hr⟩ := h
        refine ⟨frame, rfl, hparse, ?_⟩
        have hstep : e.step s (.signal (.message frame)) = e.framed s frame := by
          rw [step, if_pos hrun]
          exact if_pos hr
        rw [hstep, framed, hparse]
      · exact absurd ht (by simp)
    · exact absurd ht (by simp)
  · exact absurd ht (by simp)

/-- To take in an envelope reaches no transport, and sends nothing. -/
theorem received_spec (s : Surroundings) (envelope : Envelope) (e : Engine) :
    (e.received s envelope).wire = [] ∧
      (e.received s envelope).engine.session.sent = e.session.sent := by
  have hdelivery : (delivery envelope).filter Effect.isWire = [] := by
    unfold delivery
    split <;> rfl
  unfold received
  dsimp only
  by_cases hpong : envelope.kind = .pong
  · rw [if_pos hpong]
    exact ⟨rfl, rfl⟩
  · rw [if_neg hpong]
    unfold checked
    dsimp only
    split
    · refine ⟨?_, rfl⟩
      show (delivery envelope ++ _).filter Effect.isWire = []
      rw [List.filter_append, hdelivery]
      split <;> rfl
    · split
      · exact ⟨hdelivery, rfl⟩
      · exact ⟨rfl, rfl⟩

/-! ## The transport of a connection -/

/-- What a step does to the transport of a connection: it closes it, once or more often, or it writes
    one message, with the transport's answer, and closes it only afterwards. -/
inductive Transmits (s : Surroundings) (o : Outcome) : Prop where
  | closes (n : Nat) (wire : o.wire = List.replicate n .close)
  | writes (message : Outbound) (n : Nat)
      (wire : o.wire = .write message s.write :: List.replicate n .close)

@[simp] theorem wire_announcement (e : Engine) (phase : Phase) :
    (e.announcement phase).filter Effect.isWire = [] := by
  unfold announcement
  split <;> rfl

@[simp] theorem wire_farewell (e : Engine) : e.farewell.filter Effect.isWire = [] := by
  unfold farewell
  split <;> rfl

@[simp] theorem wire_answers (e : Engine) (answer : Except Error Unit) :
    (e.answers answer).filter Effect.isWire = [] := by
  refine List.filter_eq_nil_iff.mpr fun x hx => ?_
  obtain ⟨caller, _, rfl⟩ := List.mem_map.mp hx
  exact Bool.false_ne_true

/-- Where no message is written within a session, what reaches the transport is under control. -/
theorem Mute.wire_eq {o : Outcome} (h : Mute e o) : o.wire = o.control.filter Effect.isWire := by
  have hall : ∀ x ∈ o.effects, x.isWire = (x.isControl && x.isWire) := by
    intro x hx
    cases x with
    | write message answer =>
      cases message with
      | handshake _ => rfl
      | envelope envelope =>
        have hmem : Effect.write (.envelope envelope) answer ∈ o.traffic :=
          List.mem_filter.mpr ⟨hx, rfl⟩
        rw [h.traffic] at hmem
        exact absurd hmem List.not_mem_nil
    | host event => exact (Bool.and_false _).symm
    | _ => rfl
  show o.effects.filter Effect.isWire = (o.effects.filter Effect.isControl).filter Effect.isWire
  rw [List.filter_filter]
  exact List.filter_congr fun x hx => (hall x hx).trans (Bool.and_comm _ _)

/-- Of a loss the transport sees nothing but closes. -/
theorem wire_lost {now : Nat} {cause : String} {o : Outcome} (hl : Lost now cause e o) :
    ∃ n, o.control.filter Effect.isWire = List.replicate n .close := by
  cases hl with
  | retry _ _ control =>
    exact ⟨1, by rw [control]; simp [List.filter_cons, Effect.isWire]⟩
  | giveUp _ _ control =>
    exact ⟨2, by rw [control]; simp [List.filter_cons, Effect.isWire, List.replicate]⟩

/-- A loss writes nothing and closes. -/
theorem transmits_of_lost {now : Nat} {cause : String} {o o' : Outcome} (hm : Mute e o)
    (hl : Lost now cause e o') (hc : o.control = o'.control) : Transmits s o := by
  obtain ⟨n, hn⟩ := wire_lost hl
  refine .closes n ?_
  rw [hm.wire_eq, hc, hn]

/-- A handshake is written first; if the transport does not take it, it is closed. -/
theorem transmits_sendHandshake {e' : Engine} {o : Outcome} (hm : Mute e o) (h : e'.Sound)
    (hr : e'.receiver.isSome) (hp : e'.phase ≠ .established)
    (hc : o.control = (e'.sendHandshake s).control) : Transmits s o := by
  cases hw : s.write with
  | ok _ =>
    refine .writes (.handshake (e'.offering s).2) 0 ?_
    rw [hm.wire_eq, hc, (sendHandshake_of_ok e' hw).2, hw]
    simp [Effect.isWire]
  | error error =>
    have hl := (h.awaitingAnswer (s := s) hr hp).timed.lost rfl s.now
      (unsent (e'.offering s).2 error)
    obtain ⟨n, hn⟩ := wire_lost hl
    refine .writes (.handshake (e'.offering s).2) n ?_
    rw [hm.wire_eq, hc, (sendHandshake_of_error e' hw).2, List.filter_append, wire_announcement,
      List.nil_append, List.filter_cons_of_pos rfl, hn, hw]

/-- Of a message that is to be sent the transport sees one write at most. -/
theorem Submitted.transmits {draft : Draft} {o : Outcome} (h : Submitted s draft e o) :
    Transmits s o := by
  have hwarn : ∀ notices : List Notice, (notices.map Effect.warn).filter Effect.isWire = [] := by
    intro notices
    refine List.filter_eq_nil_iff.mpr fun x hx => ?_
    obtain ⟨notice, _, rfl⟩ := List.mem_map.mp hx
    exact Bool.false_ne_true
  cases h with
  | posted _ answer _ effects =>
    obtain ⟨before, after, heq⟩ := effects
    refine .writes (.envelope (e.sealed s draft)) 0 ?_
    rw [Outcome.wire, heq, List.filter_append, List.filter_cons_of_pos rfl, hwarn, hwarn, answer]; rfl
  | refused _ answer _ effects =>
    obtain ⟨before, after, heq⟩ := effects
    refine .writes (.envelope (e.sealed s draft)) 0 ?_
    rw [Outcome.wire, heq, List.filter_append, List.filter_cons_of_pos rfl, hwarn, hwarn, answer]; rfl
  | dropped _ _ effects =>
    exact .closes 0 (by rw [Outcome.wire, effects]; rfl)

/-- **A step writes at most one message**, before it closes anything. -/
theorem wire_step (s : Surroundings) (input : Input) (h : e.Sound) :
    Transmits s (e.step s input) := by
  cases hd : e.draft? s.now input with
  | some draft => exact (step_of_draft hd).transmits
  | none =>
    cases ht : e.taken? input with
    | some envelope =>
      obtain ⟨frame, _, _, hstep⟩ := step_of_taken s ht
      refine .closes 0 ?_
      rw [hstep]
      show ([Effect.host (.message frame)] ++ (e.received s envelope).effects).filter Effect.isWire = []
      rw [List.filter_append]
      exact (received_spec s envelope e).1
    | none =>
      have hm := step_mute s hd ht
      have hstep := step_stepped s input e
      generalize e.turn s.now input = t at hstep
      cases hstep with
      | passing _ passes => exact .closes 0 (by rw [hm.wire_eq, passes.control]; rfl)
      | greet _ _ _ control | join _ _ _ control | depart _ _ _ control | attach _ _ _ control =>
        exact .closes 0 (by rw [hm.wire_eq, control]; rfl)
      | leave _ _ control | alarm _ _ _ control =>
        exact .closes 1 (by rw [hm.wire_eq, control]; simp [List.filter_cons, Effect.isWire])
      | offer _ receiver phase _ control =>
        exact transmits_sendHandshake hm h receiver (by rw [phase]; simp) control
      | accept _ _ _ _ _ control | redial _ _ _ control =>
        exact .closes 0 (by rw [hm.wire_eq, control]; simp [Effect.isWire])
      | fallBack _ _ receiver phase _ _ control =>
        have hne : e.phase ≠ .established := by rw [phase]; simp
        exact transmits_sendHandshake hm (h.fallenBack hne) receiver hne control
      | refuse _ _ _ _ _ _ control =>
        exact .closes 1 (by rw [hm.wire_eq, control]; simp [List.filter_cons, Effect.isWire])
      | lose live _ control =>
        exact transmits_of_lost hm (h.timed.lost (h.wired.expected live) s.now _) control

end Engine
end Tether
