import Tether.Proofs.Engine.Control

/-!
# `Tether.Proofs.Engine.Turn` — what an input comes to

An input means different things in different states: the same frame is an ack that grants a session,
or noise. `Engine.turn` says which of thirteen **turns** an input takes, and `step_stepped` what the
step then does, guards included: the engine it leaves and its control effects.

Every invariant of the engine is proved by cases on `Stepped`, never by opening `Engine.step`.

* `Passes` — the connection is not concerned: only counters and the timers of the heartbeat change;
* `Stepped` — one case for each turn;
* `step_stepped` — every step is one of them.
-/

namespace Tether

namespace Phase

theorem isEstablished_iff {p : Phase} : p.isEstablished ↔ p = .established := by
  cases p <;> simp [isEstablished]

/-- Nobody's session and nobody's attempt: the client has settled. -/
theorem settled_of_not {p : Phase} (he : ¬p.isEstablished) (hc : ¬p.isConnecting) :
    p = .disconnected ∨ p = .permanentlyFailed := by
  cases p with
  | disconnected => exact Or.inl rfl
  | permanentlyFailed => exact Or.inr rfl
  | established => exact absurd rfl he
  | connecting | awaiting _ | reconnecting _ => exact absurd rfl hc

end Phase

namespace Session

/-- The session with other counters. -/
def recounted (σ : Session) (sent received failures : Nat) : Session :=
  { σ with sent, received, verificationFailures := failures }

end Session

namespace Heartbeat

/-- The timers fit: a ping is set exactly while it runs, and no watchdog is set while it does not. -/
def Armed (h : Heartbeat) : Prop :=
  h.pingAt.isSome = h.isRunning ∧ (h.timeoutAt.isSome → h.isRunning)

/-- Another heartbeat of the same run. -/
structure Keeps (h h' : Heartbeat) : Prop where
  timeout : h'.timeout = h.timeout
  interval : h'.interval = h.interval
  armed : h.Armed → h'.Armed

/-- A timer that is due fires, and is disarmed by it. -/
theorem fire?_of_due {h : Heartbeat} {now : Nat} {t : Tick} (hdue : isDue (h.deadline? t) now) :
    h.fire? now t = some (h.disarm t) := if_pos hdue

/-- A timer that is not due, or not set, does not fire. -/
theorem fire?_of_not_due {h : Heartbeat} {now : Nat} {t : Tick}
    (hdue : ¬isDue (h.deadline? t) now) : h.fire? now t = none := if_neg hdue

theorem Keeps.refl (h : Heartbeat) : h.Keeps h := ⟨rfl, rfl, id⟩

/-- The timers of a heartbeat that is stopped fit. -/
theorem armed_stop (h : Heartbeat) : h.stop.Armed := ⟨rfl, fun hs => hs⟩

/-- So do those of one that starts. -/
theorem armed_start (h : Heartbeat) (now interval : Nat) : (h.start now interval).Armed :=
  ⟨rfl, fun _ => rfl⟩

/-- A pong disarms the watchdog and leaves the ping as it is. -/
theorem keeps_pong (h : Heartbeat) : h.Keeps h.pong :=
  ⟨rfl, rfl, fun ha => ⟨ha.1, fun hs => absurd hs Bool.false_ne_true⟩⟩

/-- A watchdog that fires is disarmed. -/
theorem keeps_disarm_timeout (h : Heartbeat) : h.Keeps (h.disarm .timeout) :=
  ⟨rfl, rfl, fun ha => ⟨ha.1, fun hs => absurd hs Bool.false_ne_true⟩⟩

/-- A ping that goes out when it is due sets the next one. -/
theorem keeps_pingSent {h : Heartbeat} {now : Nat} (hdue : isDue h.pingAt now) :
    h.Keeps ((h.disarm .ping).pingSent now) := by
  unfold pingSent
  cases hi : h.interval with
  | none =>
    refine ⟨?_, ?_, fun ha => ?_⟩ <;> simp only [disarm, hi]
    -- such a heartbeat does not run, so no ping can be due
    have hrun : h.pingAt.isSome = false := by rw [ha.1, isRunning, hi]; rfl
    cases hp : h.pingAt with
    | none => rw [hp] at hdue; exact absurd hdue Bool.false_ne_true
    | some t => rw [hp] at hrun; exact absurd hrun.symm Bool.false_ne_true
  | some interval =>
    refine ⟨?_, ?_, fun _ => ?_⟩ <;> simp [disarm, hi, Armed, isRunning]

end Heartbeat

namespace Engine

/-! ## The turn of an input -/

/-- What an input comes to. -/
inductive Turn where
  /-- The connection is not concerned. -/
  | passing
  /-- A caller finds a session established. -/
  | greet (caller : Nat)
  /-- A caller joins an attempt. -/
  | join (caller : Nat)
  /-- A caller starts an outage's first attempt. -/
  | depart (caller : Nat)
  /-- The host disconnects, or lets go of the client. -/
  | leave
  /-- The transport hands over a connection. -/
  | attach (receiver : Nat)
  /-- The connection opens, and a handshake is due. -/
  | offer
  /-- The server answers a handshake with an ack. -/
  | accept (ack : Ack)
  /-- The server rejects a resume for the first time. -/
  | fallBack (reject : Reject)
  /-- The server rejects a handshake for good. -/
  | refuse (reject : Reject)
  /-- The transport is lost. -/
  | lose (cause : String)
  /-- The watchdog of the heartbeat fires. -/
  | alarm
  /-- The timer of the scheduled attempt fires. -/
  | redial
  deriving Repr

/-- The turn of a frame, by its message and the phase. -/
def frameTurn (frame : String) (e : Engine) : Turn :=
  match Inbound.parse frame, e.phase with
  | .ok (.handshake (.ack ack)), .awaiting _ => .accept ack
  | .ok (.handshake (.reject reject)), .awaiting kind =>
    if kind = .resume ∧ e.resumeRetried = false then .fallBack reject else .refuse reject
  | _, _ => .passing

/-- The turn of a signal of the current connection. -/
def signalTurn (signal : Signal) (e : Engine) : Turn :=
  match signal with
  | .opened => if e.phase = .connecting then .offer else .passing
  | .message frame => e.frameTurn frame
  | .closed code reason => .lose (closeCause code reason)
  | .failed reason => .lose ("transport error: " ++ reason)

/-- The turn of a call to connect. -/
def connectTurn (caller : Nat) (e : Engine) : Turn :=
  if e.phase.isEstablished then .greet caller
  else if e.phase.isConnecting then .join caller
  else .depart caller

/-- The turn of an input while the engine runs. -/
def inputTurn (now : Nat) (input : Input) (e : Engine) : Turn :=
  match input with
  | .command (.connect caller) => e.connectTurn caller
  | .command (.disconnect _) | .shutdown => .leave
  | .command (.send _) | .command (.snapshot _) => .passing
  | .dialed (.ok receiver) => if e.dialing then .attach receiver else .passing
  | .dialed (.error error) => if e.dialing then .lose error.message else .passing
  | .signal signal => if e.receiver.isSome then e.signalTurn signal else .passing
  | .detached =>
    if e.receiver.isSome then .lose (closeCause none "transport dropped") else .passing
  | .tick .ping => .passing
  | .tick .timeout =>
    if Heartbeat.isDue e.heartbeat.timeoutAt now ∧ e.heartbeat.isRunning then .alarm else .passing
  | .reconnect => if Heartbeat.isDue e.reconnectAt now then .redial else .passing

/-- The turn of an input. -/
def turn (now : Nat) (input : Input) (e : Engine) : Turn :=
  if e.running then e.inputTurn now input else .passing

/-! ## Inputs that pass -/

/-- The connection is not concerned: counters may change, and the heartbeat is as given. -/
structure Passes (e : Engine) (heartbeat : Heartbeat) (o : Outcome) : Prop where
  engine : ∃ sent received failures,
    o.engine = { e with session := e.session.recounted sent received failures, heartbeat }
  control : o.control = []

/-- Effects that do not concern the connection change nothing of it. -/
theorem passes_doing (e : Engine) {xs : List Effect}
    (hxs : xs.filter Effect.isControl = []) : Passes e e.heartbeat (e.doing xs) :=
  ⟨⟨_, _, _, rfl⟩, hxs⟩

/-- Doing nothing does not concern the connection. -/
theorem passes_idle (e : Engine) : Passes e e.heartbeat e.idle := passes_doing e rfl

theorem Passes.emit {e : Engine} {h : Heartbeat} {o : Outcome} (ho : Passes e h o) {x : Effect}
    (hx : x.isControl = false) : Passes e h (o.emit x) := by
  refine ⟨ho.engine, ?_⟩
  rw [Outcome.control_emit, ho.control, List.filter_cons_of_neg (by simp [hx])]; rfl

/-- Neither of two handlers concerns the connection if the second one does not, with the heartbeat that the
    first one leaves. -/
theorem Passes.andThen {e : Engine} {h h' : Heartbeat} {o : Outcome} {f : Engine → Outcome}
    (ho : Passes e h o) (hf : ∀ e', e'.heartbeat = h → Passes e' h' (f e')) :
    Passes e h' (o.andThen f) := by
  obtain ⟨⟨_, _, _, he⟩, hc⟩ := ho
  obtain ⟨⟨a, b, c, he'⟩, hc'⟩ := hf o.engine (by rw [he])
  refine ⟨⟨a, b, c, ?_⟩, ?_⟩
  · rw [Outcome.engine_andThen, he', he]; rfl
  · rw [Outcome.control_andThen, hc, hc']; rfl

/-- Writing an envelope concerns no connection: neither when it is counted, -/
theorem passes_written {e : Engine} {o : Outcome} (ho : Passes e e.heartbeat o)
    (envelope : Envelope) (answer : Except Error Unit) :
    Passes e e.heartbeat ((o.emit (.write (.envelope envelope) answer)).andThen fun e =>
      { e with session := e.session.countSent }.idle) :=
  (ho.emit rfl).andThen fun e' he' => ⟨⟨e'.session.sent + 1, _, _, by rw [← he']; rfl⟩, rfl⟩

/-- nor when the transport does not take it. -/
theorem passes_unwritten {e : Engine} {o : Outcome} (ho : Passes e e.heartbeat o)
    (envelope : Envelope) (answer : Except Error Unit) (notice : Notice) :
    Passes e e.heartbeat ((o.emit (.write (.envelope envelope) answer)).emit (.warn notice)) :=
  (ho.emit rfl).emit rfl

/-- Sending concerns no connection. -/
theorem passes_send (s : Surroundings) (draft : Draft) (e : Engine) :
    Passes e e.heartbeat (e.send s draft) := by
  unfold send
  split
  · -- whatever the signer says, the frame is written and the answer noted
    rcases e.signer.sign s.provider s.unixMillis s.nonce e.session.macKey
      (e.address s.unixMillis draft) with ⟨envelope, fault⟩
    dsimp only
    cases fault with
    | none =>
      split
      · exact passes_written (passes_idle e) envelope _
      · exact passes_unwritten (passes_idle e) envelope _ _
    | some error =>
      have hsigned : Passes e e.heartbeat (e.doing [.warn (.signingFailed envelope.kind error)]) :=
        passes_doing e rfl
      split
      · exact passes_written hsigned envelope _
      · exact passes_unwritten hsigned envelope _ _
  · exact passes_doing e rfl

/-- Envelopes from the server concern no connection; a pong disarms the watchdog. -/
theorem passes_received (s : Surroundings) (envelope : Envelope) (e : Engine) :
    ∃ h, e.heartbeat.Keeps h ∧ Passes e h (e.received s envelope) := by
  have hdelivery : (delivery envelope).filter Effect.isControl = [] := by
    unfold delivery; split <;> rfl
  unfold received
  dsimp only
  split
  · exact ⟨_, Heartbeat.keeps_pong _, ⟨⟨_, _, _, rfl⟩, rfl⟩⟩
  · refine ⟨_, Heartbeat.Keeps.refl _, ?_⟩
    unfold checked
    dsimp only
    split
    · refine ⟨⟨_, _, _, rfl⟩, ?_⟩
      rw [control_doing, List.filter_append, hdelivery]
      split <;> rfl
    · split
      · exact ⟨⟨_, _, _, rfl⟩, hdelivery⟩
      · exact ⟨⟨_, _, _, rfl⟩, rfl⟩

/-- A ping concerns no connection, and the next one is set. -/
theorem passes_pingDue (s : Surroundings) (e : Engine) :
    Passes e (e.heartbeat.pingSent s.now) (e.pingDue s) := by
  unfold pingDue
  refine (passes_send s .ping e).andThen fun e' he' => ?_
  rw [← he']
  exact ⟨⟨_, _, _, rfl⟩, rfl⟩

/-! ## What a step does -/

/-- The engine that starts on its first attempt for a caller. -/
def departed (caller : Nat) (e : Engine) : Engine :=
  { e with
    waiting := e.waiting ++ [caller]
    backoff := e.backoff.reset
    resumeRetried := false
    lost := false
    phase := .connecting
    dialing := true }

/-- A step, by the turn of its input: when it comes to that turn, the engine it leaves, and its control
    effects. -/
inductive Stepped (s : Surroundings) (input : Input) (e : Engine) (o : Outcome) : Turn → Prop where
  | passing {heartbeat : Heartbeat} (keeps : e.heartbeat.Keeps heartbeat)
      (passes : Passes e heartbeat o) : Stepped s input e o .passing
  | greet {caller : Nat} (is : input = .command (.connect caller)) (phase : e.phase = .established)
      (engine : o.engine = e) (control : o.control = [.connectReply caller (.ok ())]) :
      Stepped s input e o (.greet caller)
  | join {caller : Nat} (is : input = .command (.connect caller)) (phase : e.phase.isConnecting)
      (engine : o.engine = { e with waiting := e.waiting ++ [caller] }) (control : o.control = []) :
      Stepped s input e o (.join caller)
  | depart {caller : Nat} (is : input = .command (.connect caller))
      (phase : e.phase = .disconnected ∨ e.phase = .permanentlyFailed)
      (engine : o.engine = e.departed caller)
      (control : o.control = [.phase .connecting, .dial e.config.url e.config.subprotocol]) :
      Stepped s input e o (.depart caller)
  | leave (is : (∃ caller, input = .command (.disconnect caller)) ∨ input = .shutdown)
      (engine : ∃ running,
        o.engine = { e.settle with phase := .disconnected, waiting := [], running })
      (control : o.control = .close :: (e.answers (.error .clientDisconnected)
        ++ e.announcement .disconnected ++ e.farewell)) : Stepped s input e o .leave
  | attach {receiver : Nat} (is : input = .dialed (.ok receiver)) (dialing : e.dialing)
      (engine : o.engine = { e with dialing := false, receiver := some receiver })
      (control : o.control = []) : Stepped s input e o (.attach receiver)
  | offer (is : input = .signal .opened) (receiver : e.receiver.isSome)
      (phase : e.phase = .connecting) (engine : o.engine = (e.sendHandshake s).engine)
      (control : o.control = (e.sendHandshake s).control) : Stepped s input e o .offer
  | accept {frame : String} {ack : Ack} {kind : Offer} (is : input = .signal (.message frame))
      (message : Inbound.parse frame = .ok (.handshake (.ack ack))) (receiver : e.receiver.isSome)
      (phase : e.phase = .awaiting kind) (engine : o.engine = e.granted s ack)
      (control : o.control = .phase .established :: .host (.connected ack.threadId ack.sessionId) ::
        e.answers (.ok ())) : Stepped s input e o (.accept ack)
  | fallBack {frame : String} {reject : Reject} (is : input = .signal (.message frame))
      (message : Inbound.parse frame = .ok (.handshake (.reject reject)))
      (receiver : e.receiver.isSome) (phase : e.phase = .awaiting .resume)
      (first : e.resumeRetried = false) (engine : o.engine = (e.fallenBack.sendHandshake s).engine)
      (control : o.control = (e.fallenBack.sendHandshake s).control) :
      Stepped s input e o (.fallBack reject)
  | refuse {frame : String} {reject : Reject} {kind : Offer} (is : input = .signal (.message frame))
      (message : Inbound.parse frame = .ok (.handshake (.reject reject)))
      (receiver : e.receiver.isSome) (phase : e.phase = .awaiting kind)
      (final : ¬(kind = .resume ∧ e.resumeRetried = false))
      (engine : o.engine = { e.settle with phase := .permanentlyFailed, waiting := [] })
      (control : o.control = .close :: .phase .permanentlyFailed ::
        .host (.permanentFailure (.protocolRejection reject.reason)) ::
        e.answers (.error (.protocolRejection reject.reason))) : Stepped s input e o (.refuse reject)
  | lose {cause : String} (live : e.dialing ∨ e.receiver.isSome)
      (engine : o.engine = (e.lose s.now cause).engine)
      (control : o.control = (e.lose s.now cause).control) : Stepped s input e o (.lose cause)
  | alarm (is : input = .tick .timeout) (runs : e.heartbeat.isRunning)
      (engine : o.engine = { e with heartbeat := e.heartbeat.stop }) (control : o.control = [.close]) :
      Stepped s input e o .alarm
  | redial (is : input = .reconnect) (due : Heartbeat.isDue e.reconnectAt s.now)
      (engine : o.engine =
        { e with
          reconnectAt := none
          backoff := e.backoff.clearPending
          phase := .connecting
          dialing := true })
      (control : o.control =
        e.announcement .connecting ++ [.dial e.config.url e.config.subprotocol]) :
      Stepped s input e o .redial

variable {s : Surroundings} {input : Input} {e : Engine} {o : Outcome}

/-- Nothing at all is a way to pass. -/
theorem stepped_idle : Stepped s input e e.idle .passing :=
  .passing (Heartbeat.Keeps.refl _) (passes_idle e)

/-- A step may say more than its handler, as long as that concerns no connection. -/
theorem Stepped.of_eq {o' : Outcome} {t : Turn} (h : Stepped s input e o t)
    (he : o'.engine = o.engine) (hc : o'.control = o.control) : Stepped s input e o' t := by
  cases h with
  | passing keeps passes => exact .passing keeps ⟨he ▸ passes.engine, hc ▸ passes.control⟩
  | greet is phase engine control =>
    exact .greet is phase (he.trans engine) (hc.trans control)
  | join is phase engine control =>
    exact .join is phase (he.trans engine) (hc.trans control)
  | depart is phase engine control =>
    exact .depart is phase (he.trans engine) (hc.trans control)
  | leave is engine control => exact .leave is (he ▸ engine) (hc.trans control)
  | attach is dialing engine control =>
    exact .attach is dialing (he.trans engine) (hc.trans control)
  | offer is receiver phase engine control =>
    exact .offer is receiver phase (he.trans engine) (hc.trans control)
  | accept is message receiver phase engine control =>
    exact .accept is message receiver phase (he.trans engine) (hc.trans control)
  | fallBack is message receiver phase first engine control =>
    exact .fallBack is message receiver phase first (he.trans engine) (hc.trans control)
  | refuse is message receiver phase final engine control =>
    exact .refuse is message receiver phase final (he.trans engine) (hc.trans control)
  | lose live engine control => exact .lose live (he.trans engine) (hc.trans control)
  | alarm is runs engine control => exact .alarm is runs (he.trans engine) (hc.trans control)
  | redial is due engine control => exact .redial is due (he.trans engine) (hc.trans control)

/-- A call of connect joins those who wait, starts an attempt or is answered at once. -/
theorem connect_stepped (caller : Nat) (hi : input = .command (.connect caller)) :
    Stepped s input e (e.connect caller) (e.connectTurn caller) := by
  unfold connect connectTurn
  by_cases hest : e.phase.isEstablished
  · rw [if_pos hest, if_pos hest]
    exact .greet hi (Phase.isEstablished_iff.mp hest) rfl rfl
  by_cases hcon : e.phase.isConnecting
  · rw [if_neg hest, if_neg hest, if_pos hcon, if_pos hcon]
    exact .join hi hcon rfl rfl
  · rw [if_neg hest, if_neg hest, if_neg hcon, if_neg hcon]
    have hp := Phase.settled_of_not hest hcon
    have hne : e.phase ≠ .connecting := by
      intro h; rw [h] at hcon; exact hcon rfl
    -- the phase is published, because a settled client is not connecting
    refine .depart hi hp (engine_openTransport _) ((control_openTransport _).trans ?_)
    exact congrArg (· ++ [Effect.dial e.config.url e.config.subprotocol]) (announcement_of_ne hne)

/-! ### Signals

An ack or a rejection counts only while a handshake waits for its answer. -/

/-- An ack grants a session if a handshake awaits it, and is noise otherwise. -/
theorem acked_stepped {frame : String} {ack : Ack} (hi : input = .signal (.message frame))
    (hm : Inbound.parse frame = .ok (.handshake (.ack ack))) (hr : e.receiver.isSome) :
    Stepped s input e (e.acked s ack) (e.frameTurn frame) := by
  unfold frameTurn
  rw [hm]
  cases hp : e.phase with
  | awaiting kind =>
    obtain ⟨he, hc⟩ := acked_of_awaiting (s := s) ack hp
    exact .accept hi hm hr hp he hc
  | disconnected | connecting | established | reconnecting _ | permanentlyFailed =>
    have hidle : e.acked s ack = e.idle := by unfold acked; rw [hp]
    rw [hidle]; exact stepped_idle

/-- A reject calls for a new session, ends the attempt for good, or is noise. -/
theorem rejected_stepped {frame : String} {reject : Reject} (hi : input = .signal (.message frame))
    (hm : Inbound.parse frame = .ok (.handshake (.reject reject))) (hr : e.receiver.isSome) :
    Stepped s input e (e.rejected s reject) (e.frameTurn frame) := by
  unfold frameTurn
  rw [hm]
  cases hp : e.phase with
  | awaiting kind =>
    dsimp only
    by_cases hf : kind = .resume ∧ e.resumeRetried = false
    · rw [if_pos hf]
      obtain ⟨rfl, hfirst⟩ := hf
      obtain ⟨he, hc⟩ := rejected_of_fallBack (s := s) reject hp hfirst
      exact .fallBack hi hm hr hp hfirst he hc
    · rw [if_neg hf, rejected_of_refuse reject hp hf]
      refine .refuse hi hm hr hp hf (engine_fail ..) ?_
      rw [control_fail, announcement_of_ne (by rw [hp]; simp)]; rfl
  | disconnected | connecting | established | reconnecting _ | permanentlyFailed =>
    have hidle : e.rejected s reject = e.idle := by unfold rejected; rw [hp]
    rw [hidle]; exact stepped_idle

/-- A frame concerns the connection only if it holds an answer to a handshake. -/
theorem framed_stepped {frame : String} (hi : input = .signal (.message frame))
    (hr : e.receiver.isSome) : Stepped s input e (e.framed s frame) (e.frameTurn frame) := by
  -- the host hears of the frame first, which concerns no connection
  have hframed : ∀ o, Stepped s input e o (e.frameTurn frame) →
      Stepped s input e ((e.doing [.host (.message frame)]).andThen fun _ => o)
        (e.frameTurn frame) := fun o ho => ho.of_eq rfl (Outcome.control_andThen ..)
  refine hframed _ ?_
  cases hm : Inbound.parse frame with
  | error error =>
    unfold frameTurn
    rw [hm]; exact .passing (Heartbeat.Keeps.refl _) (passes_doing e rfl)
  | ok message =>
    cases message with
    | envelope envelope =>
      obtain ⟨_, hkeeps, hpasses⟩ := passes_received s envelope e
      unfold frameTurn
      rw [hm]; exact .passing hkeeps hpasses
    | handshake h =>
      cases h with
      | ack ack => exact acked_stepped hi hm hr
      | reject reject => exact rejected_stepped hi hm hr
      | init _ | resume _ => unfold frameTurn; rw [hm]; exact stepped_idle

/-- What a signal does: a handshake, a frame, a loss, or nothing but a warning. -/
theorem signaled_stepped {signal : Signal} (hi : input = .signal signal) (hr : e.receiver.isSome) :
    Stepped s input e (e.signaled s signal) (e.signalTurn signal) := by
  unfold signaled signalTurn
  cases signal with
  | opened =>
    dsimp only
    split
    · exact .offer hi hr ‹_› rfl rfl
    · exact stepped_idle
  | message frame => exact framed_stepped hi hr
  | closed code reason => exact .lose (Or.inr hr) rfl rfl
  | failed reason => exact .lose (Or.inr hr) rfl rfl

/-- A ping tick never concerns the connection. -/
theorem ping_stepped : Stepped s input e (e.ticked s .ping) .passing := by
  unfold ticked
  by_cases hdue : Heartbeat.isDue e.heartbeat.pingAt s.now
  · rw [Heartbeat.fire?_of_due (t := .ping) hdue]
    refine .passing (Heartbeat.keeps_pingSent hdue) ?_
    obtain ⟨⟨_, _, _, he⟩, hc⟩ := passes_pingDue s { e with heartbeat := e.heartbeat.disarm .ping }
    exact ⟨⟨_, _, _, he⟩, hc⟩
  · rw [Heartbeat.fire?_of_not_due (t := .ping) hdue]
    exact stepped_idle

/-- A watchdog that fires is a loss. -/
theorem timeout_stepped (hi : input = .tick .timeout) :
    Stepped s input e (e.ticked s .timeout) (e.inputTurn s.now (.tick .timeout)) := by
  unfold ticked inputTurn
  by_cases hdue : Heartbeat.isDue e.heartbeat.timeoutAt s.now
  · rw [Heartbeat.fire?_of_due (t := .timeout) hdue]
    dsimp only
    by_cases hrun : e.heartbeat.isRunning
    · rw [if_pos ⟨hdue, hrun⟩]
      -- to stop a heartbeat disarms the watchdog once more
      have hfired : ({ e with heartbeat := e.heartbeat.disarm .timeout } : Engine).timedOut =
          { e with heartbeat := e.heartbeat.stop }.doing
            [.warn (.noPong e.config.heartbeat.timeout.toNat), .close] := if_pos hrun
      rw [hfired]
      exact .alarm hi hrun rfl rfl
    · rw [if_neg fun h => hrun h.2]
      have hfired : ({ e with heartbeat := e.heartbeat.disarm .timeout } : Engine).timedOut =
          { e with heartbeat := e.heartbeat.disarm .timeout }.idle := if_neg hrun
      rw [hfired]
      exact .passing (Heartbeat.keeps_disarm_timeout _) ⟨⟨_, _, _, rfl⟩, rfl⟩
  · rw [Heartbeat.fire?_of_not_due (t := .timeout) hdue]
    dsimp only
    rw [if_neg fun h => hdue h.1]
    exact stepped_idle

/-- A running engine's step is the turn of its input. -/
theorem handle_stepped (s : Surroundings) (input : Input) (e : Engine) :
    Stepped s input e (e.handle s input) (e.inputTurn s.now input) := by
  cases input with
  | command c =>
    cases c with
    | connect caller => exact connect_stepped caller rfl
    | disconnect caller =>
      refine .leave (Or.inl ⟨caller, rfl⟩) ⟨e.running, ?_⟩ ?_
      · exact engine_disconnect e
      · refine Eq.trans ?_ (control_disconnect e)
        exact (Outcome.control_emit ..).trans (List.append_nil _)
    | send draft => exact .passing (Heartbeat.Keeps.refl _) (passes_send s draft e)
    | snapshot caller => exact .passing (Heartbeat.Keeps.refl _) (passes_doing e rfl)
  | shutdown =>
    refine .leave (Or.inr rfl) ⟨false, ?_⟩ (control_disconnect e)
    show { e.disconnect.engine with running := false } = _
    rw [engine_disconnect]
  | dialed answer =>
    unfold handle inputTurn
    cases answer with
    | ok receiver =>
      dsimp only
      split
      · exact .attach rfl ‹_› rfl rfl
      · exact stepped_idle
    | error error =>
      dsimp only
      split
      · exact .lose (Or.inl ‹_›) rfl rfl
      · exact stepped_idle
  | signal signal =>
    unfold handle inputTurn
    dsimp only
    split
    · exact signaled_stepped rfl ‹_›
    · exact stepped_idle
  | detached =>
    unfold handle inputTurn
    dsimp only
    split
    · exact .lose (Or.inr ‹_›) rfl rfl
    · exact stepped_idle
  | tick t =>
    cases t with
    | ping => exact ping_stepped
    | timeout => exact timeout_stepped rfl
  | reconnect =>
    unfold handle inputTurn
    dsimp only
    split
    · exact .redial rfl ‹_› (engine_openTransport _) (control_openTransport _)
    · exact stepped_idle

/-- **Every step is the turn of its input.** -/
theorem step_stepped (s : Surroundings) (input : Input) (e : Engine) :
    Stepped s input e (e.step s input) (e.turn s.now input) := by
  unfold step turn
  split
  · exact handle_stepped s input e
  · exact stepped_idle

end Engine
end Tether
