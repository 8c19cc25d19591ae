import Tether.Proofs.Engine.Ending
import Tether.Proofs.Simulation.Carry

/-!
# `Tether.Proofs.Simulation.Silence` — a client that has given up is silent

A client that is disconnected, or has failed for good, lets every event that is still on its way come to
nothing: signals of earlier connections, timers, the answer to a request for a connection. Until
somebody calls connect it writes nothing, asks for nothing, tells the host nothing and stores nothing,
and the peer reaches it no more.

* `Effect.isQuiet` — effects of which neither the peer nor the host nor the storage hears;
* `Engine.Hushed` — one step of a client that has settled;
* `World.Tied` — the one line that is fed is that of the receiver, so a client without one is not fed;
* `World.Silent` — everything that stays as it is, for one move and along a list of moves;
* `silent_history` — all of it, from any moment at which a client has settled.
-/

namespace Tether

namespace Effect

/-- Does the effect stay within the client: its log, its published phase, its transport and answers to
    its callers? -/
def isQuiet : Effect → Bool
  | .dial _ _ | .write _ _ | .store _ _ | .host _ => false
  | _ => true

end Effect

namespace Input

/-- Does somebody call connect? -/
def isConnect : Input → Bool
  | .command (.connect _) => true
  | _ => false

end Input

namespace Engine

variable {e : Engine} {s : Surroundings} {input : Input}

/-- The client is disconnected, or has failed for good. -/
def Settled (e : Engine) : Prop := e.phase = .disconnected ∨ e.phase = .permanentlyFailed

theorem Settled.not_established (hp : e.Settled) : e.phase ≠ .established := by
  rcases hp with hp | hp <;> rw [hp] <;> simp

/-! ## One step -/

namespace Outcome

/-- All effects stay within the client. -/
def Quiet (o : Outcome) : Prop := ∀ x ∈ o.effects, x.isQuiet

/-- Quiet handlers in a row are quiet. -/
theorem Quiet.andThen {o : Outcome} {f : Engine → Outcome} (h : o.Quiet) (hf : (f o.engine).Quiet) :
    (o.andThen f).Quiet := List.forall_mem_append.mpr ⟨h, hf⟩

theorem Quiet.emit {o : Outcome} {x : Effect} (h : o.Quiet) (hx : x.isQuiet) : (o.emit x).Quiet :=
  List.forall_mem_append.mpr ⟨h, List.forall_mem_singleton.mpr hx⟩

end Outcome

theorem quiet_idle (e : Engine) : e.idle.Quiet := fun _ hx => absurd hx List.not_mem_nil

theorem quiet_doing (e : Engine) {x : Effect} (hx : x.isQuiet) : (e.doing [x]).Quiet :=
  List.forall_mem_singleton.mpr hx

theorem quiet_enter (phase : Phase) (e : Engine) : (e.enter phase).Quiet := by
  unfold enter
  split
  · exact quiet_idle e
  · exact List.forall_mem_singleton.mpr rfl

theorem quiet_answerAll (answer : Except Error Unit) (e : Engine) : (e.answerAll answer).Quiet := by
  intro x hx
  obtain ⟨caller, _, rfl⟩ := List.mem_map.mp hx
  rfl

/-- A step of which nobody else hears: the client stays settled, and counts nothing. -/
structure Hushed (e : Engine) (o : Outcome) : Prop where
  quiet : o.Quiet
  settled : o.engine.Settled
  counters : o.engine.session.counters = e.session.counters

theorem hushed_idle (hp : e.Settled) : Hushed e e.idle := ⟨quiet_idle e, hp, rfl⟩

/-- To disconnect once more publishes a phase and closes a transport that is closed already. -/
theorem hushed_disconnect (hp : e.Settled) : Hushed e e.disconnect := by
  refine ⟨?_, Or.inl (by rw [engine_disconnect]), (mute_disconnect e).counters⟩
  have hest : ¬e.phase.isEstablished := fun h => hp.not_established (Phase.isEstablished_iff.mp h)
  have hclosed : (e.settle.doing [.close]).Quiet := quiet_doing _ rfl
  refine ((hclosed.andThen (quiet_answerAll _ _)).andThen (quiet_enter _ _)).andThen ?_
  rw [if_neg hest]
  exact quiet_idle _

/-- **A client that has settled lets every input but a call to connect come to nothing.** -/
theorem step_hushed (s : Surroundings) (h : e.Sound) (hp : e.Settled)
    (hi : input.isConnect = false) : Hushed e (e.step s input) := by
  have hreleased := h.released hp
  have hidle := hushed_idle hp
  have hnone : ¬e.receiver.isSome := by rw [hreleased.receiver]; exact Bool.false_ne_true
  unfold step
  split
  · unfold handle
    cases input with
    | command c =>
      cases c with
      | connect caller => cases hi
      | disconnect caller =>
        obtain ⟨hquiet, hsettled, hcounters⟩ := hushed_disconnect hp
        exact ⟨hquiet.emit rfl, hsettled, hcounters⟩
      | send draft =>
        cases submitted_send s draft e with
        | posted phase _ _ _ | refused phase _ _ _ => exact absurd phase hp.not_established
        | dropped _ engine effects =>
          obtain ⟨_, he⟩ := engine
          show Hushed e (e.send s draft)
          refine ⟨?_, by rw [he]; exact hp, by rw [he]⟩
          unfold Outcome.Quiet
          rw [effects]; exact List.forall_mem_singleton.mpr rfl
      | snapshot caller => exact ⟨quiet_doing e rfl, hp, rfl⟩
    | shutdown =>
      obtain ⟨hquiet, hsettled, hcounters⟩ := hushed_disconnect hp
      exact ⟨hquiet, hsettled, hcounters⟩
    | dialed answer =>
      dsimp only
      rw [if_neg (by rw [hreleased.dialing]; exact Bool.false_ne_true)]
      exact hidle
    | signal signal => dsimp only; rw [if_neg hnone]; exact hidle
    | detached => dsimp only; rw [if_neg hnone]; exact hidle
    | tick t =>
      have hdeadline : e.heartbeat.deadline? t = none := by
        cases t with
        | ping => exact hreleased.heartbeat.2.1
        | timeout => exact hreleased.heartbeat.2.2
      dsimp only
      unfold ticked
      rw [Heartbeat.fire?_of_not_due (by rw [hdeadline]; exact Bool.false_ne_true)]
      exact hidle
    | reconnect =>
      dsimp only
      rw [if_neg (by rw [hreleased.timer]; exact Bool.false_ne_true)]
      exact hidle
  · exact hidle

/-! ## Giving up a receiver -/

theorem close_mem_of_control {o : Outcome} (h : .close ∈ o.control) : .close ∈ o.effects :=
  (List.mem_filter.mp h).1

/-- A loss closes the connection. -/
theorem close_mem_lost {now : Nat} {cause : String} {o : Outcome} (hl : Lost now cause e o) :
    .close ∈ o.control := by
  cases hl with
  | retry _ _ control | giveUp _ _ control => rw [control]; exact List.mem_cons_self

/-- A handshake that cannot be written closes the connection, and any other leaves it as it is. -/
theorem kept_sendHandshake {o : Outcome} {e' : Engine} (h : e'.Sound) (hr : e'.receiver.isSome)
    (hp : e'.phase ≠ .established) (hsame : e'.receiver = e.receiver)
    (he : o.engine = (e'.sendHandshake s).engine) (hc : o.control = (e'.sendHandshake s).control) :
    o.engine.receiver = e.receiver ∨ .close ∈ o.effects := by
  cases h.offered s hr hp with
  | waits engine _ => exact Or.inl (by rw [he, engine]; exact hsame)
  | unsent lost _ control =>
    refine Or.inr (close_mem_of_control ?_)
    rw [hc, control]
    exact List.mem_append_right _ (close_mem_lost lost)

/-- **A receiver is given up only in a step that closes the transport.** -/
theorem kept_or_closed (s : Surroundings) (h : e.Sound) (hi : ∀ n, input ≠ .dialed (.ok n)) :
    (e.step s input).engine.receiver = e.receiver ∨ .close ∈ (e.step s input).effects := by
  have hstep := step_stepped s input e
  generalize e.turn s.now input = t at hstep
  cases hstep with
  | passing _ passes => obtain ⟨⟨_, _, _, he⟩, _⟩ := passes; exact Or.inl (by rw [he])
  | greet _ _ engine _ | join _ _ engine _ | alarm _ _ engine _ | redial _ _ engine _ =>
    exact Or.inl (by rw [engine])
  | depart _ _ engine _ | accept _ _ _ _ engine _ => exact Or.inl (by rw [engine]; rfl)
  | leave _ _ control | refuse _ _ _ _ _ _ control =>
    exact Or.inr (close_mem_of_control (by rw [control]; exact List.mem_cons_self))
  | attach is _ _ _ => exact absurd is (hi _)
  | offer _ receiver phase engine control =>
    exact kept_sendHandshake h receiver (by rw [phase]; simp) rfl engine control
  | fallBack _ _ receiver phase _ engine control =>
    have hne : e.phase ≠ .established := by rw [phase]; simp
    exact kept_sendHandshake (h.fallenBack hne) receiver hne rfl engine control
  | lose live _ control =>
    refine Or.inr (close_mem_of_control ?_)
    rw [control]; exact close_mem_lost (h.timed.lost (h.wired.expected live) s.now _)

/-- A connection that was asked for is held once it is handed over. -/
theorem receiver_of_dialed (s : Surroundings) (n : Nat) (h : e.Sound) (hd : e.dialing) :
    (e.step s (.dialed (.ok n))).engine.receiver = some n := by
  have hrun : e.running := by
    refine Classical.byContradiction fun hrun => ?_
    have hp := h.wired.expected (Or.inl hd)
    rw [h.stopped (eq_false_of_ne_true hrun)] at hp
    exact Bool.false_ne_true hp
  rw [step, if_pos hrun]
  show (if e.dialing then e.dialed s.now (.ok n) else e.idle).engine.receiver = some n
  rw [if_pos hd]; rfl

end Engine

namespace Link

/-- Quiet effects reach no peer. -/
theorem still_of_quiet {xs : List Effect} (hx : ∀ x ∈ xs, x.isQuiet) (l : Link) :
    l.Still (xs.foldl carry l) := by
  induction xs generalizing l with
  | nil => exact .refl l
  | cons x xs ih =>
    obtain ⟨hfirst, hrest⟩ := List.forall_mem_cons.mp hx
    have hone : l.Still (l.carry x) := by
      cases x with
      | close => exact still_close l
      | write _ _ => cases hfirst
      | _ => exact .refl l
    exact hone.trans (ih hrest (l.carry x))

/-- Whatever the peer does on a link of which no line is fed, it reaches nobody. -/
theorem apply_of_not_fed {l : Link} (h : l.feeding = none) (a : PeerAct) : (a.apply l).2 = false := by
  unfold PeerAct.apply
  split
  · cases a with
    | accept => simp only [accept, h]
    | deliver frame => simp only [deliver, emit, h]
    | hangUp reason => simp only [hangUp, emitClose, h]
    | fail reason => simp only [fail, emit, h]
    | refuse _ | drop => rfl
  · rfl

end Link

namespace Store

/-- Quiet effects leave the store alone. -/
theorem carry_of_quiet {xs : List Effect} (hx : ∀ x ∈ xs, x.isQuiet) (store : Store) :
    xs.foldl carry store = store := by
  induction xs generalizing store with
  | nil => rfl
  | cons x xs ih =>
    obtain ⟨hfirst, hrest⟩ := List.forall_mem_cons.mp hx
    have hone : store.carry x = store := by
      cases x with
      | store _ _ => cases hfirst
      | _ => rfl
    rw [List.foldl_cons, hone]
    exact ih hrest store

end Store

namespace World

open Engine (Sound Settled)

variable {w v : World} {input : Input} {m : Move}

/-! ## The line that is fed -/

/-- The one line that is fed is that of the receiver that the client holds. -/
def Tied (w : World) : Prop := ∀ n, w.link.feeding = some n → w.engine.receiver = some n

theorem Tied.feeding_eq_none (h : w.Tied) (hr : w.engine.receiver = none) : w.link.feeding = none := by
  cases hf : w.link.feeding with
  | none => rfl
  | some n => exact absurd (hr.symm.trans (h n hf)) (by simp)

/-- Only a client that asked for a connection is given an answer, and if another line is fed then, it is
    the one that is handed over. -/
theorem fed_dialed {answer : Except Error Nat} (h : w.fed? m = some (v, .dialed answer)) :
    w.engine.dialing ∧ (v.link.feeding = w.link.feeding ∨
      ∃ n, answer = .ok n ∧ v.link.feeding = some n) := by
  cases m with
  | dial =>
    unfold fed? at h
    dsimp only at h
    split at h
    · refine ⟨‹_›, ?_⟩
      split at h
      · cases h; exact Or.inl rfl
      · cases h
        unfold Link.dial
        dsimp only
        split
        · exact Or.inl rfl
        · exact Or.inr ⟨_, rfl, rfl⟩
    · cases h
  | take =>
    unfold fed? at h
    dsimp only at h
    split at h
    · split at h <;> cases h
    · cases h
  | receive =>
    cases hr : w.engine.receiver with
    | none => simp only [fed?, hr] at h; cases h
    | some n =>
      rcases hl : w.link.receive n with ⟨link, s | _ | _⟩ <;>
        simp only [fed?, hr, hl] at h <;> cases h
  | stop =>
    unfold fed? at h
    dsimp only at h
    split at h <;> cases h
  | call _ | start _ | arrive | drop | peer _ | close | wait _ | breakStore _ | deaden _ | tick _
  | reconnect | report => cases h

/-- **Every move keeps the line that is fed tied to the client**: whatever gives up a receiver closes the
    transport. -/
theorem tied_act (m : Move) (hw : w.Tied) (hs : w.engine.Sound) : (w.act m).Tied := by
  intro n hn
  cases hf : w.fed? m with
  | none =>
    obtain ⟨he, hk, _⟩ := act_of_not_fed hf
    rw [he]
    rcases hk.feeding with h | h
    · exact hw n (h ▸ hn)
    · exact absurd (h.symm.trans hn) (by simp)
  | some x =>
    obtain ⟨v, input⟩ := x
    obtain ⟨hact, he, _⟩ := act_of_fed hf
    have hv : v.engine.Sound := he ▸ hs
    rw [hact] at hn ⊢
    rw [engine_feed]
    have hopen : .close ∉ (v.engine.step v.surroundings input).effects := fun hclose =>
      absurd ((feeding_feed v hclose).symm.trans hn) (by simp)
    have hfed : v.link.feeding = some n := by
      have hk := (keeps_feed v input).feeding
      rw [feeding_release] at hk
      rcases hk with h | h
      · exact h.symm.trans hn
      · exact absurd (h.symm.trans hn) (by simp)
    by_cases hi : ∃ answer, input = .dialed answer
    · obtain ⟨answer, rfl⟩ := hi
      obtain ⟨hd, hnew⟩ := fed_dialed hf
      have hnone : w.link.feeding = none := by
        refine hw.feeding_eq_none (Option.not_isSome_iff_eq_none.mp fun hr => ?_)
        exact absurd ((hs.wired.dialing_eq_false hr).symm.trans hd) Bool.false_ne_true
      rcases hnew with hold | ⟨k, rfl, hk⟩
      · exact absurd (hnone.symm.trans (hold.symm.trans hfed)) (by simp)
      · obtain rfl : k = n := Option.some.inj (hk.symm.trans hfed)
        exact Engine.receiver_of_dialed _ k hv (he ▸ hd)
    · have hother : ∀ answer, input ≠ .dialed answer := fun answer h => hi ⟨answer, h⟩
      have hsame := (Engine.kept_or_closed v.surroundings hv fun k => hother _).resolve_right hopen
      rw [hsame, he]
      exact hw n (((given_of_fed hf).link hother).2.symm.trans hfed)

/-- A client starts with a link of which no line is fed. -/
theorem tied_start {setup : Setup} {config : Config} {store : Store} {failing : List String}
    {hasRuntime : Bool} (hw : start setup config store failing hasRuntime = .ok w) :
    w.Tied ∧ w.engine.Sound := by
  obtain ⟨thread, _, rfl⟩ := start_eq hw
  refine ⟨fun n hn => ?_, Engine.sound_create config thread⟩
  cases hn

/-- Receiver and line stay tied in every history. -/
theorem tied_history (moves : List Move) (hw : w.Tied) (hs : w.engine.Sound) :
    (w.history moves).Tied ∧ (w.history moves).engine.Sound := by
  induction moves generalizing w with
  | nil => exact ⟨hw, hs⟩
  | cons m rest ih => exact ih (tied_act m hw hs) (sound_act m hs)

/-! ## Silence -/

/-- Nobody has heard of the client from a world to a later one in which it is settled. -/
structure Silent (w w' : World) : Prop where
  settled : w'.engine.Settled
  /-- All that was done is quiet: no request for a connection, no frame, no callback of the host, no call
      of the storage. -/
  effects : ∃ xs : List Effect, w'.log.map Record.effect = w.log.map Record.effect ++ xs ∧
    ∀ x ∈ xs, x.isQuiet
  /-- The transport was not asked for a connection, -/
  attempts : w'.link.attempts = w.link.attempts
  /-- and has no frame more, though a peer that leaves forgets those it had. -/
  frames : w'.link.frames = w.link.frames ∨ w'.link.frames = []
  counters : w'.engine.session.counters = w.engine.session.counters
  store : w'.store = w.store

/-- One silence after the other is a silence. -/
theorem Silent.trans {w' w'' : World} (h : w.Silent w') (h' : w'.Silent w'') : w.Silent w'' := by
  obtain ⟨xs, hxs, hquiet⟩ := h.effects
  obtain ⟨ys, hys, hquiet'⟩ := h'.effects
  refine ⟨h'.settled, ⟨xs ++ ys, ?_, ?_⟩, h'.attempts.trans h.attempts, ?_,
    h'.counters.trans h.counters, h'.store.trans h.store⟩
  · rw [hys, hxs, List.append_assoc]
  · exact List.forall_mem_append.mpr ⟨hquiet, hquiet'⟩
  · rcases h'.frames with hf | hf
    · rw [hf]; exact h.frames
    · exact Or.inr hf

/-- **One move in silence.** -/
theorem silent_act (m : Move) (hs : w.engine.Sound) (hp : w.engine.Settled)
    (hc : ∀ v input, w.fed? m = some (v, input) → input.isConnect = false) :
    w.Silent (w.act m) := by
  cases hf : w.fed? m with
  | none =>
    obtain ⟨he, _, _⟩ := act_of_not_fed hf
    have hidle := idle_of_not_fed hf
    obtain ⟨notices, hlog⟩ := hidle.log
    refine ⟨he ▸ hp, ⟨_, hlog, fun x hx => ?_⟩, hidle.attempts, hidle.frames, by rw [he], hidle.store⟩
    obtain ⟨notice, _, rfl⟩ := List.mem_map.mp hx
    rfl
  | some x =>
    obtain ⟨v, input⟩ := x
    obtain ⟨hact, he, _⟩ := act_of_fed hf
    have hgiven := given_of_fed hf
    -- no answer can come, because none was asked for
    have hundialed : ∀ answer, input ≠ .dialed answer := by
      rintro answer rfl
      exact absurd ((hs.released hp).dialing.symm.trans (fed_dialed hf).1) Bool.false_ne_true
    obtain ⟨hquiet, hsettled, hcounters⟩ := Engine.step_hushed v.surroundings (he ▸ hs) (he ▸ hp)
      (hc v input hf)
    obtain ⟨nonces, later, log, hfeed, hlog⟩ := feed_eq v input
    have hlink := (Link.still_release v.engine.receiver
      (v.engine.step v.surroundings input).engine.receiver v.link).trans
      (Link.still_of_quiet hquiet _)
    have hbefore := (hgiven.link hundialed).1
    rw [hact, hfeed]
    refine ⟨hsettled, ⟨_, ?_, hquiet⟩, ?_, Or.inl ?_, he ▸ hcounters, ?_⟩
    · rw [← hlog, ← hgiven.log, ← List.map_append]
    · exact hlink.attempts.trans hbefore.attempts.symm
    · exact hlink.frames.trans hbefore.frames.symm
    · exact (Store.carry_of_quiet hquiet v.store).trans hgiven.store

/-- **Any moves in silence**, as long as nobody calls connect. -/
theorem silent_moves (moves : List Move) (hs : w.engine.Sound) (hp : w.engine.Settled)
    (hc : ∀ x ∈ w.trace moves, x.2.isConnect = false) :
    w.Silent (w.history moves) := by
  induction moves generalizing w with
  | nil =>
    exact ⟨hp, ⟨[], (List.append_nil _).symm, fun _ hx => absurd hx List.not_mem_nil⟩, rfl,
      Or.inl rfl, rfl, rfl⟩
  | cons m rest ih =>
    rw [trace] at hc
    obtain ⟨hfirst, hrest⟩ := List.forall_mem_append.mp hc
    have hone := silent_act m hs hp fun v input hf => by
      refine hfirst (v.surroundings, input) ?_
      rw [hf]; exact List.mem_singleton_self _
    exact hone.trans (ih (sound_act m hs) hone.settled hrest)

/-- How a client stays that has settled, over the moves since. -/
structure Silenced (w w' : World) : Prop extends Silent w w' where
  /-- No request for a connection is on its way, and no timer is set. -/
  timers : w'.engine.dialing = false ∧ w'.engine.reconnectAt = none ∧
    w'.engine.heartbeat.pingAt = none ∧ w'.engine.heartbeat.timeoutAt = none
  /-- Whatever the peer does, it does not reach the client. -/
  unreached : ∀ a : PeerAct, (a.apply w'.link).2 = false

/-- **A client that has given up is silent** until somebody calls connect: from any moment of any world at
    which it is disconnected or has failed for good, whatever moves were made before and are made
    after. -/
theorem silent_history {setup : Setup} {config : Config} {store : Store} {failing : List String}
    {hasRuntime : Bool} {w : World} {before after : List Move}
    (hw : start setup config store failing hasRuntime = .ok w)
    (hp : (w.history before).engine.phase = .disconnected ∨
      (w.history before).engine.phase = .permanentlyFailed)
    (hc : ∀ x ∈ (w.history before).trace after, x.2.isConnect = false) :
    Silenced (w.history before) ((w.history before).history after) := by
  obtain ⟨hstart, hnew⟩ := tied_start hw
  obtain ⟨htied, hsound⟩ := tied_history before hstart hnew
  obtain ⟨htied', hsound'⟩ := tied_history after htied hsound
  have hsilent := silent_moves after hsound hp hc
  have hreleased := hsound'.released hsilent.settled
  refine ⟨hsilent, ⟨hreleased.dialing, hreleased.timer, hreleased.heartbeat.2⟩, fun a => ?_⟩
  exact Link.apply_of_not_fed (htied'.feeding_eq_none hreleased.receiver) a

/-- A client that disconnects while two signals of its peer wait on its line, and then lives on: nothing
    comes of the signals, of what the peer tries, of a message of the host or of the time that passes. -/
theorem silent_disconnected :
    let before : List Move := [.call (.connect 1), .take, .dial, .peer .accept,
      .peer (.fail "reset"), .call (.disconnect 2), .take]
    let after : List Move := [.receive, .peer .accept, .peer (.deliver "?"), .receive, .dial,
      .call (.send (.stateUpdate .null)), .take, .call (.snapshot 3), .take, .wait 60000,
      .tick .ping, .tick .timeout, .reconnect, .peer (.hangUp "bye"), .call (.disconnect 4), .take]
    ∃ w, start {} {} {} [] true = .ok w ∧
      Silenced (w.history before) ((w.history before).history after) ∧
      (w.history before).link.attempts = 1 := by
  intro before after
  have hw := start_of_flawless {} {} {} [] (by decide +kernel) rfl
  exact ⟨_, hw, silent_history hw (Or.inl (by decide +kernel)) (by decide +kernel),
    by decide +kernel⟩

end World
end Tether
