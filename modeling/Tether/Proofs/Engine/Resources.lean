import Tether.Proofs.Backoff
import Tether.Proofs.Engine.Turn

/-!
# `Tether.Proofs.Engine.Resources` — the phase decides what is live

An engine holds seven resources: a request for a connection, a receiver, the timer of the next attempt,
a pending attempt in the backoff, a running heartbeat, a key exchange and session keys. Between two
steps its phase decides which of them are live. The invariant comes in four parts, each kept by every
turn:

* `Wired` — the request and the receiver;
* `Timed` — the timer and the backoff;
* `Pulsing` — the heartbeat;
* `Secretive` — the key exchange and the keys.

`Sound` is all four, and `sound_run` says that every history keeps it.
-/

namespace Tether

namespace Engine

/-! ## The invariant -/

/-- A request for a connection and a receiver are never held together, and one of them is held exactly
    while a transport is expected. -/
def Wired (e : Engine) : Prop :=
  match e.phase with
  | .connecting => e.dialing = true ↔ e.receiver = none
  | .awaiting _ | .established => e.dialing = false ∧ e.receiver.isSome
  | _ => e.dialing = false ∧ e.receiver = none

/-- The timer, the backoff and the phase agree on whether an attempt is scheduled, and on its number. -/
structure Timed (e : Engine) : Prop where
  config : e.backoff.config = e.config.reconnect
  attempts : e.backoff.attempts ≤ e.config.reconnect.maxRetries
  timer : e.reconnectAt.isSome = e.backoff.pending
  pending : e.backoff.pending = true ↔ ∃ n, e.phase = .reconnecting n
  number : ∀ n, e.phase = .reconnecting n → n = e.backoff.attempts ∧ 1 ≤ n

/-- A heartbeat runs only in a session, only if it is enabled, and only at the session's interval. -/
structure Pulsing (e : Engine) : Prop where
  timeout : e.heartbeat.timeout = e.config.heartbeat.timeout.toNat
  armed : e.heartbeat.Armed
  runs : e.heartbeat.isRunning → e.phase = .established ∧ e.config.heartbeat.enabled ∧
    ∃ interval, interval ≠ 0 ∧ e.session.heartbeatInterval = some interval ∧
      e.heartbeat.interval = some interval.toNat

/-- A key exchange lasts as long as its handshake has no answer; keys last as long as their session. -/
structure Secretive (e : Engine) : Prop where
  exchange : e.exchange.isSome ↔ e.config.auth.keyExchange ∧ ∃ kind, e.phase = .awaiting kind
  keys : e.session.keys.isSome → e.phase = .established

/-- The phase decides which resources are live. -/
structure Sound (e : Engine) : Prop where
  wired : e.Wired
  timed : e.Timed
  pulsing : e.Pulsing
  secretive : e.Secretive
  /-- An engine that has stopped has disconnected. -/
  stopped : e.running = false → e.phase = .disconnected

variable {e : Engine} {s : Surroundings} {input : Input}

/-- A connection that is requested or held is one that the phase expects. -/
theorem Wired.expected (hw : e.Wired) (h : e.dialing ∨ e.receiver.isSome) :
    e.phase.reconnectsOnLoss := by
  unfold Wired at hw
  cases hp : e.phase with
  | connecting | awaiting _ | established => rfl
  | disconnected | reconnecting _ | permanentlyFailed =>
    rw [hp] at hw
    obtain ⟨hd, hr⟩ := hw
    rw [hd, hr] at h
    exact absurd h (by simp)

/-- A session has its receiver, and asks for no other. -/
theorem Wired.of_established (hw : e.Wired) (hp : e.phase = .established) :
    e.dialing = false ∧ e.receiver.isSome := by
  unfold Wired at hw
  rw [hp] at hw
  exact hw

/-- A client that holds a receiver is not waiting for one. -/
theorem Wired.dialing_eq_false (hw : e.Wired) (hr : e.receiver.isSome) : e.dialing = false := by
  have hp := hw.expected (Or.inr hr)
  unfold Wired at hw
  cases hc : e.phase with
  | connecting =>
    rw [hc] at hw
    refine eq_false_of_ne_true fun hd => ?_
    rw [hw.mp hd] at hr
    exact absurd hr Bool.false_ne_true
  | awaiting _ | established => rw [hc] at hw; exact hw.1
  | disconnected | reconnecting _ | permanentlyFailed =>
    rw [hc] at hp; exact absurd hp Bool.false_ne_true

/-- No attempt is scheduled in a phase that a loss can end. -/
theorem Timed.not_pending (ht : e.Timed) (hp : e.phase.reconnectsOnLoss) :
    e.backoff.pending = false := by
  refine eq_false_of_ne_true fun hpend => ?_
  obtain ⟨n, hn⟩ := ht.pending.mp hpend
  rw [hn] at hp
  exact absurd hp Bool.false_ne_true

/-- Outside a scheduled attempt no timer is set. -/
theorem Timed.timer_eq_none (ht : e.Timed) (hp : e.backoff.pending = false) :
    e.reconnectAt = none := by
  have h := ht.timer
  rw [hp] at h
  exact Option.not_isSome_iff_eq_none.mp (by rw [h]; exact Bool.false_ne_true)

/-- Outside a session no heartbeat runs. -/
theorem Pulsing.idle (hb : e.Pulsing) (hp : e.phase ≠ .established) :
    e.heartbeat.isRunning = false :=
  eq_false_of_ne_true fun h => hp (hb.runs h).1

/-- Outside a session there are no keys. -/
theorem Secretive.no_keys (hs : e.Secretive) (hp : e.phase ≠ .established) :
    e.session.keys = none := by
  refine Option.not_isSome_iff_eq_none.mp fun h => hp (hs.keys h)

/-! ## A loss -/

/-- The engine that waits for its next attempt. -/
def retrying (now : Nat) (e : Engine) : Engine :=
  { e.lapsed e.backoff.schedule.1 with
    reconnectAt := some (now + (e.backoff.delay e.backoff.attempts).toNat)
    phase := .reconnecting (e.backoff.attempts + 1) }

/-- The engine that gave up over a loss. -/
def exhausted (e : Engine) : Engine :=
  { (e.lapsed e.backoff).settle with phase := .permanentlyFailed, waiting := [] }

/-- What a loss comes to: another attempt while one is left, and permanent failure otherwise. -/
inductive Lost (now : Nat) (cause : String) (e : Engine) : Outcome → Prop where
  | retry {o : Outcome} (left : e.backoff.attempts < e.config.reconnect.maxRetries)
      (engine : o.engine = e.retrying now)
      (control : o.control =
        .close :: (e.farewell ++ [.phase (.reconnecting (e.backoff.attempts + 1))])) :
      Lost now cause e o
  | giveUp {o : Outcome} (none : e.backoff.attempts = e.config.reconnect.maxRetries)
      (engine : o.engine = e.exhausted)
      (control : o.control =
        .close :: (e.farewell ++ .close :: .phase .permanentlyFailed ::
          .host (.permanentFailure (.retryExhausted e.config.reconnect.maxRetries cause)) ::
          e.answers (.error (.retryExhausted e.config.reconnect.maxRetries cause)))) :
      Lost now cause e o

/-- **Every loss is noticed**: where a transport is expected, the backoff decides. -/
theorem Timed.lost (ht : e.Timed) (hp : e.phase.reconnectsOnLoss) (now : Nat) (cause : String) :
    Lost now cause e (e.lose now cause) := by
  have hpend := ht.not_pending hp
  by_cases hlt : e.backoff.attempts < e.backoff.config.maxRetries
  · have hb := Backoff.schedule_of_lt hpend hlt
    obtain ⟨he, hc⟩ := lose_of_retry now cause hp hb
    refine .retry (ht.config ▸ hlt) (he.trans ?_) hc
    unfold retrying
    rw [hb]
  · have hle := UInt32.not_lt.mp hlt
    obtain ⟨he, hc⟩ := lose_of_exhausted now cause hp (Backoff.schedule_of_le hpend hle)
    have heq : e.backoff.attempts = e.config.reconnect.maxRetries :=
      UInt32.le_antisymm ht.attempts (ht.config ▸ hle)
    rw [heq] at hc
    exact .giveUp heq he hc

/-! ## Every turn keeps the invariant -/

/-- Only a client that runs takes a turn. -/
theorem running_of_turn (now : Nat) (input : Input) (e : Engine)
    (h : e.turn now input ≠ .passing) : e.running = true := by
  refine Classical.byContradiction fun hr => h ?_
  rw [turn, if_neg hr]

/-- A client that has settled, and let go of everything, is sound. -/
theorem sound_settle {phase : Phase} (running : Bool) (e : Engine)
    (hp : phase = .disconnected ∨ phase = .permanentlyFailed)
    (hr : running = false → phase = .disconnected) (hc : e.backoff.config = e.config.reconnect)
    (hh : e.heartbeat.timeout = e.config.heartbeat.timeout.toNat) :
    Sound { e.settle with phase, waiting := [], running } := by
  have hzero : (0 : UInt32) ≤ e.config.reconnect.maxRetries := UInt32.zero_le
  rcases hp with rfl | rfl <;>
    exact ⟨⟨rfl, rfl⟩, ⟨hc, hzero, rfl, by simp [settle, Backoff.reset], by simp⟩,
      ⟨hh, Heartbeat.armed_stop _, by simp [settle, abandon, Heartbeat.stop, Heartbeat.isRunning]⟩,
      ⟨by simp [settle, abandon], by simp [settle, Session.ended]⟩, hr⟩

/-- A loss leaves a sound engine, whatever the backoff answers. -/
theorem Sound.of_lost {now : Nat} {cause : String} {o : Outcome} (h : e.Sound)
    (hp : e.phase.reconnectsOnLoss) (hl : Lost now cause e o) : Sound o.engine := by
  -- an engine that has stopped is disconnected, and has nothing to lose
  have hrun : e.running = true := by
    refine Classical.byContradiction fun hr => ?_
    rw [h.stopped (eq_false_of_ne_true hr)] at hp
    exact Bool.false_ne_true hp
  cases hl with
  | retry left engine _ =>
    have hb := Backoff.schedule_of_lt (h.timed.not_pending hp) (h.timed.config ▸ left)
    rw [engine]
    unfold retrying
    rw [hb]
    have hnext := Backoff.toNat_attempts_add_one (b := e.backoff) (h.timed.config ▸ left)
    refine ⟨⟨rfl, rfl⟩, ⟨h.timed.config, ?_, rfl, ⟨fun _ => ⟨_, rfl⟩, fun _ => rfl⟩, ?_⟩,
      ⟨h.pulsing.timeout, Heartbeat.armed_stop _, ?_⟩, ⟨?_, ?_⟩, ?_⟩
    · show e.backoff.attempts + 1 ≤ e.config.reconnect.maxRetries
      rw [UInt32.le_iff_toNat_le, hnext]; exact UInt32.lt_iff_toNat_lt.mp left
    · intro n hn
      obtain rfl : _ = n := Phase.reconnecting.inj hn
      refine ⟨rfl, ?_⟩
      rw [UInt32.le_iff_toNat_le, hnext, UInt32.toNat_one]; omega
    · exact fun hh => absurd hh Bool.false_ne_true
    · simp [lapsed, abandon]
    · exact fun hk => absurd hk Bool.false_ne_true
    · intro hr; exact absurd (hrun.symm.trans hr) (by simp)
  | giveUp _ engine _ =>
    rw [engine]
    refine sound_settle e.running (e.lapsed e.backoff) (Or.inr rfl) ?_ h.timed.config
      h.pulsing.timeout
    intro hr; exact absurd (hrun.symm.trans hr) (by simp)

/-- An engine whose handshake has gone out is sound. -/
theorem Sound.awaitingAnswer (h : e.Sound) (hr : e.receiver.isSome) (hp : e.phase ≠ .established) :
    (e.awaitingAnswer s).Sound := by
  have hexp := h.wired.expected (Or.inr hr)
  have hpend := h.timed.not_pending hexp
  refine ⟨⟨h.wired.dialing_eq_false hr, hr⟩,
    ⟨h.timed.config, h.timed.attempts, h.timed.timer, ?_, ?_⟩,
    ⟨h.pulsing.timeout, h.pulsing.armed, ?_⟩, ⟨?_, ?_⟩, ?_⟩
  · show e.backoff.pending = true ↔ _
    rw [hpend]; simp [Engine.awaitingAnswer]
  · intro n hn; exact absurd hn (by simp [Engine.awaitingAnswer])
  · intro hh; exact absurd (h.pulsing.runs hh).1 hp
  · simp only [Engine.awaitingAnswer, freshExchange]
    cases e.config.auth.keyExchange <;> simp
  · intro hk; exact absurd (h.secretive.keys hk) hp
  · intro hrun
    have : e.phase = .disconnected := h.stopped hrun
    rw [this] at hexp
    exact absurd hexp Bool.false_ne_true

/-- What a handshake comes to: it waits for its answer, or it could not be written, which is a loss. -/
inductive Offered (s : Surroundings) (e : Engine) (o : Outcome) : Prop where
  | waits (engine : o.engine = e.awaitingAnswer s)
      (control : o.control = e.announcement (.awaiting (e.offering s).1) ++
        [.write (.handshake (e.offering s).2) (.ok ())]) : Offered s e o
  | unsent {error : Error} {o' : Outcome}
      (lost : Lost s.now (unsent (e.offering s).2 error) (e.awaitingAnswer s) o')
      (engine : o.engine = o'.engine)
      (control : o.control = (e.announcement (.awaiting (e.offering s).1) ++
        [.write (.handshake (e.offering s).2) (.error error)]) ++ o'.control) : Offered s e o

theorem Sound.offered (s : Surroundings) (h : e.Sound) (hr : e.receiver.isSome)
    (hp : e.phase ≠ .established) : Offered s e (e.sendHandshake s) := by
  have hw := h.awaitingAnswer (s := s) hr hp
  cases hans : s.write with
  | ok _ =>
    obtain ⟨he, hc⟩ := sendHandshake_of_ok e hans
    exact .waits he hc
  | error error =>
    obtain ⟨he, hc⟩ := sendHandshake_of_error e hans
    exact .unsent (hw.timed.lost rfl s.now _) he (hc.trans (List.append_cons ..))

/-- So does a handshake, written or refused, -/
theorem Sound.sendHandshake (h : e.Sound) (hr : e.receiver.isSome) (hp : e.phase ≠ .established) :
    Sound (e.sendHandshake s).engine := by
  have hw := h.awaitingAnswer (s := s) hr hp
  cases h.offered s hr hp with
  | waits engine _ => rw [engine]; exact hw
  | unsent lost engine _ => rw [engine]; exact hw.of_lost rfl lost

/-- so does a client that starts its session over, -/
theorem Sound.fallenBack (h : e.Sound) (hp : e.phase ≠ .established) : e.fallenBack.Sound := by
  refine ⟨h.wired, ⟨h.timed.config, h.timed.attempts, h.timed.timer, h.timed.pending, h.timed.number⟩,
    ⟨h.pulsing.timeout, h.pulsing.armed, ?_⟩, ⟨h.secretive.exchange, ?_⟩, h.stopped⟩
  · intro hh; exact absurd (h.pulsing.runs hh).1 hp
  · intro hk; exact absurd hk Bool.false_ne_true

/-- The heartbeat that an ack starts has the interval of its session. -/
theorem heartbeat_granted (ack : Ack) (hh : e.heartbeat.isRunning = false) :
    (e.granted s ack).heartbeat.timeout = e.heartbeat.timeout ∧
      (e.heartbeat.Armed → (e.granted s ack).heartbeat.Armed) ∧
      ((e.granted s ack).heartbeat.isRunning → e.config.heartbeat.enabled ∧ ∃ interval,
        interval ≠ 0 ∧ (e.granted s ack).session.heartbeatInterval = some interval ∧
        (e.granted s ack).heartbeat.interval = some interval.toNat) := by
  have hi : (e.granted s ack).session.heartbeatInterval =
      some (e.config.heartbeat.interval.getD ack.heartbeatInterval) :=
    heartbeatInterval_keyed ..
  generalize e.config.heartbeat.interval.getD ack.heartbeatInterval = interval at hi
  have hb : (e.granted s ack).heartbeat =
      if e.config.heartbeat.enabled ∧ interval ≠ 0 then e.heartbeat.start s.now interval.toNat
      else e.heartbeat := by
    show beating s.now _ = _
    unfold beating
    rw [show (e.grantedSession s ack).heartbeatInterval = some interval from hi]
  rw [hb, hi]
  split
  · exact ⟨rfl, fun _ => Heartbeat.armed_start .., fun _ => ⟨‹_ ∧ _›.1, interval, ‹_ ∧ _›.2, rfl, rfl⟩⟩
  · exact ⟨rfl, id, fun hr => absurd hr (by rw [hh]; exact Bool.false_ne_true)⟩

/-- and so does one whose session is granted. -/
theorem Sound.granted {kind : Offer} (h : e.Sound) (ack : Ack) (hr : e.receiver.isSome)
    (hp : e.phase = .awaiting kind) : (e.granted s ack).Sound := by
  -- no heartbeat runs and no attempt is pending while a handshake waits, so both start afresh
  have hne : e.phase ≠ .established := by rw [hp]; simp
  have hpend := h.timed.not_pending (by rw [hp]; rfl)
  obtain ⟨htime, harmed, hruns⟩ := heartbeat_granted (s := s) ack (h.pulsing.idle hne)
  refine ⟨⟨h.wired.dialing_eq_false hr, hr⟩, ⟨h.timed.config, UInt32.zero_le, ?_, ?_, ?_⟩,
    ⟨htime.trans h.pulsing.timeout, harmed h.pulsing.armed, fun hh => ⟨rfl, hruns hh⟩⟩, ⟨?_, ?_⟩, ?_⟩
  · show e.reconnectAt.isSome = false
    rw [h.timed.timer_eq_none hpend]; rfl
  · simp [Engine.granted, Backoff.reset]
  · intro n hn; exact absurd hn (by simp [Engine.granted])
  · simp [Engine.granted]
  · exact fun _ => rfl
  · intro hrun
    have : e.phase = .disconnected := h.stopped hrun
    rw [hp] at this
    exact absurd this (by simp)

/-- An engine that asks for a connection while it has none is sound. -/
theorem Sound.dialing {waiting : List Nat} {backoff : Backoff} {retried lost : Bool} (h : e.Sound)
    (hp : e.phase.reconnectsOnLoss = false) (hrun : e.running = true)
    (hc : backoff.config = e.backoff.config) (hpend : backoff.pending = false)
    (ha : backoff.attempts ≤ e.backoff.attempts) :
    Sound { e with
      waiting, backoff, lost
      resumeRetried := retried
      reconnectAt := none
      phase := .connecting
      dialing := true } := by
  have hne : e.phase ≠ .established := by
    intro h'; rw [h'] at hp; exact absurd hp (by simp [Phase.reconnectsOnLoss])
  have hr : e.receiver = none := by
    refine Option.not_isSome_iff_eq_none.mp fun hr => ?_
    rw [h.wired.expected (Or.inr hr)] at hp; exact absurd hp (by simp)
  refine ⟨?_, ⟨hc.trans h.timed.config, UInt32.le_trans ha h.timed.attempts, hpend.symm, ?_, ?_⟩,
    ⟨h.pulsing.timeout, h.pulsing.armed, ?_⟩, ⟨?_, ?_⟩, ?_⟩
  · exact ⟨fun _ => hr, fun _ => rfl⟩
  · show backoff.pending = true ↔ _
    rw [hpend]; simp
  · intro n hn; exact absurd hn (by simp)
  · intro hh; exact absurd (h.pulsing.runs hh).1 hne
  · show e.exchange.isSome ↔ _
    rw [h.secretive.exchange]
    constructor
    · rintro ⟨_, kind, hk⟩; rw [hk] at hp; exact absurd hp (by simp [Phase.reconnectsOnLoss])
    · rintro ⟨_, kind, hk⟩; exact absurd hk (by simp)
  · intro hk; exact absurd (h.secretive.keys hk) hne
  · intro hr'; exact absurd (hrun.symm.trans hr') (by simp)

/-- Counters, and timers of the same heartbeat, decide nothing. -/
theorem Sound.passes {heartbeat : Heartbeat} {o : Outcome} (h : e.Sound)
    (hk : e.heartbeat.Keeps heartbeat) (ho : Passes e heartbeat o) : Sound o.engine := by
  obtain ⟨⟨a, b, c, he⟩, _⟩ := ho
  rw [he]
  refine ⟨h.wired, ⟨h.timed.config, h.timed.attempts, h.timed.timer, h.timed.pending, h.timed.number⟩,
    ⟨hk.timeout.trans h.pulsing.timeout, hk.armed h.pulsing.armed, fun hr => ?_⟩,
    ⟨h.secretive.exchange, h.secretive.keys⟩, h.stopped⟩
  have hr' : e.heartbeat.isRunning := by
    unfold Heartbeat.isRunning at hr ⊢
    rw [← hk.interval]; exact hr
  obtain ⟨hp, hen, interval, hne, hs, hint⟩ := h.pulsing.runs hr'
  exact ⟨hp, hen, interval, hne, hs, hk.interval.trans hint⟩

/-- A heartbeat that stops decides nothing else. -/
theorem Sound.stop (h : e.Sound) : Sound { e with heartbeat := e.heartbeat.stop } :=
  ⟨h.wired, ⟨h.timed.config, h.timed.attempts, h.timed.timer, h.timed.pending, h.timed.number⟩,
    ⟨h.pulsing.timeout, Heartbeat.armed_stop _, fun hr => absurd hr Bool.false_ne_true⟩,
    ⟨h.secretive.exchange, h.secretive.keys⟩, h.stopped⟩

/-- A connection arrives where one was asked for. -/
theorem Sound.attach (h : e.Sound) (receiver : Nat) (hd : e.dialing) :
    Sound { e with dialing := false, receiver := some receiver } := by
  have hexp := h.wired.expected (Or.inl hd)
  have hw : Wired { e with dialing := false, receiver := some receiver } := by
    unfold Wired
    cases hp : e.phase with
    | connecting => simp
    | awaiting _ | established => exact ⟨rfl, rfl⟩
    | disconnected | reconnecting _ | permanentlyFailed =>
      rw [hp] at hexp; exact absurd hexp Bool.false_ne_true
  exact ⟨hw, ⟨h.timed.config, h.timed.attempts, h.timed.timer, h.timed.pending, h.timed.number⟩,
    ⟨h.pulsing.timeout, h.pulsing.armed, h.pulsing.runs⟩, ⟨h.secretive.exchange, h.secretive.keys⟩,
    h.stopped⟩

/-- A timer that is due belongs to a scheduled attempt. -/
theorem Timed.reconnecting_of_due {now : Nat} (ht : e.Timed)
    (hd : Heartbeat.isDue e.reconnectAt now) : ∃ n, e.phase = .reconnecting n := by
  refine ht.pending.mp (ht.timer ▸ ?_)
  cases hr : e.reconnectAt with
  | none => rw [hr] at hd; exact absurd hd Bool.false_ne_true
  | some t => rfl

/-- **One step keeps the invariant.** -/
theorem sound_step (s : Surroundings) (input : Input) (h : e.Sound) :
    Sound (e.step s input).engine := by
  have hstep := step_stepped s input e
  have hrun := running_of_turn s.now input e
  generalize e.turn s.now input = t at hstep hrun
  cases hstep with
  | passing keeps passes => exact h.passes keeps passes
  | greet _ _ engine _ => rw [engine]; exact h
  | join _ _ engine _ =>
    rw [engine]
    exact ⟨h.wired, ⟨h.timed.config, h.timed.attempts, h.timed.timer, h.timed.pending,
      h.timed.number⟩, ⟨h.pulsing.timeout, h.pulsing.armed, h.pulsing.runs⟩,
      ⟨h.secretive.exchange, h.secretive.keys⟩, h.stopped⟩
  | depart _ phase engine _ =>
    have hloss : e.phase.reconnectsOnLoss = false := by
      rcases phase with hp | hp <;> rw [hp] <;> rfl
    have htimer : e.reconnectAt = none := by
      refine h.timed.timer_eq_none (eq_false_of_ne_true fun hpend => ?_)
      obtain ⟨n, hn⟩ := h.timed.pending.mp hpend
      rcases phase with hp | hp <;> rw [hp] at hn <;> exact absurd hn (by simp)
    rw [engine]
    unfold departed
    rw [htimer] -- `Sound.dialing` is about an engine without a timer
    exact h.dialing hloss (hrun (by simp)) rfl rfl UInt32.zero_le
  | leave _ engine _ =>
    obtain ⟨running, he⟩ := engine
    rw [he]
    exact sound_settle running e (Or.inl rfl) (fun _ => rfl) h.timed.config h.pulsing.timeout
  | attach _ dialing engine _ => rw [engine]; exact h.attach _ dialing
  | offer _ receiver phase engine _ =>
    rw [engine]; exact h.sendHandshake receiver (by rw [phase]; simp)
  | accept _ _ receiver phase engine _ => rw [engine]; exact h.granted _ receiver phase
  | fallBack _ _ receiver phase _ engine _ =>
    -- the second handshake may fail like the first
    have hne : e.phase ≠ .established := by rw [phase]; simp
    rw [engine]; exact (h.fallenBack hne).sendHandshake receiver hne
  | refuse _ _ _ _ _ engine _ =>
    rw [engine]
    refine sound_settle e.running e (Or.inr rfl) ?_ h.timed.config h.pulsing.timeout
    intro hr; exact absurd ((hrun (by simp)).symm.trans hr) (by simp)
  | lose live engine _ =>
    have hp := h.wired.expected live
    rw [engine]; exact h.of_lost hp (h.timed.lost hp s.now _)
  | alarm _ _ engine _ => rw [engine]; exact h.stop
  | redial _ due engine _ =>
    obtain ⟨n, hn⟩ := h.timed.reconnecting_of_due due
    rw [engine]
    exact h.dialing (by rw [hn]; rfl) (hrun (by simp)) rfl rfl (UInt32.le_refl _)

/-- A new engine is sound. -/
theorem sound_create (config : Config) (thread : Option String) : Sound (create config thread) :=
  ⟨⟨rfl, rfl⟩, ⟨rfl, UInt32.zero_le, rfl, by simp [create], by simp [create]⟩,
    ⟨rfl, ⟨rfl, fun hs => hs⟩, fun hr => absurd hr Bool.false_ne_true⟩,
    ⟨by simp [create], fun hk => absurd hk Bool.false_ne_true⟩, fun _ => rfl⟩

/-- **Every history keeps the invariant.** -/
theorem sound_run (history : History) (h : e.Sound) : Sound (run history e).engine := by
  induction history generalizing e with
  | nil => exact h
  | cons head rest ih =>
    obtain ⟨s, input⟩ := head
    exact ih (sound_step s input h)

/-! ## The configuration -/

theorem config_lost {now : Nat} {cause : String} {o : Outcome} (hl : Lost now cause e o) :
    o.engine.config = e.config := by
  cases hl with
  | retry _ engine _ => rw [engine]; rfl
  | giveUp _ engine _ => rw [engine]; rfl

theorem config_sendHandshake (h : e.Sound) (hr : e.receiver.isSome) (hp : e.phase ≠ .established) :
    (e.sendHandshake s).engine.config = e.config := by
  cases h.offered s hr hp with
  | waits engine _ => rw [engine]; rfl
  | unsent lost engine _ => rw [engine]; exact (config_lost lost).trans rfl

/-- The configuration never changes. -/
theorem config_step (s : Surroundings) (input : Input) (h : e.Sound) :
    (e.step s input).engine.config = e.config := by
  have hstep := step_stepped s input e
  generalize e.turn s.now input = t at hstep
  cases hstep with
  | passing _ passes => obtain ⟨⟨_, _, _, he⟩, _⟩ := passes; rw [he]
  | leave _ engine _ => obtain ⟨_, he⟩ := engine; rw [he]; rfl
  | offer _ receiver phase engine _ =>
    rw [engine]; exact config_sendHandshake h receiver (by rw [phase]; simp)
  | fallBack _ _ receiver phase _ engine _ =>
    have hne : e.phase ≠ .established := by rw [phase]; simp
    rw [engine]; exact config_sendHandshake (h.fallenBack hne) receiver hne
  | lose live engine _ =>
    rw [engine]; exact config_lost (h.timed.lost (h.wired.expected live) s.now _)
  | greet _ _ engine _ | join _ _ engine _ | attach _ _ engine _ | alarm _ _ engine _
  | redial _ _ engine _ => rw [engine]
  | depart _ _ engine _ | accept _ _ _ _ engine _ | refuse _ _ _ _ _ engine _ => rw [engine]; rfl

/-- No history changes the configuration. -/
theorem config_run (history : History) (h : e.Sound) :
    (run history e).engine.config = e.config := by
  induction history generalizing e with
  | nil => rfl
  | cons head rest ih =>
    obtain ⟨s, input⟩ := head
    exact (ih (sound_step s input h)).trans (config_step s input h)

/-! ## The resources of a client -/

/-- Nothing is live. -/
structure Released (e : Engine) : Prop where
  dialing : e.dialing = false
  receiver : e.receiver = none
  timer : e.reconnectAt = none
  heartbeat : e.heartbeat.isRunning = false ∧ e.heartbeat.pingAt = none ∧ e.heartbeat.timeoutAt = none
  exchange : e.exchange = none
  keys : e.session.keys = none

/-- The phase decides which resources of a client are live. -/
structure Resourced (config : Config) (e : Engine) : Prop where
  /-- A client that has settled holds nothing. -/
  settled : e.phase = .disconnected ∨ e.phase = .permanentlyFailed → e.Released
  /-- A client that connects holds either a request for a connection or a receiver. -/
  connecting : e.phase = .connecting → (e.dialing = true ↔ e.receiver = none)
  /-- A client that has opened a connection holds its receiver. -/
  attached : (∃ kind, e.phase = .awaiting kind) ∨ e.phase = .established →
    e.receiver.isSome ∧ e.dialing = false
  /-- A client that waits for an attempt holds a timer and no connection; attempts are counted from
      one up to the greatest number configured. -/
  reconnecting : ∀ n, e.phase = .reconnecting n →
    e.receiver = none ∧ e.dialing = false ∧ e.reconnectAt.isSome ∧ e.backoff.pending ∧
      n = e.backoff.attempts ∧ 1 ≤ n ∧ n ≤ config.reconnect.maxRetries
  /-- The timer is set exactly while the backoff has an attempt pending. -/
  timer : e.reconnectAt.isSome ↔ e.backoff.pending
  /-- An attempt is pending exactly in the phase that waits for one. -/
  pending : e.backoff.pending ↔ ∃ n, e.phase = .reconnecting n
  /-- A heartbeat runs only in an established session, only if it is enabled, and only at the interval
      of the session, which is not zero. -/
  heartbeat : e.heartbeat.isRunning → e.phase = .established ∧ config.heartbeat.enabled ∧
    ∃ interval, interval ≠ 0 ∧ e.session.heartbeatInterval = some interval ∧
      e.heartbeat.interval = some interval.toNat
  /-- A running heartbeat has a ping set; one that does not run has no timer set. -/
  pulse : e.heartbeat.pingAt.isSome = e.heartbeat.isRunning ∧
    (e.heartbeat.timeoutAt.isSome → e.heartbeat.isRunning)
  /-- A key exchange is live exactly while a handshake waits for its answer, if keys are negotiated. -/
  exchange : e.exchange.isSome ↔ config.auth.keyExchange ∧ ∃ kind, e.phase = .awaiting kind
  /-- Session keys are live only in an established session. -/
  keys : e.session.keys.isSome → e.phase = .established

/-- A client that has settled holds nothing. -/
theorem Sound.released (h : e.Sound) (hp : e.phase = .disconnected ∨ e.phase = .permanentlyFailed) :
    e.Released := by
  have hne : e.phase ≠ .established := by rcases hp with hp | hp <;> rw [hp] <;> simp
  have hwired : e.dialing = false ∧ e.receiver = none := by
    have hw := h.wired
    unfold Wired at hw
    rcases hp with hp | hp <;> rw [hp] at hw <;> exact hw
  have hpend : e.backoff.pending = false := by
    refine eq_false_of_ne_true fun hpend => ?_
    obtain ⟨n, hn⟩ := h.timed.pending.mp hpend
    rcases hp with hp | hp <;> rw [hp] at hn <;> exact absurd hn (by simp)
  have hidle := h.pulsing.idle hne
  have hping : ¬e.heartbeat.pingAt.isSome := by
    rw [h.pulsing.armed.1, hidle]; exact Bool.false_ne_true
  have htimeout : ¬e.heartbeat.timeoutAt.isSome := fun ht =>
    absurd (h.pulsing.armed.2 ht) (by rw [hidle]; exact Bool.false_ne_true)
  have hexch : ¬e.exchange.isSome := by
    rw [h.secretive.exchange]
    rintro ⟨_, kind, hk⟩
    rcases hp with hp | hp <;> rw [hp] at hk <;> exact absurd hk (by simp)
  exact ⟨hwired.1, hwired.2, h.timed.timer_eq_none hpend,
    ⟨hidle, Option.not_isSome_iff_eq_none.mp hping, Option.not_isSome_iff_eq_none.mp htimeout⟩,
    Option.not_isSome_iff_eq_none.mp hexch, h.secretive.no_keys hne⟩

/-- **The phase decides which resources are live**: whatever the configuration, the persisted thread and
    the history of a client, between any two steps. -/
theorem resourced_run (config : Config) (thread : Option String) (history : History) :
    Resourced config (run history (create config thread)).engine := by
  have h := sound_run history (sound_create config thread)
  have hconfig : (run history (create config thread)).engine.config = config :=
    config_run history (sound_create config thread)
  generalize (run history (create config thread)).engine = e at h hconfig
  subst hconfig
  have hw := h.wired
  unfold Wired at hw
  refine ⟨h.released, ?_, ?_, ?_, ?_, h.timed.pending, h.pulsing.runs, h.pulsing.armed,
    h.secretive.exchange, h.secretive.keys⟩
  · intro hp; rw [hp] at hw; exact hw
  · rintro (⟨kind, hp⟩ | hp) <;> rw [hp] at hw <;> exact ⟨hw.2, hw.1⟩
  · intro n hp
    rw [hp] at hw
    obtain ⟨hn, hone⟩ := h.timed.number n hp
    have hpend := h.timed.pending.mpr ⟨n, hp⟩
    exact ⟨hw.2, hw.1, h.timed.timer.trans hpend, hpend, hn, hone, hn ▸ h.timed.attempts⟩
  · rw [h.timed.timer]

end Engine
end Tether
