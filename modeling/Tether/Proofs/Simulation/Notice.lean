import Mathlib.Data.List.Nodup
import Tether.Proofs.Engine.Ending
import Tether.Proofs.Simulation.Feed

/-!
# `Tether.Proofs.Simulation.Notice` — a dead connection is noticed, and once

The engine closes the transport when its heartbeat stops, and then waits for the close to come back on
its receiver. That it always comes is an invariant of engine and link together:

* `Watched` — every receiver that is held is served, and a session whose heartbeat was stopped has no
  line that is fed;
* `watched_history` — every move keeps it, whatever the order of moves;
* `drained` — so a client that goes on receiving finds out;
* `nodup_ended` — and no connection ends twice.
-/

namespace Tether

namespace Engine

/-- Should a heartbeat run while the session lasts? -/
def Beats (e : Engine) : Prop :=
  e.config.heartbeat.enabled ∧ ∃ interval, interval ≠ 0 ∧ e.session.heartbeatInterval = some interval

variable {e : Engine} {s : Surroundings}

/-- The heartbeat of a session that was granted runs, if it should. -/
theorem running_granted {ack : Ack} (hb : (e.granted s ack).Beats) :
    (e.granted s ack).heartbeat.isRunning = true := by
  obtain ⟨henabled, interval, hne, hi⟩ := hb
  show (beating s.now _).isRunning = true
  unfold beating
  rw [show (e.grantedSession s ack).heartbeatInterval = some interval from hi]
  dsimp only
  rw [if_pos ⟨henabled, hne⟩]; rfl

end Engine

namespace World

open Engine (Sound)

/-! ## The invariant -/

/-- A session whose heartbeat was stopped is not fed any more. -/
def Alarmed (w : World) : Prop :=
  w.engine.phase = .established → w.engine.Beats → w.engine.heartbeat.isRunning = false →
    w.link.feeding ≠ w.engine.receiver

/-- The link will tell the engine of the end of its connection. -/
structure Watched (w : World) : Prop where
  sound : w.engine.Sound
  /-- The transport is the link itself. -/
  direct : w.dead = false
  served : ∀ n, w.engine.receiver = some n → w.link.Serves n
  alarmed : w.Alarmed

variable {w : World} {input : Input}

/-- A session that goes on has the line it had, unless the step closes the transport; a heartbeat is
    stopped by nothing but the alarm, which does. -/
theorem alarmed_feed (hs : w.engine.Sound) (ha : w.Alarmed) : (w.feed input).Alarmed := by
  intro hp hb hrun
  rw [engine_feed] at hp hb hrun ⊢
  have hkeeps := (keeps_feed w input).feeding
  rw [feeding_release] at hkeeps
  have hsome : (w.engine.step w.surroundings input).engine.receiver.isSome :=
    ((Engine.sound_step w.surroundings input hs).wired.of_established hp).2
  have hnone : none ≠ (w.engine.step w.surroundings input).engine.receiver := by
    intro h; rw [← h] at hsome; exact Bool.false_ne_true hsome
  -- a line that was not fed before the step is not fed after it
  suffices hfed : w.link.feeding ≠ (w.engine.step w.surroundings input).engine.receiver ∨
      (w.feed input).link.feeding = none by
    rcases hfed with hfed | hfed
    · rcases hkeeps with hk | hk
      · rw [hk]; exact hfed
      · rw [hk]; exact hnone
    · rw [hfed]; exact hnone
  have hstep := Engine.step_stepped w.surroundings input w.engine
  generalize w.engine.turn w.surroundings.now input = t at hstep
  cases hstep with
  | @passing heartbeat keeps passes =>
    obtain ⟨⟨_, _, _, he⟩, _⟩ := passes
    rw [he] at hp hb hrun ⊢
    have hsame : w.engine.heartbeat.isRunning = heartbeat.isRunning := by
      rw [Heartbeat.isRunning, Heartbeat.isRunning, keeps.interval]
    exact Or.inl (ha hp hb (hsame.trans hrun))
  | greet _ _ engine _ =>
    rw [engine] at hp hb hrun ⊢
    exact Or.inl (ha hp hb hrun)
  | join _ phase engine _ =>
    rw [engine] at hp
    rw [show w.engine.phase = .established from hp] at phase
    exact absurd phase Bool.false_ne_true
  | depart _ _ engine _ | redial _ _ engine _ => rw [engine] at hp; exact absurd hp (by simp [Engine.departed])
  | leave _ engine _ => obtain ⟨_, he⟩ := engine; rw [he] at hp; exact absurd hp (by simp)
  | attach _ dialing engine _ =>
    rw [engine] at hp
    exact absurd ((hs.wired.of_established hp).1.symm.trans dialing) Bool.false_ne_true
  | offer _ receiver phase engine _ =>
    rw [engine] at hp
    exact absurd hp (Engine.not_established_sendHandshake hs receiver (by rw [phase]; simp))
  | fallBack _ _ receiver phase _ engine _ =>
    have hne : w.engine.phase ≠ .established := by rw [phase]; simp
    rw [engine] at hp
    exact absurd hp (Engine.not_established_sendHandshake (hs.fallenBack hne) receiver hne)
  | accept _ _ _ _ engine _ =>
    -- a session that should have a heartbeat begins with one
    rw [engine] at hb hrun
    exact absurd ((Engine.running_granted hb).symm.trans hrun) (by simp)
  | refuse _ _ _ _ _ engine _ => rw [engine] at hp; exact absurd hp (by simp)
  | lose live engine _ =>
    rw [engine] at hp
    exact absurd hp (hs.timed.lost (hs.wired.expected live) _ _).not_established
  | alarm _ _ _ control =>
    -- the one way to stop a heartbeat within a session: the transport is closed in the same step
    refine Or.inr (feeding_feed w ?_)
    have hclose : Effect.close ∈ (w.engine.step w.surroundings input).control := by
      rw [control]; exact List.mem_singleton_self _
    exact (List.mem_filter.mp hclose).1

/-- A step of the engine keeps the invariant, if the receiver that it then holds is served. -/
theorem watched_feed (hs : w.engine.Sound) (hd : w.dead = false) (ha : w.Alarmed)
    (hserved : ∀ n, (w.engine.step w.surroundings input).engine.receiver = some n →
      w.link.Serves n) : (w.feed input).Watched := by
  refine ⟨?_, (dead_feed w input).trans hd, fun n hn => ?_, alarmed_feed hs ha⟩
  · rw [engine_feed]; exact Engine.sound_step _ _ hs
  · rw [engine_feed] at hn
    have hkeeps := keeps_feed w input
    rw [hn] at hkeeps
    exact hkeeps.serves n (serves_release (hserved n hn))

/-- What a world must offer when its engine takes an input: the receiver that the engine then holds is
    served, and is the one it held or a new one. -/
structure Supplied (w v : World) (input : Input) : Prop where
  alarmed : v.Alarmed
  served : ∀ n, (v.engine.step v.surroundings input).engine.receiver = some n → v.link.Serves n
  length : w.link.lines.length ≤ v.link.lines.length
  fresh : ∀ n, (v.engine.step v.surroundings input).engine.receiver = some n →
    w.engine.receiver = some n ∨ w.link.lines.length ≤ n

/-- An input that brings no connection needs no more than the link there is. -/
theorem Watched.supplied {v : World} (hw : w.Watched) (he : v.engine = w.engine)
    (hl : v.link = w.link) (hi : ∀ n, input ≠ .dialed (.ok n)) : Supplied w v input := by
  have hs : v.engine.Sound := he ▸ hw.sound
  have hsame : ∀ n, (v.engine.step v.surroundings input).engine.receiver = some n →
      w.engine.receiver = some n := by
    intro n hn
    cases Engine.step_held v.surroundings input hs with
    | kept hr => rw [← he, ← hr]; exact hn
    | lost hr _ | left _ hr => exact absurd (hr.symm.trans hn) (by simp)
    | handed is _ => exact absurd is (hi _)
  refine ⟨?_, fun n hn => ?_, hl ▸ Nat.le_refl _, fun n hn => Or.inl (hsame n hn)⟩
  · unfold Alarmed
    rw [he, hl]; exact hw.alarmed
  · rw [hl]; exact hw.served n (hsame n hn)

/-- An engine that asked for a connection holds none, and is in no session. -/
theorem Watched.receiver_of_dialing (hw : w.Watched) (hd : w.engine.dialing) :
    w.engine.receiver = none ∧ w.engine.phase ≠ .established := by
  refine ⟨Option.not_isSome_iff_eq_none.mp fun hr => ?_, fun hp => ?_⟩
  · exact absurd ((hw.sound.wired.dialing_eq_false hr).symm.trans hd) Bool.false_ne_true
  · exact absurd ((hw.sound.wired.of_established hp).1.symm.trans hd) Bool.false_ne_true

/-- A connection that is handed over is new, and served. -/
theorem Watched.supplied_dial {link : Link} {answer : Except Error Nat} {url subprotocol : String}
    (hw : w.Watched) (hd : w.engine.dialing) (hl : w.link.dial url subprotocol = (link, answer)) :
    Supplied w { w with link } (.dialed answer) := by
  obtain ⟨hnone, hphase⟩ := hw.receiver_of_dialing hd
  have hnew : ∀ n,
      (w.engine.step (surroundings { w with link }) (.dialed answer)).engine.receiver = some n →
      n = w.link.lines.length ∧ link.Serves n := by
    intro n hn
    cases Engine.step_held (surroundings { w with link }) (.dialed answer) hw.sound with
    | kept hr => exact absurd (hnone.symm.trans (hr.symm.trans hn)) (by simp)
    | lost hr _ | left _ hr => exact absurd (hr.symm.trans hn) (by simp)
    | @handed k is hr =>
      obtain rfl : k = n := Option.some.inj (hr.symm.trans hn)
      obtain rfl := Input.dialed.inj is
      exact Link.serves_dial hl
  refine ⟨fun hp => absurd hp hphase, fun n hn => (hnew n hn).2, ?_, fun n hn => Or.inr ?_⟩
  · have hlength := Link.length_dial w.link url subprotocol
    rw [hl] at hlength; exact hlength
  · exact Nat.le_of_eq (hnew n hn).1.symm

/-- A receiver that gives up its last signal, a close, is not held any longer. -/
theorem Watched.supplied_signal {link : Link} {signal : Signal} {n : Nat} (hw : w.Watched)
    (hr : w.engine.receiver = some n) (hl : w.link.receive n = (link, .signal signal)) :
    Supplied w { w with link } (.signal signal) := by
  obtain ⟨_, hfeeding, hlength⟩ := Link.receive_signal hl
  have hsame : ∀ k,
      (w.engine.step (surroundings { w with link }) (.signal signal)).engine.receiver = some k →
      k = n := by
    intro k hk
    cases Engine.step_held (surroundings { w with link }) (.signal signal) hw.sound with
    | kept h => exact Option.some.inj (hk.symm.trans (h.trans hr))
    | lost h _ | left _ h => exact absurd (h.symm.trans hk) (by simp)
    | handed is _ => exact absurd is (by simp)
  refine ⟨?_, fun k hk => ?_, Nat.le_of_eq hlength.symm, fun k hk => ?_⟩
  · intro hp hb hrun
    rw [show link.feeding = w.link.feeding from hfeeding]
    exact hw.alarmed hp hb hrun
  · -- the line may have lost its last close, but then the engine has lost the connection
    obtain rfl := hsame k hk
    refine ((hw.served k hr).receive hl).resolve_right fun hclose => ?_
    have hnone := Engine.receiver_of_close (surroundings { w with link }) hw.sound
      (by rw [hr]; rfl) hclose
    exact absurd (hnone.symm.trans hk) (by simp)
  · rw [hsame k hk]; exact Or.inl hr

/-- Whatever a move gives the engine, the world has what it takes. -/
theorem Watched.supplied_of_fed {m : Move} {v : World} (hw : w.Watched)
    (hf : w.fed? m = some (v, input)) : Supplied w v input := by
  cases m with
  | take =>
    unfold fed? at hf
    dsimp only at hf
    split at hf
    · split at hf
      · cases hf; exact hw.supplied rfl rfl (by simp)
      · cases hf
    · cases hf
  | dial =>
    unfold fed? at hf
    dsimp only at hf
    split at hf
    · rw [if_neg (by rw [hw.direct]; exact Bool.false_ne_true)] at hf
      cases hf; exact hw.supplied_dial ‹_› rfl
    · cases hf
  | receive =>
    cases hr : w.engine.receiver with
    | none => simp only [fed?, hr] at hf; cases hf
    | some n =>
      rcases hl : w.link.receive n with ⟨link, s | _ | _⟩
      · simp only [fed?, hr, hl] at hf
        cases hf; exact hw.supplied_signal hr hl
      · simp only [fed?, hr, hl] at hf; cases hf
      · simp only [fed?, hr, hl] at hf
        cases hf; exact hw.supplied rfl rfl (by simp)
  | tick _ | reconnect => cases hf; exact hw.supplied rfl rfl (by simp)
  | stop =>
    unfold fed? at hf
    dsimp only at hf
    split at hf
    · cases hf; exact hw.supplied rfl rfl (by simp)
    · cases hf
  | call _ | start _ | arrive | drop | peer _ | close | wait _ | breakStore _ | deaden _
  | report => cases hf

/-- **One move keeps the invariant.** -/
theorem watched_act {m : Move} (hw : w.Watched) (hm : m ≠ .deaden true) : (w.act m).Watched := by
  cases hf : w.fed? m with
  | some x =>
    obtain ⟨hact, he, hd⟩ := act_of_fed hf
    have hsupplied := hw.supplied_of_fed hf
    rw [hact]
    exact watched_feed (he ▸ hw.sound) (hd.trans hw.direct) hsupplied.alarmed hsupplied.served
  | none =>
    obtain ⟨he, hk, hd⟩ := act_of_not_fed hf
    refine ⟨he ▸ hw.sound, ?_, fun n hn => hk.serves n (hw.served n (he ▸ hn)), ?_⟩
    · rcases hd with hd | hd
      · rw [hd]; exact hw.direct
      · refine eq_false_of_ne_true fun hdead => hm ?_
        rw [hd, hdead]
    · intro hp hb hrun
      rw [he] at hp hb hrun ⊢
      rcases hk.feeding with hfeed | hfeed
      · rw [hfeed]; exact hw.alarmed hp hb hrun
      · intro h
        have hsome := (hw.sound.wired.of_established hp).2
        rw [← h, hfeed] at hsome
        exact absurd hsome Bool.false_ne_true

/-- **Every list of moves keeps the invariant.** -/
theorem watched_history (moves : List Move) (hw : w.Watched)
    (hm : ∀ m ∈ moves, m ≠ .deaden true) : (w.history moves).Watched := by
  induction moves generalizing w with
  | nil => exact hw
  | cons m rest ih =>
    obtain ⟨hfirst, hrest⟩ := List.forall_mem_cons.mp hm
    exact ih (watched_act hw hfirst) hrest

/-- A new client is watched. -/
theorem watched_start {setup : Setup} {config : Config} {store : Store} {failing : List String}
    {hasRuntime : Bool} (hw : start setup config store failing hasRuntime = .ok w) :
    w.Watched := by
  obtain ⟨thread, _, rfl⟩ := start_eq hw
  exact ⟨Engine.sound_create config thread, rfl, fun n hn => absurd hn (by simp [Engine.create]),
    fun hp => absurd hp (by simp [Engine.create])⟩

/-! ## Noticing -/

theorem history_receive_of_none (hr : w.engine.receiver = none) (k : Nat) :
    w.history (List.replicate k .receive) = w := by
  induction k with
  | zero => rfl
  | succ k ih =>
    have hact : w.act .receive = w := by simp only [act, receive, hr]
    show (w.act .receive).history (List.replicate k .receive) = w
    rw [hact]; exact ih

/-- **A line that is detached is noticed** after as many signals as wait on it, whatever they are: the
    client then waits for another attempt, or has given up. -/
theorem drained {n : Nat} (k : Nat) (hw : w.Watched) (hr : w.engine.receiver = some n)
    (hf : w.link.feeding ≠ some n) (hk : (w.link.pending n).length ≤ k) :
    (w.history (List.replicate k .receive)).engine.receiver = none ∧
      ((w.history (List.replicate k .receive)).engine.phase.isScheduled ∨
        (w.history (List.replicate k .receive)).engine.phase = .permanentlyFailed) := by
  -- by induction on the signals that may wait; the last of them is a close, so they run out in time
  induction k generalizing w with
  | zero =>
    have hnil : w.link.pending n = [] := List.length_eq_zero_iff.mp (Nat.le_zero.mp hk)
    exact absurd hnil ((hw.served n hr).pending_ne_nil hf)
  | succ k ih =>
    obtain ⟨link, s, hl⟩ := (hw.served n hr).exists_signal hf
    obtain ⟨hpending, hfeeding, _⟩ := Link.receive_signal hl
    have hact : w.act .receive = { w with link }.feed (.signal s) := by
      simp only [act, receive, hr, hl]
    have he : (w.act .receive).engine =
        (w.engine.step (surroundings { w with link }) (.signal s)).engine := by
      rw [hact, engine_feed]
    show ((w.act .receive).history (List.replicate k .receive)).engine.receiver = none ∧
      (((w.act .receive).history (List.replicate k .receive)).engine.phase.isScheduled ∨
        ((w.act .receive).history (List.replicate k .receive)).engine.phase = .permanentlyFailed)
    cases Engine.step_held (surroundings { w with link }) (.signal s) hw.sound with
    | kept hrec =>
      -- the client goes on with one signal less, and the line is still detached
      have hkeeps := keeps_feed { w with link } (.signal s)
      rw [hrec, hr, show release (some n) (some n) link = link from if_pos rfl, ← hact] at hkeeps
      have hnot : link.feeding ≠ some n := by rw [hfeeding]; exact hf
      have hidle : (w.act .receive).link.pending n = link.pending n := by
        rw [Link.pending, Link.pending, hkeeps.idle n hnot]
      refine ih (watched_act hw (by simp)) (by rw [he, hrec, hr]) (hkeeps.not_fed hnot) ?_
      rw [hpending, List.length_cons] at hk
      rw [hidle]
      exact Nat.le_of_succ_le_succ hk
    | lost hrec hp =>
      rw [history_receive_of_none (by rw [he]; exact hrec), he]
      exact ⟨hrec, hp⟩
    | left is _ => exact absurd is (by simp)
    | handed is _ => exact absurd is (by simp)

/-! ## Once -/

/-- A move takes no line away, and the client then holds the receiver it held, or a new one. -/
theorem Watched.receiver_act (m : Move) (hw : w.Watched) :
    w.link.lines.length ≤ (w.act m).link.lines.length ∧
      ∀ n, (w.act m).engine.receiver = some n →
        w.engine.receiver = some n ∨ w.link.lines.length ≤ n := by
  cases hf : w.fed? m with
  | none =>
    obtain ⟨he, hk, _⟩ := act_of_not_fed hf
    exact ⟨Nat.le_of_eq hk.length.symm, fun n hn => Or.inl (he ▸ hn)⟩
  | some x =>
    obtain ⟨v, input⟩ := x
    obtain ⟨hact, _, _⟩ := act_of_fed hf
    have hsupplied := hw.supplied_of_fed hf
    have hlength := (keeps_feed v input).length
    rw [length_release] at hlength
    rw [hact, hlength, engine_feed]
    exact ⟨hsupplied.length, hsupplied.fresh⟩

/-- What the first of a list of moves ends, and what the others do. -/
theorem ended_cons (m : Move) (rest : List Move) (w : World) :
    (w.fed? m = none ∧ Engine.ended (w.trace (m :: rest)) w.engine =
      Engine.ended ((w.act m).trace rest) (w.act m).engine) ∨
    ∃ v input, w.fed? m = some (v, input) ∧ Engine.ended (w.trace (m :: rest)) w.engine =
      w.engine.endings v.surroundings input ++
        Engine.ended ((w.act m).trace rest) (w.act m).engine := by
  cases hf : w.fed? m with
  | none =>
    refine Or.inl ⟨rfl, ?_⟩
    rw [trace, hf, (act_of_not_fed hf).1]; rfl
  | some x =>
    obtain ⟨v, input⟩ := x
    refine Or.inr ⟨v, input, rfl, ?_⟩
    rw [trace, hf, engine_of_fed hf]; rfl

/-- **No connection ends twice**: what is ended was held from the start, or is new. -/
theorem nodup_ended (moves : List Move) (hw : w.Watched) (hm : ∀ m ∈ moves, m ≠ .deaden true) :
    ((Engine.ended (w.trace moves) w.engine).map Prod.fst).Nodup ∧
      ∀ n ∈ (Engine.ended (w.trace moves) w.engine).map Prod.fst,
        w.engine.receiver = some n ∨ w.link.lines.length ≤ n := by
  induction moves generalizing w with
  | nil => exact ⟨List.nodup_nil, fun n hn => absurd hn List.not_mem_nil⟩
  | cons m rest ih =>
    obtain ⟨hfirst, hrest⟩ := List.forall_mem_cons.mp hm
    obtain ⟨hnodup, hmem⟩ := ih (watched_act hw hfirst) hrest
    obtain ⟨hlength, hreceiver⟩ := hw.receiver_act m
    have hlater : ∀ n ∈ (Engine.ended ((w.act m).trace rest) (w.act m).engine).map Prod.fst,
        w.engine.receiver = some n ∨ w.link.lines.length ≤ n := by
      intro n hn
      rcases hmem n hn with h | h
      · exact hreceiver n h
      · exact Or.inr (Nat.le_trans hlength h)
    rcases ended_cons m rest w with ⟨_, heq⟩ | ⟨v, input, hf, heq⟩
    · rw [heq]; exact ⟨hnodup, hlater⟩
    · rcases Engine.endings_step v.surroundings input hw.sound with
        hnil | ⟨n, how, hr, hone, hnone⟩
      · rw [heq, hnil]; exact ⟨hnodup, hlater⟩
      · rw [heq, hone]
        refine ⟨List.nodup_cons.mpr ⟨fun hn => ?_, hnodup⟩, fun k hk => ?_⟩
        · -- it is held no more, and the numbers of new lines are greater
          rcases hmem n hn with h | h
          · rw [engine_of_fed hf, hnone] at h; exact absurd h (by simp)
          · have hlt := (hw.served n hr).lt_length
            omega
        · rcases List.mem_cons.mp hk with rfl | hk
          · exact Or.inl hr
          · exact hlater k hk

/-! ## The ends of connections -/

/-- How connections end while a world runs: after any moves, and over all of them. -/
structure Noticed (w : World) (moves : List Move) : Prop where
  /-- Whenever the client holds a receiver, its line is the one that is fed, or a close is the last
      signal that waits on it. -/
  served : ∀ n, (w.history moves).engine.receiver = some n → (w.history moves).link.Serves n
  /-- A session whose heartbeat should run and does not is on a line that is detached. -/
  alarmed : (w.history moves).engine.phase = .established → (w.history moves).engine.Beats →
    (w.history moves).engine.heartbeat.isRunning = false →
    ∃ n, (w.history moves).engine.receiver = some n ∧ (w.history moves).link.feeding ≠ some n
  /-- A line that is detached is noticed once the client has taken the signals that wait on it. -/
  noticed : ∀ n v, (w.history moves).engine.receiver = some n →
    (w.history moves).link.feeding ≠ some n →
    v = (w.history moves).history
      (List.replicate ((w.history moves).link.pending n).length .receive) →
    v.engine.receiver = none ∧ (v.engine.phase.isScheduled ∨ v.engine.phase = .permanentlyFailed)
  /-- No connection is lost twice, or left twice. -/
  once : ((Engine.ended (w.trace moves) w.engine).map Prod.fst).Nodup
  /-- A connection that the host left is never lost. -/
  apart : ∀ n, (n, .left) ∈ Engine.ended (w.trace moves) w.engine →
    (n, .lost) ∉ Engine.ended (w.trace moves) w.engine
  /-- After the host has left nothing is lost and no attempt is scheduled, until somebody calls
      connect. -/
  left : ∀ before s input after, w.trace moves = before ++ (s, input) :: after →
    ((∃ caller, input = .command (.disconnect caller)) ∨ input = .shutdown) →
    (∀ x ∈ after, ∀ caller, x.2 ≠ .command (.connect caller)) →
    (w.history moves).engine.phase = .disconnected ∧
      (w.history moves).engine.reconnectAt = none ∧
      Engine.ended after ((Engine.run before w.engine).engine.step s input).engine = []

/-- **A dead connection is always noticed, and exactly once**: in every world that starts with the
    link as its transport and keeps it, whatever moves are made in whatever order. -/
theorem noticed_history {setup : Setup} {config : Config} {store : Store} {failing : List String}
    {hasRuntime : Bool} {moves : List Move}
    (hw : start setup config store failing hasRuntime = .ok w)
    (hm : ∀ m ∈ moves, m ≠ .deaden true) : Noticed w moves := by
  have hstart := watched_start hw
  have hwatched := watched_history moves hstart hm
  have hnodup := (nodup_ended moves hstart hm).1
  refine ⟨hwatched.served, fun hp hb hrun => ?_, fun n v hr hf hv => ?_, hnodup,
    fun n hleft hlost => ?_, fun before s input after heq hi hafter => ?_⟩
  · have hnot := hwatched.alarmed hp hb hrun
    obtain ⟨n, hn⟩ := Option.isSome_iff_exists.mp (hwatched.sound.wired.of_established hp).2
    exact ⟨n, hn, hn ▸ hnot⟩
  · rw [hv]; exact drained _ hwatched hr hf (Nat.le_refl _)
  · have hsame := List.inj_on_of_nodup_map hnodup hleft hlost rfl
    exact absurd (Prod.mk.inj hsame).2 (by simp)
  · have hsound := Engine.sound_run before hstart.sound
    obtain ⟨hphase, htimer, hended⟩ := Engine.disconnected_run after
      (Engine.sound_step s input hsound) (Engine.disconnected_of_leave s hsound hi) hafter
    rw [engine_history, heq, Engine.run_append]
    exact ⟨hphase, htimer, hended⟩

/-- The default client, whose peer hangs up before it opens the connection. -/
theorem noticed_hangUp : ∃ w, start {} {} {} [] true = .ok w ∧
    Noticed w [.call (.connect 1), .take, .dial, .peer (.hangUp "bye"), .receive] ∧
    Engine.ended (w.trace [.call (.connect 1), .take, .dial, .peer (.hangUp "bye"), .receive])
      w.engine = [(0, .lost)] := by
  have hflaw : ({} : Config).flaw? = none := by decide +kernel
  have hvalid : ({} : Config).validate = .ok () := by rw [Config.validate, hflaw]
  have hw : start {} {} {} [] true = .ok
      { engine := .create {} none
        log := [⟨0, .closed, .store (Identity.reading ⟨({} : Config).clientId⟩) (.ok ())⟩] } := by
    unfold start
    rw [hvalid]; rfl
  exact ⟨_, hw, noticed_history hw (by simp), rfl⟩

end World
end Tether
