import Mathlib.Data.List.DropRight
import Tether.Heartbeat

/-!
# `Tether.Proofs.Heartbeat` — deadlines over any course of events

A heartbeat is started and stopped, pings go out, pongs come in, deadlines are served once they have come,
and time passes, all in any order. A log lists these moves with their times, and the deadlines are read
off the log alone: the ping timer from the last start or ping (`setOff?`), the watchdog from the first
ping that is unanswered (`unanswered`).

* `Watched` — the heartbeat agrees with its log, however late its deadlines are served;
* `Punctual` — the rule under which deadlines are served in time, and a ping goes out with each tick;
* `Vigilant` — what holds of punctual logs after a start or a pong as long as nothing else comes: the
  watchdog fires within an interval and a timeout (`vigilant_log`).
-/

namespace Tether.Heartbeat

/-! ## Moves -/

/-- What happens to a heartbeat. -/
inductive Move where
  | start (interval : Nat)
  | stop
  | pingSent
  | pong
  /-- A deadline is served. -/
  | serve (tick : Tick)
  /-- Time passes, in milliseconds. -/
  | pass (span : Nat)
  deriving DecidableEq, Repr

namespace Move

/-- How much time a move takes. -/
def span : Move → Nat
  | .pass span => span
  | _ => 0

/-- The interval that a start sets. -/
def interval? : Move → Option Nat
  | .start interval => some interval
  | _ => none

/-- Does the move set the ping timer of a heartbeat that runs? -/
def sets : Move → Bool
  | .start _ | .pingSent => true
  | _ => false

/-- Is no ping unanswered after the move? -/
def settles : Move → Bool
  | .start _ | .pong | .serve .timeout => true
  | _ => false

/-- Does the move begin or end a run, or answer a ping? -/
def interrupts : Move → Bool
  | .start _ | .stop | .pong => true
  | _ => false

end Move

/-- A heartbeat after a move at a time. A deadline can be served only once it has come. -/
def move? (h : Heartbeat) (now : Nat) : Move → Option Heartbeat
  | .start interval => some (h.start now interval)
  | .stop => some h.stop
  | .pingSent => some (h.pingSent now)
  | .pong => some h.pong
  | .serve tick => h.fire? now tick
  | .pass _ => some h

/-- Moves with their times, the last one last. -/
abbrev Log := List (Nat × Move)

/-- The log `log` leads a heartbeat that was created stopped to `h` at the time `now`, with every move
    made by the rule. -/
inductive Leads (rule : Log → Nat → Heartbeat → Move → Prop) (timeout : Nat) :
    Log → Nat → Heartbeat → Prop
  | created (now : Nat) : Leads rule timeout [] now { timeout }
  | moved {log : Log} {now : Nat} {h h' : Heartbeat} (m : Move) (before : Leads rule timeout log now h)
      (allowed : rule log now h m) (made : h.move? now m = some h') :
      Leads rule timeout (log ++ [(now, m)]) (now + m.span) h'

/-- The rule that forbids nothing. -/
def Free (_ : Log) (_ : Nat) (_ : Heartbeat) (_ : Move) : Prop := True

/-- The rule that no time passes beyond a deadline that is set, and that a ping goes out at once when it
    is due. -/
def Punctual (log : Log) (now : Nat) (h : Heartbeat) (m : Move) : Prop :=
  (∀ tick d, h.deadline? tick = some d → now + m.span ≤ d) ∧
    (log.getLast?.map Prod.snd = some (.serve .ping) → m = .pingSent)

/-- Both deadlines are kept, each by itself. -/
theorem punctual_iff {log : Log} {now : Nat} {h : Heartbeat} {m : Move} : Punctual log now h m ↔
    ((∀ d ∈ h.pingAt, now + m.span ≤ d) ∧ ∀ d ∈ h.timeoutAt, now + m.span ≤ d) ∧
      (log.getLast?.map Prod.snd = some (.serve .ping) → m = .pingSent) := by
  refine and_congr_left fun _ => ⟨fun h => ⟨h .ping, h .timeout⟩, fun h tick => ?_⟩
  cases tick with
  | ping => exact h.1
  | timeout => exact h.2

instance (log : Log) (now : Nat) (h : Heartbeat) (m : Move) : Decidable (Punctual log now h m) :=
  decidable_of_iff' _ punctual_iff

/-- Moves that are made by a rule could be made without one. -/
theorem Leads.free {rule : Log → Nat → Heartbeat → Move → Prop} {timeout now : Nat} {log : Log}
    {h : Heartbeat} (hl : Leads rule timeout log now h) : Leads Free timeout log now h := by
  induction hl with
  | created now => exact .created now
  | moved m _ _ made ih => exact .moved m ih trivial made

/-! ## Logs -/

namespace Log

/-- The interval of the last start, unless the heartbeat was stopped since. -/
def interval? (log : Log) : Option Nat :=
  ((log.rtakeWhile fun x => x.2 ≠ .stop).filterMap fun x => x.2.interval?).getLast?

/-- The time of the last start or ping, unless the ping timer fired since. -/
def setOff? (log : Log) : Option Nat :=
  (((log.rtakeWhile fun x => x.2 ≠ .serve .ping).filter fun x => x.2.sets).map Prod.fst).getLast?

/-- The times of the pings that went out after the last start, the last pong and the last time that the
    watchdog fired. -/
def unanswered (log : Log) : List Nat :=
  ((log.rtakeWhile fun x => !x.2.settles).filter fun x => x.2 = .pingSent).map Prod.fst

variable {log : Log} {now : Nat} {m : Move}

/-- A heartbeat that is stopped has no interval. -/
theorem interval?_stop : interval? (log ++ [(now, .stop)]) = none := by
  unfold interval?
  rw [List.rtakeWhile_concat_neg _ _ _ (by simp)]
  rfl

/-- A start sets the interval, and other moves leave it. -/
theorem interval?_concat (hm : m ≠ .stop) :
    interval? (log ++ [(now, m)]) = m.interval?.or (interval? log) := by
  unfold interval?
  rw [List.rtakeWhile_concat_pos _ _ _ (by simpa using hm), List.filterMap_append, List.getLast?_append]
  cases hi : m.interval? <;> simp [hi]

theorem setOff?_serve : setOff? (log ++ [(now, .serve .ping)]) = none := by
  unfold setOff?
  rw [List.rtakeWhile_concat_neg _ _ _ (by simp)]
  rfl

/-- A start or a ping sets the timer off, and other moves leave it. -/
theorem setOff?_concat (hm : m ≠ .serve .ping) :
    setOff? (log ++ [(now, m)]) = if m.sets then some now else setOff? log := by
  unfold setOff?
  rw [List.rtakeWhile_concat_pos _ _ _ (by simpa using hm), List.filter_append, List.map_append,
    List.getLast?_append]
  by_cases hs : m.sets = true <;> simp [hs]

/-- A move that settles the pings leaves none unanswered. -/
theorem unanswered_settled (hm : m.settles = true) : unanswered (log ++ [(now, m)]) = [] := by
  unfold unanswered
  rw [List.rtakeWhile_concat_neg _ _ _ (by simpa using hm)]
  rfl

/-- A ping that goes out waits behind those that do. -/
theorem unanswered_concat (hm : m.settles = false) :
    unanswered (log ++ [(now, m)]) = unanswered log ++ if m = .pingSent then [now] else [] := by
  unfold unanswered
  rw [List.rtakeWhile_concat_pos _ _ _ (by simpa using hm), List.filter_append, List.map_append]
  by_cases hp : m = .pingSent <;> simp [hp]

/-- A ping that is unanswered stands in the log, and nothing settles it there. -/
theorem exists_of_mem_unanswered {s : Nat} (h : s ∈ unanswered log) :
    ∃ before after, log = before ++ (s, .pingSent) :: after ∧ ∀ x ∈ after, x.2.settles = false := by
  obtain ⟨x, hx, rfl⟩ := List.mem_map.mp h
  obtain ⟨hmem, hping⟩ := List.mem_filter.mp hx
  obtain ⟨before, after, heq⟩ := List.append_of_mem hmem
  have hping : x = (x.1, .pingSent) := Prod.ext rfl (by simpa using hping)
  refine ⟨log.rdropWhile (fun x => !x.2.settles) ++ before, after, ?_, ?_⟩
  · rw [← hping, List.append_assoc, ← heq, List.rdropWhile_append_rtakeWhile]
  · intro y hy
    have hy : y ∈ log.rtakeWhile fun x => !x.2.settles := by
      rw [heq]
      exact List.mem_append_right _ (List.mem_cons_of_mem _ hy)
    simpa using List.mem_rtakeWhile_imp hy

end Log

open Log (interval? setOff? unanswered)

/-! ## The heartbeat and its log -/

/-- A ping went out at least the timeout before `now`, while the heartbeat ran, and no pong has come
    since; it is the first that is unanswered. -/
def Lapsed (timeout : Nat) (log : Log) (now : Nat) : Prop :=
  (interval? log).isSome ∧ ∃ s, (unanswered log).head? = some s ∧ s + timeout ≤ now ∧
    ∃ before after, log = before ++ (s, .pingSent) :: after ∧ ∀ x ∈ after, x.2.settles = false

/-- The heartbeat agrees with its log. -/
structure Watched (timeout : Nat) (log : Log) (h : Heartbeat) : Prop where
  allowance : h.timeout = timeout
  /-- It runs from a start to the next stop. -/
  interval : h.interval = interval? log
  /-- Neither deadline is set while it is stopped. -/
  stopped : interval? log = none → ∀ tick, h.deadline? tick = none
  /-- The ping timer is set from the last start or ping, until it fires. -/
  ping : ∀ i, interval? log = some i → h.deadline? .ping = (setOff? log).map (· + i)
  /-- The watchdog is set from the first ping that is unanswered, whatever pings follow. -/
  watchdog : ∀ i, interval? log = some i →
    h.deadline? .timeout = (unanswered log).head?.map (· + timeout)
  /-- The watchdog fires at its deadline or later, and not once a pong has come. -/
  fired : ∀ before t after, log = before ++ (t, .serve .timeout) :: after → Lapsed timeout before t

section Step

variable {timeout now : Nat} {log : Log} {h h' : Heartbeat} {m : Move}

theorem watched_nil (timeout : Nat) : Watched timeout [] { timeout } where
  allowance := rfl
  interval := rfl
  stopped := by
    intro _ tick
    cases tick <;> rfl
  ping := fun _ hi => nomatch hi
  watchdog := fun _ hi => nomatch hi
  fired := by
    intro before t after heq
    exact absurd heq.symm (by simp)

/-- The watchdog fires when the last move serves it, or fired before. -/
theorem Watched.fired_concat (hw : Watched timeout log h)
    (hm : m = .serve .timeout → Lapsed timeout log now) :
    ∀ before t after, log ++ [(now, m)] = before ++ (t, .serve .timeout) :: after →
      Lapsed timeout before t := by
  intro before t after heq
  rcases List.eq_nil_or_concat after with rfl | ⟨after', last, rfl⟩
  · obtain ⟨rfl, hlast⟩ := List.append_inj' heq rfl
    obtain ⟨rfl, rfl⟩ := Prod.mk.inj (List.singleton_inj.mp hlast)
    exact hm rfl
  · rw [List.concat_eq_append, ← List.cons_append, ← List.append_assoc] at heq
    exact hw.fired before t after' (List.append_inj' heq rfl).1

/-- A ping of a stopped heartbeat sets nothing. -/
theorem pingSent_of_stopped (hi : h.interval = none) : h.pingSent now = h := by
  unfold Heartbeat.pingSent
  rw [hi]

/-- A ping sets the next one, and arms the watchdog unless it is armed. -/
theorem pingSent_of_running {i : Nat} (hi : h.interval = some i) : h.pingSent now =
    { h with pingAt := some (now + i), timeoutAt := h.timeoutAt.or (some (now + h.timeout)) } := by
  unfold Heartbeat.pingSent
  rw [hi]

/-- A deadline that is served has come, and is the one that is disarmed. -/
theorem fire?_eq_some {tick : Tick} (hm : h.fire? now tick = some h') :
    (∃ d, h.deadline? tick = some d ∧ d ≤ now) ∧ h' = h.disarm tick := by
  unfold fire? isDue at hm
  cases hd : h.deadline? tick with
  | none => simp [hd] at hm
  | some d =>
    simp only [hd, decide_eq_true_eq, Option.ite_none_right_eq_some, Option.some.injEq] at hm
    exact ⟨⟨d, rfl, hm.1⟩, hm.2.symm⟩

/-- The heartbeat runs while a deadline is set. -/
theorem Watched.exists_interval (hw : Watched timeout log h) {tick : Tick} {d : Nat}
    (hd : h.deadline? tick = some d) : ∃ i, interval? log = some i := by
  cases hi : interval? log with
  | none => exact nomatch (hw.stopped hi tick).symm.trans hd
  | some i => exact ⟨i, rfl⟩

/-- The watchdog is set from a ping in the log. -/
theorem Watched.lapsed (hw : Watched timeout log h) {d : Nat} (hd : h.deadline? .timeout = some d)
    (hnow : d ≤ now) : Lapsed timeout log now := by
  obtain ⟨i, hi⟩ := hw.exists_interval hd
  have hfirst := (hw.watchdog i hi).symm.trans hd
  obtain ⟨s, hs, rfl⟩ := Option.map_eq_some_iff.mp hfirst
  refine ⟨by rw [hi]; rfl, s, hs, hnow, ?_⟩
  exact Log.exists_of_mem_unanswered (List.mem_of_mem_head? hs)

/-- A heartbeat that starts agrees with its log, -/
theorem Watched.start (hw : Watched timeout log h) (i : Nat) :
    Watched timeout (log ++ [(now, .start i)]) (h.start now i) := by
  have hinterval : interval? (log ++ [(now, .start i)]) = some i := Log.interval?_concat (by simp)
  refine ⟨hw.allowance, hinterval.symm, ?_, ?_, ?_, hw.fired_concat (by simp)⟩
  · intro hnone
    exact nomatch hinterval.symm.trans hnone
  · intro j hj
    obtain rfl := Option.some.inj (hinterval.symm.trans hj)
    rw [Log.setOff?_concat (by simp)]
    rfl
  · intro j _
    rw [Log.unanswered_settled rfl]
    rfl

/-- and so does one that stops. -/
theorem Watched.stop (hw : Watched timeout log h) :
    Watched timeout (log ++ [(now, .stop)]) h.stop := by
  have hinterval : interval? (log ++ [(now, .stop)]) = none := Log.interval?_stop
  refine ⟨hw.allowance, hinterval.symm, ?_, ?_, ?_, hw.fired_concat (by simp)⟩
  · intro _ tick
    cases tick <;> rfl
  · intro j hj
    exact nomatch hinterval.symm.trans hj
  · intro j hj
    exact nomatch hinterval.symm.trans hj

/-- A move that neither starts nor stops the heartbeat keeps it running, or stopped. -/
theorem Watched.keep (hw : Watched timeout log h) (hm : m.interval? = none) (hne : m ≠ .stop)
    (hsame : h'.timeout = h.timeout ∧ h'.interval = h.interval)
    (hstopped : interval? log = none → ∀ tick, h'.deadline? tick = none)
    (hping : ∀ i, interval? log = some i →
      h'.deadline? .ping = (setOff? (log ++ [(now, m)])).map (· + i))
    (hwatchdog : ∀ i, interval? log = some i →
      h'.deadline? .timeout = (unanswered (log ++ [(now, m)])).head?.map (· + timeout))
    (hfired : m = .serve .timeout → Lapsed timeout log now) :
    Watched timeout (log ++ [(now, m)]) h' := by
  have hinterval : interval? (log ++ [(now, m)]) = interval? log := by
    rw [Log.interval?_concat hne, hm, Option.none_or]
  refine ⟨hsame.1.trans hw.allowance, ?_, ?_, ?_, ?_, hw.fired_concat hfired⟩
  · rw [hsame.2, hw.interval, hinterval]
  · rw [hinterval]
    exact hstopped
  · rw [hinterval]
    exact hping
  · rw [hinterval]
    exact hwatchdog

/-- A ping that goes out is the last one unanswered, and the watchdog stays with the first. -/
theorem Watched.pingSent (hw : Watched timeout log h) :
    Watched timeout (log ++ [(now, .pingSent)]) (h.pingSent now) := by
  have hsame := hw.interval
  cases hi : interval? log with
  | none =>
    rw [pingSent_of_stopped (hsame.trans hi)]
    refine hw.keep rfl (by simp) ⟨rfl, rfl⟩ hw.stopped ?_ ?_ (by simp)
    · intro i hsome
      exact nomatch hi.symm.trans hsome
    · intro i hsome
      exact nomatch hi.symm.trans hsome
  | some i =>
    rw [pingSent_of_running (hsame.trans hi)]
    refine hw.keep rfl (by simp) ⟨rfl, rfl⟩ ?_ ?_ ?_ (by simp)
    · intro hnone
      exact nomatch hi.symm.trans hnone
    · intro j hj
      obtain rfl := Option.some.inj (hi.symm.trans hj)
      rw [Log.setOff?_concat (by simp)]
      rfl
    · -- an earlier ping that is unanswered stays the first
      intro j _
      have hfirst : h.timeoutAt = (unanswered log).head?.map (· + timeout) := hw.watchdog i hi
      show h.timeoutAt.or (some (now + h.timeout)) = _
      rw [hfirst, hw.allowance, Log.unanswered_concat rfl]
      cases unanswered log <;> rfl

/-- A pong disarms the watchdog and settles what is unanswered. -/
theorem Watched.pong (hw : Watched timeout log h) :
    Watched timeout (log ++ [(now, .pong)]) h.pong := by
  refine hw.keep rfl (by simp) ⟨rfl, rfl⟩ ?_ ?_ ?_ (by simp)
  · intro hi tick
    cases tick with
    | ping => exact hw.stopped hi .ping
    | timeout => rfl
  · intro i hi
    rw [Log.setOff?_concat (by simp)]
    exact hw.ping i hi
  · intro i _
    rw [Log.unanswered_settled rfl]
    rfl

/-- A Ping tick leaves the interval and the unanswered pings. -/
theorem Watched.servePing (hw : Watched timeout log h) :
    Watched timeout (log ++ [(now, .serve .ping)]) (h.disarm .ping) := by
  refine hw.keep rfl (by simp) ⟨rfl, rfl⟩ ?_ ?_ ?_ (by simp)
  · intro hi tick
    cases tick with
    | ping => rfl
    | timeout => exact hw.stopped hi .timeout
  · intro i _
    rw [Log.setOff?_serve]
    rfl
  · intro i hi
    rw [Log.unanswered_concat rfl, if_neg (by simp), List.append_nil]
    exact hw.watchdog i hi

/-- A watchdog that fires settles what is unanswered. -/
theorem Watched.serveTimeout (hw : Watched timeout log h) (hl : Lapsed timeout log now) :
    Watched timeout (log ++ [(now, .serve .timeout)]) (h.disarm .timeout) := by
  refine hw.keep rfl (by simp) ⟨rfl, rfl⟩ ?_ ?_ ?_ fun _ => hl
  · intro hi tick
    cases tick with
    | ping => exact hw.stopped hi .ping
    | timeout => rfl
  · intro i hi
    rw [Log.setOff?_concat (by simp)]
    exact hw.ping i hi
  · intro i _
    rw [Log.unanswered_settled rfl]
    rfl

/-- Time that passes sets nothing and settles nothing. -/
theorem Watched.pass (hw : Watched timeout log h) (span : Nat) :
    Watched timeout (log ++ [(now, .pass span)]) h := by
  refine hw.keep rfl (by simp) ⟨rfl, rfl⟩ hw.stopped ?_ ?_ (by simp)
  · intro i hi
    rw [Log.setOff?_concat (by simp)]
    exact hw.ping i hi
  · intro i hi
    rw [Log.unanswered_concat rfl, if_neg (by simp), List.append_nil]
    exact hw.watchdog i hi

/-- **Every move keeps the heartbeat in agreement with its log.** -/
theorem Watched.move (hw : Watched timeout log h) (hm : h.move? now m = some h') :
    Watched timeout (log ++ [(now, m)]) h' := by
  cases m with
  | start i =>
    obtain rfl := Option.some.inj hm
    exact hw.start i
  | stop =>
    obtain rfl := Option.some.inj hm
    exact hw.stop
  | pingSent =>
    obtain rfl := Option.some.inj hm
    exact hw.pingSent
  | pong =>
    obtain rfl := Option.some.inj hm
    exact hw.pong
  | serve tick =>
    obtain ⟨⟨d, hd, hdue⟩, rfl⟩ := fire?_eq_some hm
    cases tick with
    | ping => exact hw.servePing
    | timeout => exact hw.serveTimeout (hw.lapsed hd hdue)
  | pass span =>
    obtain rfl := Option.some.inj hm
    exact hw.pass span

end Step

variable {timeout now : Nat} {log : Log} {h : Heartbeat}

/-- Every heartbeat agrees with its log, whatever the order of the moves. -/
theorem Leads.watched (hl : Leads Free timeout log now h) : Watched timeout log h := by
  induction hl with
  | created now => exact watched_nil timeout
  | moved m _ _ made ih => exact ih.move made

/-! ## Deadlines served in time -/

/-- A Ping tick was the last move. -/
def Ticked (log : Log) : Prop := log.getLast?.map Prod.snd = some (.serve .ping)

/-- No deadline is overdue; and while the heartbeat runs a ping is due within the interval, unless it has
    just become due. -/
structure Paced (log : Log) (now : Nat) (h : Heartbeat) : Prop where
  current : ∀ tick d, h.deadline? tick = some d → now ≤ d
  next : ∀ i, h.interval = some i → (∃ p, h.pingAt = some p ∧ p ≤ now + i) ∨ Ticked log

section Punctual

variable {h' : Heartbeat} {m : Move}

/-- Nothing but a ping comes right after a Ping tick. -/
theorem Punctual.not_ticked (hr : Punctual log now h m) (hm : m ≠ .pingSent) : ¬ Ticked log :=
  fun hticked => hm (hr.2 hticked)

/-- Only a Ping tick leaves the heartbeat without the deadline of the next ping. -/
theorem Paced.exists_ping (hp : Paced log now h) (hr : Punctual log now h m) (hm : m ≠ .pingSent)
    {i : Nat} (hi : h.interval = some i) : ∃ p, h.pingAt = some p ∧ p ≤ now + i :=
  (hp.next i hi).resolve_right (hr.not_ticked hm)

/-- No deadline is overdue after a start. -/
theorem paced_start (log : Log) (now : Nat) (h : Heartbeat) (i : Nat) : Paced log now (h.start now i) := by
  refine ⟨fun tick d hd => ?_, fun j hj => Or.inl ⟨now + i, rfl, ?_⟩⟩
  · cases tick <;> cases hd
    exact Nat.le_add_right now i
  · cases hj
    exact Nat.le_refl _

theorem paced_stop (log : Log) (now : Nat) (h : Heartbeat) : Paced log now h.stop := by
  refine ⟨fun tick d hd => ?_, fun j hj => nomatch hj⟩
  cases tick <;> cases hd

/-- A ping sets the deadline of the next one. -/
theorem Paced.pingSent (hp : Paced log now h) (log' : Log) : Paced log' now (h.pingSent now) := by
  cases hi : h.interval with
  | none =>
    rw [pingSent_of_stopped hi]
    exact ⟨hp.current, fun j hj => nomatch hi.symm.trans hj⟩
  | some i =>
    rw [pingSent_of_running hi]
    refine ⟨fun tick d hd => ?_, fun j hj => Or.inl ⟨now + i, rfl, ?_⟩⟩
    · cases tick with
      | ping =>
        cases hd
        exact Nat.le_add_right now i
      | timeout =>
        rcases Option.or_eq_some_iff.mp hd with ht | ⟨-, hd⟩
        · exact hp.current .timeout d ht
        · cases hd
          exact Nat.le_add_right now _
    · cases hi.symm.trans hj
      exact Nat.le_refl _

/-- A pong disarms the watchdog, and so does the watchdog itself. -/
theorem Paced.disarm_timeout (hp : Paced log now h)
    (hnext : ∀ i, h.interval = some i → ∃ p, h.pingAt = some p ∧ p ≤ now + i) (log' : Log) :
    Paced log' now (h.disarm .timeout) := by
  refine ⟨fun tick d hd => ?_, fun i hi => Or.inl (hnext i hi)⟩
  cases tick with
  | ping => exact hp.current .ping d hd
  | timeout => cases hd

/-- A Ping tick disarms its own deadline. -/
theorem Paced.disarm_ping (hp : Paced log now h) {log' : Log} (hticked : Ticked log') :
    Paced log' now (h.disarm .ping) := by
  refine ⟨fun tick d hd => ?_, fun i _ => Or.inr hticked⟩
  cases tick with
  | ping => cases hd
  | timeout => exact hp.current .timeout d hd

/-- No punctual move lets a deadline pass. -/
theorem Paced.move (hp : Paced log now h) (hr : Punctual log now h m)
    (hm : h.move? now m = some h') : Paced (log ++ [(now, m)]) (now + m.span) h' := by
  cases m with
  | start i =>
    obtain rfl := Option.some.inj hm
    exact paced_start _ now h i
  | stop =>
    obtain rfl := Option.some.inj hm
    exact paced_stop _ now h
  | pingSent =>
    obtain rfl := Option.some.inj hm
    exact hp.pingSent _
  | pong =>
    obtain rfl := Option.some.inj hm
    exact hp.disarm_timeout (fun i hi => hp.exists_ping hr (by simp) hi) _
  | serve tick =>
    obtain ⟨-, rfl⟩ := fire?_eq_some hm
    cases tick with
    | ping => exact hp.disarm_ping (by simp [Ticked])
    | timeout => exact hp.disarm_timeout (fun i hi => hp.exists_ping hr (by simp) hi) _
  | pass span =>
    obtain rfl := Option.some.inj hm
    refine ⟨hr.1, fun i hi => Or.inl ?_⟩
    obtain ⟨p, hpat, hle⟩ := hp.exists_ping hr (by simp) hi
    refine ⟨p, hpat, ?_⟩
    show p ≤ now + span + i
    omega

/-- After a start or a pong at the time `t` the watchdog is set for the time `t + i + timeout` at the
    latest, or the next ping is due at the time `t + i` at the latest. -/
structure Alert (timeout t i now : Nat) (h : Heartbeat) : Prop where
  interval : h.interval = some i
  before : now ≤ t + i + timeout
  watchdog : ∀ d, h.timeoutAt = some d → d ≤ t + i + timeout
  ping : h.timeoutAt = none → now ≤ t + i ∧ ∀ p, h.pingAt = some p → p ≤ t + i

variable {t i : Nat}

/-- A start puts the watchdog on the alert, -/
theorem alert_start (h : Heartbeat) : Alert timeout t i t (h.start t i) := by
  refine ⟨rfl, by omega, fun d hd => ?_, fun _ => ⟨by omega, fun p hp => ?_⟩⟩
  · exact nomatch hd
  · cases hp
    exact Nat.le_refl _

/-- and so does a pong. -/
theorem Paced.alert_pong (hp : Paced log t h) (hr : Punctual log t h .pong)
    (hi : h.interval = some i) : Alert timeout t i t h.pong := by
  refine ⟨hi, by omega, fun d hd => ?_, fun _ => ⟨by omega, fun p hpat => ?_⟩⟩
  · exact nomatch hd
  · obtain ⟨p', hpat', hle⟩ := hp.exists_ping hr (by simp) hi
    cases hpat.symm.trans hpat'
    exact hle

/-- Until the watchdog fires, it stays on the alert, as long as nothing else comes. -/
theorem Alert.move (ha : Alert timeout t i now h) (hw : h.timeout = timeout) (hp : Paced log now h)
    (hr : Punctual log now h m) (hquiet : m.interrupts = false) (hm : h.move? now m = some h')
    (hfire : m ≠ .serve .timeout) : Alert timeout t i (now + m.span) h' := by
  cases m with
  | start | stop | pong => exact nomatch hquiet
  | pingSent =>
    obtain rfl := Option.some.inj hm
    rw [pingSent_of_running ha.interval]
    refine ⟨ha.interval, ha.before, fun d hd => ?_, fun hnone => ?_⟩
    · rcases Option.or_eq_some_iff.mp hd with ht | ⟨ht, hd⟩
      · exact ha.watchdog d ht
      · have hnow := (ha.ping ht).1
        cases hd
        omega
    · exact absurd (Option.or_eq_none_iff.mp hnone).2 (by simp)
  | serve tick =>
    obtain ⟨-, rfl⟩ := fire?_eq_some hm
    cases tick with
    | ping =>
      refine ⟨ha.interval, ha.before, ha.watchdog, fun ht => ⟨(ha.ping ht).1, fun p hp => ?_⟩⟩
      exact nomatch hp
    | timeout => exact absurd rfl hfire
  | pass span =>
    obtain rfl := Option.some.inj hm
    obtain ⟨p, hpat, -⟩ := hp.exists_ping hr (by simp) ha.interval
    -- time stops at the deadline of the watchdog, or else at that of the next ping
    have hping : now + span ≤ p := hr.1 .ping p hpat
    have hsoon : h.timeoutAt = none → now + span ≤ t + i := fun ht =>
      hping.trans ((ha.ping ht).2 p hpat)
    refine ⟨ha.interval, ?_, ha.watchdog, fun ht => ⟨hsoon ht, (ha.ping ht).2⟩⟩
    show now + span ≤ t + i + timeout
    cases ht : h.timeoutAt with
    | none =>
      have := hsoon ht
      omega
    | some d => exact (hr.1 .timeout d ht).trans (ha.watchdog d ht)

/-- A punctual log lets no deadline pass. -/
theorem Leads.paced (hl : Leads Punctual timeout log now h) : Paced log now h := by
  induction hl with
  | created now =>
    refine ⟨fun tick d hd => ?_, fun j hj => nomatch hj⟩
    cases tick <;> cases hd
  | moved m _ allowed made ih => exact ih.move allowed made

/-- After a start or a pong, and as long as nothing else comes, the watchdog is on the alert or has fired
    in time. -/
theorem Leads.alert (hl : Leads Punctual timeout log now h) {before after : Log}
    (heq : log = before ++ (t, m) :: after) (hi : interval? (before ++ [(t, m)]) = some i)
    (hm : m = .pong ∨ m = .start i) (hquiet : ∀ x ∈ after, x.2.interrupts = false) :
    (∃ t' ≤ t + i + timeout, (t', .serve .timeout) ∈ after) ∨ Alert timeout t i now h := by
  induction hl generalizing after with
  | created now => exact absurd heq (by simp)
  | @moved log now h h' m' hbefore allowed made ih =>
    rcases List.eq_nil_or_concat after with rfl | ⟨after', last, rfl⟩
    · -- the start or the pong is the last move
      obtain ⟨rfl, hlast⟩ := List.append_inj' heq rfl
      obtain ⟨rfl, rfl⟩ := Prod.mk.inj (List.singleton_inj.mp hlast)
      refine Or.inr ?_
      rcases hm with rfl | rfl
      · obtain rfl := Option.some.inj made
        rw [Log.interval?_concat (by simp)] at hi
        exact hbefore.paced.alert_pong allowed (hbefore.free.watched.interval.trans hi)
      · obtain rfl := Option.some.inj made
        exact alert_start h
    · rw [List.concat_eq_append, ← List.cons_append, ← List.append_assoc] at heq
      obtain ⟨rfl, hlast⟩ := List.append_inj' heq rfl
      obtain rfl := List.singleton_inj.mp hlast
      rw [List.concat_eq_append] at hquiet ⊢
      obtain ⟨hquiet, hlast⟩ := List.forall_mem_append.mp hquiet
      rcases ih rfl hquiet with ⟨t', hle, hmem⟩ | halert
      · exact Or.inl ⟨t', hle, List.mem_append_left _ hmem⟩
      · by_cases hfire : m' = .serve .timeout
        · subst hfire
          exact Or.inl ⟨now, halert.before, List.mem_append_right _ (List.mem_singleton_self _)⟩
        · exact Or.inr (halert.move hbefore.free.watched.allowance hbefore.paced allowed
            (hlast _ (List.mem_singleton_self _)) made hfire)

end Punctual

/-- Time passes beyond an interval and a timeout after a start or a pong only if the watchdog fired by
    then, or another start, stop or pong came. -/
def Vigilant (timeout : Nat) (log : Log) (now : Nat) : Prop :=
  ∀ before t m after i, log = before ++ (t, m) :: after → m = .pong ∨ m = .start i →
    interval? (before ++ [(t, m)]) = some i → (∀ x ∈ after, x.2.interrupts = false) →
    t + i + timeout < now → ∃ t' ≤ t + i + timeout, (t', .serve .timeout) ∈ after

/-- **Deadlines over any course of events.** The deadlines of a heartbeat are read off its log, however
    late they are served; and where they are served in time, a peer that falls silent is noticed within an
    interval and a timeout. -/
theorem vigilant_log (timeout : Nat) :
    (∀ log now h, Leads Free timeout log now h → Watched timeout log h) ∧
      ∀ log now h, Leads Punctual timeout log now h → Vigilant timeout log now := by
  refine ⟨fun log now h hl => hl.watched, ?_⟩
  intro log now h hl before t m after i heq hm hi hquiet hnow
  rcases hl.alert heq hi hm hquiet with hfired | halert
  · exact hfired
  · have := halert.before
    omega

/-- A peer that answers no ping, an interval of five seconds and a timeout of three: the watchdog fires at
    the last moment. -/
theorem vigilant_log_silent :
    let after : Log := [(0, .pass 5000), (5000, .serve .ping), (5000, .pingSent), (5000, .pass 3000),
      (8000, .serve .timeout), (8000, .pass 1)]
    ∃ h, Leads Punctual 3000 ((0, .start 5000) :: after) 8001 h ∧
      Watched 3000 ((0, .start 5000) :: after) h ∧
      ∃ t' ≤ 0 + 5000 + 3000, (t', .serve .timeout) ∈ after := by
  intro after
  have h0 : Leads Punctual 3000 [] 0 { timeout := 3000 } := .created 0
  have h1 := h0.moved (.start 5000) (by decide) rfl
  have h2 := h1.moved (.pass 5000) (by decide) rfl
  have h3 := h2.moved (.serve .ping) (by decide) rfl
  have h4 := h3.moved .pingSent (by decide) rfl
  have h5 := h4.moved (.pass 3000) (by decide) rfl
  have h6 := h5.moved (.serve .timeout) (by decide) rfl
  have h7 := h6.moved (.pass 1) (by decide) rfl
  refine ⟨_, h7, (vigilant_log 3000).1 _ _ _ h7.free, ?_⟩
  exact (vigilant_log 3000).2 _ _ _ h7 [] 0 (.start 5000) after 5000 rfl (Or.inr rfl) rfl
    (by decide) (by decide)

end Tether.Heartbeat
