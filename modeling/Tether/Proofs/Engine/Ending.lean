import Tether.Proofs.Engine.Outage

/-!
# `Tether.Proofs.Engine.Ending` — how connections end

A connection that an engine holds ends in one of two ways that matter to others: it is lost, or the
host leaves it. `Engine.endings` lists both, with the number of the connection. A step ends at most one
connection, and holds none afterwards (`endings_step`).
-/

namespace Tether.Engine

/-! ## The receiver -/

variable {e : Engine} {s : Surroundings} {input : Input}

/-- Where no loss is possible, there is no receiver. -/
theorem Wired.receiver_eq_none (hw : e.Wired) (hp : ¬e.phase.reconnectsOnLoss) :
    e.receiver = none :=
  Option.not_isSome_iff_eq_none.mp fun hr => hp (hw.expected (Or.inr hr))

/-- Where a loss leads: no receiver, and either another attempt or the end of trying. -/
theorem receiver_lost {now : Nat} {cause : String} {o : Outcome} (hl : Lost now cause e o) :
    o.engine.receiver = none ∧
      (o.engine.phase.isScheduled ∨ o.engine.phase = .permanentlyFailed) := by
  cases hl with
  | retry _ engine _ => rw [engine]; exact ⟨rfl, Or.inl rfl⟩
  | giveUp _ engine _ => rw [engine]; exact ⟨rfl, Or.inr rfl⟩

/-- A client that has lost its connection has no session. -/
theorem Lost.not_established {now : Nat} {cause : String} {o : Outcome} (hl : Lost now cause e o) :
    o.engine.phase ≠ .established := by
  cases hl with
  | retry _ engine _ => rw [engine]; simp [retrying]
  | giveUp _ engine _ => rw [engine]; simp [exhausted]

theorem not_established_sendHandshake (h : e.Sound) (hr : e.receiver.isSome)
    (hp : e.phase ≠ .established) : (e.sendHandshake s).engine.phase ≠ .established := by
  cases h.offered s hr hp with
  | waits engine _ => rw [engine]; simp [awaitingAnswer]
  | unsent lost engine _ => rw [engine]; exact lost.not_established

/-- What becomes of the receiver in a step. -/
inductive Held (input : Input) (e : Engine) (o : Outcome) : Prop where
  | kept (receiver : o.engine.receiver = e.receiver)
  /-- The engine waits for another attempt, or has given up. -/
  | lost (receiver : o.engine.receiver = none)
      (phase : o.engine.phase.isScheduled ∨ o.engine.phase = .permanentlyFailed)
  /-- The host has left. -/
  | left (is : (∃ caller, input = .command (.disconnect caller)) ∨ input = .shutdown)
      (receiver : o.engine.receiver = none)
  /-- The transport hands one over. -/
  | handed {n : Nat} (is : input = .dialed (.ok n)) (receiver : o.engine.receiver = some n)

theorem held_sendHandshake {o : Outcome} {e' : Engine} (h : e'.Sound) (hr : e'.receiver.isSome)
    (hp : e'.phase ≠ .established) (hsame : e'.receiver = e.receiver)
    (he : o.engine = (e'.sendHandshake s).engine) : Held input e o := by
  cases h.offered s hr hp with
  | waits engine _ =>
    refine .kept ?_
    rw [he, engine]; exact hsame
  | unsent lost engine _ =>
    obtain ⟨hnone, hphase⟩ := receiver_lost lost
    rw [← engine, ← he] at hnone hphase
    exact .lost hnone hphase

/-- **A receiver comes from the transport alone**, and goes with a failure or with the host. -/
theorem step_held (s : Surroundings) (input : Input) (h : e.Sound) :
    Held input e (e.step s input) := by
  have hstep := step_stepped s input e
  generalize e.turn s.now input = t at hstep
  cases hstep with
  | passing _ passes => obtain ⟨⟨_, _, _, he⟩, _⟩ := passes; exact .kept (by rw [he])
  | greet _ _ engine _ | join _ _ engine _ | alarm _ _ engine _ | redial _ _ engine _ =>
    exact .kept (by rw [engine])
  | depart _ _ engine _ | accept _ _ _ _ engine _ => exact .kept (by rw [engine]; rfl)
  | leave is engine _ => obtain ⟨_, he⟩ := engine; exact .left is (by rw [he]; rfl)
  | attach is _ engine _ => exact .handed is (by rw [engine])
  | offer _ receiver phase engine _ =>
    exact held_sendHandshake h receiver (by rw [phase]; simp) rfl engine
  | fallBack _ _ receiver phase _ engine _ =>
    have hne : e.phase ≠ .established := by rw [phase]; simp
    exact held_sendHandshake (h.fallenBack hne) receiver hne rfl engine
  | refuse _ _ _ _ _ engine _ =>
    exact .lost (by rw [engine]; rfl) (by rw [engine]; exact Or.inr rfl)
  | lose live engine _ =>
    obtain ⟨hnone, hphase⟩ := receiver_lost (h.timed.lost (h.wired.expected live) s.now _)
    rw [← engine] at hnone hphase
    exact .lost hnone hphase

/-- **Losses come one at a time**, and a step with a loss leaves no receiver. -/
theorem causes_step (s : Surroundings) (input : Input) (h : e.Sound) :
    e.causes s input = [] ∨ ∃ cause, e.causes s input = [cause] ∧
      (e.turn s.now input).resets = false ∧ (e.step s input).engine.receiver = none := by
  have hnone : ¬(e.step s input).engine.phase.reconnectsOnLoss →
      (e.step s input).engine.receiver = none := (sound_step s input h).wired.receiver_eq_none
  cases step_course s input h with
  | retry resets causes _ _ phase _ _ _ _ | giveUp resets causes _ _ phase _ _ _ =>
    exact Or.inr ⟨_, causes, resets, hnone (by rw [phase]; exact Bool.false_ne_true)⟩
  | depart _ _ _ causes | leave _ _ _ causes | accept _ _ causes | refuse _ causes
  | redial _ _ _ causes | other _ causes => exact Or.inl causes

/-- An engine that holds a receiver runs. -/
theorem Sound.running (h : e.Sound) (hr : e.receiver.isSome) : e.running = true := by
  refine Classical.byContradiction fun hrun => ?_
  have hp := h.wired.expected (Or.inr hr)
  rw [h.stopped (eq_false_of_ne_true hrun)] at hp
  exact Bool.false_ne_true hp

/-- A close is always a loss, in any phase. -/
theorem receiver_of_close {signal : Signal} (s : Surroundings) (h : e.Sound)
    (hr : e.receiver.isSome) (hc : signal.isClose = true) :
    (e.step s (.signal signal)).engine.receiver = none := by
  cases signal with
  | closed code reason =>
    have hmem : closeCause code reason ∈ e.causes s (.signal (.closed code reason)) :=
      mem_causes_iff.mpr (.closed rfl (h.running hr) hr)
    rcases causes_step s (.signal (.closed code reason)) h with hnil | ⟨_, _, _, hnone⟩
    · rw [hnil] at hmem; exact absurd hmem List.not_mem_nil
    · exact hnone
  | opened | message _ | failed _ => exact absurd hc Bool.false_ne_true

/-! ## Endings -/

/-- How a connection that is held ends. -/
inductive Ending where
  | lost
  /-- The host disconnects, or lets go of the client. -/
  | left
  deriving DecidableEq, Repr

/-- Does the host leave? -/
def Turn.leaves : Turn → Bool
  | .leave => true
  | _ => false

/-- The connections that a step ends: one entry for every loss, and one if the host leaves. -/
def endings (s : Surroundings) (input : Input) (e : Engine) : List (Nat × Ending) :=
  e.receiver.toList.flatMap fun n =>
    (e.causes s input).map (fun _ => (n, .lost)) ++
      if (e.turn s.now input).leaves then [(n, .left)] else []

/-- The connections that a history ends, in order. -/
def ended : History → Engine → List (Nat × Ending)
  | [], _ => []
  | (s, input) :: rest, e => e.endings s input ++ ended rest (e.step s input).engine

theorem Turn.resets_of_leaves {t : Turn} (hl : t.leaves = true) : t.resets = true := by
  cases t with
  | leave => rfl
  | _ => exact absurd hl Bool.false_ne_true

/-- Whoever leaves gives up the receiver. -/
theorem receiver_of_leaves (s : Surroundings) (hl : (e.turn s.now input).leaves = true) :
    (e.step s input).engine.receiver = none := by
  have hstep := step_stepped s input e
  generalize e.turn s.now input = t at hstep hl
  cases hstep with
  | leave _ engine _ => obtain ⟨_, he⟩ := engine; rw [he]; rfl
  | _ => exact absurd hl Bool.false_ne_true

theorem endings_of_none (hr : e.receiver = none) : e.endings s input = [] := by
  rw [endings, hr]; rfl

/-- **A step ends at most one connection**, the one that is held, and none is held afterwards. -/
theorem endings_step (s : Surroundings) (input : Input) (h : e.Sound) :
    e.endings s input = [] ∨ ∃ n how, e.receiver = some n ∧ e.endings s input = [(n, how)] ∧
      (e.step s input).engine.receiver = none := by
  cases hr : e.receiver with
  | none => exact Or.inl (endings_of_none hr)
  | some n =>
    have heq : e.endings s input = (e.causes s input).map (fun _ => (n, .lost)) ++
        if (e.turn s.now input).leaves then [(n, .left)] else [] := by
      rw [endings, hr]; exact List.append_nil _
    rcases causes_step s input h with hc | ⟨cause, hc, hresets, hnone⟩
    · rw [hc] at heq
      by_cases hl : (e.turn s.now input).leaves = true
      · rw [if_pos hl] at heq
        exact Or.inr ⟨n, .left, rfl, heq, receiver_of_leaves s hl⟩
      · rw [if_neg hl] at heq
        exact Or.inl heq
    · -- to lose a connection is not to leave it
      have hl : ¬(e.turn s.now input).leaves = true := fun hl =>
        absurd ((Turn.resets_of_leaves hl).symm.trans hresets) (by simp)
      rw [hc, if_neg hl] at heq
      exact Or.inr ⟨n, .lost, rfl, heq, hnone⟩

/-! ## After the host has left -/

/-- An engine that the host leaves is disconnected. -/
theorem disconnected_of_leave (s : Surroundings) (h : e.Sound)
    (hi : (∃ caller, input = .command (.disconnect caller)) ∨ input = .shutdown) :
    (e.step s input).engine.phase = .disconnected := by
  by_cases hrun : e.running
  · have hturn : e.turn s.now input = .leave := by
      rw [turn, if_pos hrun]
      rcases hi with ⟨caller, rfl⟩ | rfl <;> rfl
    have hstep := step_stepped s input e
    rw [hturn] at hstep
    cases hstep with
    | leave _ engine _ => obtain ⟨_, he⟩ := engine; rw [he]
  · have hidle : e.step s input = e.idle := if_neg hrun
    rw [hidle]
    exact h.stopped (eq_false_of_ne_true hrun)

/-- Until somebody calls connect, an engine that has disconnected or given up stays so, or
    disconnects. -/
theorem settled_step (s : Surroundings) (h : e.Sound)
    (hp : e.phase = .disconnected ∨ e.phase = .permanentlyFailed)
    (hi : ∀ caller, input ≠ .command (.connect caller)) :
    (e.step s input).engine.phase = e.phase ∨ (e.step s input).engine.phase = .disconnected := by
  have hloss : ¬e.phase.reconnectsOnLoss := by
    rcases hp with hp | hp <;> rw [hp] <;> exact Bool.false_ne_true
  cases step_course s input h with
  | retry _ _ expected | giveUp _ _ expected | accept _ _ _ expected | refuse _ _ expected =>
    exact absurd expected hloss
  | depart is _ _ _ _ _ _ _ _ _ => exact absurd is (hi _)
  | leave _ _ _ _ phase _ _ _ _ => exact Or.inr phase
  | redial _ due =>
    obtain ⟨_, hn⟩ := h.timed.reconnecting_of_due due
    rw [hn] at hp
    exact absurd hp (by simp)
  | other _ _ _ phase _ _ _ _ => exact Or.inl (phase.resolve_right fun hp' => hloss hp'.1)

/-- **Nothing is lost and nothing is scheduled after the host has left**, until somebody calls
    connect. -/
theorem disconnected_run (history : History) (h : e.Sound) (hp : e.phase = .disconnected)
    (hi : ∀ x ∈ history, ∀ caller, x.2 ≠ .command (.connect caller)) :
    (run history e).engine.phase = .disconnected ∧ (run history e).engine.reconnectAt = none ∧
      ended history e = [] := by
  induction history generalizing e with
  | nil => exact ⟨hp, (h.released (Or.inl hp)).timer, rfl⟩
  | cons head rest ih =>
    obtain ⟨s, input⟩ := head
    obtain ⟨hinput, hrest⟩ := List.forall_mem_cons.mp hi
    have hnext : (e.step s input).engine.phase = .disconnected :=
      (settled_step s h (Or.inl hp) hinput).elim (fun hsame => hsame.trans hp) id
    obtain ⟨hphase, htimer, hended⟩ := ih (sound_step s input h) hnext hrest
    refine ⟨hphase, htimer, ?_⟩
    rw [ended, endings_of_none (h.released (Or.inl hp)).receiver, hended]; rfl

end Tether.Engine
