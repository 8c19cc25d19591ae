import Tether.Proofs.Engine.Phases
import Tether.Proofs.Simulation.Silence

/-!
# `Tether.Proofs.Simulation.Finality` — what leaves permanent failure

A client that has settled, by disconnecting or by failing for good, holds no connection and no timer.
Of all inputs only two kinds concern its phase: a call to connect, and the host's leave. Permanent
failure is therefore final but for these two: it outlasts every message, snapshot, signal and timer, and
the first leave turns it into an ordinary disconnected client.

* `turn_of_settled` — the turns that are left to a settled client;
* `settled_without_connect` — its phase over a history without a call to connect;
* `final_run` — permanent failure lasts exactly as long as the host does not leave;
* `not_final_of_disconnect` — so a call to connect is not the only way out of it.
-/

namespace Tether

namespace Input

/-- Does the host disconnect, or let go of the client? -/
def isLeave : Input → Bool
  | .command (.disconnect _) | .shutdown => true
  | _ => false

end Input

namespace Phase

/-- The phase of a settled client, and whether the host has left it. -/
def rest (left : Bool) (p : Phase) : Phase := if left then .disconnected else p

/-- What a settled client publishes, by whether the host leaves it. -/
def parting (left : Bool) (p : Phase) : List Phase :=
  if left ∧ p ≠ .disconnected then [.disconnected] else []

theorem rest_or (left later : Bool) (p : Phase) :
    p.rest (left || later) = (p.rest left).rest later := by
  cases left with
  | false => rfl
  | true => cases later <;> rfl

/-- Only the first leave is published. -/
theorem parting_or (left later : Bool) (p : Phase) :
    p.parting (left || later) = p.parting left ++ (p.rest left).parting later := by
  cases left with
  | false => rfl
  | true =>
    have hrest : (p.rest true).parting later = [] := if_neg fun h => h.2 rfl
    rw [hrest, List.append_nil]; rfl

end Phase

namespace Engine

open Effect (seen phase?)

variable {e : Engine} {s : Surroundings} {input : Input}

/-! ## One step -/

/-- **A settled client can only depart or be left**; everything else passes. -/
theorem turn_of_settled (s : Surroundings) (input : Input) (h : e.Sound) (hp : e.Settled) :
    e.turn s.now input = .passing ∨ e.turn s.now input = .leave ∨
      ∃ caller, e.turn s.now input = .depart caller := by
  have hstep := step_stepped s input e
  have hreleased := h.released hp
  -- no other turn is open to a client that holds nothing
  have hlive : ¬(e.dialing ∨ e.receiver.isSome) := by
    rw [hreleased.dialing, hreleased.receiver]; simp
  generalize e.turn s.now input = t at hstep ⊢
  cases hstep with
  | passing => exact Or.inl rfl
  | leave => exact Or.inr (Or.inl rfl)
  | depart => exact Or.inr (Or.inr ⟨_, rfl⟩)
  | greet _ phase => exact absurd phase hp.not_established
  | join _ phase =>
    rcases hp with hp | hp <;> rw [hp] at phase <;> exact absurd phase Bool.false_ne_true
  | attach _ dialing => exact absurd (Or.inl dialing) hlive
  | offer _ receiver => exact absurd (Or.inr receiver) hlive
  | accept _ _ receiver => exact absurd (Or.inr receiver) hlive
  | fallBack _ _ receiver => exact absurd (Or.inr receiver) hlive
  | refuse _ _ receiver => exact absurd (Or.inr receiver) hlive
  | lose live => exact absurd live hlive
  | alarm _ runs => rw [hreleased.heartbeat.1] at runs; exact absurd runs Bool.false_ne_true
  | redial _ due =>
    obtain ⟨n, hn⟩ := h.timed.reconnecting_of_due due
    rcases hp with hp | hp <;> rw [hp] at hn <;> cases hn

/-- An input by which the host leaves is a leave, unless the client has stopped. -/
theorem turn_of_leave (now : Nat) (hi : input.isLeave) (hrun : e.running) :
    e.turn now input = .leave := by
  rw [turn, if_pos hrun]
  cases input with
  | shutdown => rfl
  | command c =>
    cases c with
    | disconnect _ => rfl
    | connect _ | send _ | snapshot _ => exact absurd hi Bool.false_ne_true
  | dialed _ | signal _ | detached | tick _ | reconnect => exact absurd hi Bool.false_ne_true

/-- The phase of a settled client after a step that is no call to connect. -/
theorem settled_step_rests (s : Surroundings) (h : e.Sound) (hp : e.Settled)
    (hc : input.isConnect = false) :
    (e.step s input).engine.phase = e.phase.rest input.isLeave ∧
      seen phase? (e.step s input).effects = e.phase.parting input.isLeave := by
  have hstep := step_stepped s input e
  have hturn := turn_of_settled s input h hp
  have hleave := fun hi hrun => @turn_of_leave e input s.now hi hrun
  generalize e.turn s.now input = t at hstep hturn hleave
  rw [← phases_control]
  cases hstep with
  | passing _ passes =>
    obtain ⟨⟨_, _, _, he⟩, hcontrol⟩ := passes
    rw [he, hcontrol]
    cases hi : input.isLeave with
    | false => exact ⟨rfl, rfl⟩
    | true =>
      -- a leave that passes comes to a client that has stopped, and so has disconnected
      have hstopped : e.running = false := by
        refine eq_false_of_ne_true fun hrun => ?_
        cases hleave hi hrun
      have hdis := h.stopped hstopped
      exact ⟨hdis, (if_neg fun hne => hne.2 hdis).symm⟩
  | leave is engine control =>
    obtain ⟨_, he⟩ := engine
    have hi : input.isLeave = true := by
      rcases is with ⟨_, rfl⟩ | rfl <;> rfl
    rw [he, control, hi]
    refine ⟨rfl, ?_⟩
    simp only [Effect.seen_cons, Effect.seen_append, phases_announcement, phases_answers,
      phases_farewell]
    by_cases hd : e.phase = .disconnected
    · simp [hd, phase?, Phase.parting]
    · simp [hd, phase?, Phase.parting]
  | depart is => rw [is] at hc; cases hc
  | greet | join | attach | offer | accept | fallBack | refuse | lose | alarm | redial =>
    rcases hturn with ht | ht | ⟨_, ht⟩ <;> cases ht

/-! ## Every continuation -/

/-- **A settled client, over a history without a call to connect**: its phase is what it was until the
    host leaves, and disconnected from then on. -/
theorem settled_without_connect (later : History) (h : e.Sound) (hp : e.Settled)
    (hnone : ∀ x ∈ later, x.2.isConnect = false) :
    (run later e).engine.phase = e.phase.rest (later.any (·.2.isLeave)) ∧
      seen phase? (run later e).effects = e.phase.parting (later.any (·.2.isLeave)) := by
  induction later generalizing e with
  | nil => exact ⟨rfl, rfl⟩
  | cons head rest ih =>
    obtain ⟨s, input⟩ := head
    obtain ⟨hhead, hrest⟩ := List.forall_mem_cons.mp hnone
    obtain ⟨hphase, hpublished⟩ := settled_step_rests s h hp hhead
    have hsettled := (step_hushed s h hp hhead).settled
    obtain ⟨hphase', hpublished'⟩ := ih (sound_step s input h) hsettled hrest
    rw [List.any_cons, Phase.rest_or, Phase.parting_or, ← hphase]
    refine ⟨hphase', ?_⟩
    rw [run, Outcome.andThen, Effect.seen_append, hpublished, hpublished']

/-- How permanent failure fares in a client, over a continuation without a call to connect. -/
structure Final (e : Engine) (later : History) : Prop where
  /-- It lasts throughout exactly if the host neither disconnects nor lets go of the client. -/
  throughout : (∀ before after, later = before ++ after →
    (run before e).engine.phase = .permanentlyFailed) ↔ ∀ x ∈ later, x.2.isLeave = false
  /-- Then nothing is published; otherwise the one change is to the disconnected phase, -/
  published : seen phase? (run later e).effects =
    if later.any (·.2.isLeave) then [.disconnected] else []
  /-- which is the phase from then on. -/
  phase : (run later e).engine.phase =
    if later.any (·.2.isLeave) then .disconnected else .permanentlyFailed

/-- **Permanent failure is final but for the host**: whatever the configuration, the persisted thread and
    the history of a client that has failed for good, every continuation without a call to connect leaves
    it so, exactly as long as the host does not leave. -/
theorem final_run (config : Config) (thread : Option String) (history later : History)
    (hp : (run history (create config thread)).engine.phase = .permanentlyFailed)
    (hnone : ∀ x ∈ later, x.2.isConnect = false) :
    Final (run history (create config thread)).engine later := by
  have h := sound_run history (sound_create config thread)
  generalize (run history (create config thread)).engine = e at h hp
  have hrests : ∀ later : History, (∀ x ∈ later, x.2.isConnect = false) →
      (run later e).engine.phase = e.phase.rest (later.any (·.2.isLeave)) ∧
        seen phase? (run later e).effects = e.phase.parting (later.any (·.2.isLeave)) :=
    fun later => settled_without_connect later h (Or.inr hp)
  obtain ⟨hphase, hpublished⟩ := hrests later hnone
  refine ⟨⟨fun hall => ?_, fun hstay before after heq => ?_⟩, ?_, ?_⟩
  · -- the whole continuation is one of its beginnings
    have hend := hall later [] (List.append_nil later).symm
    rw [hphase, hp] at hend
    cases hany : later.any (·.2.isLeave) with
    | true => rw [hany] at hend; cases hend
    | false =>
      intro x hx
      exact eq_false_of_ne_true (List.any_eq_false.mp hany x hx)
  · subst heq
    obtain ⟨hbefore, -⟩ := hrests before fun x hx => hnone x (List.mem_append_left after hx)
    have hany : before.any (·.2.isLeave) = false := by
      refine List.any_eq_false.mpr fun x hx => ?_
      rw [hstay x (List.mem_append_left after hx)]
      exact Bool.false_ne_true
    rw [hbefore, hany]
    exact hp
  · rw [hpublished, hp]
    cases later.any (·.2.isLeave) <;> rfl
  · rw [hphase, hp]; rfl

/-- A client whose only attempt was refused is sent a message to write, asked for its session and given
    a timer that is not due; then the host disconnects. -/
theorem final_refused :
    let config : Config := { reconnect := { maxRetries := 0 } }
    let s : Surroundings :=
      { now := 0, unixMillis := 0, write := .ok (), store := fun _ => .ok (), nonce := []
        pair := default }
    let history : History :=
      [(s, .command (.connect 0)), (s, .dialed (.error (.transport "connection refused")))]
    let still : History :=
      [(s, .command (.send .ping)), (s, .command (.snapshot 1)), (s, .signal .opened), (s, .reconnect)]
    (run history (create config none)).engine.phase = .permanentlyFailed ∧
      (∀ x ∈ still ++ [(s, .command (.disconnect 2))], x.2.isConnect = false) ∧
      Final (run history (create config none)).engine still ∧
      Final (run history (create config none)).engine (still ++ [(s, .command (.disconnect 2))]) := by
  intro config s history still
  have hp : (run history (create config none)).engine.phase = .permanentlyFailed := by decide +kernel
  have hnone : ∀ x ∈ still ++ [(s, .command (.disconnect 2))], x.2.isConnect = false := by
    simp [still, Input.isConnect]
  have hstill : ∀ x ∈ still, x.2.isConnect = false :=
    fun x hx => hnone x (List.mem_append_left _ hx)
  exact ⟨hp, hnone, final_run config none history still hp hstill,
    final_run config none history _ hp hnone⟩

/-- **A call to connect is not the only way out**: a client whose only attempt was refused leaves
    permanent failure when the host disconnects. -/
theorem not_final_of_disconnect :
    let config : Config :=
      { url := "ws://h", clientId := "c1", reconnect := { maxRetries := 0 } }
    let s : Surroundings :=
      { now := 0, unixMillis := 0, write := .ok (), store := fun _ => .ok (), nonce := []
        pair := default }
    let history : History :=
      [(s, .command (.connect 0)), (s, .dialed (.error (.transport "connection refused")))]
    let later : History := [(s, .command (.disconnect 1))]
    config.validate = .ok () ∧
      (run history (create config none)).engine.phase = .permanentlyFailed ∧
      (∀ x ∈ later, x.2.isConnect = false) ∧
      (run later (run history (create config none)).engine).engine.phase = .disconnected := by
  intro config s history later
  refine ⟨?_, by decide +kernel, ?_, by decide +kernel⟩
  · have hflaw : config.flaw? = none := by decide +kernel
    rw [Config.validate, hflaw]
  · intro x hx
    rw [List.mem_singleton.mp hx]; rfl

end Engine
end Tether
