import Tether.Proofs.Engine.Resources

/-!
# `Tether.Proofs.Engine.Callers` — every caller of connect is answered once

Callers who come during an attempt wait in a list, and whatever ends the attempt answers all of them.
The invariant is an equation between lists: those who were answered, followed by those who wait, are
those who asked, in the order in which they came (`replied_append_waiting`). So nobody is answered twice
or forgotten, and nobody overtakes. What an answer says is true of the step that gives it (`Truthful`).
-/

namespace Tether

namespace Engine

open Effect (seen reply? failure? request?)

/-- The callers who are answered. -/
def Outcome.replied (o : Outcome) : List Nat := (seen reply? o.effects).map Prod.fst

/-- The caller whose call to connect an input brings to a running engine. -/
def caller? (input : Input) (e : Engine) : Option Nat :=
  match input with
  | .command (.connect caller) => if e.running then some caller else none
  | _ => none

/-- The callers who asked for a connection, in order. -/
def asked : History → Engine → List Nat
  | [], _ => []
  | (s, input) :: rest, e => (e.caller? input).toList ++ asked rest (e.step s input).engine

variable {e : Engine} {s : Surroundings} {input : Input}

/-! ## What a step does for callers -/

/-- The caller whom a turn is about. -/
def Turn.caller? : Turn → Option Nat
  | .greet caller | .join caller | .depart caller => some caller
  | _ => none

theorem caller?_frameTurn (frame : String) (e : Engine) : (e.frameTurn frame).caller? = none := by
  unfold frameTurn
  split
  · rfl
  · split <;> rfl
  · rfl

/-- The turns about a caller are those of calls to connect. -/
theorem caller?_turn (now : Nat) (input : Input) (e : Engine) :
    (e.turn now input).caller? = e.caller? input := by
  unfold turn caller?
  by_cases hrun : e.running
  · rw [if_pos hrun]
    cases input with
    | command c =>
      cases c with
      | connect caller =>
        show (e.connectTurn caller).caller? = if e.running then some caller else none
        rw [if_pos hrun]
        unfold connectTurn
        split
        · rfl
        · split <;> rfl
      | disconnect _ | send _ | snapshot _ => rfl
    | dialed answer => cases answer <;> (unfold inputTurn; dsimp only; split <;> rfl)
    | signal signal =>
      unfold inputTurn
      dsimp only
      split
      · cases signal with
        | message frame => exact caller?_frameTurn frame e
        | opened => unfold signalTurn; dsimp only; split <;> rfl
        | closed _ _ | failed _ => rfl
      · rfl
    | tick t => cases t <;> (unfold inputTurn; dsimp only; try split) <;> rfl
    | detached | reconnect => unfold inputTurn; dsimp only; split <;> rfl
    | shutdown => rfl
  · rw [if_neg hrun]
    cases input with
    | command c =>
      cases c with
      | connect caller => exact (if_neg hrun).symm
      | disconnect _ | send _ | snapshot _ => rfl
    | shutdown | dialed _ | signal _ | detached | tick _ | reconnect => rfl

/-- An answer that is true of the step that gives it. -/
inductive Truthful (input : Input) (o : Outcome) : Except Error Unit → Prop where
  /-- There is a session. -/
  | granted (phase : o.engine.phase = .established) : Truthful input o (.ok ())
  /-- The host disconnects, or lets go of the client. -/
  | abandoned (is : (∃ caller, input = .command (.disconnect caller)) ∨ input = .shutdown) :
      Truthful input o (.error .clientDisconnected)
  /-- The client gives up, over the same error that the host is told. -/
  | failed {error : Error}
      (is : (∃ reason, error = .protocolRejection reason) ∨
        ∃ attempts cause, error = .retryExhausted attempts cause)
      (told : seen failure? o.effects = [error]) : Truthful input o (.error error)

/-- What a step does for those who wait. -/
inductive Attends (input : Input) (e : Engine) (o : Outcome) : Prop where
  /-- Nobody is answered; a newcomer waits. -/
  | nobody (replies : seen reply? o.effects = [])
      (waiting : o.engine.waiting = e.waiting ++ (e.caller? input).toList)
  /-- A newcomer finds a session. -/
  | newcomer {caller : Nat} (is : e.caller? input = some caller) (phase : e.phase = .established)
      (engine : o.engine = e) (replies : seen reply? o.effects = [(caller, .ok ())])
  /-- Everyone gets the same answer, and it is true. -/
  | everyone {answer : Except Error Unit} (is : e.caller? input = none)
      (replies : seen reply? o.effects = e.waiting.map fun caller => (caller, answer))
      (waiting : o.engine.waiting = []) (truthful : Truthful input o answer)

/-- A loss answers everyone if it is the last, and nobody otherwise. -/
theorem attends_lost {now : Nat} {cause : String} {e' : Engine} {o o' : Outcome}
    (xs : List Effect) (is : e.caller? input = none) (hl : Lost now cause e' o')
    (hw : e'.waiting = e.waiting) (he : o.engine = o'.engine) (hc : o.control = xs ++ o'.control)
    (hxs : seen reply? xs = []) (hfs : seen failure? xs = []) : Attends input e o := by
  cases hl with
  | retry _ engine control =>
    refine .nobody ?_ ?_
    · rw [← replies_control, hc, control]
      simp [hxs, reply?]
    · rw [he, engine, is, ← hw]; exact (List.append_nil _).symm
  | giveUp _ engine control =>
    -- the host and the callers hear of one and the same error
    have htold : seen failure? o.effects =
        [.retryExhausted e'.config.reconnect.maxRetries cause] := by
      rw [← failures_control, hc, control]
      simp [hfs, failure?]
    refine .everyone is ?_ (by rw [he, engine]; rfl) (.failed (Or.inr ⟨_, _, rfl⟩) htold)
    rw [← replies_control, hc, control]
    simp [hxs, hw, reply?]

/-- A handshake answers nobody, unless it cannot be written and that is the last loss. -/
theorem attends_sendHandshake {e' : Engine} {o : Outcome} (is : e.caller? input = none)
    (h : e'.Sound) (hr : e'.receiver.isSome) (hp : e'.phase ≠ .established)
    (hw : e'.waiting = e.waiting) (he : o.engine = (e'.sendHandshake s).engine)
    (hc : o.control = (e'.sendHandshake s).control) : Attends input e o := by
  cases h.offered s hr hp with
  | waits engine control =>
    refine .nobody ?_ ?_
    · rw [← replies_control, hc, control]; simp [reply?]
    · rw [he, engine, is, ← hw]; exact (List.append_nil _).symm
  | unsent lost engine control =>
    refine attends_lost _ is lost hw (he.trans engine) (hc.trans control) ?_ ?_
    · simp [reply?]
    · simp [failure?]

/-- **What one step does for those who wait.** -/
theorem step_attends (s : Surroundings) (input : Input) (h : e.Sound) :
    Attends input e (e.step s input) := by
  have hstep := step_stepped s input e
  have hcaller := caller?_turn s.now input e
  generalize e.turn s.now input = t at hstep hcaller
  cases hstep with
  | passing _ passes =>
    obtain ⟨⟨_, _, _, he⟩, hc⟩ := passes
    refine .nobody ?_ ?_
    · rw [← replies_control, hc]; rfl
    · rw [he, ← hcaller]; exact (List.append_nil _).symm
  | greet _ phase engine control =>
    refine .newcomer hcaller.symm phase engine ?_
    rw [← replies_control, control]; rfl
  | join _ _ engine control | depart _ _ engine control =>
    refine .nobody ?_ ?_
    · rw [← replies_control, control]; rfl
    · rw [engine, ← hcaller]; rfl
  | leave is engine control =>
    -- whether the client was connected makes no difference to those who wait
    obtain ⟨_, he⟩ := engine
    refine .everyone hcaller.symm ?_ (by rw [he]) (.abandoned is)
    rw [← replies_control, control]; simp [reply?]
  | attach _ _ engine control | alarm _ _ engine control =>
    refine .nobody ?_ ?_
    · rw [← replies_control, control]; rfl
    · rw [engine, ← hcaller]; exact (List.append_nil _).symm
  | redial _ _ engine control =>
    refine .nobody ?_ ?_
    · rw [← replies_control, control]; simp [reply?]
    · rw [engine, ← hcaller]; exact (List.append_nil _).symm
  | offer _ receiver phase engine control =>
    exact attends_sendHandshake hcaller.symm h receiver (by rw [phase]; simp) rfl engine control
  | fallBack _ _ receiver phase _ engine control =>
    have hne : e.phase ≠ .established := by rw [phase]; simp
    exact attends_sendHandshake hcaller.symm (h.fallenBack hne) receiver hne rfl engine control
  | accept _ _ _ _ engine control =>
    refine .everyone hcaller.symm ?_ (by rw [engine]; rfl) (.granted (by rw [engine]; rfl))
    rw [← replies_control, control]; simp [reply?]
  | @refuse _ reject _ _ _ _ _ _ engine control =>
    have htold : seen failure? (e.step s input).effects = [.protocolRejection reject.reason] := by
      rw [← failures_control, control]; simp [failure?]
    refine .everyone hcaller.symm ?_ (by rw [engine]) (.failed (Or.inl ⟨_, rfl⟩) htold)
    rw [← replies_control, control]; simp [reply?]
  | lose live engine control =>
    exact attends_lost [] hcaller.symm (h.timed.lost (h.wired.expected live) s.now _) rfl
      engine control rfl rfl

/-! ## Who waits, and when -/

/-- Callers wait only while an attempt is in flight or scheduled. -/
def Attending (e : Engine) : Prop := e.waiting ≠ [] → e.phase.isConnecting

theorem Attending.waiting_eq_nil (h : e.Attending) (hp : e.phase.isConnecting = false) :
    e.waiting = [] := by
  refine Classical.byContradiction fun hw => ?_
  exact absurd (hp.symm.trans (h hw)) Bool.false_ne_true

theorem attending_of_nil (hw : e.waiting = []) : e.Attending := fun h => absurd hw h

theorem attending_lost {now : Nat} {cause : String} {o : Outcome} (hl : Lost now cause e o) :
    o.engine.Attending := by
  cases hl with
  | retry _ engine _ => rw [engine]; exact fun _ => rfl
  | giveUp _ engine _ => rw [engine]; exact attending_of_nil rfl

/-- A handshake leaves nobody waiting without an attempt. -/
theorem attending_sendHandshake (h : e.Sound) (hr : e.receiver.isSome)
    (hp : e.phase ≠ .established) : Attending (e.sendHandshake s).engine := by
  cases h.offered s hr hp with
  | waits engine _ => rw [engine]; exact fun _ => rfl
  | unsent lost engine _ => rw [engine]; exact attending_lost lost

/-- Whatever ends an attempt leaves nobody behind. -/
theorem attending_step (s : Surroundings) (input : Input) (h : e.Sound) (ha : e.Attending) :
    Attending (e.step s input).engine := by
  have hstep := step_stepped s input e
  generalize e.turn s.now input = t at hstep
  cases hstep with
  | passing _ passes => obtain ⟨⟨_, _, _, he⟩, _⟩ := passes; rw [he]; exact ha
  | greet _ _ engine _ | attach _ _ engine _ | alarm _ _ engine _ => rw [engine]; exact ha
  | join _ phase engine _ => rw [engine]; exact fun _ => phase
  | depart _ _ engine _ | redial _ _ engine _ => rw [engine]; exact fun _ => rfl
  | leave _ engine _ => obtain ⟨_, he⟩ := engine; rw [he]; exact attending_of_nil rfl
  | offer _ receiver phase engine _ =>
    rw [engine]; exact attending_sendHandshake h receiver (by rw [phase]; simp)
  | fallBack _ _ receiver phase _ engine _ =>
    have hne : e.phase ≠ .established := by rw [phase]; simp
    rw [engine]; exact attending_sendHandshake (h.fallenBack hne) receiver hne
  | accept _ _ _ _ engine _ | refuse _ _ _ _ _ engine _ =>
    rw [engine]; exact attending_of_nil rfl
  | lose live engine _ =>
    rw [engine]; exact attending_lost (h.timed.lost (h.wired.expected live) s.now _)

/-- After every history callers wait for an attempt only. -/
theorem attending_run (history : History) (h : e.Sound) (ha : e.Attending) :
    Attending (run history e).engine := by
  induction history generalizing e with
  | nil => exact ha
  | cons head rest ih =>
    obtain ⟨s, input⟩ := head
    exact ih (sound_step s input h) (attending_step s input h ha)

/-! ## Everyone is answered once -/

@[simp] theorem replied_andThen (o : Outcome) (f : Engine → Outcome) :
    (o.andThen f).replied = o.replied ++ (f o.engine).replied := by
  show (seen reply? (o.effects ++ (f o.engine).effects)).map Prod.fst = _
  rw [Effect.seen_append, List.map_append]; rfl

/-- A step answers the first of those who waited, or asked, and leaves the others waiting. -/
theorem replied_step (s : Surroundings) (input : Input) (h : e.Sound) (ha : e.Attending) :
    (e.step s input).replied ++ (e.step s input).engine.waiting =
      e.waiting ++ (e.caller? input).toList := by
  unfold Outcome.replied
  cases step_attends s input h with
  | nobody replies waiting => rw [replies, waiting]; rfl
  | newcomer is phase engine replies =>
    -- nobody can be waiting in an established session
    have hnil : e.waiting = [] := ha.waiting_eq_nil (by rw [phase]; rfl)
    rw [replies, engine, hnil, is]; rfl
  | everyone is replies waiting _ =>
    rw [replies, waiting, is, List.map_map]
    exact congrArg (· ++ []) (List.map_id e.waiting)

/-- **Nobody is answered twice, and nobody is forgotten**: those who were answered, followed by those
    who wait, are those who asked, in order. -/
theorem replied_append_waiting (history : History) (h : e.Sound) (ha : e.Attending) :
    (run history e).replied ++ (run history e).engine.waiting = e.waiting ++ asked history e := by
  induction history generalizing e with
  | nil => exact (List.append_nil _).symm
  | cons head rest ih =>
    obtain ⟨s, input⟩ := head
    have hrest := ih (sound_step s input h) (attending_step s input h ha)
    calc (run ((s, input) :: rest) e).replied ++ (run ((s, input) :: rest) e).engine.waiting
        = (e.step s input).replied ++ ((run rest (e.step s input).engine).replied ++
            (run rest (e.step s input).engine).engine.waiting) := by
          rw [run, replied_andThen, Outcome.engine_andThen, List.append_assoc]
      _ = ((e.step s input).replied ++ (e.step s input).engine.waiting) ++
            asked rest (e.step s input).engine := by rw [hrest, List.append_assoc]
      _ = e.waiting ++ asked ((s, input) :: rest) e := by
          rw [replied_step s input h ha, List.append_assoc]; rfl

/-! ## Callers who find an attempt or a session -/

/-- A caller who finds an attempt or a session asks for no other: the engine is the same but for those
    who wait. -/
theorem connect_of_busy (s : Surroundings) (caller : Nat)
    (hp : e.phase.isConnecting ∨ e.phase = .established) :
    seen request? (e.step s (.command (.connect caller))).effects = [] ∧
      ∃ waiting, (e.step s (.command (.connect caller))).engine = { e with waiting } := by
  by_cases hrun : e.running
  · have hstep := step_stepped s (.command (.connect caller)) e
    have hturn : e.turn s.now (.command (.connect caller)) = e.connectTurn caller := if_pos hrun
    rw [hturn] at hstep
    rw [← requests_control]
    unfold connectTurn at hstep
    split at hstep
    · cases hstep with
      | greet _ _ engine control => exact ⟨by rw [control]; rfl, e.waiting, engine⟩
    · split at hstep
      · cases hstep with
        | join _ _ engine control => exact ⟨by rw [control]; rfl, _, engine⟩
      · rw [← Phase.isEstablished_iff] at hp
        exact absurd hp (not_or.mpr ⟨‹_›, ‹_›⟩)
  · have hidle : e.step s (.command (.connect caller)) = e.idle := if_neg hrun
    rw [hidle]
    exact ⟨rfl, e.waiting, rfl⟩

/-- How callers of connect fare over a history of a new client. -/
structure Answered (history : History) (start : Engine) : Prop where
  /-- Those who were answered, followed by those who wait, are those who asked, in order. -/
  inOrder : (run history start).replied ++ (run history start).engine.waiting = asked history start
  /-- If every caller asks once, nobody is answered twice, and to wait is to have no answer. -/
  once : (asked history start).Nodup → (run history start).replied.Nodup ∧
    ∀ caller ∈ asked history start,
      caller ∈ (run history start).engine.waiting ↔ caller ∉ (run history start).replied
  /-- Callers wait only while an attempt is in flight or scheduled. -/
  connecting : (run history start).engine.waiting ≠ [] →
    (run history start).engine.phase.isConnecting
  /-- A step that ends the attempt answers everyone. -/
  ended : ∀ s input, (run history start).engine.phase.isConnecting →
    ¬((run history start).engine.step s input).engine.phase.isConnecting →
    ((run history start).engine.step s input).replied = (run history start).engine.waiting
  /-- An answer is true, and goes to one who waited or who finds a session. -/
  truthful : ∀ s input caller answer,
    (caller, answer) ∈ seen reply? ((run history start).engine.step s input).effects →
    Truthful input ((run history start).engine.step s input) answer ∧
      (caller ∈ (run history start).engine.waiting ∨ answer = .ok () ∧
        (run history start).engine.phase = .established ∧
        (run history start).engine.caller? input = some caller)
  /-- A caller who finds an attempt or a session starts nothing. -/
  joined : ∀ s caller, (run history start).engine.phase.isConnecting ∨
      (run history start).engine.phase = .established →
    seen request? ((run history start).engine.step s (.command (.connect caller))).effects = [] ∧
      ∃ waiting, ((run history start).engine.step s (.command (.connect caller))).engine =
        { (run history start).engine with waiting }

/-- A step that ends an attempt answers those who wait. -/
theorem replied_of_ended (s : Surroundings) (input : Input) (h : e.Sound) (ha : e.Attending)
    (hp : e.phase.isConnecting) (hend : ¬(e.step s input).engine.phase.isConnecting) :
    (e.step s input).replied = e.waiting := by
  have hstep := replied_step s input h ha
  have hnil := (attending_step s input h ha).waiting_eq_nil (eq_false_of_ne_true hend)
  have hnone : e.caller? input = none := by
    cases hc : e.caller? input with
    | none => rfl
    | some caller =>
      -- a caller who comes during an attempt does not end it
      refine absurd ?_ hend
      cases input with
      | command c =>
        cases c with
        | connect c =>
          obtain ⟨_, _, he⟩ := connect_of_busy s c (Or.inl hp)
          rw [he]; exact hp
        | disconnect _ | send _ | snapshot _ => exact absurd hc (by simp [caller?])
      | shutdown | dialed _ | signal _ | detached | tick _ | reconnect =>
        exact absurd hc (by simp [caller?])
  rw [hnil, hnone, List.append_nil] at hstep
  exact hstep.trans (List.append_nil _)

/-- Every answer is true of the engine that the step leaves, and goes to somebody who asked. -/
theorem truthful_reply (s : Surroundings) {caller : Nat} {answer : Except Error Unit} (h : e.Sound)
    (hmem : (caller, answer) ∈ seen reply? (e.step s input).effects) :
    Truthful input (e.step s input) answer ∧ (caller ∈ e.waiting ∨
      answer = .ok () ∧ e.phase = .established ∧ e.caller? input = some caller) := by
  cases step_attends s input h with
  | nobody replies _ => rw [replies] at hmem; exact absurd hmem List.not_mem_nil
  | newcomer is phase engine replies =>
    rw [replies] at hmem
    obtain ⟨rfl, rfl⟩ := Prod.mk.inj (List.mem_singleton.mp hmem)
    exact ⟨.granted (by rw [engine]; exact phase), Or.inr ⟨rfl, phase, is⟩⟩
  | everyone is replies _ truthful =>
    rw [replies] at hmem
    obtain ⟨_, hw, heq⟩ := List.mem_map.mp hmem
    obtain ⟨rfl, rfl⟩ := Prod.mk.inj heq
    exact ⟨truthful, Or.inl hw⟩

/-- **Every caller of connect is answered exactly once, and truthfully**: whatever the configuration,
    the persisted thread and the history of a client. -/
theorem answered_run (config : Config) (thread : Option String) (history : History) :
    Answered history (create config thread) := by
  have hcreate := sound_create config thread
  have hnobody : (create config thread).Attending := attending_of_nil rfl
  have h := sound_run history hcreate
  have ha := attending_run history hcreate hnobody
  have horder := replied_append_waiting history hcreate hnobody
  rw [show (create config thread).waiting = [] from rfl, List.nil_append] at horder
  refine ⟨horder, fun hn => ?_, ha, fun s input hp hend => replied_of_ended s input h ha hp hend,
    fun s input caller answer hmem => truthful_reply s h hmem,
    fun s caller hp => connect_of_busy s caller hp⟩
  rw [← horder] at hn ⊢
  obtain ⟨honce, _, hdisjoint⟩ := List.nodup_append.mp hn
  refine ⟨honce, fun caller hmem => ⟨fun hw hr => hdisjoint _ hr _ hw rfl, fun hr => ?_⟩⟩
  exact (List.mem_append.mp hmem).resolve_left hr

end Engine
end Tether
