import Mathlib.Data.List.Chain
import Tether.Proofs.Engine.Offers

/-!
# `Tether.Proofs.Engine.Phases` — the graph of phases

A client publishes every change of its phase. `Phase.leadsTo` is the table of the changes there are; a
step may publish several in a row, so a step is a *path* through the table, and so is a history. The
numbers of scheduled attempts make a path of their own: each is one more than the one before, or one.

* `Advances` — a path through the table, together with the numbers met on the way;
* `advances_step`, `advances_run` — what a step, and a history, publish;
* `Charted` — the phases of a client over every history, and what its session takes: an ack, on the
  connection that the handshake went out on, while it waits for its answer.
-/

namespace Tether

/-- From `a` by `R` through all of a list, whose last is `b`. -/
inductive Path {α : Type} (R : α → α → Prop) : α → List α → α → Prop where
  | nil {a : α} : Path R a [] a
  | cons {a b c : α} {xs : List α} (first : R a b) (rest : Path R b xs c) : Path R a (b :: xs) c

namespace Path

variable {α : Type} {R : α → α → Prop} {a b c : α} {xs ys : List α}

theorem single (h : R a b) : Path R a [b] b := .cons h .nil

/-- A path goes on where another one ends. -/
theorem append (h : Path R a xs b) (h' : Path R b ys c) : Path R a (xs ++ ys) c := by
  induction h with
  | nil => exact h'
  | cons first _ ih => exact .cons first (ih h')

/-- Neighbours on a path are related. -/
theorem isChain (h : Path R a xs b) : (a :: xs).IsChain R := by
  induction h with
  | nil => exact .singleton _
  | cons first _ ih => exact List.isChain_cons_cons.mpr ⟨first, ih⟩

/-- A path ends where it is said to. -/
theorem getLast? (h : Path R a xs b) : (a :: xs).getLast? = some b := by
  induction h with
  | nil => rfl
  | cons _ _ ih => rw [List.getLast?_cons_cons]; exact ih

end Path

namespace Phase

/-- The number of the attempt that is scheduled. -/
def number? : Phase → Option UInt32
  | .reconnecting n => some n
  | _ => none

/-- The numbers of scheduled attempts, in order. -/
def numbers (ps : List Phase) : List UInt32 := ps.filterMap number?

/-- May the one phase change into the other, for the greatest number of attempts? -/
def leadsTo (limit : UInt32) : Phase → Phase → Bool
  | .disconnected, .connecting => true
  | .permanentlyFailed, .connecting | .permanentlyFailed, .disconnected => true
  | .connecting, .awaiting _ | .connecting, .reconnecting _ | .connecting, .permanentlyFailed
  | .connecting, .disconnected => true
  | .awaiting .resume, .awaiting .fresh => true
  | .awaiting _, .established | .awaiting _, .reconnecting _ | .awaiting _, .permanentlyFailed
  | .awaiting _, .disconnected => true
  | .established, .reconnecting n => n = 1
  | .established, .permanentlyFailed => limit = 0
  | .established, .disconnected => true
  | .reconnecting _, .connecting | .reconnecting _, .disconnected => true
  | _, _ => false

/-- Every phase but the one itself leads to disconnecting. -/
theorem leadsTo_disconnected (limit : UInt32) {p : Phase} (h : p ≠ .disconnected) :
    p.leadsTo limit .disconnected := by
  cases p with
  | disconnected => exact absurd rfl h
  | awaiting kind => cases kind <;> rfl
  | connecting | established | reconnecting _ | permanentlyFailed => rfl

/-- Either handshake may be answered by a session. -/
theorem leadsTo_established (limit : UInt32) (kind : Offer) :
    (Phase.awaiting kind).leadsTo limit .established := by
  cases kind <;> rfl

/-- A loss leads to an attempt: to the first one, if a session was lost. -/
theorem leadsTo_reconnecting (limit : UInt32) {p : Phase} {n : UInt32} (h : p.reconnectsOnLoss)
    (hn : p = .established → n = 1) : p.leadsTo limit (.reconnecting n) := by
  cases p with
  | connecting => rfl
  | awaiting kind => cases kind <;> rfl
  | established => exact decide_eq_true (hn rfl)
  | disconnected | reconnecting _ | permanentlyFailed => exact absurd h Bool.false_ne_true

/-- A loss leads to permanent failure: at once, if a session was lost and no attempt is allowed. -/
theorem leadsTo_permanentlyFailed {limit : UInt32} {p : Phase} (h : p.reconnectsOnLoss)
    (hl : p = .established → limit = 0) : p.leadsTo limit .permanentlyFailed := by
  cases p with
  | connecting => rfl
  | awaiting kind => cases kind <;> rfl
  | established => exact decide_eq_true (hl rfl)
  | disconnected | reconnecting _ | permanentlyFailed => exact absurd h Bool.false_ne_true

/-- A scheduled attempt begins or is called off. -/
theorem eq_of_reconnecting {limit n : UInt32} {p : Phase}
    (h : (Phase.reconnecting n).leadsTo limit p) : p = .connecting ∨ p = .disconnected := by
  cases p with
  | connecting => exact Or.inl rfl
  | disconnected => exact Or.inr rfl
  | awaiting _ | established | reconnecting _ | permanentlyFailed =>
    exact absurd h Bool.false_ne_true

end Phase

namespace Effect

/-- The phase that is published. -/
def phase? : Effect → Option Phase
  | .phase p => some p
  | _ => none

end Effect

namespace Milestone

/-- The connection at hand, after one milestone more. -/
def carries (n : Option Nat) : Milestone → Option Nat
  | .attached receiver => some receiver
  | .offered _ _ | .granted _ | .refused _ => n

/-- The connection that was handed over last. -/
def connection (ms : List Milestone) : Option Nat := ms.foldl carries none

@[simp] theorem connection_concat (ms : List Milestone) (m : Milestone) :
    connection (ms ++ [m]) = carries (connection ms) m := by
  simp [connection]

theorem connection_append {ms talk : List Milestone} (h : ∀ n, .attached n ∉ talk) :
    connection (ms ++ talk) = connection ms := by
  induction talk using List.reverseRecOn with
  | nil => rw [List.append_nil]
  | append_singleton talk m ih =>
    have hm : ∀ n, m ≠ .attached n := by rintro n rfl; exact h n (by simp)
    rw [← List.append_assoc, connection_concat, ← ih fun n hn => h n (List.mem_append_left _ hn)]
    cases m with
    | attached n => exact absurd rfl (hm n)
    | offered _ _ | granted _ | refused _ => rfl

/-- The connection at hand was handed over, and none after it. -/
theorem connection_eq_some {ms : List Milestone} {n : Nat} (h : connection ms = some n) :
    ∃ before talk, ms = before ++ .attached n :: talk ∧ ∀ m, .attached m ∉ talk := by
  induction ms using List.reverseRecOn with
  | nil => cases h
  | append_singleton ms m ih =>
    rw [connection_concat] at h
    cases m with
    | attached receiver =>
      obtain rfl := Option.some.inj h
      exact ⟨ms, [], rfl, fun _ hm => absurd hm List.not_mem_nil⟩
    | offered _ _ | granted _ | refused _ =>
      obtain ⟨before, talk, rfl, htalk⟩ := ih h
      refine ⟨before, talk ++ [_], by rw [List.append_assoc]; rfl, fun m hm => ?_⟩
      rcases List.mem_append.mp hm with hm | hm
      · exact htalk m hm
      · cases List.mem_singleton.mp hm

end Milestone

namespace Engine

open Effect (seen phase?)
open Milestone (connection)
open Tether.Phase (numbers leadsTo)

variable {e : Engine} {s : Surroundings} {input : Input}

/-! ## What is published -/

theorem phases_control (o : Outcome) : seen phase? o.control = seen phase? o.effects := by
  refine seen_control (fun x hx => ?_) o
  cases x with
  | phase _ => exact absurd hx (by simp [Effect.isControl])
  | _ => rfl

theorem phases_announcement (e : Engine) (p : Phase) :
    seen phase? (e.announcement p) = if e.phase = p then [] else [p] := by
  unfold announcement
  split <;> rfl

@[simp] theorem phases_farewell (e : Engine) : seen phase? e.farewell = [] := seen_farewell e rfl

@[simp] theorem phases_answers (e : Engine) (answer : Except Error Unit) :
    seen phase? (e.answers answer) = [] := seen_answers e fun _ => rfl

/-- Entering a phase is at most one change. -/
theorem path_announcement (e : Engine) {limit : UInt32} {p : Phase}
    (h : e.phase ≠ p → e.phase.leadsTo limit p) :
    Path (leadsTo limit · ·) e.phase (seen phase? (e.announcement p)) p := by
  rw [phases_announcement]
  split
  · rename_i hp; rw [hp]; exact .nil
  · rename_i hp; exact .single (h hp)

/-! ## Advancing -/

/-- The number of an attempt, after that of the attempt before it (zero if there was none). -/
def Succeeds (n m : UInt32) : Prop := m.toNat = n.toNat + 1 ∨ m = 1

/-- The count of attempts goes on from a number, or begins anew. -/
def Numbered (n : UInt32) (e : Engine) : Prop := e.backoff.attempts = 0 ∨ e.backoff.attempts = n

/-- In a session no attempt counts. -/
def Rested (e : Engine) : Prop := e.phase = .established → e.backoff.attempts = 0

/-- From one state to another by publishing phases. -/
structure Advances (e : Engine) (ps : List Phase) (e' : Engine) : Prop where
  route : Path (leadsTo e.config.reconnect.maxRetries · ·) e.phase ps e'.phase
  numbered : ∀ n, e.Numbered n → ∃ m, Path Succeeds n (numbers ps) m ∧ e'.Numbered m
  rested : e'.Rested

namespace Advances

variable {e' e'' : Engine} {ps qs : List Phase}

/-- Phases without numbers leave the count as it is, or begin it anew. -/
theorem of_route (route : Path (leadsTo e.config.reconnect.maxRetries · ·) e.phase ps e'.phase)
    (hps : numbers ps = []) (hb : e'.backoff.attempts = 0 ∨ e'.backoff.attempts = e.backoff.attempts)
    (hr : e'.Rested) : Advances e ps e' := by
  refine ⟨route, fun n hn => ⟨n, hps ▸ .nil, ?_⟩, hr⟩
  rcases hb with hb | hb
  · exact Or.inl hb
  · rw [Numbered, hb]; exact hn

/-- Nothing is published, and nothing that counts changes. -/
theorem still (hr : e.Rested) (hp : e'.phase = e.phase)
    (hb : e'.backoff.attempts = e.backoff.attempts) : Advances e [] e' := by
  refine .of_route (hp ▸ .nil) rfl (Or.inr hb) fun hest => ?_
  rw [hb]; exact hr (hp ▸ hest)

/-- One advance after the other is an advance. -/
theorem trans (h : Advances e ps e') (hc : e'.config = e.config) (h' : Advances e' qs e'') :
    Advances e (ps ++ qs) e'' := by
  refine ⟨h.route.append (hc ▸ h'.route), fun n hn => ?_, h'.rested⟩
  obtain ⟨m, hpath, hm⟩ := h.numbered n hn
  obtain ⟨m', hpath', hm'⟩ := h'.numbered m hm
  refine ⟨m', ?_, hm'⟩
  rw [numbers, List.filterMap_append]
  exact hpath.append hpath'

end Advances

/-- The number of the attempt that follows a loss. -/
theorem succeeds_attempts {n : UInt32} (hn : e.Numbered n)
    (hlt : e.backoff.attempts < e.backoff.config.maxRetries) :
    Succeeds n (e.backoff.attempts + 1) := by
  rcases hn with hn | hn
  · exact Or.inr (by rw [hn]; rfl)
  · rw [← hn]; exact Or.inl (Backoff.toNat_attempts_add_one hlt)

/-- A loss publishes the next attempt, or the end of trying. -/
theorem advances_lost {now : Nat} {cause : String} {o : Outcome} (ht : e.Timed) (hr : e.Rested)
    (hp : e.phase.reconnectsOnLoss) (hl : Lost now cause e o) :
    Advances e (seen phase? o.control) o.engine := by
  cases hl with
  | retry left engine control =>
    have hlt : e.backoff.attempts < e.backoff.config.maxRetries := ht.config ▸ left
    have hps : seen phase? o.control = [.reconnecting (e.backoff.attempts + 1)] := by
      rw [control]; simp [phase?]
    have hattempts : o.engine.backoff.attempts = e.backoff.attempts + 1 := by
      rw [engine]
      show e.backoff.schedule.1.attempts = _
      rw [Backoff.schedule_of_lt (ht.not_pending hp) hlt]
    rw [hps]
    refine ⟨?_, fun n hn => ⟨_, .single (succeeds_attempts hn hlt), Or.inr hattempts⟩, ?_⟩
    · rw [engine]
      exact .single (Phase.leadsTo_reconnecting _ hp fun hest => by rw [hr hest]; rfl)
    · intro hest; rw [engine] at hest; cases hest
  | giveUp none engine control =>
    have hps : seen phase? o.control = [.permanentlyFailed] := by rw [control]; simp [phase?]
    rw [hps, engine]
    refine .of_route (.single (Phase.leadsTo_permanentlyFailed hp fun hest => ?_)) rfl (Or.inl rfl)
      fun hest => absurd hest (by simp [exhausted])
    rw [← none]; exact hr hest

/-- A handshake publishes its kind, and what follows if it cannot be written. -/
theorem advances_sendHandshake (h : e.Sound) (hr : e.receiver.isSome) (hp : e.phase ≠ .established)
    (hedge : e.phase ≠ .awaiting (e.offering s).1 →
      e.phase.leadsTo e.config.reconnect.maxRetries (.awaiting (e.offering s).1)) :
    Advances e (seen phase? (e.sendHandshake s).control) (e.sendHandshake s).engine := by
  have hwaits : Advances e (seen phase? (e.announcement (.awaiting (e.offering s).1)))
      (e.awaitingAnswer s) := by
    refine .of_route (path_announcement e hedge) ?_ (Or.inr rfl) fun hest => ?_
    · rw [phases_announcement]; split <;> rfl
    · exact absurd hest (by simp [Engine.awaitingAnswer])
  cases h.offered s hr hp with
  | waits engine control =>
    rw [control, engine]
    simpa [phase?] using hwaits
  | unsent lost engine control =>
    have hlost := advances_lost (h.awaitingAnswer hr hp).timed hwaits.rested rfl lost
    rw [control, engine]
    simpa [phase?] using hwaits.trans rfl hlost

/-- **One step publishes a path through the table.** -/
theorem advances_step (s : Surroundings) (input : Input) (h : e.Sound) (hr : e.Rested) :
    Advances e (seen phase? (e.step s input).effects) (e.step s input).engine := by
  have hstep := step_stepped s input e
  generalize e.turn s.now input = t at hstep
  rw [← phases_control]
  cases hstep with
  | passing _ passes =>
    obtain ⟨⟨_, _, _, he⟩, hc⟩ := passes
    rw [hc, he]; exact .still hr rfl rfl
  | greet _ _ engine control | join _ _ engine control | attach _ _ engine control
  | alarm _ _ engine control => rw [control, engine]; exact .still hr rfl rfl
  | depart _ phase engine control =>
    rw [control, engine]
    refine .of_route (.single ?_) rfl (Or.inl rfl) fun hest => absurd hest (by simp [departed])
    rcases phase with hp | hp <;> rw [hp] <;> rfl
  | leave _ engine control =>
    obtain ⟨_, he⟩ := engine
    have hps : seen phase? (e.step s input).control = seen phase? (e.announcement .disconnected) := by
      rw [control]; simp [phase?]
    rw [hps, he]
    refine .of_route (path_announcement e (Phase.leadsTo_disconnected _)) ?_ (Or.inl rfl)
      fun hest => absurd hest (by simp)
    rw [phases_announcement]; split <;> rfl
  | offer _ receiver phase engine control =>
    rw [control, engine]
    exact advances_sendHandshake h receiver (by rw [phase]; simp) fun _ => by rw [phase]; rfl
  | accept _ _ _ phase engine control =>
    have hps : seen phase? (e.step s input).control = [.established] := by
      rw [control]; simp [phase?]
    rw [hps, engine]
    exact .of_route (.single (phase ▸ Phase.leadsTo_established _ _)) rfl (Or.inl rfl) fun _ => rfl
  | fallBack _ _ receiver phase _ engine control =>
    -- without a thread the second handshake is a fresh one
    have hne : e.phase ≠ .established := by rw [phase]; simp
    rw [control, engine]
    have hfresh : Advances e.fallenBack _ _ :=
      advances_sendHandshake (s := s) (h.fallenBack hne) receiver hne fun _ => by
        show e.phase.leadsTo _ (.awaiting .fresh)
        rw [phase]; rfl
    exact ⟨hfresh.route, hfresh.numbered, hfresh.rested⟩
  | refuse _ _ _ phase _ engine control =>
    have hps : seen phase? (e.step s input).control = [.permanentlyFailed] := by
      rw [control]; simp [phase?]
    rw [hps, engine]
    refine .of_route (.single ?_) rfl (Or.inl rfl) fun hest => absurd hest (by simp)
    exact Phase.leadsTo_permanentlyFailed (by rw [phase]; rfl) (by rw [phase]; simp)
  | lose live engine control =>
    have hp := h.wired.expected live
    rw [control, engine]
    exact advances_lost h.timed hr hp (h.timed.lost hp s.now _)
  | redial _ due engine control =>
    obtain ⟨n, hn⟩ := h.timed.reconnecting_of_due due
    have hps : seen phase? (e.step s input).control = [.connecting] := by
      rw [control, announcement_of_ne (by rw [hn]; simp)]; simp [phase?]
    rw [hps, engine]
    exact .of_route (.single (by rw [hn]; rfl)) rfl (Or.inr rfl) fun hest => absurd hest (by simp)

/-- **Every history publishes a path through the table.** -/
theorem advances_run (history : History) (h : e.Sound) (hr : e.Rested) :
    Advances e (seen phase? (run history e).effects) (run history e).engine := by
  induction history generalizing e with
  | nil => exact .still hr rfl rfl
  | cons head rest ih =>
    obtain ⟨s, input⟩ := head
    have hstep := advances_step s input h hr
    rw [run, Outcome.andThen, Effect.seen_append]
    exact hstep.trans (config_step s input h) (ih (sound_step s input h) hstep.rested)

/-! ## The connection of a session -/

/-- The connection that a client holds is the one handed over last. -/
def Carried (ms : List Milestone) (e : Engine) : Prop :=
  ∀ n, e.receiver = some n → connection ms = some n

/-- Only the transport's answer hands over a connection. -/
theorem turn_of_attached {n : Nat} (h : .attached n ∈ e.milestones s input) :
    e.turn s.now input = .attach n := by
  rcases List.mem_append.mp h with hm | hm
  · rw [← milestone?_turn s.now] at hm
    generalize e.turn s.now input = t at hm
    cases t with
    | attach receiver =>
      cases List.mem_singleton.mp hm; rfl
    | fallBack _ | refuse _ =>
      obtain ⟨_, _, hm⟩ := Option.map_eq_some_iff.mp (Option.mem_toList.mp hm)
      cases hm
    | _ => exact absurd hm List.not_mem_nil
  · -- effects are handshakes and sessions at most
    obtain ⟨x, _, hx⟩ := List.mem_filterMap.mp hm
    unfold Effect.milestone? at hx
    split at hx <;> cases hx

/-- An answer of the transport that hands over nothing passes. -/
theorem passing_of_dialed {now n : Nat} (hi : input = .dialed (.ok n))
    (h : ¬∃ m, e.turn now input = .attach m) : e.turn now input = .passing := by
  subst hi
  have heq : e.turn now (.dialed (.ok n)) =
      if e.running then if e.dialing then .attach n else .passing else .passing := rfl
  rw [heq] at h ⊢
  split
  · rw [if_pos ‹_›] at h
    exact if_neg fun hd => h ⟨n, if_pos hd⟩
  · rfl

/-- **One step keeps the connection.** -/
theorem carried_step {ms : List Milestone} (s : Surroundings) (input : Input) (h : e.Sound)
    (hc : e.Carried ms) : Carried (ms ++ e.milestones s input) (e.step s input).engine := by
  intro n hn
  have hstep := step_stepped s input e
  by_cases hattach : ∃ m, e.turn s.now input = .attach m
  · obtain ⟨m, ht⟩ := hattach
    rw [ht] at hstep
    cases hstep with
    | attach _ _ engine control =>
      rw [engine] at hn
      rw [milestones_eq ht control, ← hn]
      exact Milestone.connection_concat ms (.attached m)
  · -- no other turn hands one over, so the client held it before
    rw [Milestone.connection_append fun m hm => hattach ⟨m, turn_of_attached hm⟩]
    refine hc n ?_
    cases step_held s input h with
    | kept receiver => rw [← receiver]; exact hn
    | lost receiver _ | left _ receiver => rw [receiver] at hn; cases hn
    | handed is _ =>
      rw [passing_of_dialed is hattach] at hstep
      cases hstep with
      | passing _ passes => obtain ⟨⟨_, _, _, he⟩, _⟩ := passes; rw [he] at hn; exact hn

/-- **Every history keeps the connection.** -/
theorem carried_run {ms : List Milestone} (history : History) (h : e.Sound) (hc : e.Carried ms) :
    Carried (ms ++ chronicle history e) (run history e).engine := by
  induction history generalizing e ms with
  | nil => rw [chronicle, List.append_nil]; exact hc
  | cons head rest ih =>
    obtain ⟨s, input⟩ := head
    rw [chronicle, ← List.append_assoc]
    exact ih (sound_step s input h) (carried_step s input h hc)

/-! ## Entering a session -/

/-- What follows a loss is no session. -/
theorem not_established_lost {now : Nat} {cause : String} {o : Outcome} (hl : Lost now cause e o) :
    .established ∉ seen phase? o.control := by
  cases hl with
  | retry _ _ control | giveUp _ _ control => rw [control]; simp [phase?]

/-- No handshake that is offered establishes a session by itself. -/
theorem not_established_offered (h : e.Sound) (hr : e.receiver.isSome) (hp : e.phase ≠ .established) :
    .established ∉ seen phase? (e.sendHandshake s).control := by
  have hkind : .established ∉ seen phase? (e.announcement (.awaiting (e.offering s).1)) := by
    rw [phases_announcement]; split <;> simp
  cases h.offered s hr hp with
  | waits _ control => rw [control]; simpa [phase?] using hkind
  | unsent lost _ control =>
    have hlost := not_established_lost lost
    rw [control]
    simpa [phase?] using ⟨hkind, hlost⟩

/-- **Only an ack establishes a session.** -/
theorem turn_of_established (h : e.Sound)
    (hest : .established ∈ seen phase? (e.step s input).effects) :
    ∃ ack, e.turn s.now input = .accept ack := by
  have hstep := step_stepped s input e
  generalize e.turn s.now input = t at hstep ⊢
  rw [← phases_control] at hest
  cases hstep with
  | accept => exact ⟨_, rfl⟩
  | passing _ passes => rw [passes.control] at hest; exact absurd hest List.not_mem_nil
  | leave _ _ control =>
    rw [control] at hest
    simp [phase?, phases_announcement] at hest
  | offer _ receiver phase _ control =>
    rw [control] at hest
    exact absurd hest (not_established_offered h receiver (by rw [phase]; simp))
  | fallBack _ _ receiver phase _ _ control =>
    have hne : e.phase ≠ .established := by rw [phase]; simp
    rw [control] at hest
    exact absurd hest (not_established_offered (h.fallenBack hne) receiver hne)
  | lose live _ control =>
    rw [control] at hest
    exact absurd hest (not_established_lost (h.timed.lost (h.wired.expected live) s.now _))
  | redial _ _ _ control =>
    rw [control] at hest
    simp [phase?, phases_announcement] at hest
  | greet _ _ _ control | join _ _ _ control | depart _ _ _ control | attach _ _ _ control
  | refuse _ _ _ _ _ _ control | alarm _ _ _ control =>
    rw [control] at hest
    simp [phase?] at hest

/-- An ack that no handshake waits for is shown to the host, and no more. -/
theorem step_of_ack {frame : String} {ack : Ack} (s : Surroundings) (h : e.Sound)
    (hm : Inbound.parse frame = .ok (.handshake (.ack ack))) (hp : ∀ kind, e.phase ≠ .awaiting kind) :
    e.step s (.signal (.message frame)) =
      if e.receiver.isSome then e.doing [.host (.message frame)] else e.idle := by
  split
  · rename_i hr
    calc e.step s (.signal (.message frame))
        = e.handle s (.signal (.message frame)) := if_pos (h.running hr)
      _ = e.framed s frame := if_pos hr
      _ = (e.doing [.host (.message frame)]).andThen fun _ => e.acked s ack := by
          unfold framed; rw [hm]; rfl
      _ = e.doing [.host (.message frame)] := by rw [acked_of_not_awaiting ack hp]; rfl
  · rename_i hr
    unfold step
    split
    · exact if_neg hr
    · rfl

/-! ## Phases over every history -/

/-- The phases that a client publishes over a history. -/
structure Charted (config : Config) (history : History) (start : Engine) : Prop where
  /-- Every change of the phase, within a step or between steps, is one of the table. -/
  changes : (.disconnected :: seen phase? (run history start).effects).IsChain
    (leadsTo config.reconnect.maxRetries · ·)
  /-- The phase is the one published last. -/
  current : (.disconnected :: seen phase? (run history start).effects).getLast? =
    some (run history start).engine.phase
  /-- A scheduled attempt begins or is called off; nothing else follows it. -/
  scheduled : ∀ before n p after,
    seen phase? (run history start).effects = before ++ .reconnecting n :: p :: after →
    p = .connecting ∨ p = .disconnected
  /-- The number of an attempt is one more than that of the attempt before it, or one. -/
  numbered : (0 :: numbers (seen phase? (run history start).effects)).IsChain Succeeds
  /-- A session is entered with an ack, while a handshake waits for its answer that went out on the
      connection at hand. -/
  entered : ∀ s input,
    .established ∈ seen phase? ((run history start).engine.step s input).effects →
    ∃ frame ack kind n before talk handshake,
      input = .signal (.message frame) ∧ Inbound.parse frame = .ok (.handshake (.ack ack)) ∧
      (run history start).engine.phase = .awaiting kind ∧
      (run history start).engine.receiver = some n ∧
      chronicle history start =
        before ++ .attached n :: (talk ++ [.offered handshake (.ok ())]) ∧
      (∀ m, .attached m ∉ talk) ∧ handshake.offer? = some kind
  /-- Any other ack is shown to the host, if it comes on the connection at hand, and does nothing
      else. -/
  ignored : ∀ s frame ack, Inbound.parse frame = .ok (.handshake (.ack ack)) →
    (∀ kind, (run history start).engine.phase ≠ .awaiting kind) →
    (run history start).engine.step s (.signal (.message frame)) =
      if (run history start).engine.receiver.isSome then
        (run history start).engine.doing [.host (.message frame)]
      else (run history start).engine.idle

/-- **The graph of phases**: whatever the configuration, the persisted thread and the history of a
    client. -/
theorem charted_run (config : Config) (thread : Option String) (history : History) :
    Charted config history (create config thread) := by
  have hcreate := sound_create config thread
  have h := sound_run history hcreate
  have hadv := advances_run history hcreate fun _ => rfl
  obtain ⟨m, hnumbers, _⟩ := hadv.numbered 0 (Or.inl rfl)
  refine ⟨hadv.route.isChain, hadv.route.getLast?, ?_, hnumbers.isChain, ?_,
    fun s frame ack hm hp => step_of_ack s h hm hp⟩
  · intro before n p after heq
    have hchain := hadv.route.isChain
    rw [heq, ← List.cons_append] at hchain
    exact Phase.eq_of_reconnecting
      (List.isChain_iff_forall_rel_of_append_cons_cons.mp hchain rfl)
  · intro s input hest
    obtain ⟨ack, ht⟩ := turn_of_established h hest
    have hstep := step_stepped s input (run history (create config thread)).engine
    rw [ht] at hstep
    cases hstep with
    | @accept frame _ kind is message receiver phase _ _ =>
      obtain ⟨n, hn⟩ := Option.isSome_iff_exists.mp receiver
      obtain ⟨handshake, hlast, hkind⟩ := ((kept_run history hcreate
        (kept_create config thread)).last kind phase).2
      have hcarried : Carried ([] ++ chronicle history (create config thread)) _ :=
        carried_run history hcreate fun _ hnone => by cases hnone
      obtain ⟨before, talk, heq, htalk⟩ := Milestone.connection_eq_some (hcarried n hn)
      rw [List.nil_append] at hlast heq
      -- the last milestone is the handshake, so it comes after the connection
      rcases List.eq_nil_or_concat talk with rfl | ⟨talk', last, rfl⟩
      · rw [heq, List.getLast?_concat] at hlast; cases hlast
      · rw [heq, List.concat_eq_append, ← List.cons_append, ← List.append_assoc,
          List.getLast?_concat] at hlast
        obtain rfl := Option.some.inj hlast
        rw [List.concat_eq_append] at heq htalk
        exact ⟨frame, ack, kind, n, before, talk', handshake, is, message, phase, hn, heq,
          fun m hm => htalk m (List.mem_append_left _ hm), hkind⟩

end Engine
end Tether
