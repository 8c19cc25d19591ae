import Mathlib.Data.List.Sublists
import Tether.Proofs.Engine.Ending

/-!
# `Tether.Proofs.Engine.Offers` — which handshakes are offered, and which threads they name

Four things in the life of a client bear on its handshakes: a connection is handed over, a handshake is
written, a session is granted, and a handshake is refused. `Engine.chronicle` lists them in order. What
may stand in a chronicle is said of the list alone:

* between two connections the handshakes are a resume, then a fresh one, or part of that
  (`Mannerly`), and the last entry is the handshake that waits for its answer;
* every handshake names the thread that is *owed* (`owed`): that of the last ack, or else the persisted
  one, unless a resume was refused since.

`Dealt` says what one step adds to the chronicle, `Kept` is the invariant, and `disciplined_run` reads
off it how a client behaves over every history.
-/

namespace Tether

/-- The kind of handshake for a thread: it is resumed if there is one. -/
def Offer.of (thread : Option String) : Offer := if thread.isSome then .resume else .fresh

namespace Handshake

/-- Which kind of offer a handshake is; answers of a server are none. -/
def offer? : Handshake → Option Offer
  | .init _ => some .fresh
  | .resume _ => some .resume
  | .ack _ | .reject _ => none

/-- The thread that a handshake asks to return to. -/
def thread? : Handshake → Option String
  | .resume m => some m.threadId
  | .init _ | .ack _ | .reject _ => none

end Handshake

namespace Phase

/-- The offer that waits for its answer. -/
def offer? : Phase → Option Offer
  | .awaiting offer => some offer
  | _ => none

end Phase

/-- What bears on the handshakes of a client. -/
inductive Milestone where
  /-- The transport hands over a new connection. -/
  | attached (receiver : Nat)
  /-- A handshake is written, with the transport's answer. -/
  | offered (handshake : Handshake) (answer : Except Error Unit)
  /-- The server grants a session in a thread. -/
  | granted (threadId : String)
  /-- The server rejects the handshake that waits for its answer. -/
  | refused (offer : Offer)

namespace Effect

/-- The milestone that an effect is. -/
def milestone? : Effect → Option Milestone
  | .write (.handshake handshake) answer => some (.offered handshake answer)
  | .host (.connected threadId _) => some (.granted threadId)
  | _ => none

end Effect

namespace Milestone

/-- Which kind of handshake is offered. -/
def offer? : Milestone → Option Offer
  | .offered handshake _ => handshake.offer?
  | _ => none

/-- The kinds of the handshakes offered, in order. -/
def offers (ms : List Milestone) : List Offer := ms.filterMap offer?

/-- The offers on the connection at hand, after one milestone more. -/
def heard (sofar : List Offer) : Milestone → List Offer
  | .attached _ => []
  | m => sofar ++ m.offer?.toList

/-- The offers on the connection at hand. -/
def current (ms : List Milestone) : List Offer := ms.foldl heard []

/-- The thread to return to, after one milestone more. -/
def owes (thread : Option String) : Milestone → Option String
  | .granted threadId => some threadId
  | .refused _ => none
  | .attached _ | .offered _ _ => thread

/-- Is the milestone an answer of the server? -/
def isAnswer : Milestone → Bool
  | .granted _ | .refused _ => true
  | .attached _ | .offered _ _ => false

/-- The thread to return to after milestones, where `thread` is the one of the start. -/
def owed (thread : Option String) (ms : List Milestone) : Option String := ms.foldl owes thread

/-- On no connection is more offered than a resume and then a fresh handshake. -/
def Mannerly (ms : List Milestone) : Prop :=
  ∀ before after, ms = before ++ after → (current before).Sublist [.resume, .fresh]

/-- Every handshake names the thread that is owed when it is offered, and is of the kind for it. -/
def Faithful (thread : Option String) (ms : List Milestone) : Prop :=
  ∀ before handshake answer after, ms = before ++ .offered handshake answer :: after →
    handshake.thread? = owed thread before ∧ handshake.offer? = some (.of (owed thread before))

/-! ## Chronicles as lists -/

variable {thread : Option String} {before after ms : List Milestone} {m : Milestone}

@[simp] theorem current_concat (ms : List Milestone) (m : Milestone) :
    current (ms ++ [m]) = heard (current ms) m := by
  simp [current]

@[simp] theorem owed_concat (thread : Option String) (ms : List Milestone) (m : Milestone) :
    owed thread (ms ++ [m]) = owes (owed thread ms) m := by
  simp [owed]

/-- Where no connection is handed over, what is offered adds up. -/
theorem current_append (ms talk : List Milestone) (h : ∀ n, .attached n ∉ talk) :
    current (ms ++ talk) = current ms ++ offers talk := by
  induction talk generalizing ms with
  | nil => simp [offers]
  | cons m talk ih =>
    have hrest : ∀ n, .attached n ∉ talk := fun n hn => h n (List.mem_cons_of_mem _ hn)
    have hm : heard (current ms) m = current ms ++ m.offer?.toList := by
      cases m with
      | attached n => exact absurd List.mem_cons_self (h n)
      | offered _ _ | granted _ | refused _ => rfl
    calc current (ms ++ m :: talk)
        = current ((ms ++ [m]) ++ talk) := by rw [List.append_assoc]; rfl
      _ = (current ms ++ m.offer?.toList) ++ offers talk := by
          rw [ih (ms ++ [m]) hrest, current_concat, hm]
      _ = current ms ++ offers (m :: talk) := by
          rw [List.append_assoc, offers, offers]
          cases hq : m.offer? with
          | none => rw [List.filterMap_cons_none hq]; rfl
          | some q => rw [List.filterMap_cons_some hq]; rfl

/-- A milestone keeps the manners if the connection has then heard a resume, a fresh start, or the second
    after the first. -/
theorem Mannerly.concat (h : Mannerly ms) (hm : (heard (current ms) m).Sublist [.resume, .fresh]) :
    Mannerly (ms ++ [m]) := by
  intro before after heq
  rcases List.eq_nil_or_concat after with rfl | ⟨after', last, rfl⟩
  · rw [List.append_nil] at heq
    rw [← heq, current_concat]
    exact hm
  · -- the last milestone is not in the part before
    rw [List.concat_eq_append, ← List.append_assoc] at heq
    exact h before after' (List.append_inj' heq rfl).1

/-- A milestone that is no handshake changes no manners. -/
theorem Mannerly.concat_of_not_offered (h : Mannerly ms) (hm : m.offer? = none) :
    Mannerly (ms ++ [m]) := by
  refine h.concat ?_
  cases m with
  | attached n => exact List.nil_sublist _
  | offered _ _ | granted _ | refused _ =>
    rw [heard, hm, Option.toList_none, List.append_nil]
    · exact h ms [] (List.append_nil _).symm
    · simp

/-- Any part of a chronicle in which no connection is handed over offers one of four sequences. -/
theorem Mannerly.offers_mem (h : Mannerly ms) {talk : List Milestone}
    (heq : ms = before ++ talk ++ after) (hn : ∀ n, .attached n ∉ talk) :
    offers talk ∈ [[], [.fresh], [.resume], [.resume, .fresh]] := by
  have hsub : (offers talk).Sublist [.resume, .fresh] := by
    refine List.Sublist.trans ?_ (h _ _ heq)
    rw [current_append before talk hn]
    exact List.sublist_append_right ..
  have hmem : offers talk ∈ [.resume, .fresh].sublists := List.mem_sublists.mpr hsub
  have hall : [Offer.resume, .fresh].sublists = [[], [.resume], [.fresh], [.resume, .fresh]] := by
    decide
  rw [hall] at hmem
  simpa [or_left_comm] using hmem

/-! ### The thread that is owed -/

/-- One milestone more is faithful if a handshake names the thread that is owed. -/
theorem Faithful.concat (h : Faithful thread ms)
    (hm : ∀ handshake answer, m = .offered handshake answer →
      handshake.thread? = owed thread ms ∧ handshake.offer? = some (.of (owed thread ms))) :
    Faithful thread (ms ++ [m]) := by
  intro before handshake answer after heq
  rcases List.eq_nil_or_concat after with rfl | ⟨after', last, rfl⟩
  · obtain ⟨rfl, hlast⟩ := List.append_inj' heq rfl
    exact hm _ _ (List.singleton_inj.mp hlast)
  · rw [List.concat_eq_append, ← List.cons_append, ← List.append_assoc] at heq
    exact h before handshake answer after' (List.append_inj' heq rfl).1

theorem owes_of_not_isAnswer (h : m.isAnswer = false) : owes thread m = thread := by
  cases m with
  | attached _ | offered _ _ => rfl
  | granted _ | refused _ => cases h

/-- A thread is owed if the last answer granted it, or if there was no answer and it is the one of the
    start. -/
theorem owed_eq_some {t : String} (h : owed thread ms = some t) :
    (∃ before after, ms = before ++ .granted t :: after ∧ ∀ m ∈ after, m.isAnswer = false) ∨
      thread = some t ∧ ∀ m ∈ ms, m.isAnswer = false := by
  induction ms using List.reverseRecOn with
  | nil => exact Or.inr ⟨h, fun _ hm => absurd hm List.not_mem_nil⟩
  | append_singleton ms m ih =>
    rw [owed_concat] at h
    cases hm : m.isAnswer with
    | false =>
      rw [owes_of_not_isAnswer hm] at h
      have hlast : ∀ after : List Milestone, (∀ x ∈ after, x.isAnswer = false) →
          ∀ x ∈ after ++ [m], x.isAnswer = false := by
        intro after hafter x hx
        rcases List.mem_append.mp hx with hx | hx
        · exact hafter x hx
        · rw [List.mem_singleton.mp hx]; exact hm
      rcases ih h with ⟨before, after, heq, hafter⟩ | ⟨hthread, hms⟩
      · exact Or.inl ⟨before, after ++ [m], by rw [heq]; simp, hlast after hafter⟩
      · exact Or.inr ⟨hthread, hlast ms hms⟩
    | true =>
      cases m with
      | granted t' =>
        obtain rfl := Option.some.inj h
        exact Or.inl ⟨ms, [], rfl, fun _ hm => absurd hm List.not_mem_nil⟩
      | refused _ | attached _ | offered _ _ => first | cases h | cases hm

/-- After a refusal only a thread that was granted since is owed. -/
theorem granted_of_owed {t : String} {offer : Offer}
    (h : owed thread (before ++ .refused offer :: after) = some t) : .granted t ∈ after := by
  have hsplit : owed thread (before ++ .refused offer :: after) = owed none after := by
    simp [owed, owes]
  rw [hsplit] at h
  rcases owed_eq_some h with ⟨_, _, heq, _⟩ | ⟨hnone, _⟩
  · rw [heq]; exact List.mem_append_right _ List.mem_cons_self
  · cases hnone

end Milestone

namespace Engine

open Effect (seen milestone?)
open Milestone (current owed Mannerly Faithful)

variable {e : Engine} {s : Surroundings} {input : Input}

/-! ## The chronicle of a client -/

/-- The milestone that an input brings: a connection, or the refusal of a handshake. -/
def brought? (input : Input) (e : Engine) : Option Milestone :=
  match input with
  | .dialed (.ok receiver) =>
    if e.running ∧ e.dialing then some (.attached receiver) else none
  | .signal (.message frame) =>
    match Inbound.parse frame, e.phase with
    | .ok (.handshake (.reject _)), .awaiting offer =>
      if e.running ∧ e.receiver.isSome then some (.refused offer) else none
    | _, _ => none
  | _ => none

/-- The milestones of a step, in order: what its input brings, and what is seen of its effects. -/
def milestones (s : Surroundings) (input : Input) (e : Engine) : List Milestone :=
  (e.brought? input).toList ++ seen milestone? (e.step s input).effects

/-- The milestones of a history, in order. -/
def chronicle : History → Engine → List Milestone
  | [], _ => []
  | (s, input) :: rest, e => e.milestones s input ++ chronicle rest (e.step s input).engine

/-- The milestone of a turn, by the phase in which it is taken. -/
def Turn.milestone? (phase : Phase) : Turn → Option Milestone
  | .attach receiver => some (.attached receiver)
  | .fallBack _ | .refuse _ => phase.offer?.map .refused
  | _ => none

theorem milestone?_frameTurn (frame : String) (e : Engine) :
    (e.frameTurn frame).milestone? e.phase =
      match Inbound.parse frame, e.phase with
      | .ok (.handshake (.reject _)), .awaiting offer => some (.refused offer)
      | _, _ => none := by
  unfold frameTurn
  rcases Inbound.parse frame with _ | (handshake | _)
  · rfl
  · cases handshake with
    | reject _ =>
      cases e.phase with
      | awaiting _ => dsimp only; split <;> rfl
      | disconnected | connecting | established | reconnecting _ | permanentlyFailed => rfl
    | ack _ => cases e.phase <;> rfl
    | init _ | resume _ => rfl
  · rfl

/-- What an input brings is the milestone of its turn. -/
theorem milestone?_turn (now : Nat) (input : Input) (e : Engine) :
    (e.turn now input).milestone? e.phase = e.brought? input := by
  unfold turn brought?
  by_cases hrun : e.running
  · rw [if_pos hrun]
    cases input with
    | command c =>
      cases c with
      | connect caller =>
        show (e.connectTurn caller).milestone? e.phase = none
        unfold connectTurn
        split
        · rfl
        · split <;> rfl
      | disconnect _ | send _ | snapshot _ => rfl
    | dialed answer =>
      cases answer <;> (unfold inputTurn; simp only [hrun, true_and]; split <;> rfl)
    | signal signal =>
      unfold inputTurn
      cases signal with
      | message frame =>
        simp only [hrun, true_and]
        split
        · exact milestone?_frameTurn frame e
        · split <;> rfl
      | opened => unfold signalTurn; dsimp only; split <;> [split; skip] <;> rfl
      | closed _ _ | failed _ => dsimp only; split <;> rfl
    | tick t => cases t <;> (unfold inputTurn; dsimp only; try split) <;> rfl
    | detached | reconnect => unfold inputTurn; dsimp only; split <;> rfl
    | shutdown => rfl
  · rw [if_neg hrun]
    cases input with
    | dialed answer => cases answer <;> simp [hrun, Turn.milestone?]
    | signal signal =>
      cases signal with
      | message frame => simp only [hrun]; split <;> simp [Turn.milestone?]
      | _ => rfl
    | _ => rfl

theorem milestones_control (o : Outcome) :
    seen milestone? o.control = seen milestone? o.effects := by
  refine seen_control (fun x hx => ?_) o
  cases x with
  | write message _ =>
    cases message with
    | handshake _ => exact absurd hx (by simp [Effect.isControl])
    | envelope _ => rfl
  | host event =>
    cases event with
    | connected _ _ => exact absurd hx (by simp [Effect.isControl])
    | _ => rfl
  | _ => rfl

@[simp] theorem milestones_announcement (e : Engine) (phase : Phase) :
    seen milestone? (e.announcement phase) = [] := seen_announcement e rfl

@[simp] theorem milestones_farewell (e : Engine) : seen milestone? e.farewell = [] :=
  seen_farewell e rfl

@[simp] theorem milestones_answers (e : Engine) (answer : Except Error Unit) :
    seen milestone? (e.answers answer) = [] := seen_answers e fun _ => rfl

/-- The milestones of a step, from its turn and its control effects. -/
theorem milestones_eq {t : Turn} {xs : List Effect} (ht : e.turn s.now input = t)
    (hc : (e.step s input).control = xs) :
    e.milestones s input = (t.milestone? e.phase).toList ++ seen milestone? xs := by
  rw [milestones, ← milestone?_turn s.now, ht, ← milestones_control, hc]

/-! ## What a step adds -/

/-- The kind of handshake that an engine would offer: it resumes a thread if it has one. -/
def intent (e : Engine) : Offer := .of e.thread?

/-- A handshake is of the kind that the engine intends, and names the thread that it has. -/
theorem offering_spec (s : Surroundings) (e : Engine) :
    (e.offering s).1 = e.intent ∧ (e.offering s).2.offer? = some e.intent ∧
      (e.offering s).2.thread? = e.thread? := by
  unfold offering offer intent Offer.of
  cases e.thread? <;> exact ⟨rfl, rfl, rfl⟩

/-- What a step from `e` to `e'` has to do with handshakes, and the milestones it adds. -/
inductive Dealt (e e' : Engine) : List Milestone → Prop where
  /-- Nothing. -/
  | silent (thread : e'.thread? = e.thread?) (retried : e'.resumeRetried → e.resumeRetried)
      (waits : ∀ k, e'.phase = .awaiting k → e.phase = .awaiting k)
      (ready : e'.phase = .connecting → e'.receiver.isSome →
        e.phase = .connecting ∧ e.receiver.isSome) : Dealt e e' []
  /-- A connection is handed over. -/
  | attach {receiver : Nat} (thread : e'.thread? = e.thread?)
      (retried : e'.resumeRetried → e.resumeRetried) (waits : ∀ k, e'.phase ≠ .awaiting k) :
      Dealt e e' [.attached receiver]
  /-- The connection has opened, and a handshake is offered. -/
  | offer {handshake : Handshake} {answer : Except Error Unit}
      (ready : e.phase = .connecting ∧ e.receiver.isSome)
      (kind : handshake.offer? = some e.intent) (named : handshake.thread? = e.thread?)
      (thread : e'.thread? = e.thread?) (retried : e'.resumeRetried → e.resumeRetried)
      (waits : ∀ k, e'.phase = .awaiting k → k = e.intent ∧ answer = .ok ())
      (busy : e'.phase ≠ .connecting) : Dealt e e' [.offered handshake answer]
  /-- A session is granted. -/
  | grant {threadId : String} (thread : e'.thread? = some threadId)
      (retried : e'.resumeRetried = false) (phase : e'.phase = .established) :
      Dealt e e' [.granted threadId]
  /-- A resume is refused, and a fresh handshake is offered in its place. -/
  | fallBack {handshake : Handshake} {answer : Except Error Unit} (phase : e.phase = .awaiting .resume)
      (kind : handshake.offer? = some .fresh) (named : handshake.thread? = none)
      (thread : e'.thread? = none)
      (waits : ∀ k, e'.phase = .awaiting k → k = .fresh ∧ answer = .ok ())
      (busy : e'.phase ≠ .connecting) :
      Dealt e e' [.refused .resume, .offered handshake answer]
  /-- A handshake is refused for good. -/
  | refuse {kind : Offer} (phase : e.phase = .awaiting kind)
      (final : kind = .resume → e.resumeRetried) (thread : e'.thread? = e.thread?)
      (retried : e'.resumeRetried → e.resumeRetried) (failed : e'.phase = .permanentlyFailed) :
      Dealt e e' [.refused kind]

@[simp] theorem threadId_keyed (s : Surroundings) (exchange : Option KeyExchange) (ack : Ack)
    (session : Session) : (keyed s exchange ack session).threadId = session.threadId := by
  unfold keyed
  split <;> rfl

/-- Losing a connection is no milestone. -/
theorem milestones_lost {now : Nat} {cause : String} {o : Outcome} (hl : Lost now cause e o) :
    seen milestone? o.control = [] := by
  cases hl with
  | retry _ _ control | giveUp _ _ control => rw [control]; simp [milestone?]

/-- A loss keeps the thread, and waits for no answer. -/
theorem dealt_lost {now : Nat} {cause : String} {o : Outcome} (hl : Lost now cause e o) :
    o.engine.thread? = e.thread? ∧ o.engine.resumeRetried = e.resumeRetried ∧
      (∀ k, o.engine.phase ≠ .awaiting k) ∧ o.engine.phase ≠ .connecting := by
  cases hl with
  | retry _ engine _ => rw [engine]; exact ⟨rfl, rfl, fun _ => by simp [retrying], by simp [retrying]⟩
  | giveUp _ engine _ =>
    rw [engine]; exact ⟨rfl, rfl, fun _ => by simp [exhausted], by simp [exhausted]⟩

/-- A handshake goes out: it is the one that the engine intends, and it waits for its answer if the
    transport took it. -/
theorem offered_sendHandshake (s : Surroundings) (h : e.Sound) (hr : e.receiver.isSome)
    (hp : e.phase ≠ .established) : ∃ answer,
      seen milestone? (e.sendHandshake s).control = [.offered (e.offering s).2 answer] ∧
      (e.sendHandshake s).engine.thread? = e.thread? ∧
      (e.sendHandshake s).engine.resumeRetried = e.resumeRetried ∧
      (∀ k, (e.sendHandshake s).engine.phase = .awaiting k → k = e.intent ∧ answer = .ok ()) ∧
      (e.sendHandshake s).engine.phase ≠ .connecting := by
  cases h.offered s hr hp with
  | waits engine control =>
    refine ⟨.ok (), by rw [control]; simp [milestone?], by rw [engine]; rfl, by rw [engine]; rfl, ?_,
      by rw [engine]; simp [awaitingAnswer]⟩
    intro k hk
    rw [engine] at hk
    exact ⟨(Phase.awaiting.inj hk).symm.trans (offering_spec s e).1, rfl⟩
  | @unsent error o' lost engine control =>
    obtain ⟨hthread, hretried, hwaits, hbusy⟩ := dealt_lost lost
    refine ⟨.error error, ?_, ?_, ?_, ?_, by rw [engine]; exact hbusy⟩
    · rw [control, Effect.seen_append, milestones_lost lost]; simp [milestone?]
    · rw [engine]; exact hthread
    · rw [engine]; exact hretried
    · intro k hk; rw [engine] at hk; exact absurd hk (hwaits k)

/-- **What one step adds to the chronicle.** -/
theorem dealt_step (s : Surroundings) (input : Input) (h : e.Sound) :
    Dealt e (e.step s input).engine (e.milestones s input) := by
  have hstep := step_stepped s input e
  have hwired := (sound_step s input h).wired
  generalize ht : e.turn s.now input = t at hstep
  cases hstep with
  | passing _ passes =>
    obtain ⟨⟨_, _, _, he⟩, hc⟩ := passes
    rw [milestones_eq ht hc, he]
    exact .silent rfl id (fun _ hk => hk) fun hp hr => ⟨hp, hr⟩
  | greet _ _ engine control | join _ _ engine control | alarm _ _ engine control =>
    rw [milestones_eq ht control, engine]
    exact .silent rfl id (fun _ hk => hk) fun hp hr => ⟨hp, hr⟩
  | depart _ _ engine control | redial _ _ engine control =>
    -- a client that asks for a connection holds none
    have hnone : ¬(e.step s input).engine.receiver.isSome := by
      rw [engine] at hwired ⊢
      exact Option.not_isSome_iff_eq_none.mpr (hwired.mp rfl)
    have hnil : e.milestones s input = [] := by
      rw [milestones_eq ht control]; simp [Turn.milestone?, milestone?]
    rw [hnil]
    refine .silent (by rw [engine]; rfl) ?_ (fun k hk => ?_) fun _ hr => absurd hr hnone
    · rw [engine]; first | exact id | exact fun hf => absurd hf Bool.false_ne_true
    · rw [engine] at hk; exact absurd hk (by simp [departed])
  | leave _ engine control =>
    obtain ⟨_, he⟩ := engine
    have hnil : e.milestones s input = [] := by
      rw [milestones_eq ht control]; simp [Turn.milestone?, milestone?]
    rw [hnil, he]
    exact .silent rfl id (fun _ hk => absurd hk (by simp)) fun hp => absurd hp (by simp)
  | attach _ dialing engine control =>
    have hp : ∀ k, e.phase ≠ .awaiting k := by
      intro k hk
      have hw := h.wired
      unfold Wired at hw
      rw [hk] at hw
      exact absurd (dialing.symm.trans hw.1) (by simp)
    rw [milestones_eq ht control, engine]
    exact .attach rfl id hp
  | offer _ receiver phase engine control =>
    obtain ⟨hkind, hoffer, hnamed⟩ := offering_spec s e
    obtain ⟨answer, hms, hthread, hretried, hwaits, hbusy⟩ :=
      offered_sendHandshake s h receiver (by rw [phase]; simp)
    rw [milestones_eq ht control, hms, engine]
    exact .offer ⟨phase, receiver⟩ hoffer hnamed hthread (fun hr => hretried ▸ hr) hwaits hbusy
  | @accept _ ack _ _ _ _ _ engine control =>
    have hms : e.milestones s input = [.granted ack.threadId] := by
      rw [milestones_eq ht control]; simp [Turn.milestone?, milestone?]
    rw [hms, engine]
    refine .grant ?_ rfl rfl
    show (e.grantedSession s ack).threadId.or e.resumeThread = _
    rw [grantedSession, threadId_keyed]; rfl
  | fallBack _ _ receiver phase _ engine control =>
    have hne : e.phase ≠ .established := by rw [phase]; simp
    obtain ⟨hkind, hoffer, hnamed⟩ := offering_spec s e.fallenBack
    obtain ⟨answer, hms, hthread, hretried, hwaits, hbusy⟩ :=
      offered_sendHandshake s (h.fallenBack hne) receiver hne
    rw [milestones_eq ht control, hms, engine, phase]
    exact .fallBack phase hoffer hnamed hthread hwaits hbusy
  | @refuse _ _ kind _ _ _ phase final engine control =>
    have hms : e.milestones s input = [.refused kind] := by
      rw [milestones_eq ht control, phase]; simp [Turn.milestone?, milestone?, Phase.offer?]
    rw [hms, engine]
    refine .refuse phase (fun hk => ?_) rfl id rfl
    exact eq_true_of_ne_false fun hf => final ⟨hk, hf⟩
  | @lose cause live engine control =>
    have hl := h.timed.lost (h.wired.expected live) s.now cause
    obtain ⟨hthread, hretried, hwaits, hbusy⟩ := dealt_lost hl
    rw [milestones_eq ht control, milestones_lost hl, engine]
    exact .silent hthread (fun hr => hretried ▸ hr) (fun k hk => absurd hk (hwaits k))
      fun hp => absurd hp hbusy

/-! ## The invariant -/

/-- What a client has kept of its chronicle `ms`, if it started with `thread`. -/
structure Kept (thread : Option String) (ms : List Milestone) (e : Engine) : Prop where
  mannerly : Mannerly ms
  faithful : Faithful thread ms
  /-- The thread that the client has is the one that is owed. -/
  thread : e.thread? = owed thread ms
  /-- After a resume was rejected there is no thread, until a session is granted. -/
  retried : e.resumeRetried → e.thread? = none
  /-- Nothing is offered before the connection opens. -/
  ready : e.phase = .connecting → e.receiver.isSome → current ms = []
  /-- The last milestone is the handshake that waits for its answer. -/
  last : ∀ k, e.phase = .awaiting k → k = e.intent ∧
    ∃ handshake, ms.getLast? = some (.offered handshake (.ok ())) ∧ handshake.offer? = some k
  /-- A resume that waits for its answer is the first handshake on its connection. -/
  first : e.phase = .awaiting .resume → current ms = [.resume]

/-- A client that was just created has kept every promise. -/
theorem kept_create (config : Config) (thread : Option String) :
    Kept thread [] (create config thread) where
  mannerly before after heq := by
    rw [(List.append_eq_nil_iff.mp heq.symm).1]; exact List.nil_sublist _
  faithful before _ _ after heq := by
    exact absurd (List.append_eq_nil_iff.mp heq.symm).2 (List.cons_ne_nil _ _)
  thread := rfl
  retried hr := absurd hr Bool.false_ne_true
  ready hp := absurd hp (by simp [create])
  last k hp := absurd hp (by simp [create])
  first hp := absurd hp (by simp [create])

/-- A client that waits for a resume has a thread, so none was rejected. -/
theorem Kept.not_retried {thread : Option String} {ms : List Milestone} (hk : e.Kept thread ms)
    (hp : e.phase = .awaiting .resume) : e.resumeRetried = false := by
  refine eq_false_of_ne_true fun hr => ?_
  have hintent := (hk.last _ hp).1
  rw [intent, hk.retried hr] at hintent
  cases hintent

/-- **One step keeps the invariant.** -/
theorem kept_step {start : Option String} {ms : List Milestone} (s : Surroundings) (input : Input)
    (h : e.Sound) (hk : e.Kept start ms) :
    Kept start (ms ++ e.milestones s input) (e.step s input).engine := by
  have hdealt := dealt_step s input h
  generalize (e.step s input).engine = e' at hdealt
  generalize e.milestones s input = added at hdealt
  cases hdealt with
  | silent thread retried waits ready =>
    rw [List.append_nil]
    have hintent : e'.intent = e.intent := congrArg Offer.of thread
    exact ⟨hk.mannerly, hk.faithful, thread.trans hk.thread,
      fun hr => thread.trans (hk.retried (retried hr)),
      fun hp hr => hk.ready (ready hp hr).1 (ready hp hr).2,
      fun k hp => hintent ▸ hk.last k (waits k hp), fun hp => hk.first (waits _ hp)⟩
  | attach thread retried waits =>
    refine ⟨hk.mannerly.concat_of_not_offered rfl, hk.faithful.concat (by simp), ?_,
      fun hr => thread.trans (hk.retried (retried hr)), fun _ _ => by simp [Milestone.heard],
      fun k hp => absurd hp (waits k), fun hp => absurd hp (waits _)⟩
    rw [thread, hk.thread]; simp [Milestone.owes]
  | @offer handshake answer ready kind named thread retried waits busy =>
    have hnone := hk.ready ready.1 ready.2
    have hheard : Milestone.heard (current ms) (.offered handshake answer) = [e.intent] := by
      rw [hnone]; simp [Milestone.heard, Milestone.offer?, kind]
    refine ⟨hk.mannerly.concat ?_, hk.faithful.concat ?_, ?_,
      fun hr => thread.trans (hk.retried (retried hr)), fun hp => absurd hp busy, fun k hp => ?_,
      fun hp => ?_⟩
    · rw [hheard]
      cases e.intent <;> simp
    · rintro _ _ ⟨⟩
      rw [← hk.thread]; exact ⟨named, kind⟩
    · rw [thread, hk.thread]; simp [Milestone.owes]
    · obtain ⟨rfl, rfl⟩ := waits k hp
      exact ⟨(congrArg Offer.of thread).symm, handshake, List.getLast?_concat, kind⟩
    · rw [Milestone.current_concat, hheard, ← (waits _ hp).1]
  | grant thread retried phase =>
    have hbusy : e'.phase ≠ .connecting := by rw [phase]; simp
    have hwaits : ∀ k, e'.phase ≠ .awaiting k := by rw [phase]; simp
    refine ⟨hk.mannerly.concat_of_not_offered rfl, hk.faithful.concat (by simp), ?_,
      fun hr => absurd (retried.symm.trans hr) Bool.false_ne_true, fun hp => absurd hp hbusy,
      fun k hp => absurd hp (hwaits k), fun hp => absurd hp (hwaits _)⟩
    rw [thread]; simp [Milestone.owes]
  | @fallBack handshake answer phase kind named thread waits busy =>
    -- the refusal comes first, and with it nothing is owed any more
    have hsplit : ms ++ [.refused .resume, .offered handshake answer] =
        (ms ++ [.refused .resume]) ++ [.offered handshake answer] := by simp
    have hheard : Milestone.heard (current (ms ++ [.refused .resume])) (.offered handshake answer) =
        [.resume, .fresh] := by
      rw [Milestone.current_concat, hk.first phase]
      simp [Milestone.heard, Milestone.offer?, kind]
    have howed : owed start (ms ++ [.refused .resume]) = none := by simp [Milestone.owes]
    rw [hsplit]
    refine ⟨(hk.mannerly.concat_of_not_offered rfl).concat ?_,
      (hk.faithful.concat (by simp)).concat ?_, ?_, fun _ => thread,
      fun hp => absurd hp busy, fun k hp => ?_, fun hp => ?_⟩
    · rw [hheard]
    · rintro _ _ ⟨⟩
      rw [howed]; exact ⟨named, kind⟩
    · rw [thread, Milestone.owed_concat, howed]; rfl
    · obtain ⟨rfl, rfl⟩ := waits k hp
      exact ⟨by rw [intent, thread]; rfl, handshake, List.getLast?_concat, kind⟩
    · exact absurd (waits _ hp).1 (by simp)
  | @refuse kind phase final thread retried failed =>
    -- a resume that is refused for good would have to be a second one
    have hkind : kind = .fresh := by
      cases kind with
      | fresh => rfl
      | resume => exact absurd ((final rfl).symm.trans (hk.not_retried phase)) (by simp)
    have hnone : e.thread? = none := by
      have hintent := (hk.last kind phase).1
      rw [hkind, intent, Offer.of] at hintent
      cases he : e.thread? with
      | none => rfl
      | some t => rw [he] at hintent; cases hintent
    have hbusy : e'.phase ≠ .connecting := by rw [failed]; simp
    have hwaits : ∀ k, e'.phase ≠ .awaiting k := by rw [failed]; simp
    refine ⟨hk.mannerly.concat_of_not_offered rfl, hk.faithful.concat (by simp), ?_,
      fun hr => thread.trans (hk.retried (retried hr)), fun hp => absurd hp hbusy,
      fun k hp => absurd hp (hwaits k), fun hp => absurd hp (hwaits _)⟩
    rw [thread, hnone]; simp [Milestone.owes]

/-- **Every history keeps the invariant.** -/
theorem kept_run {start : Option String} {ms : List Milestone} (history : History) (h : e.Sound)
    (hk : e.Kept start ms) : Kept start (ms ++ chronicle history e) (run history e).engine := by
  induction history generalizing e ms with
  | nil => rw [chronicle, List.append_nil]; exact hk
  | cons head rest ih =>
    obtain ⟨s, input⟩ := head
    rw [chronicle, ← List.append_assoc]
    exact ih (sound_step s input h) (kept_step s input h hk)

/-! ## Handshakes over every history -/

/-- How a client that started with a persisted thread, or none, offers handshakes over a history. -/
structure Disciplined (thread : Option String) (history : History) (start : Engine) : Prop where
  /-- As long as no other connection is handed over, the handshakes written are none, one, or a resume
      and then a fresh one. -/
  sequence : ∀ before talk after, chronicle history start = before ++ talk ++ after →
    (∀ receiver, .attached receiver ∉ talk) →
    Milestone.offers talk ∈ [[], [.fresh], [.resume], [.resume, .fresh]]
  /-- While a client waits for an answer, the last thing that happened is the handshake it waits for,
      and the transport took it. -/
  waiting : ∀ kind, (run history start).engine.phase = .awaiting kind →
    ∃ handshake, (chronicle history start).getLast? = some (.offered handshake (.ok ())) ∧
      handshake.offer? = some kind
  /-- A handshake resumes a thread exactly if one is owed, and names that one. -/
  choice : ∀ before handshake answer after,
    chronicle history start = before ++ .offered handshake answer :: after →
    handshake.thread? = owed thread before ∧ handshake.offer? = some (.of (owed thread before))
  /-- A resume names the thread of the last ack, or before any answer the one of the start. -/
  named : ∀ before handshake answer after t,
    chronicle history start = before ++ .offered handshake answer :: after →
    handshake.thread? = some t →
      (∃ earlier later, before = earlier ++ .granted t :: later ∧
        ∀ m ∈ later, m.isAnswer = false) ∨
      thread = some t ∧ ∀ m ∈ before, m.isAnswer = false
  /-- After a refusal, only a thread that was granted since is resumed. -/
  refused : ∀ before kind between handshake answer after t,
    chronicle history start =
      before ++ .refused kind :: between ++ .offered handshake answer :: after →
    handshake.thread? = some t → .granted t ∈ between
  /-- A reject that answers a fresh handshake is the end of trying. -/
  final : ∀ s frame reject, (run history start).engine.phase = .awaiting .fresh →
    Inbound.parse frame = .ok (.handshake (.reject reject)) →
    ((run history start).engine.step s (.signal (.message frame))).engine.phase = .permanentlyFailed
  /-- No resume waits for its answer once one was rejected. -/
  once : ¬((run history start).engine.phase = .awaiting .resume ∧
    (run history start).engine.resumeRetried)

/-- A rejected fresh handshake is the end of trying. -/
theorem failed_of_reject {frame : String} {reject : Reject} (s : Surroundings) (h : e.Sound)
    (hp : e.phase = .awaiting .fresh)
    (hm : Inbound.parse frame = .ok (.handshake (.reject reject))) :
    (e.step s (.signal (.message frame))).engine.phase = .permanentlyFailed := by
  have hr : e.receiver.isSome := by
    have hw := h.wired
    unfold Wired at hw
    rw [hp] at hw
    exact hw.2
  have hturn : e.turn s.now (.signal (.message frame)) = .refuse reject := by
    calc e.turn s.now (.signal (.message frame))
        = e.inputTurn s.now (.signal (.message frame)) := if_pos (h.running hr)
      _ = e.frameTurn frame := if_pos hr
      _ = .refuse reject := by unfold frameTurn; rw [hm, hp]; rfl
  have hstep := step_stepped s (.signal (.message frame)) e
  rw [hturn] at hstep
  cases hstep with
  | refuse _ _ _ _ _ engine _ => rw [engine]

/-- **The discipline of handshakes** holds over every history of a client, whatever its configuration
    and its persisted thread. -/
theorem disciplined_run (config : Config) (thread : Option String) (history : History) :
    Disciplined thread history (create config thread) := by
  have hcreate := sound_create config thread
  have h := sound_run history hcreate
  have hk := kept_run history hcreate (kept_create config thread)
  rw [List.nil_append] at hk
  refine ⟨fun before talk after heq hn => hk.mannerly.offers_mem heq hn,
    fun kind hp => (hk.last kind hp).2, hk.faithful, ?_, ?_,
    fun s frame reject hp hm => failed_of_reject s h hp hm, ?_⟩
  · intro before handshake answer after t heq ht
    rw [(hk.faithful before handshake answer after heq).1] at ht
    exact Milestone.owed_eq_some ht
  · intro before kind between handshake answer after t heq ht
    rw [(hk.faithful _ handshake answer after heq).1] at ht
    exact Milestone.granted_of_owed ht
  · rintro ⟨hp, hr⟩
    exact absurd (hr.symm.trans (hk.not_retried hp)) (by simp)

end Engine
end Tether
