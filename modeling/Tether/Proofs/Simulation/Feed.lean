import Tether.Engine.Run
import Tether.Proofs.Link

/-!
# `Tether.Proofs.Simulation.Feed` — a world moves as its engine does

A move either gives the engine of a world one input, or does not touch it. `World.fed?` says which, and
`World.trace` collects the inputs of a list of moves, so that the engine at the end is the one that its
own history leads to (`engine_history`): what is proved of every history of an engine holds in every
world. What carrying out effects does to the link is `keeps_feed`.
-/

namespace Tether.World

open Engine (History Outcome)

/-! ## The start -/

variable {w : World}

/-- A client starts with nothing but its configuration, its storage and the persisted thread. -/
theorem start_eq {setup : Setup} {config : Config} {store : Store} {failing : List String}
    {hasRuntime : Bool} (hw : start setup config store failing hasRuntime = .ok w) :
    ∃ thread log, w = { setup, store, failing, engine := .create config thread, log } := by
  unfold start at hw
  cases hv : config.validate with
  | error error => rw [hv] at hw; cases hw
  | ok _ =>
    rw [hv] at hw
    cases hasRuntime with
    | false => cases hw
    | true =>
      cases hread : storeAnswer failing (Identity.reading ⟨config.clientId⟩) with
      | error error =>
        simp only [bind, Except.bind, hread] at hw
        cases hw
      | ok _ =>
        simp only [bind, Except.bind, hread] at hw
        cases hw
        exact ⟨_, _, rfl⟩

/-- A configuration without a flaw starts a client on every storage that can be read. -/
theorem start_of_flawless (setup : Setup) (config : Config) (store : Store) (failing : List String)
    (hflaw : config.flaw? = none)
    (hread : storeAnswer failing (Identity.reading ⟨config.clientId⟩) = .ok ()) :
    start setup config store failing true = .ok
      { setup, store, failing
        engine := .create config (Identity.thread? ⟨config.clientId⟩ store)
        log := [⟨0, .closed, .store (Identity.reading ⟨config.clientId⟩) (.ok ())⟩] } := by
  have hvalid : config.validate = .ok () := by rw [Config.validate, hflaw]
  unfold start
  rw [hvalid]
  simp only [bind, Except.bind, hread]
  rfl

/-! ## Effects -/

/-- An effect touches no engine, and the link only by a frame or a close. -/
theorem perform_spec (w : World) (x : Effect) :
    (w.perform x).engine = w.engine ∧ (w.perform x).dead = w.dead ∧
      w.link.Keeps (w.perform x).link := by
  cases x with
  | write message answer =>
    cases message with
    | envelope e =>
      cases answer with
      | ok _ => exact ⟨rfl, rfl, Link.keeps_send ..⟩
      | error _ => exact ⟨rfl, rfl, .refl _⟩
    | handshake h =>
      unfold perform
      dsimp only
      by_cases hk : (w.record (.write (.handshake h) answer)).engine.config.auth.keyExchange
      · rw [if_pos hk]
        cases answer with
        | ok _ => exact ⟨rfl, rfl, Link.keeps_send ..⟩
        | error _ => exact ⟨rfl, rfl, .refl _⟩
      · rw [if_neg hk]
        cases answer with
        | ok _ => exact ⟨rfl, rfl, Link.keeps_send ..⟩
        | error _ => exact ⟨rfl, rfl, .refl _⟩
  | close => exact ⟨rfl, rfl, Link.keeps_close _⟩
  | store call answer => cases answer <;> exact ⟨rfl, rfl, .refl _⟩
  | phase _ | dial _ _ | host _ | warn _ | warnLater _ | gaveUp _ _ | connectReply _ _
  | disconnectReply _ | snapshotReply _ _ => exact ⟨rfl, rfl, .refl _⟩

theorem foldl_perform_spec (xs : List Effect) (w : World) :
    (xs.foldl perform w).engine = w.engine ∧ (xs.foldl perform w).dead = w.dead ∧
      w.link.Keeps (xs.foldl perform w).link := by
  induction xs generalizing w with
  | nil => exact ⟨rfl, rfl, .refl _⟩
  | cons x xs ih =>
    obtain ⟨he, hd, hk⟩ := perform_spec w x
    obtain ⟨he', hd', hk'⟩ := ih (w.perform x)
    exact ⟨he'.trans he, hd'.trans hd, hk.trans hk'⟩

/-- Closing detaches the line that was fed, whatever else is done. -/
theorem feeding_foldl_perform {xs : List Effect} (w : World) (h : .close ∈ xs) :
    (xs.foldl perform w).link.feeding = none := by
  induction xs generalizing w with
  | nil => exact absurd h List.not_mem_nil
  | cons x xs ih =>
    rcases List.mem_cons.mp h with rfl | h
    · have hclosed : (w.perform .close).link.feeding = none := Link.feeding_close _
      have hkeeps := (foldl_perform_spec xs (w.perform .close)).2.2.feeding
      rw [hclosed] at hkeeps
      exact hkeeps.elim id id
    · exact ih (w.perform x) h

/-! ## A step of the client -/

@[simp] theorem engine_feed (w : World) (input : Input) :
    (w.feed input).engine = (w.engine.step w.surroundings input).engine :=
  (foldl_perform_spec ..).1

@[simp] theorem dead_feed (w : World) (input : Input) : (w.feed input).dead = w.dead :=
  (foldl_perform_spec ..).2.1

/-- A step carries its effects out on the link, less the receiver that the client gave up. -/
theorem keeps_feed (w : World) (input : Input) :
    (release w.engine.receiver (w.engine.step w.surroundings input).engine.receiver w.link).Keeps
      (w.feed input).link :=
  let o := w.engine.step w.surroundings input
  (foldl_perform_spec o.effects
    { w with engine := o.engine, link := release w.engine.receiver o.engine.receiver w.link }).2.2

theorem feeding_feed {input : Input} (w : World)
    (h : .close ∈ (w.engine.step w.surroundings input).effects) :
    (w.feed input).link.feeding = none :=
  feeding_foldl_perform _ h

@[simp] theorem feeding_release (before after : Option Nat) (l : Link) :
    (release before after l).feeding = l.feeding := by
  unfold release
  split
  · split <;> rfl
  · rfl

@[simp] theorem length_release (before after : Option Nat) (l : Link) :
    (release before after l).lines.length = l.lines.length := by
  unfold release
  split
  · split
    · rfl
    · exact List.length_modify ..
  · rfl

/-- The receiver that a client holds is not the one it gave up. -/
theorem serves_release {before : Option Nat} {l : Link} {n : Nat} (h : l.Serves n) :
    (release before (some n) l).Serves n := by
  unfold release
  split
  · rename_i m
    by_cases hm : some n = some m
    · rw [if_pos hm]; exact h
    · rw [if_neg hm]; exact h.release fun heq => hm (congrArg some heq.symm)
  · exact h

/-! ## Moves -/

/-- The input that a move gives the engine, if any, and the world in which the engine takes it. -/
def fed? (w : World) : Move → Option (World × Input)
  | .take =>
    if w.engine.running then
      match w.commands with
      | c :: rest => some ({ w with commands := rest }, .command c)
      | [] => none
    else none
  | .dial =>
    if w.engine.dialing then
      if w.dead then some ({ w with link := w.link.orphan.1 }, .dialed (.ok w.link.orphan.2))
      else
        let dialed := w.link.dial w.engine.config.url w.engine.config.subprotocol
        some ({ w with link := dialed.1 }, .dialed dialed.2)
    else none
  | .receive =>
    match w.engine.receiver with
    | none => none
    | some n =>
      match w.link.receive n with
      | (link, .signal s) => some ({ w with link }, .signal s)
      | (_, .ended) => some (w, .detached)
      | (_, .waiting) => none
  | .tick t => some (w, .tick t)
  | .reconnect => some (w, .reconnect)
  | .stop => if w.isForsaken then some (w, .shutdown) else none
  | _ => none

/-- The inputs that moves give the engine, with the surroundings in which it takes them. -/
def trace : World → List Move → History
  | _, [] => []
  | w, m :: rest =>
    ((w.fed? m).map fun x => (x.1.surroundings, x.2)).toList ++ (w.act m).trace rest

/-- Reports are only recorded. -/
theorem report_eq (w : World) : ∃ log, w.report = { w with later := [], log := w.log ++ log } ∧
    log.map Record.effect = w.later.map .warn := by
  have hfold : ∀ (notices : List Notice) (v : World), ∃ log,
      notices.foldl (fun w notice => w.record (.warn notice)) v = { v with log := v.log ++ log } ∧
        log.map Record.effect = notices.map .warn := by
    intro notices
    induction notices with
    | nil => exact fun v => ⟨[], by rw [List.append_nil]; exact ⟨rfl, rfl⟩⟩
    | cons notice rest ih =>
      intro v
      obtain ⟨log, hfold, hlog⟩ := ih (v.record (.warn notice))
      refine ⟨⟨v.now, v.link.readiness, .warn notice⟩ :: log, ?_, by rw [List.map_cons, hlog]; rfl⟩
      have hrecord := List.append_cons v.log ⟨v.now, v.link.readiness, .warn notice⟩ log
      rw [List.foldl_cons, hfold, hrecord]; rfl
  exact hfold w.later { w with later := [] }

/-- A move that gives the engine an input is that step, in a world with the same engine. -/
theorem act_of_fed {m : Move} {v : World} {input : Input} (h : w.fed? m = some (v, input)) :
    w.act m = v.feed input ∧ v.engine = w.engine ∧ v.dead = w.dead := by
  cases m with
  | take =>
    by_cases hrun : w.engine.running
    · cases hc : w.commands with
      | nil => simp only [fed?, if_pos hrun, hc] at h; cases h
      | cons c rest =>
        simp only [fed?, if_pos hrun, hc] at h
        cases h
        refine ⟨?_, rfl, rfl⟩
        simp only [act, take, if_pos hrun, hc]
    · simp only [fed?, if_neg hrun] at h; cases h
  | dial =>
    by_cases hdial : w.engine.dialing
    · by_cases hdead : w.dead
      · simp only [fed?, if_pos hdial, if_pos hdead] at h
        cases h
        refine ⟨?_, rfl, rfl⟩
        simp only [act, dial, if_pos hdial, if_pos hdead]
      · simp only [fed?, if_pos hdial, if_neg hdead] at h
        cases h
        refine ⟨?_, rfl, rfl⟩
        simp only [act, dial, if_pos hdial, if_neg hdead]
    · simp only [fed?, if_neg hdial] at h; cases h
  | receive =>
    cases hr : w.engine.receiver with
    | none => simp only [fed?, hr] at h; cases h
    | some n =>
      rcases hrec : w.link.receive n with ⟨link, s | _ | _⟩
      · simp only [fed?, hr, hrec] at h
        cases h
        refine ⟨?_, rfl, rfl⟩
        simp only [act, receive, hr, hrec]
      · simp only [fed?, hr, hrec] at h; cases h
      · simp only [fed?, hr, hrec] at h
        cases h
        refine ⟨?_, rfl, rfl⟩
        simp only [act, receive, hr, hrec]
  | tick t => cases h; exact ⟨rfl, rfl, rfl⟩
  | reconnect => cases h; exact ⟨rfl, rfl, rfl⟩
  | stop =>
    by_cases hleft : w.isForsaken
    · simp only [fed?, if_pos hleft] at h
      cases h
      refine ⟨?_, rfl, rfl⟩
      simp only [act, if_pos hleft]
    · simp only [fed?, if_neg hleft] at h; cases h
  | call _ | start _ | arrive | drop | peer _ | close | wait _ | breakStore _ | deaden _
  | report => cases h

/-- The engine after a move that gives it an input. -/
theorem engine_of_fed {m : Move} {v : World} {input : Input} (h : w.fed? m = some (v, input)) :
    (w.act m).engine = (w.engine.step v.surroundings input).engine := by
  obtain ⟨hact, he, _⟩ := act_of_fed h
  rw [hact, engine_feed, he]

/-- Does the client make the move itself? -/
def isOwn : Move → Bool
  | .take | .dial | .receive | .tick _ | .reconnect | .stop => true
  | _ => false

/-- A move of the client's own that gives it no input does nothing. -/
theorem act_eq_self {m : Move} (hm : isOwn m) (h : w.fed? m = none) : w.act m = w := by
  cases m with
  | take =>
    by_cases hrun : w.engine.running
    · cases hc : w.commands with
      | nil => simp only [act, take, if_pos hrun, hc]
      | cons c rest => simp only [fed?, if_pos hrun, hc] at h; cases h
    · simp only [act, if_neg hrun]
  | dial =>
    by_cases hdial : w.engine.dialing
    · simp only [fed?, if_pos hdial] at h
      split at h <;> cases h
    · simp only [act, if_neg hdial]
  | receive =>
    cases hr : w.engine.receiver with
    | none => simp only [act, receive, hr]
    | some n =>
      rcases hrec : w.link.receive n with ⟨link, s | _ | _⟩
      · simp only [fed?, hr, hrec] at h; cases h
      · simp only [act, receive, hr, hrec]
      · simp only [fed?, hr, hrec] at h; cases h
  | tick t => cases h
  | reconnect => cases h
  | stop =>
    by_cases hleft : w.isForsaken
    · simp only [fed?, if_pos hleft] at h; cases h
    · simp only [act, if_neg hleft]
  | call _ | start _ | arrive | drop | peer _ | close | wait _ | breakStore _ | deaden _
  | report => cases hm

/-- A move that gives the engine no input does not touch it, and takes no receiver's line away. -/
theorem act_of_not_fed {m : Move} (h : w.fed? m = none) :
    (w.act m).engine = w.engine ∧ w.link.Keeps (w.act m).link ∧
      ((w.act m).dead = w.dead ∨ m = .deaden (w.act m).dead) := by
  have hsame : w.engine = w.engine ∧ w.link.Keeps w.link ∧
      (w.dead = w.dead ∨ m = .deaden w.dead) := ⟨rfl, .refl _, Or.inl rfl⟩
  cases m with
  | call c | start c =>
    unfold act
    dsimp only
    split <;> exact ⟨rfl, .refl _, Or.inl rfl⟩
  | arrive | drop | wait _ | breakStore _ => exact ⟨rfl, .refl _, Or.inl rfl⟩
  | deaden _ => exact ⟨rfl, .refl _, Or.inr rfl⟩
  | peer a => exact ⟨rfl, Link.keeps_apply w.link a, Or.inl rfl⟩
  | close => exact ⟨rfl, Link.keeps_close w.link, Or.inl rfl⟩
  | report =>
    obtain ⟨log, hr, _⟩ := report_eq w
    rw [act, hr]; exact hsame
  | take | dial | receive | tick _ | reconnect | stop => rw [act_eq_self rfl h]; exact hsame

/-- **The engine of a world is the one that its own history leads to.** -/
theorem engine_history (w : World) (moves : List Move) :
    (w.history moves).engine = (Engine.run (w.trace moves) w.engine).engine := by
  induction moves generalizing w with
  | nil => rfl
  | cons m rest ih =>
    refine (ih (w.act m)).trans ?_
    rw [trace]
    cases hf : w.fed? m with
    | none => rw [(act_of_not_fed hf).1]; rfl
    | some x => rw [engine_of_fed hf]; rfl

end Tether.World
