import Tether.Proofs.Engine.Routine
import Tether.Proofs.Simulation.Feed

/-!
# `Tether.Proofs.Simulation.Carry` — what a move does beside the engine

A world keeps books on its client: the storage, the link's account of what reached the peer, the number
of key pairs that were drawn, and the log. A move changes them only by the effects of the step that it
leads to, if it leads to one.

* `foldl_perform_eq`, `feed_eq` — the world after effects, and after a step, field by field;
* `given_of_fed`, `idle_of_not_fed` — the world in which a step is taken, and moves without a step.
-/

namespace Tether

namespace Link

/-! ## What reaches the peer -/

variable {l : Link}

theorem still_release (before after : Option Nat) (l : Link) :
    l.Still (World.release before after l) := by
  unfold World.release
  split
  · split <;> exact ⟨rfl, rfl, rfl, rfl⟩
  · exact .refl l

@[simp] theorem readiness_release (before after : Option Nat) (l : Link) :
    (World.release before after l).readiness = l.readiness := by
  unfold World.release
  split
  · split <;> rfl
  · rfl

@[simp] theorem sendAnswer_release (before after : Option Nat) (l : Link) :
    (World.release before after l).sendAnswer = l.sendAnswer := by
  unfold sendAnswer
  rw [readiness_release, (still_release before after l).peerPresent]

/-- While the peer is there, a frame is taken exactly if the connection is open. -/
theorem sendAnswer_of_present (hp : l.peerPresent = true) :
    l.sendAnswer = .ok () ↔ l.readiness = .opened := by
  unfold sendAnswer
  by_cases hr : l.readiness = .opened
  · rw [if_neg (not_not_intro hr), if_pos hp]
    exact ⟨fun _ => hr, fun _ => rfl⟩
  · rw [if_pos hr]
    exact ⟨fun h => absurd h (by simp), fun h => absurd h hr⟩

theorem send_of_ok (frame : String) (h : l.sendAnswer = .ok ()) :
    (l.send frame).1 = { l with frames := l.frames ++ [frame] } := by
  unfold send
  rw [h]

/-- What an effect does to the link. -/
def carry (l : Link) : Effect → Link
  | .write message (.ok _) => (l.send message.frame).1
  | .close => l.close
  | _ => l

/-- Only what reaches the transport changes the link. -/
theorem foldl_carry_filter (xs : List Effect) (l : Link) :
    (xs.filter Effect.isWire).foldl carry l = xs.foldl carry l := by
  induction xs generalizing l with
  | nil => rfl
  | cons x xs ih =>
    cases hx : x.isWire with
    | true => rw [List.filter_cons_of_pos hx]; exact ih (l.carry x)
    | false =>
      have hsame : l.carry x = l := by
        cases x with
        | write _ _ | close => exact absurd hx (by simp [Effect.isWire])
        | _ => rfl
      rw [List.filter_cons_of_neg (by simp [hx]), List.foldl_cons, hsame]
      exact ih l

theorem still_closes (n : Nat) (l : Link) :
    l.Still ((List.replicate n Effect.close).foldl carry l) := by
  induction n generalizing l with
  | zero => exact .refl l
  | succ n ih => exact (still_close l).trans (ih l.close)

end Link

/-! ## The books of a world -/

namespace Effect

/-- Is a handshake written? -/
def isHandshake : Effect → Bool
  | .write (.handshake _) _ => true
  | _ => false

end Effect

namespace Store

/-- What an effect does to the storage. -/
def carry (store : Store) : Effect → Store
  | .store call (.ok _) => call.apply store
  | _ => store

/-- What effects do to a storage is what their calls to it do. -/
theorem foldl_carry (xs : List Effect) (store : Store) :
    xs.foldl carry store =
      (Effect.seen Effect.stored? xs).foldl
        (fun store made => carry store (.store made.1 made.2)) store := by
  induction xs generalizing store with
  | nil => rfl
  | cons x xs ih =>
    rw [List.foldl_cons, ih, Effect.seen_cons, List.foldl_append]
    cases x <;> rfl

end Store

namespace World

variable {w v : World} {input : Input} {m : Move}

/-- The key pairs that effects draw: one for each handshake, if keys are negotiated. -/
def drawn (w : World) (xs : List Effect) : Nat :=
  if w.engine.config.auth.keyExchange then xs.countP Effect.isHandshake else 0

theorem perform_eq (w : World) (x : Effect) : ∃ nonces later, w.perform x =
    { w with
      link := w.link.carry x
      store := w.store.carry x
      pairs := w.pairs + w.drawn [x]
      log := w.log ++ [⟨w.now, w.link.readiness, x⟩]
      nonces, later } := by
  have hnone : ∀ x, x.isHandshake = false → w.drawn [x] = 0 := by
    intro x hx
    unfold drawn
    split
    · rw [List.countP_cons_of_neg (by simp [hx])]; rfl
    · rfl
  cases x with
  | write message answer =>
    cases message with
    | envelope e =>
      rw [hnone _ rfl]
      cases answer <;> exact ⟨_, _, rfl⟩
    | handshake h =>
      unfold perform drawn
      dsimp only
      by_cases hk : w.engine.config.auth.keyExchange
      · rw [if_pos hk, if_pos (show (w.record _).engine.config.auth.keyExchange from hk)]
        cases answer <;> exact ⟨_, _, rfl⟩
      · rw [if_neg hk, if_neg (show ¬(w.record _).engine.config.auth.keyExchange from hk)]
        cases answer <;> exact ⟨_, _, rfl⟩
  | store call answer =>
    rw [hnone _ rfl]
    cases answer <;> exact ⟨_, _, rfl⟩
  | close | warnLater _ | phase _ | dial _ _ | host _ | warn _ | gaveUp _ _ | connectReply _ _
  | disconnectReply _ | snapshotReply _ _ => rw [hnone _ rfl]; exact ⟨_, _, rfl⟩

/-- **The world after effects**: they are recorded in order, and each is carried out in its place. -/
theorem foldl_perform_eq (xs : List Effect) (w : World) : ∃ nonces later log,
    xs.foldl perform w =
      { w with
        link := xs.foldl Link.carry w.link
        store := xs.foldl Store.carry w.store
        pairs := w.pairs + w.drawn xs
        log := w.log ++ log
        nonces, later } ∧ log.map Record.effect = xs := by
  induction xs generalizing w with
  | nil =>
    refine ⟨w.nonces, w.later, [], ?_, rfl⟩
    rw [List.append_nil, drawn]
    split <;> rfl
  | cons x xs ih =>
    obtain ⟨nonces, later, hx⟩ := perform_eq w x
    obtain ⟨nonces', later', log, hxs, hlog⟩ := ih (w.perform x)
    refine ⟨nonces', later', ⟨w.now, w.link.readiness, x⟩ :: log, ?_, by rw [List.map_cons, hlog]⟩
    have hdrawn : w.drawn (x :: xs) = w.drawn [x] + w.drawn xs := by
      unfold drawn
      split
      · exact @List.countP_append _ _ [x] xs
      · rfl
    have hrecord := List.append_cons w.log ⟨w.now, w.link.readiness, x⟩ log
    rw [List.foldl_cons, hxs, hx, hdrawn, hrecord, ← Nat.add_assoc]
    rfl

/-- **The world after a step.** -/
theorem feed_eq (w : World) (input : Input) : ∃ nonces later log,
    w.feed input =
      { w with
        engine := (w.engine.step w.surroundings input).engine
        link := (w.engine.step w.surroundings input).effects.foldl Link.carry
          (release w.engine.receiver (w.engine.step w.surroundings input).engine.receiver w.link)
        store := (w.engine.step w.surroundings input).effects.foldl Store.carry w.store
        pairs := w.pairs + drawn { w with engine := (w.engine.step w.surroundings input).engine }
          (w.engine.step w.surroundings input).effects
        log := w.log ++ log
        nonces, later } ∧
      log.map Record.effect = (w.engine.step w.surroundings input).effects :=
  foldl_perform_eq (w.engine.step w.surroundings input).effects
    { w with
      engine := (w.engine.step w.surroundings input).engine
      link := release w.engine.receiver (w.engine.step w.surroundings input).engine.receiver w.link }

/-! ## Moves -/

/-- What a world has before its client takes an input, compared with the world before the move. -/
structure Given (w v : World) (input : Input) : Prop where
  setup : v.setup = w.setup
  store : v.store = w.store
  pairs : v.pairs = w.pairs
  log : v.log = w.log
  frames : v.link.frames = w.link.frames
  peerPresent : v.link.peerPresent = w.link.peerPresent
  /-- Only the answer to a request for a connection comes with a new line. -/
  link : (∀ answer, input ≠ .dialed answer) →
    v.link.Still w.link ∧ v.link.feeding = w.link.feeding

theorem given_refl (w : World) (input : Input) : w.Given w input :=
  ⟨rfl, rfl, rfl, rfl, rfl, rfl, fun _ => ⟨.refl _, rfl⟩⟩

theorem given_of_fed (h : w.fed? m = some (v, input)) : w.Given v input := by
  cases m with
  | take =>
    unfold fed? at h
    dsimp only at h
    split at h
    · split at h
      · cases h; exact ⟨rfl, rfl, rfl, rfl, rfl, rfl, fun _ => ⟨.refl _, rfl⟩⟩
      · cases h
    · cases h
  | dial =>
    unfold fed? at h
    dsimp only at h
    split at h
    · split at h
      · cases h
        exact ⟨rfl, rfl, rfl, rfl, rfl, rfl, fun hi => absurd rfl (hi _)⟩
      · have hdial : (w.link.dial w.engine.config.url w.engine.config.subprotocol).1.frames =
              w.link.frames ∧
            (w.link.dial w.engine.config.url w.engine.config.subprotocol).1.peerPresent =
              w.link.peerPresent := by
          unfold Link.dial
          dsimp only
          split <;> exact ⟨rfl, rfl⟩
        cases h
        exact ⟨rfl, rfl, rfl, rfl, hdial.1, hdial.2, fun hi => absurd rfl (hi _)⟩
    · cases h
  | receive =>
    cases hr : w.engine.receiver with
    | none => simp only [fed?, hr] at h; cases h
    | some n =>
      have hstill := Link.still_receive w.link n
      rcases hl : w.link.receive n with ⟨link, s | _ | _⟩
      · rw [hl] at hstill
        simp only [fed?, hr, hl] at h
        cases h
        refine ⟨rfl, rfl, rfl, rfl, hstill.frames, hstill.peerPresent, fun _ => ⟨?_, ?_⟩⟩
        · exact ⟨hstill.attempts.symm, hstill.requests.symm, hstill.frames.symm, hstill.peerPresent.symm⟩
        · exact (Link.receive_signal hl).2.1
      · simp only [fed?, hr, hl] at h; cases h
      · simp only [fed?, hr, hl] at h
        cases h; exact given_refl w _
  | tick _ | reconnect => cases h; exact given_refl w _
  | stop =>
    unfold fed? at h
    dsimp only at h
    split at h
    · cases h; exact given_refl w _
    · cases h
  | call _ | start _ | arrive | drop | peer _ | close | wait _ | breakStore _ | deaden _
  | report => cases h

/-- What a move leaves as it is that gives the client no input. Reports that were put off are
    recorded. -/
structure Idle (w w' : World) (m : Move) : Prop where
  setup : w'.setup = w.setup
  store : w'.store = w.store
  pairs : w'.pairs = w.pairs
  log : ∃ notices : List Notice,
    w'.log.map Record.effect = w.log.map Record.effect ++ notices.map .warn
  still : m ≠ .peer .drop → w.link.Still w'.link
  /-- A peer that leaves forgets what it has seen. -/
  attempts : w'.link.attempts = w.link.attempts
  frames : w'.link.frames = w.link.frames ∨ w'.link.frames = []

theorem idle_of_log {w' : World} (hsetup : w'.setup = w.setup) (hstore : w'.store = w.store)
    (hpairs : w'.pairs = w.pairs) (hlog : w'.log = w.log) (hlink : w.link.Still w'.link) :
    w.Idle w' m :=
  ⟨hsetup, hstore, hpairs, ⟨[], by rw [hlog]; exact (List.append_nil _).symm⟩, fun _ => hlink,
    hlink.attempts, Or.inl hlink.frames⟩

theorem idle_refl (w : World) (m : Move) : w.Idle w m := idle_of_log rfl rfl rfl rfl (.refl _)

/-- **Moves that give the client no input.** -/
theorem idle_of_not_fed (h : w.fed? m = none) : w.Idle (w.act m) m := by
  cases m with
  | call c | start c =>
    unfold act
    dsimp only
    split <;> exact idle_of_log rfl rfl rfl rfl (.refl _)
  | arrive | drop | wait _ | breakStore _ | deaden _ => exact idle_of_log rfl rfl rfl rfl (.refl _)
  | close => exact idle_of_log rfl rfl rfl rfl (Link.still_close _)
  | peer a =>
    by_cases ha : a = .drop
    · subst ha
      have hdrop : (PeerAct.drop.apply w.link).1.attempts = w.link.attempts ∧
          ((PeerAct.drop.apply w.link).1.frames = w.link.frames ∨
            (PeerAct.drop.apply w.link).1.frames = []) := by
        unfold PeerAct.apply
        split
        · exact ⟨rfl, Or.inr rfl⟩
        · exact ⟨rfl, Or.inl rfl⟩
      exact ⟨rfl, rfl, rfl, ⟨[], (List.append_nil _).symm⟩, fun hne => absurd rfl hne, hdrop.1, hdrop.2⟩
    · exact idle_of_log rfl rfl rfl rfl (Link.still_apply _ ha)
  | report =>
    obtain ⟨log, hreport, hlog⟩ := report_eq w
    rw [act, hreport]
    refine ⟨rfl, rfl, rfl, ⟨w.later, ?_⟩, fun _ => .refl _, rfl, Or.inl rfl⟩
    rw [← hlog, ← List.map_append]
  | take | dial | receive | tick _ | reconnect | stop =>
    rw [act_eq_self rfl h]; exact idle_refl w _

/-- No move breaks the invariant of a client. -/
theorem sound_act (m : Move) (hs : w.engine.Sound) : (w.act m).engine.Sound := by
  cases hf : w.fed? m with
  | none => rw [(act_of_not_fed hf).1]; exact hs
  | some x => rw [engine_of_fed hf]; exact Engine.sound_step _ _ hs

end World
end Tether
