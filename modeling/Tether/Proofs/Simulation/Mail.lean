import Tether.Proofs.Engine.Ending
import Tether.Proofs.Signing.Tag
import Tether.Proofs.Simulation.Carry

/-!
# `Tether.Proofs.Simulation.Mail` — messages arrive in order, once, and in the right session

What the transport accepts of a client is compared with what happened to the client. Three things
count: a connection is handed over, an ack is accepted on it, and a message is submitted, by the host or
because a ping is due. `World.passages` lists them in the order in which they were processed, each
message with the phase and the readiness it met. From the list alone follow the **letters** that should
have gone out, with the ids of the ack on the same connection (`Passage.letters`).

* `Engine.Posted` — what one step has accepted, and what it counts;
* `Engine.Addressed` — the ids that an established session holds are those of the last ack;
* `World.Delivered` — both along a list of moves;
* `mailed_history` — so the frames accepted are those of the letters, one for one and in order.
-/

namespace Tether

namespace Outbound

/-- The envelope, if the message is no handshake. -/
def envelope? : Outbound → Option Envelope
  | .envelope e => some e
  | .handshake _ => none

end Outbound

namespace Effect

/-- The message that the transport accepted. -/
def accepted? : Effect → Option Outbound
  | .write message (.ok _) => some message
  | _ => none

end Effect

/-! ## What should go out -/

/-- What bears on the messages that a client sends. -/
inductive Passage where
  /-- The transport hands over a new connection. -/
  | attached (receiver : Nat)
  /-- An ack is accepted. -/
  | acked (ack : Ack)
  /-- A message is to be sent, in a phase and on a link in some readiness. -/
  | submitted (draft : Draft) (phase : Phase) (readiness : Readiness)

/-- A message that should go out, with the thread and the session of the connection's ack. -/
structure Letter where
  draft : Draft
  ids : Option (String × String)

namespace Passage

/-- The ids of the connection at hand, after one passage more. -/
def ids (sofar : Option (String × String)) : Passage → Option (String × String)
  | .attached _ => none
  | .acked ack => some (ack.threadId, ack.sessionId)
  | .submitted _ _ _ => sofar

/-- The letter that a passage is: a message submitted in an established session on an open link. -/
def letter? (ids : Option (String × String)) : Passage → Option Letter
  | .submitted draft phase readiness =>
    if phase = .established ∧ readiness = .opened then some ⟨draft, ids⟩ else none
  | _ => none

/-- The letters of passages, in order, from the ids of the connection at hand. -/
def letters (sofar : Option (String × String)) : List Passage → List Letter
  | [] => []
  | p :: rest => (p.letter? sofar).toList ++ letters (p.ids sofar) rest

end Passage

namespace Draft

/-- The metadata of a draft, in which a client is named. -/
def attribution (clientId : String) (draft : Draft) : Meta :=
  { draft.info.getD {} with clientId := (draft.info.getD {}).clientId.or clientId }

end Draft

/-- An envelope carries a letter: its type, payload, encoding and metadata, in which at most the client
    is filled in, and the ids of its connection's ack. -/
structure Letter.CarriedBy (clientId : String) (letter : Letter) (envelope : Envelope) : Prop where
  kind : envelope.kind = letter.draft.kind
  payload : envelope.payload = letter.draft.payload
  encoding : envelope.encoding = letter.draft.encoding
  info : envelope.info = some (letter.draft.attribution clientId)
  ids : ∃ threadId sessionId, letter.ids = some (threadId, sessionId) ∧
    envelope.threadId = some threadId ∧ envelope.sessionId = some sessionId

namespace Engine

open Effect (seen accepted?)

variable {e : Engine} {s : Surroundings} {input : Input} {ids : Option (String × String)}

/-! ## What one step posts -/

namespace Outcome

/-- The messages that the transport accepted, in order. -/
def accepted (o : Outcome) : List Outbound := seen accepted? o.effects

/-- The envelopes among them. -/
def posted (o : Outcome) : List Envelope := o.accepted.filterMap Outbound.envelope?

theorem accepted_andThen (o : Outcome) (f : Engine → Outcome) :
    (o.andThen f).accepted = o.accepted ++ (f o.engine).accepted := Effect.seen_append ..

/-- Only what reaches the transport is accepted. -/
theorem accepted_eq_wire (o : Outcome) : o.accepted = seen accepted? o.wire := by
  have hsame : (fun x => if x.isWire = true then accepted? x else none) = accepted? := by
    funext x
    cases x with
    | write _ _ => rfl
    | _ => rfl
  rw [accepted, wire, seen, seen, List.filterMap_filter, hsame]

/-- Envelopes are about messages within a session. -/
theorem posted_of_traffic {o : Outcome} (h : o.traffic = []) : o.posted = [] := by
  refine List.filterMap_eq_nil_iff.mpr fun message hmem => ?_
  obtain ⟨x, hx, hacc⟩ := List.mem_filterMap.mp hmem
  cases x with
  | write m answer =>
    cases answer with
    | ok _ =>
      obtain rfl : m = message := Option.some.inj hacc
      cases m with
      | handshake _ => rfl
      | envelope envelope =>
        have htraffic : Effect.write (.envelope envelope) (.ok _) ∈ o.traffic :=
          List.mem_filter.mpr ⟨hx, rfl⟩
        rw [h] at htraffic
        exact absurd htraffic List.not_mem_nil
    | error _ => cases hacc
  | _ => cases hacc

end Outcome

/-- What a step posts, and what it counts. -/
inductive Posted (s : Surroundings) (input : Input) (e : Engine) (o : Outcome) : Prop where
  /-- A message is submitted in a session, and the transport takes it. -/
  | one {draft : Draft} (draft? : e.draft? s.now input = some draft) (phase : e.phase = .established)
      (answer : s.write = .ok ()) (posted : o.posted = [e.sealed s draft])
      (sent : o.engine.session.sent = e.session.sent + 1) : Posted s input e o
  /-- Nothing is submitted, or nothing can be sent. -/
  | none (idle : ∀ draft, e.draft? s.now input = some draft →
        ¬(e.phase = .established ∧ s.write = .ok ()))
      (posted : o.posted = []) (sent : o.engine.session.sent = e.session.sent) : Posted s input e o

/-- Warnings are not accepted by the transport. -/
theorem accepted_warnings (notices : List Notice) : seen accepted? (notices.map .warn) = [] := by
  refine List.filterMap_eq_nil_iff.mpr fun x hx => ?_
  obtain ⟨notice, _, rfl⟩ := List.mem_map.mp hx
  rfl

theorem posted_of_submitted {draft : Draft} {o : Outcome} (hd : e.draft? s.now input = some draft)
    (h : Submitted s draft e o) : Posted s input e o := by
  cases h with
  | posted phase answer engine effects =>
    obtain ⟨_, he⟩ := engine
    obtain ⟨before, after, hx⟩ := effects
    refine .one hd phase answer ?_ (by rw [he]; rfl)
    rw [Outcome.posted, Outcome.accepted, hx, Effect.seen_append, Effect.seen_cons,
      accepted_warnings, accepted_warnings]
    rfl
  | refused _ answer engine effects =>
    obtain ⟨_, he⟩ := engine
    obtain ⟨before, after, hx⟩ := effects
    refine .none (fun _ _ h => ?_) ?_ (by rw [he])
    · rw [answer] at h; exact absurd h.2 (by simp)
    · rw [Outcome.posted, Outcome.accepted, hx, Effect.seen_append, Effect.seen_cons,
        accepted_warnings, accepted_warnings]
      rfl
  | dropped phase engine effects =>
    obtain ⟨_, he⟩ := engine
    refine .none (fun _ _ h => phase h.1) ?_ (by rw [he])
    rw [Outcome.posted, Outcome.accepted, effects]; rfl

/-- **What one step posts**: an envelope for a message that it submits in a session, and else none. -/
theorem step_posted (s : Surroundings) (input : Input) : Posted s input e (e.step s input) := by
  cases hd : e.draft? s.now input with
  | some draft => exact posted_of_submitted hd (step_of_draft hd)
  | none =>
    have hidle : ∀ draft, e.draft? s.now input = some draft →
        ¬(e.phase = .established ∧ s.write = .ok ()) := by
      intro draft h
      rw [hd] at h; cases h
    cases ht : e.taken? input with
    | none =>
      have hm := step_mute s hd ht
      exact .none hidle (Outcome.posted_of_traffic hm.traffic) (Prod.mk.inj hm.counters).1
    | some envelope =>
      obtain ⟨frame, _, _, hstep⟩ := step_of_taken s ht
      obtain ⟨hwire, hsent⟩ := received_spec s envelope e
      refine .none hidle ?_ (by rw [hstep]; exact hsent)
      have haccepted : (e.step s input).accepted = (e.received s envelope).accepted := by
        rw [hstep, Outcome.accepted_andThen]; rfl
      rw [Outcome.posted, haccepted, Outcome.accepted_eq_wire, hwire]; rfl

/-! ## The ids of a session -/

/-- An established session holds the ids given. -/
def Addressed (ids : Option (String × String)) (e : Engine) : Prop :=
  e.phase = .established → ∃ threadId sessionId, ids = some (threadId, sessionId) ∧
    e.session.threadId = some threadId ∧ e.session.sessionId = some sessionId

/-- The passage of a turn. -/
def Turn.passage? : Turn → Option Passage
  | .attach receiver => some (.attached receiver)
  | .accept ack => some (.acked ack)
  | _ => none

/-- The ids of the connection at hand after a turn. -/
def Turn.idsAfter (sofar : Option (String × String)) (t : Turn) : Option (String × String) :=
  (t.passage?.map (Passage.ids sofar)).getD sofar

theorem addressed_of_ne (h : e.phase ≠ .established) : e.Addressed ids := fun hp => absurd hp h

/-- **A step keeps a session addressed**: its ids come with the ack, and an established client is given
    no other connection. -/
theorem addressed_step (s : Surroundings) (input : Input) (h : e.Sound) (ha : e.Addressed ids) :
    Addressed ((e.turn s.now input).idsAfter ids) (e.step s input).engine := by
  have hstep := step_stepped s input e
  generalize e.turn s.now input = t at hstep
  cases hstep with
  | passing _ passes =>
    obtain ⟨⟨_, _, _, he⟩, _⟩ := passes
    rw [he]; exact ha
  | greet _ _ engine _ | join _ _ engine _ | alarm _ _ engine _ => rw [engine]; exact ha
  | attach _ dialing engine _ =>
    refine addressed_of_ne fun hp => ?_
    rw [engine] at hp
    exact absurd ((h.wired.of_established hp).1.symm.trans dialing) Bool.false_ne_true
  | accept _ _ _ _ engine _ =>
    intro _
    obtain ⟨hthread, hsession⟩ := ids_grantedSession s _ e
    rw [engine]
    exact ⟨_, _, rfl, hthread, hsession⟩
  | depart _ _ engine _ | redial _ _ engine _ | refuse _ _ _ _ _ engine _ =>
    exact addressed_of_ne (by rw [engine]; simp [departed])
  | leave _ engine _ =>
    obtain ⟨_, he⟩ := engine
    exact addressed_of_ne (by rw [he]; simp)
  | offer _ receiver phase engine _ =>
    refine addressed_of_ne ?_
    rw [engine]; exact not_established_sendHandshake h receiver (by rw [phase]; simp)
  | fallBack _ _ receiver phase _ engine _ =>
    have hne : e.phase ≠ .established := by rw [phase]; simp
    refine addressed_of_ne ?_
    rw [engine]; exact not_established_sendHandshake (h.fallenBack hne) receiver hne
  | lose live engine _ =>
    refine addressed_of_ne ?_
    rw [engine]; exact (h.timed.lost (h.wired.expected live) s.now _).not_established

/-- What an addressed session would write for a draft carries it, with those ids. -/
theorem carriedBy_sealed (s : Surroundings) (draft : Draft) (ha : e.Addressed ids)
    (hp : e.phase = .established) :
    Letter.CarriedBy e.config.clientId ⟨draft, ids⟩ (e.sealed s draft) := by
  obtain ⟨threadId, sessionId, hids, hthread, hsession⟩ := ha hp
  obtain ⟨text, hsign⟩ := Signer.sign_eq e.signer s.provider s.unixMillis s.nonce e.session.macKey
    (e.address s.unixMillis draft)
  rw [sealed, hsign]
  exact ⟨rfl, rfl, rfl, rfl, threadId, sessionId, hids, hthread, hsession⟩

/-- An input that submits a message concerns no connection. -/
theorem turn_of_draft {now : Nat} {draft : Draft} (h : e.draft? now input = some draft) :
    e.turn now input = .passing := by
  unfold turn
  split
  · unfold draft? at h
    split at h
    · rfl
    · rfl
    · cases h
  · rfl

end Engine

namespace World

open Engine (Sound Addressed History)

variable {w v : World} {input : Input} {m : Move} {ids : Option (String × String)}

/-! ## Passages of a world -/

/-- The passage of an input, in the world in which the client takes it. -/
def passage? (v : World) (input : Input) : Option Passage :=
  match v.engine.draft? v.now input with
  | some draft => some (.submitted draft v.engine.phase v.link.readiness)
  | none => (v.engine.turn v.now input).passage?

/-- The passages of moves, in the order in which the client processes them. -/
def passages : World → List Move → List Passage
  | _, [] => []
  | w, m :: rest =>
    ((w.fed? m).bind fun x => x.1.passage? x.2).toList ++ passages (w.act m) rest

/-- The messages that the transport accepts over moves, in order. -/
def accepted (w : World) (moves : List Move) : List Outbound :=
  (Engine.run (w.trace moves) w.engine).accepted

theorem accepted_of_not_fed {rest : List Move} (h : w.fed? m = none) :
    w.accepted (m :: rest) = (w.act m).accepted rest := by
  rw [accepted, trace, h, accepted, (act_of_not_fed h).1]; rfl

theorem accepted_of_fed {rest : List Move} (h : w.fed? m = some (v, input)) :
    w.accepted (m :: rest) =
      (v.engine.step v.surroundings input).accepted ++ (w.act m).accepted rest := by
  rw [accepted, trace, h, accepted, engine_of_fed h, (act_of_fed h).2.1]
  exact Engine.Outcome.accepted_andThen ..

/-- What a step writes is taken by a link that gives the transport's answer. -/
theorem frames_carry {s : Surroundings} {o : Engine.Outcome} {l : Link} (ht : Engine.Transmits s o)
    (hs : s.write = l.sendAnswer) :
    (o.effects.foldl Link.carry l).frames = l.frames ++ o.accepted.map Outbound.frame ∧
      (o.effects.foldl Link.carry l).peerPresent = l.peerPresent := by
  rw [← Link.foldl_carry_filter, Engine.Outcome.accepted_eq_wire]
  show (o.wire.foldl Link.carry l).frames = _ ∧ (o.wire.foldl Link.carry l).peerPresent = _
  have hnone : ∀ n, Effect.seen Effect.accepted? (List.replicate n Effect.close) = [] := by
    intro n
    refine List.filterMap_eq_nil_iff.mpr fun x hx => ?_
    rw [List.eq_of_mem_replicate hx]; rfl
  cases ht with
  | closes n wire =>
    have hstill := Link.still_closes n l
    rw [wire, hnone]
    exact ⟨hstill.frames.trans (List.append_nil _).symm, hstill.peerPresent⟩
  | writes message n wire =>
    rw [wire, Effect.seen_cons, hnone, List.foldl_cons, hs]
    cases hans : l.sendAnswer with
    | ok _ =>
      have hcarry : l.carry (.write message (.ok ())) =
          { l with frames := l.frames ++ [message.frame] } := Link.send_of_ok message.frame hans
      have hstill := Link.still_closes n { l with frames := l.frames ++ [message.frame] }
      rw [hcarry]
      exact ⟨hstill.frames, hstill.peerPresent⟩
    | error error =>
      have hstill := Link.still_closes n l
      exact ⟨hstill.frames.trans (List.append_nil _).symm, hstill.peerPresent⟩

/-- A step writes on the link what it has accepted, and nothing else. -/
theorem frames_feed (v : World) (input : Input) (h : v.engine.Sound) :
    (v.feed input).link.frames = v.link.frames ++
        (v.engine.step v.surroundings input).accepted.map Outbound.frame ∧
      (v.feed input).link.peerPresent = v.link.peerPresent := by
  obtain ⟨_, _, _, heq, _⟩ := feed_eq v input
  have hreleased := Link.still_release v.engine.receiver
    (v.engine.step v.surroundings input).engine.receiver v.link
  -- giving up a receiver changes no answer of the link
  obtain ⟨hframes, hpeer⟩ := frames_carry (Engine.wire_step v.surroundings input h)
    (Link.sendAnswer_release v.engine.receiver
      (v.engine.step v.surroundings input).engine.receiver v.link).symm
  rw [heq]
  exact ⟨hreleased.frames ▸ hframes, hpeer.trans hreleased.peerPresent⟩

/-! ## Moves -/

/-- The letters that go out, and the ids they leave, with one input more. -/
theorem letters_passage (ids : Option (String × String)) (v : World) (input : Input)
    (rest : List Passage) :
    Passage.letters ids ((v.passage? input).toList ++ rest) =
      ((v.passage? input).bind (Passage.letter? ids)).toList ++
        Passage.letters ((v.engine.turn v.now input).idsAfter ids) rest := by
  unfold passage?
  cases hd : v.engine.draft? v.now input with
  | some draft => rw [Engine.turn_of_draft hd]; rfl
  | none =>
    dsimp only
    unfold Engine.Turn.idsAfter
    cases hp : (v.engine.turn v.now input).passage? with
    | none => rfl
    | some p => rfl

/-- A step posts an envelope for the letter of its input, if it is one, and else none. -/
theorem carried_feed (v : World) (input : Input) (ha : v.engine.Addressed ids)
    (hp : v.link.peerPresent = true) :
    List.Forall₂ (Letter.CarriedBy v.engine.config.clientId)
        ((v.passage? input).bind (Passage.letter? ids)).toList
        (v.engine.step v.surroundings input).posted ∧
      (v.feed input).engine.session.sent =
        v.engine.session.sent + (v.engine.step v.surroundings input).posted.length := by
  have hopen : v.surroundings.write = .ok () ↔ v.link.readiness = .opened :=
    Link.sendAnswer_of_present hp
  rw [engine_feed]
  cases Engine.step_posted (e := v.engine) v.surroundings input with
  | @one draft hd phase answer posted sent =>
    have hletter : (v.passage? input).bind (Passage.letter? ids) = some ⟨draft, ids⟩ := by
      unfold passage?
      rw [show v.engine.draft? v.now input = some draft from hd]
      exact if_pos ⟨phase, hopen.mp answer⟩
    rw [hletter, posted, sent]
    exact ⟨.cons (Engine.carriedBy_sealed _ _ ha phase) .nil, rfl⟩
  | none idle posted sent =>
    have hletter : (v.passage? input).bind (Passage.letter? ids) = none := by
      unfold passage?
      cases hd : v.engine.draft? v.now input with
      | some draft =>
        refine if_neg fun h => idle draft hd ⟨h.1, hopen.mpr h.2⟩
      | none =>
        dsimp only
        unfold Engine.Turn.passage?
        split <;> rfl
    rw [hletter, posted, sent]
    exact ⟨.nil, rfl⟩

/-- What moves deliver, from a world whose connection at hand has the ids given. -/
structure Delivered (ids : Option (String × String)) (w : World) (moves : List Move) : Prop where
  frames : (w.history moves).link.frames = w.link.frames ++ (w.accepted moves).map Outbound.frame
  envelopes : List.Forall₂ (Letter.CarriedBy w.engine.config.clientId)
    (Passage.letters ids (w.passages moves)) ((w.accepted moves).filterMap Outbound.envelope?)
  sent : (w.history moves).engine.session.sent =
    w.engine.session.sent + ((w.accepted moves).filterMap Outbound.envelope?).length

/-- A move that gives the client no input adds no passage, and nothing to deliver. -/
theorem delivered_of_not_fed {rest : List Move} (hf : w.fed? m = none) (hm : m ≠ .peer .drop)
    (h : Delivered ids (w.act m) rest) : Delivered ids w (m :: rest) := by
  have he := (act_of_not_fed hf).1
  have hstill := (idle_of_not_fed hf).still hm
  have hpassages : w.passages (m :: rest) = (w.act m).passages rest := by
    rw [passages, hf]; rfl
  refine ⟨?_, ?_, ?_⟩
  · rw [accepted_of_not_fed hf, ← hstill.frames]; exact h.frames
  · rw [accepted_of_not_fed hf, hpassages, ← he]; exact h.envelopes
  · rw [accepted_of_not_fed hf, ← he]; exact h.sent

/-- The letter of an input is delivered in its step, before those of what follows. -/
theorem delivered_of_fed {rest : List Move} (hf : w.fed? m = some (v, input))
    (hs : v.engine.Sound) (ha : v.engine.Addressed ids) (hp : v.link.peerPresent = true)
    (h : Delivered ((v.engine.turn v.now input).idsAfter ids) (w.act m) rest) :
    Delivered ids w (m :: rest) := by
  obtain ⟨hact, he, _⟩ := act_of_fed hf
  have hframe := (frames_feed v input hs).1
  obtain ⟨hcarried, hcount⟩ := carried_feed v input ha hp
  have hconfig : (w.act m).engine.config = w.engine.config := by
    rw [hact, engine_feed, Engine.config_step _ _ hs, he]
  have hpassages : w.passages (m :: rest) =
      (v.passage? input).toList ++ (w.act m).passages rest := by
    rw [passages, hf]; rfl
  have hposted : (w.accepted (m :: rest)).filterMap Outbound.envelope? =
      (v.engine.step v.surroundings input).posted ++
        ((w.act m).accepted rest).filterMap Outbound.envelope? := by
    rw [accepted_of_fed hf, List.filterMap_append]; rfl
  refine ⟨?_, ?_, ?_⟩
  · calc (w.history (m :: rest)).link.frames
        = (w.act m).link.frames ++ ((w.act m).accepted rest).map Outbound.frame := h.frames
      _ = (w.link.frames ++ (v.engine.step v.surroundings input).accepted.map Outbound.frame) ++
            ((w.act m).accepted rest).map Outbound.frame := by
          rw [hact, hframe, (given_of_fed hf).frames]
      _ = w.link.frames ++ (w.accepted (m :: rest)).map Outbound.frame := by
          rw [accepted_of_fed hf, List.map_append, List.append_assoc]
  · rw [hpassages, letters_passage, hposted]
    exact List.rel_append (he ▸ hcarried) (hconfig ▸ h.envelopes)
  · calc (w.history (m :: rest)).engine.session.sent
        = (w.act m).engine.session.sent +
            (((w.act m).accepted rest).filterMap Outbound.envelope?).length := h.sent
      _ = (w.engine.session.sent + (v.engine.step v.surroundings input).posted.length) +
            (((w.act m).accepted rest).filterMap Outbound.envelope?).length := by
          rw [hact, hcount, he]
      _ = w.engine.session.sent +
            ((w.accepted (m :: rest)).filterMap Outbound.envelope?).length := by
          rw [hposted, List.length_append, Nat.add_assoc]

/-- **Every list of moves delivers the letters of its passages**, as long as the peer is there. -/
theorem delivered_history (moves : List Move) (hs : w.engine.Sound) (ha : w.engine.Addressed ids)
    (hp : w.link.peerPresent = true) (hm : ∀ m ∈ moves, m ≠ .peer .drop) :
    Delivered ids w moves := by
  induction moves generalizing w ids with
  | nil => exact ⟨(List.append_nil _).symm, .nil, rfl⟩
  | cons m rest ih =>
    obtain ⟨hfirst, hrest⟩ := List.forall_mem_cons.mp hm
    cases hf : w.fed? m with
    | none =>
      have he := (act_of_not_fed hf).1
      have hpresent := ((idle_of_not_fed hf).still hfirst).peerPresent.trans hp
      exact delivered_of_not_fed hf hfirst (ih (he ▸ hs) (he ▸ ha) hpresent hrest)
    | some x =>
      obtain ⟨v, input⟩ := x
      obtain ⟨hact, he, _⟩ := act_of_fed hf
      have hv : v.engine.Sound := he ▸ hs
      have hav : v.engine.Addressed ids := he ▸ ha
      have hpv : v.link.peerPresent = true := (given_of_fed hf).peerPresent.trans hp
      -- the step leaves the ids of its own passage to the moves that follow
      have haddressed : (w.act m).engine.Addressed ((v.engine.turn v.now input).idsAfter ids) := by
        rw [hact, engine_feed]; exact Engine.addressed_step v.surroundings input hv hav
      have hpresent : (w.act m).link.peerPresent = true := by
        rw [hact, (frames_feed v input hv).2]; exact hpv
      exact delivered_of_fed hf hv hav hpv (ih (sound_act m hs) haddressed hpresent hrest)

/-! ## A new client -/

/-- What a client of a configuration has sent after moves. -/
structure Mailed (config : Config) (w : World) (moves : List Move) : Prop where
  /-- The link holds the frames that were accepted, in order. -/
  frames : (w.history moves).link.frames = (w.accepted moves).map Outbound.frame
  /-- The envelopes among them carry the messages submitted in an established session on an open link,
      one for one and in the order in which they were processed, each with the ids of the ack that was
      accepted on the same connection. Other messages were never written. -/
  envelopes : List.Forall₂ (Letter.CarriedBy config.clientId)
    (Passage.letters none (w.passages moves)) ((w.accepted moves).filterMap Outbound.envelope?)
  /-- The client counts just those envelopes, and no handshakes. -/
  sent : (w.history moves).engine.session.sent =
    ((w.accepted moves).filterMap Outbound.envelope?).length

end World
end Tether
