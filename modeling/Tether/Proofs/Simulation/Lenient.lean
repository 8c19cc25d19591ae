import Tether.Proofs.Engine.Phases
import Tether.Proofs.Engine.Verdicts
import Tether.Proofs.Message.Resealed
import Tether.Proofs.Simulation.Carry

/-!
# `Tether.Proofs.Simulation.Lenient` — lenient verification looks at no signature

Under lenient verification every envelope is delivered as it arrives, whatever its signature. The
verdict on it leads to a line in the log and to nothing else.

* `heard_run` — the host hears of every frame of a connection at hand, in order: its text, and then the
  payload of the envelope in it;
* `Twin` — two steps of a history that differ in the seal of an envelope at most;
* `Matched` — two outcomes that differ in the secret, in the text of frames, in the envelopes that are
  written and in the log;
* `matched_run` — twin histories match under any two secrets, step by step;
* `lenient_run` — both, over every history.
-/

namespace Tether

namespace Effect

/-- All but the text of frames, the envelopes that are written, and warnings. -/
def overt? : Effect → Option Effect
  | .host (.message _) | .write (.envelope _) _ | .warn _ | .warnLater _ => none
  | x => some x

/-- A callback of the host, but for the text of a frame. -/
def callback? : Effect → Option HostEvent
  | .host (.message _) => none
  | .host event => some event
  | _ => none

/-- A view that ignores what is not overt sees the same wherever overt effects are the same. -/
theorem seen_of_overt {β : Type} {view : Effect → Option β} {xs ys : List Effect}
    (h : seen overt? ys = seen overt? xs) (hv : ∀ x, overt? x = none → view x = none) :
    seen view ys = seen view xs := by
  have hkeep : ∀ x y, overt? x = some y → y = x := by
    intro x y hy
    unfold overt? at hy
    split at hy <;> cases hy
    rfl
  rw [← seen_kept hkeep hv, h, seen_kept hkeep hv]

end Effect

namespace Envelope

/-- The callback for an envelope, if the host has one for its kind. -/
def callback? (e : Envelope) : Option HostEvent :=
  match e.kind with
  | .pong => some .pong
  | .stateUpdate => some (.stateUpdate e.payload)
  | .event => some (.event e.payload)
  | .error => some (.error e.payload)
  | _ => none

@[simp] theorem kind_unsealed (e : Envelope) : e.unsealed.kind = e.kind := rfl

@[simp] theorem callback?_unsealed (e : Envelope) : e.unsealed.callback? = e.callback? := rfl

end Envelope

namespace Engine

open Effect (seen stored? heard? overt? callback? phase? request?)

variable {e : Engine} {s : Surroundings} {input : Input} {secret : Option String}

/-! ## Delivery -/

/-- An envelope is counted and delivered. -/
structure Delivered (envelope : Envelope) (e : Engine) (o : Outcome) : Prop where
  engine : o.engine =
    { e with
      session := e.session.countReceived
      heartbeat := if envelope.kind = .pong then e.heartbeat.pong else e.heartbeat }
  heard : seen heard? o.effects = envelope.callback?.toList
  overt : seen overt? o.effects = envelope.callback?.toList.map .host

/-- **Lenient verification delivers every envelope**, whatever the signer says of it. -/
theorem delivered_received (s : Surroundings) (envelope : Envelope)
    (hlenient : e.config.auth.verification = .lenient) :
    Delivered envelope e (e.received s envelope) := by
  unfold received
  dsimp only
  by_cases hpong : envelope.kind = .pong
  · rw [if_pos hpong]
    refine ⟨?_, ?_, ?_⟩
    · rw [if_pos hpong]; rfl
    · rw [Envelope.callback?, hpong]; rfl
    · rw [Envelope.callback?, hpong]; rfl
  · rw [if_neg hpong]
    have hheard : seen heard? (delivery envelope) = envelope.callback?.toList := by
      unfold delivery Envelope.callback?
      cases hkind : envelope.kind <;> first | rfl | exact absurd hkind hpong
    have hovert : seen overt? (delivery envelope) = envelope.callback?.toList.map .host := by
      unfold delivery Envelope.callback?
      cases hkind : envelope.kind <;> first | rfl | exact absurd hkind hpong
    -- the verdict of the signer decides on the line in the log alone, which no view sees
    unfold checked
    dsimp only
    rw [hlenient]
    dsimp only
    refine ⟨?_, ?_, ?_⟩
    · rw [if_neg hpong]; rfl
    · show seen heard? (delivery envelope ++ _) = _
      rw [Effect.seen_append, hheard]
      split <;> exact List.append_nil _
    · show seen overt? (delivery envelope ++ _) = _
      rw [Effect.seen_append, hovert]
      split <;> exact List.append_nil _

/-! ## What the host hears -/

/-- What the host hears of a frame: its text, and what is delivered of the envelope in it. -/
def told (frame : String) : List HostEvent :=
  .message frame ::
    match Inbound.parse frame with
    | .ok (.envelope envelope) => envelope.callback?.toList
    | _ => []

/-- The frame that an input brings to a connection at hand. -/
def frame? (input : Input) (e : Engine) : Option String :=
  match input with
  | .signal (.message frame) => if e.running ∧ e.receiver.isSome then some frame else none
  | _ => none

/-- The frames that a history brings to the connections at hand. -/
def frames : History → Engine → List String
  | [], _ => []
  | (s, input) :: rest, e => (e.frame? input).toList ++ frames rest (e.step s input).engine

/-- A lenient client hears of every frame what stands in it. -/
theorem heard_framed (s : Surroundings) (frame : String)
    (hlenient : e.config.auth.verification = .lenient) :
    seen heard? (e.framed s frame).effects = told frame := by
  rw [framed_eq, Effect.seen_cons]
  refine congrArg (HostEvent.message frame :: ·) ?_
  by_cases hm : ∃ envelope, Inbound.parse frame = .ok (.envelope envelope)
  · obtain ⟨envelope, hm⟩ := hm
    rw [answered, hm]
    exact (delivered_received s envelope hlenient).heard
  · have hanswered : Alike none _ (e.answered s frame) _ :=
      alike_answered s e fun envelope h => hm ⟨envelope, h⟩
    rw [hanswered.unheard]
    split
    · exact absurd ⟨_, ‹_›⟩ hm
    · rfl

/-- Over a step it hears of the frame that came, and of nothing else. -/
theorem heard_step (s : Surroundings) (input : Input)
    (hlenient : e.config.auth.verification = .lenient) :
    seen heard? (e.step s input).effects = (e.frame? input).toList.flatMap told := by
  by_cases hf : ∃ frame, input = .signal (.message frame)
  · obtain ⟨frame, rfl⟩ := hf
    rw [step_frame, frame?]
    split
    · rw [heard_framed s frame hlenient]
      exact (List.append_nil _).symm
    · rfl
  · have hf' : ∀ frame, input ≠ .signal (.message frame) := fun frame h => hf ⟨frame, h⟩
    have hnone : e.frame? input = none := by
      unfold frame?
      split
      · exact absurd rfl (hf' _)
      · rfl
    rw [hnone]
    -- what brings no frame sends a message or is routine
    cases hd : e.draft? s.now input with
    | some draft => exact (step_of_draft hd).unseen (fun _ => rfl) fun _ _ => rfl
    | none =>
      have hroutine : Routine none (e.step s input) _ := step_routine s hd hf'
      exact hroutine.unheard

theorem verification_step (s : Surroundings) (input : Input) (h : e.Sound) :
    (e.step s input).engine.config.auth.verification = e.config.auth.verification := by
  rw [config_step s input h]

/-- **The host hears of every frame**, in the order in which they come. -/
theorem heard_run (history : History) (h : e.Sound)
    (hlenient : e.config.auth.verification = .lenient) :
    seen heard? (run history e).effects = (frames history e).flatMap told := by
  induction history generalizing e with
  | nil => rfl
  | cons head rest ih =>
    obtain ⟨s, input⟩ := head
    have hnext := (verification_step s input h).trans hlenient
    rw [run, Outcome.andThen, Effect.seen_append, heard_step s input hlenient,
      ih (sound_step s input h) hnext, frames, List.flatMap_append]

/-- No envelope is a failure. -/
theorem failures_step_of_lenient (s : Surroundings) (input : Input)
    (hlenient : e.config.auth.verification = .lenient) :
    (e.step s input).engine.session.verificationFailures = e.session.verificationFailures := by
  cases ht : e.taken? input with
  | none => exact (step_of_not_taken s ht).2.2
  | some envelope =>
    obtain ⟨frame, _, _, hstep⟩ := step_of_taken s ht
    rw [hstep]
    show (e.received s envelope).engine.session.verificationFailures = _
    rw [(delivered_received s envelope hlenient).engine]; rfl

/-- A lenient client counts no failures. -/
theorem failures_run_of_lenient (history : History) (h : e.Sound)
    (hlenient : e.config.auth.verification = .lenient) :
    (run history e).engine.session.verificationFailures = e.session.verificationFailures := by
  induction history generalizing e with
  | nil => rfl
  | cons head rest ih =>
    obtain ⟨s, input⟩ := head
    have hnext := (verification_step s input h).trans hlenient
    exact (ih (sound_step s input h) hnext).trans (failures_step_of_lenient s input hlenient)

/-! ## Twins -/

/-- Two steps of a history differ in the nonce that is drawn and, if they bring a frame, in the seal of
    the envelope in it. -/
inductive Twin : Surroundings × Input → Surroundings × Input → Prop where
  | same (s : Surroundings) (nonce : Bytes) (input : Input) : Twin (s, input) ({ s with nonce }, input)
  | resealed (s : Surroundings) (nonce : Bytes) {f g : String} (h : Envelope.Resealed f g) :
      Twin (s, .signal (.message f)) ({ s with nonce }, .signal (.message g))

/-- Two outcomes are the same but for the secret, and have the same overt effects. -/
structure Matched (secret : Option String) (o o' : Outcome) : Prop where
  engine : o'.engine = o.engine.withSecret secret
  overt : seen overt? o'.effects = seen overt? o.effects

theorem Alike.matched {calls : List (StoreCall × Except Error Unit)} {o o' : Outcome}
    (h : Alike secret calls o o') : Matched secret o o' := by
  obtain ⟨rfl, _, _⟩ := h
  exact ⟨rfl, rfl⟩

/-- Handlers that match one by one match in a row. -/
theorem Matched.andThen {o o' : Outcome} {f f' : Engine → Outcome} (h : Matched secret o o')
    (hf : Matched secret (f o.engine) (f' (o.engine.withSecret secret))) :
    Matched secret (o.andThen f) (o'.andThen f') := by
  unfold Outcome.andThen
  rw [h.engine]
  refine ⟨hf.engine, ?_⟩
  dsimp only
  rw [Effect.seen_append, Effect.seen_append, h.overt, hf.overt]

/-! ### Messages that are sent -/

/-- Neither the secret nor the nonce has a part in what sending a message makes of the client. -/
theorem engine_send_twin (s : Surroundings) (nonce : Bytes) (draft : Draft) (e : Engine) :
    ((e.withSecret secret).send { s with nonce } draft).engine =
      (e.send s draft).engine.withSecret secret := by
  unfold send
  have hphase : (e.withSecret secret).phase = e.phase := rfl
  rw [hphase]
  by_cases hp : e.phase.isEstablished
  · rw [if_pos hp, if_pos hp]
    -- whether the signer has a fault or not, only the answer of the transport counts
    rcases e.signer.sign s.provider s.unixMillis s.nonce e.session.macKey
      (e.address s.unixMillis draft) with ⟨envelope, fault⟩
    rcases (e.withSecret secret).signer.sign s.provider s.unixMillis nonce
      (e.withSecret secret).session.macKey ((e.withSecret secret).address s.unixMillis draft)
      with ⟨envelope', fault'⟩
    dsimp only
    cases s.write <;> cases fault <;> cases fault' <;> rfl
  · rw [if_neg hp, if_neg hp]; rfl

theorem engine_pingDue_twin (s : Surroundings) (nonce : Bytes) (e : Engine) :
    ((e.withSecret secret).pingDue { s with nonce }).engine =
      (e.pingDue s).engine.withSecret secret := by
  have hping : ∀ (s : Surroundings) (e : Engine), (e.pingDue s).engine =
      { (e.send s .ping).engine with
        heartbeat := (e.send s .ping).engine.heartbeat.pingSent s.now } := fun _ _ => rfl
  rw [hping, hping, engine_send_twin]
  rfl

theorem engine_step_of_draft {draft : Draft} (nonce : Bytes)
    (hd : e.draft? s.now input = some draft) :
    ((e.withSecret secret).step { s with nonce } input).engine =
      (e.step s input).engine.withSecret secret := by
  unfold draft? at hd
  split at hd
  · split at hd
    · rename_i draft' hrun
      rw [step, step, if_pos hrun, if_pos (show (e.withSecret secret).running from hrun)]
      exact engine_send_twin s nonce draft' e
    · cases hd
  · split at hd
    · rename_i h
      obtain ⟨hrun, hdue⟩ := h
      have hdue' : Heartbeat.isDue (e.withSecret secret).heartbeat.pingAt s.now := hdue
      rw [step, step, if_pos hrun, if_pos (show (e.withSecret secret).running from hrun)]
      show ((e.withSecret secret).ticked { s with nonce } .ping).engine =
        (e.ticked s .ping).engine.withSecret secret
      rw [ticked_of_ping hdue, ticked_of_ping (s := { s with nonce }) hdue']
      exact engine_pingDue_twin s nonce { e with heartbeat := e.heartbeat.disarm .ping }
    · cases hd
  · cases hd

theorem matched_of_draft {draft : Draft} (nonce : Bytes) (hd : e.draft? s.now input = some draft) :
    Matched secret (e.step s input) ((e.withSecret secret).step { s with nonce } input) := by
  have hd' : (e.withSecret secret).draft? s.now input = some draft := hd
  -- what is done to send a message shows nowhere but on the wire and in the log
  have hnone : seen overt? (e.step s input).effects = [] :=
    (step_of_draft hd).unseen (fun _ => rfl) fun _ _ => rfl
  have hnone' : seen overt? ((e.withSecret secret).step { s with nonce } input).effects = [] :=
    (step_of_draft (s := { s with nonce }) hd').unseen (fun _ => rfl) fun _ _ => rfl
  exact ⟨engine_step_of_draft nonce hd, hnone'.trans hnone.symm⟩

/-! ### Frames that are taken in -/

/-- Two envelopes that differ in their seal are received alike. -/
theorem matched_received (s : Surroundings) (nonce : Bytes) {envelope envelope' : Envelope}
    (hlenient : e.config.auth.verification = .lenient)
    (hsame : envelope'.unsealed = envelope.unsealed) :
    Matched secret (e.received s envelope)
      ((e.withSecret secret).received { s with nonce } envelope') := by
  have hdelivered := delivered_received s envelope hlenient
  have hdelivered' := delivered_received (e := e.withSecret secret) { s with nonce } envelope' hlenient
  have hkind : envelope'.kind = envelope.kind := by
    rw [← envelope'.kind_unsealed, hsame, envelope.kind_unsealed]
  have hcallback : envelope'.callback? = envelope.callback? := by
    rw [← envelope'.callback?_unsealed, hsame, envelope.callback?_unsealed]
  refine ⟨?_, ?_⟩
  · rw [hdelivered.engine, hdelivered'.engine, hkind]; rfl
  · rw [hdelivered.overt, hdelivered'.overt, hcallback]

/-- Frames that differ in their seals are answered alike. -/
theorem matched_resealed (s : Surroundings) (nonce : Bytes) {f g : String}
    (hlenient : e.config.auth.verification = .lenient) (h : Envelope.Resealed f g) :
    Matched secret (e.answered s f) ((e.withSecret secret).answered { s with nonce } g) := by
  unfold answered
  rcases h.parse with ⟨envelope, envelope', hf, hg, hsame⟩ | ⟨_, _, hf, hg⟩
  · rw [hf, hg]
    exact matched_received s nonce hlenient hsame
  · rw [hf, hg]
    exact ⟨rfl, rfl⟩

theorem matched_answered (s : Surroundings) (nonce : Bytes) (frame : String)
    (hlenient : e.config.auth.verification = .lenient) :
    Matched secret (e.answered s frame) ((e.withSecret secret).answered { s with nonce } frame) := by
  by_cases hm : ∃ envelope, Inbound.parse frame = .ok (.envelope envelope)
  · obtain ⟨envelope, hm⟩ := hm
    rw [answered, answered, hm]
    exact matched_received s nonce hlenient rfl
  · have hanswered : Alike secret _ (e.answered s frame) ((e.withSecret secret).answered s frame) :=
      alike_answered s e fun envelope h => hm ⟨envelope, h⟩
    exact hanswered.matched

/-- What two frames lead to matches if it does so once the host has heard of them. -/
theorem matched_frame (s : Surroundings) (nonce : Bytes) {f g : String}
    (h : Matched secret (e.answered s f) ((e.withSecret secret).answered { s with nonce } g)) :
    Matched secret (e.step s (.signal (.message f)))
      ((e.withSecret secret).step { s with nonce } (.signal (.message g))) := by
  rw [step_frame, step_frame]
  by_cases hlive : e.running ∧ e.receiver.isSome
  · have hlive' : (e.withSecret secret).running ∧ (e.withSecret secret).receiver.isSome := hlive
    rw [if_pos hlive, if_pos hlive', framed_eq, framed_eq]
    exact ⟨h.engine, h.overt⟩
  · have hlive' : ¬((e.withSecret secret).running ∧ (e.withSecret secret).receiver.isSome) := hlive
    rw [if_neg hlive, if_neg hlive']
    exact ⟨rfl, rfl⟩

/-! ### Steps and histories -/

/-- Only a message that is sent takes a nonce. -/
theorem step_nonce (nonce : Bytes) (hd : e.draft? s.now input = none) :
    e.step { s with nonce } input = e.step s input := by
  unfold step
  split
  · cases input with
    | command c =>
      cases c with
      | send draft =>
        have hsome : e.draft? s.now (.command (.send draft)) = some draft := if_pos ‹_›
        rw [hsome] at hd
        cases hd
      | _ => rfl
    | tick t =>
      cases t with
      | timeout => rfl
      | ping =>
        have hdue : ¬Heartbeat.isDue (e.heartbeat.deadline? .ping) s.now := fun hdue => by
          have hsome : e.draft? s.now (.tick .ping) = some .ping := if_pos ⟨‹_›, hdue⟩
          rw [hsome] at hd
          cases hd
        show e.ticked { s with nonce } .ping = e.ticked s .ping
        rw [ticked_of_not_due hdue, ticked_of_not_due (s := { s with nonce }) hdue]
    | _ => rfl
  · rfl

/-- **Twin steps match**, under any two secrets. -/
theorem matched_step {x y : Surroundings × Input} (ht : Twin x y)
    (hlenient : e.config.auth.verification = .lenient) :
    Matched secret (e.step x.1 x.2) ((e.withSecret secret).step y.1 y.2) := by
  cases ht with
  | resealed s nonce h => exact matched_frame s nonce (matched_resealed s nonce hlenient h)
  | same s nonce input =>
    by_cases hf : ∃ frame, input = .signal (.message frame)
    · obtain ⟨frame, rfl⟩ := hf
      exact matched_frame s nonce (matched_answered s nonce frame hlenient)
    · -- what brings no frame sends a message or is routine
      cases hd : e.draft? s.now input with
      | some draft => exact matched_of_draft nonce hd
      | none =>
        have hd' : (e.withSecret secret).draft? s.now input = none := hd
        have hroutine : Routine secret (e.step s input) ((e.withSecret secret).step s input) :=
          step_routine s hd fun frame h => hf ⟨frame, h⟩
        dsimp only
        rw [step_nonce nonce hd']
        exact hroutine.matched

/-- **Twin histories match**, under any two secrets. -/
theorem matched_run {history history' : History} (ht : List.Forall₂ Twin history history')
    (h : e.Sound) (hlenient : e.config.auth.verification = .lenient) :
    Matched secret (run history e) (run history' (e.withSecret secret)) := by
  induction ht generalizing e with
  | nil => exact ⟨rfl, rfl⟩
  | @cons x y _ _ hx _ ih =>
    have hnext := (verification_step x.1 x.2 h).trans hlenient
    exact (matched_step hx hlenient).andThen (ih (sound_step x.1 x.2 h) hnext)

/-! ## Every history -/

/-- Two outcomes agree on all that a host, a transport and a storage can tell, but for the text of
    frames. -/
structure Indifferent (secret : Option String) (o o' : Outcome) : Prop where
  /-- The host is called back alike, -/
  callbacks : seen callback? o'.effects = seen callback? o.effects
  /-- the same phases are published, -/
  phases : seen phase? o'.effects = seen phase? o.effects
  /-- the same connections are requested, -/
  attempts : seen request? o'.effects = seen request? o.effects
  /-- every storage holds the same entries afterwards, -/
  stored : ∀ store : Store, o'.effects.foldl Store.carry store = o.effects.foldl Store.carry store
  /-- and the counters are the same; -/
  counters : o'.engine.session.counters = o.engine.session.counters
  /-- indeed the client is the same but for its secret. -/
  engine : o'.engine = o.engine.withSecret secret

/-- Outcomes that match are indifferent to the secret. -/
theorem Matched.indifferent {o o' : Outcome} (h : Matched secret o o') :
    Indifferent secret o o' := by
  have hstored : seen stored? o'.effects = seen stored? o.effects :=
    Effect.seen_of_overt h.overt fun x hx => by
      unfold stored?
      split
      · cases hx
      · rfl
  refine ⟨Effect.seen_of_overt h.overt fun x hx => ?_, Effect.seen_of_overt h.overt fun x hx => ?_,
    Effect.seen_of_overt h.overt fun x hx => ?_, fun store => ?_, ?_, h.engine⟩
  · unfold callback?
    split
    · rfl
    · rename_i event hne
      cases event with
      | message frame => exact absurd rfl (hne frame)
      | _ => cases hx
    · rfl
  · unfold phase?
    split
    · cases hx
    · rfl
  · unfold request?
    split
    · cases hx
    · rfl
  · rw [Store.foldl_carry, hstored, ← Store.foldl_carry]
  · rw [h.engine]; rfl

/-- How a client with lenient verification treats what arrives. -/
structure Tolerant (config : Config) (thread : Option String) (history : History) : Prop where
  /-- The host hears of every frame of the connection at hand first of all, -/
  first : ∀ s frame, (run history (create config thread)).engine.running →
    (run history (create config thread)).engine.receiver.isSome →
    ∃ later, ((run history (create config thread)).engine.step s (.signal (.message frame))).effects =
      .host (.message frame) :: later
  /-- and then of the payload of the envelope in it: of no frame less, more or out of turn. -/
  heard : seen heard? (run history (create config thread)).effects =
    (frames history (create config thread)).flatMap told
  /-- No envelope counts as a failure. -/
  verified : (run history (create config thread)).engine.session.verificationFailures = 0
  /-- Another seal of the envelopes, and another secret, make no difference. -/
  indifferent : ∀ secret history', List.Forall₂ Twin history history' →
    Indifferent secret (run history (create config thread))
      (run history' (create (config.withSecret secret) thread))

/-- **Lenient delivery does not depend on signatures**: whatever the secrets, the keys that are
    negotiated, the persisted thread and the history of a client. -/
theorem tolerant_run (config : Config) (thread : Option String) (history : History)
    (hlenient : config.auth.verification = .lenient) : Tolerant config thread history := by
  have hcreate := sound_create config thread
  refine ⟨fun s frame hrun hr => ?_, heard_run history hcreate hlenient,
    failures_run_of_lenient history hcreate hlenient,
    fun secret history' ht => (matched_run ht hcreate hlenient).indifferent⟩
  rw [step_frame, if_pos ⟨hrun, hr⟩, framed_eq]
  exact ⟨_, rfl⟩

/-- An event without a signature, and the same event with one that is wrong, for a client that has a
    secret and for one that has none. -/
theorem tolerant_event :
    let config : Config := { auth := { secretKey := some "k", verification := .lenient } }
    let bare : List (String × Json) := [("payload", .null), ("type", .text "event")]
    let signed : List (String × Json) :=
      [("nonce", .null), ("payload", .null), ("signature", .text "bad"), ("type", .text "event")]
    let s : Surroundings :=
      { now := 0, unixMillis := 0, write := .ok (), store := fun _ => .ok (), nonce := []
        pair := default }
    let receiving : String → History := fun frame =>
      [(s, .command (.connect 0)), (s, .dialed (.ok 0)), (s, .signal (.message frame))]
    Tolerant config none (receiving (Json.object bare).render) ∧
      frames (receiving (Json.object bare).render) (create config none) =
        [(Json.object bare).render] ∧
      Indifferent none (run (receiving (Json.object bare).render) (create config none))
        (run (receiving (Json.object signed).render) (create (config.withSecret none) none)) := by
  intro config bare signed s receiving
  have hparse : ∀ ms, (Json.object ms).Exact → (Json.object ms).Ordered →
      (Json.object ms).depth ≤ Json.maxDepth →
      Json.parse (Json.object ms).render = .ok (.object ms) := fun ms hexact hordered hdepth => by
    rw [Json.parse_render hexact hdepth, Json.sorted_of_ordered _ hordered]
  have hresealed : Envelope.Resealed (Json.object bare).render (Json.object signed).render := by
    refine ⟨bare, signed, hparse bare ?_ ?_ ?_, hparse signed ?_ ?_ ?_, rfl, ?_, ?_, ?_⟩
    · exact ⟨trivial, trivial, trivial⟩
    · exact ⟨⟨by decide, trivial⟩, trivial, trivial, trivial⟩
    · decide
    · exact ⟨trivial, trivial, trivial, trivial, trivial⟩
    · exact ⟨⟨by decide, by decide, by decide, trivial⟩, trivial, trivial, trivial, trivial, trivial⟩
    · decide
    · intro key hkey v hv
      rcases List.mem_pair.mp hkey with rfl | rfl <;> cases hv
    · intro key hkey v hv
      rcases List.mem_pair.mp hkey with rfl | rfl
      · exact Or.inl (Option.some.inj hv).symm
      · exact Or.inr ⟨_, (Option.some.inj hv).symm⟩
    · intro name hname
      obtain rfl := Json.text.inj (Option.some.inj hname)
      rfl
  have htwin : List.Forall₂ Twin (receiving (Json.object bare).render)
      (receiving (Json.object signed).render) :=
    .cons (.same s [] _) (.cons (.same s [] _) (.cons (.resealed s [] hresealed) .nil))
  have htolerant := tolerant_run config none (receiving (Json.object bare).render) rfl
  exact ⟨htolerant, rfl, htolerant.indifferent none _ htwin⟩

end Engine
end Tether
