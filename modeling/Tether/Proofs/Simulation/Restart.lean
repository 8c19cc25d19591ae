import Tether.Proofs.Engine.Offers
import Tether.Proofs.Engine.Routine
import Tether.Proofs.Identity
import Tether.Proofs.Simulation.Carry

/-!
# `Tether.Proofs.Simulation.Restart` — a client and its storage agree

A client keeps its identity three times: the ids of its session, the thread it was started with, and two
entries in its storage. An ack and a rejected resume change them in one step, and nothing else does, so
that a client that is started anew from the storage takes up the thread that the running one would.

* `Memory` — what a client remembers, and what a turn makes of it;
* `Deed` — a step of the client, or a call that somebody else makes to the same storage;
* `Persisted` — the entries are what the client remembers, after every deed;
* `Offers` — the handshakes with which a client may open its next connection;
* `Restartable` — a client that is started anew opens it with the same one.
-/

namespace Tether

namespace StoreCall

/-- Where no call fails, all are made. -/
theorem made_of_ok {answer : StoreCall → Except Error Unit} (h : ∀ c, answer c = .ok ())
    (calls : List StoreCall) : made answer calls = calls.map fun c => (c, .ok ()) := by
  induction calls with
  | nil => rfl
  | cons c rest ih => rw [made, h c, ih]; rfl

end StoreCall

namespace Engine

open Effect (seen milestone?)

variable {e : Engine} {s : Surroundings} {input : Input}

/-! ## What a client remembers -/

/-- What a client remembers of its identity. -/
structure Memory where
  /-- The ids of its session, which outlive it. -/
  threadId : Option String
  sessionId : Option String
  /-- The thread it was started with. -/
  startThread : Option String

/-- What a client remembers of its identity. -/
def memory (e : Engine) : Memory := ⟨e.session.threadId, e.session.sessionId, e.resumeThread⟩

/-- What a turn makes of it. -/
def Turn.memory (m : Memory) : Turn → Memory
  | .accept ack => { m with threadId := some ack.threadId, sessionId := some ack.sessionId }
  | .fallBack _ => ⟨none, none, none⟩
  | _ => m

theorem memory_lost {now : Nat} {cause : String} {o : Outcome} (hl : Lost now cause e o) :
    o.engine.memory = e.memory := by
  cases hl with
  | retry _ engine _ | giveUp _ engine _ => rw [engine]; rfl

theorem memory_sendHandshake (h : e.Sound) (hr : e.receiver.isSome) (hp : e.phase ≠ .established) :
    (e.sendHandshake s).engine.memory = e.memory := by
  cases h.offered s hr hp with
  | waits engine _ => rw [engine]; rfl
  | unsent lost engine _ => rw [engine]; exact (memory_lost lost).trans rfl

/-- **Only an ack and a rejected resume change what a client remembers.** -/
theorem memory_step (s : Surroundings) (input : Input) (h : e.Sound) :
    (e.step s input).engine.memory = (e.turn s.now input).memory e.memory := by
  have hstep := step_stepped s input e
  generalize e.turn s.now input = t at hstep
  -- ending a session leaves its ids, so only `accept` and `fallBack` have anything to show
  cases hstep with
  | passing _ passes => obtain ⟨⟨_, _, _, he⟩, _⟩ := passes; rw [he]; rfl
  | leave _ engine _ => obtain ⟨_, he⟩ := engine; rw [he]; rfl
  | accept _ _ _ _ engine _ =>
    obtain ⟨hthread, hsession⟩ := ids_grantedSession s _ e
    rw [engine]
    show Memory.mk (e.grantedSession s _).threadId (e.grantedSession s _).sessionId e.resumeThread = _
    rw [hthread, hsession]; rfl
  | offer _ receiver phase engine _ =>
    rw [engine]; exact memory_sendHandshake h receiver (by rw [phase]; simp)
  | fallBack _ _ receiver phase _ engine _ =>
    have hne : e.phase ≠ .established := by rw [phase]; simp
    rw [engine]; exact memory_sendHandshake (h.fallenBack hne) receiver hne
  | lose live engine _ =>
    rw [engine]; exact memory_lost (h.timed.lost (h.wired.expected live) s.now _)
  | greet _ _ engine _ | join _ _ engine _ | depart _ _ engine _ | attach _ _ engine _
  | refuse _ _ _ _ _ engine _ | alarm _ _ engine _ | redial _ _ engine _ => rw [engine]; rfl

/-! ## The entries in the storage -/

/-- The entries in a storage are what the client remembers. -/
structure Persisted (e : Engine) (store : Store) : Prop where
  thread : e.identity.thread? store = e.thread?
  session : e.session.threadId.isSome → e.identity.session? store = e.session.sessionId

/-- What is stored depends on the identity and on what the client remembers. -/
theorem Persisted.of_eq {e' : Engine} {store store' : Store} (h : Persisted e store)
    (hc : e'.config = e.config) (hm : e'.memory = e.memory)
    (ht : e.identity.thread? store' = e.identity.thread? store)
    (hs : e.identity.session? store' = e.identity.session? store) : Persisted e' store' := by
  have hid : e'.identity = e.identity := by unfold identity; rw [hc]
  obtain ⟨hthread, hsession, hstart⟩ := Memory.mk.inj hm
  refine ⟨?_, fun hsome => ?_⟩
  · rw [hid, ht, h.thread, Engine.thread?, Engine.thread?, hthread, hstart]
  · rw [hid, hs, hsession]
    exact h.session (hthread ▸ hsome)

/-- The storage after a step, where no call fails. -/
theorem carry_step (s : Surroundings) (input : Input) (e : Engine) (hs : ∀ c, s.store c = .ok ())
    (store : Store) :
    (e.step s input).effects.foldl Store.carry store =
      (e.calls (e.turn s.now input)).foldl StoreCall.apply store := by
  rw [Store.foldl_carry, stored_step, StoreCall.made_of_ok hs, List.foldl_map]
  rfl

/-- **One step keeps the entries.** -/
theorem persisted_step {store : Store} (s : Surroundings) (input : Input) (h : e.Sound)
    (hs : ∀ c, s.store c = .ok ()) (hp : Persisted e store) :
    Persisted (e.step s input).engine ((e.step s input).effects.foldl Store.carry store) := by
  have hmemory := memory_step s input h
  have hconfig := config_step s input h
  have hid : (e.step s input).engine.identity = e.identity := by unfold identity; rw [hconfig]
  rw [carry_step s input e hs]
  -- the same turn says what is remembered and which calls are made
  generalize e.turn s.now input = t at hmemory
  generalize (e.step s input).engine = e' at hmemory hconfig hid
  cases t with
  | accept ack =>
    obtain ⟨hthread, hsession, -⟩ := Memory.mk.inj hmemory
    refine ⟨?_, fun _ => ?_⟩
    · rw [hid, Engine.thread?, hthread]; exact e.identity.thread?_save ..
    · rw [hid, hsession]; exact e.identity.session?_save ..
  | fallBack reject =>
    obtain ⟨hthread, -, hstart⟩ := Memory.mk.inj hmemory
    refine ⟨?_, fun hsome => ?_⟩
    · rw [hid, Engine.thread?, hthread, hstart]; exact e.identity.thread?_clear store
    · rw [hthread] at hsome; cases hsome
  | passing | greet _ | join _ | depart _ | leave | attach _ | offer | refuse _ | lose _ | alarm
  | redial => exact hp.of_eq hconfig hmemory rfl rfl

/-- A call of somebody else keeps them, if it is about other entries. -/
theorem Persisted.apply {store : Store} (hp : Persisted e store) {c : StoreCall}
    (ht : c.written? ≠ some e.identity.threadKey) (hs : c.written? ≠ some e.identity.sessionKey) :
    Persisted e (c.apply store) :=
  hp.of_eq rfl rfl (StoreCall.get?_apply_of_ne ht store) (StoreCall.get?_apply_of_ne hs store)

/-! ## A client and a storage in use -/

/-- What may happen to a client and to the storage that it uses. -/
inductive Deed where
  /-- The client takes a step. -/
  | step (s : Surroundings) (input : Input)
  /-- Somebody else calls the storage. -/
  | call (c : StoreCall)

namespace Deed

/-- What becomes of both. -/
def act (x : Engine × Store) : Deed → Engine × Store
  | .step s input =>
    ((x.1.step s input).engine, (x.1.step s input).effects.foldl Store.carry x.2)
  | .call c => (x.1, c.apply x.2)

/-- The storage does what it is asked to do, and nobody else writes the entries of an identity. -/
def Fair (i : Identity) : Deed → Prop
  | .step s _ => ∀ c, s.store c = .ok ()
  | .call c => c.written? ≠ some i.threadKey ∧ c.written? ≠ some i.sessionKey

end Deed

/-- The client that is started with what a storage holds. -/
def started (config : Config) (store : Store) : Engine :=
  create config (Identity.thread? ⟨config.clientId⟩ store)

theorem persisted_started (config : Config) (store : Store) : Persisted (started config store) store :=
  ⟨rfl, fun hsome => absurd hsome Bool.false_ne_true⟩

/-- **Whatever happens, the entries are what the client remembers.** -/
theorem persisted_deeds {config : Config} (deeds : List Deed) {x : Engine × Store} (h : x.1.Sound)
    (hc : x.1.config = config) (hfair : ∀ d ∈ deeds, d.Fair ⟨config.clientId⟩)
    (hp : Persisted x.1 x.2) :
    (deeds.foldl Deed.act x).1.Sound ∧ (deeds.foldl Deed.act x).1.config = config ∧
      Persisted (deeds.foldl Deed.act x).1 (deeds.foldl Deed.act x).2 := by
  induction deeds generalizing x with
  | nil => exact ⟨h, hc, hp⟩
  | cons d deeds ih =>
    obtain ⟨hd, hrest⟩ := List.forall_mem_cons.mp hfair
    cases d with
    | step s input =>
      exact ih (sound_step s input h) ((config_step s input h).trans hc) hrest
        (persisted_step s input h hd hp)
    | call c =>
      subst hc
      exact ih h rfl hrest (hp.apply hd.1 hd.2)

/-! ## The next connection -/

/-- The client may open its next connection with the handshake: it writes it before the server answers
    anything. -/
def Offers (e : Engine) (handshake : Handshake) : Prop :=
  ∃ later answer, (∀ m ∈ chronicle later e, m.isAnswer = false) ∧
    .offered handshake answer ∈ chronicle later e

/-- Until the server answers, a client offers the thread that it has. -/
theorem offers_spec {handshake : Handshake} (h : e.Sound) (ho : e.Offers handshake) :
    handshake.thread? = e.thread? ∧ handshake.offer? = some e.intent := by
  obtain ⟨later, answer, hnone, hmem⟩ := ho
  induction later generalizing e with
  | nil => cases hmem
  | cons head rest ih =>
    obtain ⟨s, input⟩ := head
    obtain ⟨hnow, hlater⟩ := List.forall_mem_append.mp hnone
    have hih := ih (sound_step s input h) hlater
    have hdealt := dealt_step s input h
    rw [chronicle] at hmem
    generalize e.milestones s input = ms at hmem hnow hdealt
    -- what is offered later names the thread that the client has then, and that is the same
    have hsame : (e.step s input).engine.thread? = e.thread? →
        .offered handshake answer ∈ chronicle rest (e.step s input).engine →
        handshake.thread? = e.thread? ∧ handshake.offer? = some e.intent := by
      intro hthread hmem
      obtain ⟨hnamed, hkind⟩ := hih hmem
      have hintent : (e.step s input).engine.intent = e.intent := congrArg Offer.of hthread
      exact ⟨hnamed.trans hthread, hkind.trans (congrArg some hintent)⟩
    cases hdealt with
    | silent thread _ _ _ => exact hsame thread hmem
    | attach thread _ _ => exact hsame thread ((List.mem_cons.mp hmem).resolve_left (by simp))
    | offer _ kind named thread _ _ _ =>
      rcases List.mem_cons.mp hmem with heq | hmem
      · cases heq; exact ⟨named, kind⟩
      · exact hsame thread hmem
    | grant _ _ _ | fallBack _ _ _ _ _ _ | refuse _ _ _ _ _ =>
      exact absurd (hnow _ List.mem_cons_self) (by simp [Milestone.isAnswer])

/-- What a disconnected client does for a caller whose connection opens. -/
theorem chronicle_connect (s : Surroundings) (hrun : e.running) (hp : e.phase = .disconnected)
    (hw : s.write = .ok ()) :
    ∃ handshake, chronicle [(s, .command (.connect 0)), (s, .dialed (.ok 0)), (s, .signal .opened)] e =
      [.attached 0, .offered handshake (.ok ())] := by
  let opened : Engine := { e.departed 0 with dialing := false, receiver := some 0 }
  have hconnect : e.step s (.command (.connect 0)) =
      ⟨e.departed 0, [.phase .connecting, .dial e.config.url e.config.subprotocol]⟩ := by
    obtain ⟨config, phase⟩ := e
    subst hp
    rw [step, if_pos hrun]; rfl
  have hdialed : (e.departed 0).step s (.dialed (.ok 0)) = opened.idle := by
    rw [step, if_pos (show (e.departed 0).running from hrun)]; rfl
  have hsilent : e.milestones s (.command (.connect 0)) = [] := by
    rw [milestones, hconnect]; rfl
  have hattached : (e.departed 0).milestones s (.dialed (.ok 0)) = [.attached 0] := by
    rw [milestones, hdialed, brought?, if_pos ⟨hrun, rfl⟩]; rfl
  have hoffered : opened.milestones s (.signal .opened) =
      [.offered (opened.offering s).2 (.ok ())] := by
    have hturn : opened.turn s.now (.signal .opened) = .offer := by
      rw [turn, if_pos (show opened.running from hrun)]; rfl
    have hcontrol : (opened.step s (.signal .opened)).control = (opened.sendHandshake s).control := by
      rw [step, if_pos (show opened.running from hrun)]; rfl
    rw [milestones_eq hturn (hcontrol.trans (sendHandshake_of_ok opened hw).2)]
    simp [Turn.milestone?, Effect.milestone?]
  refine ⟨(opened.offering s).2, ?_⟩
  rw [chronicle, hsilent, hconnect, chronicle, hattached, hdialed, chronicle, engine_idle, hoffered]
  rfl

/-- A running client can always open another connection. -/
theorem exists_offers (hrun : e.running) : ∃ handshake, e.Offers handshake := by
  -- whatever it is doing, it can be told to disconnect and then to connect
  let s : Surroundings :=
    { now := 0, unixMillis := 0, write := .ok (), store := fun _ => .ok (), nonce := []
      pair := default }
  have hleave : (e.step s (.command (.disconnect 0))).engine =
      { e.settle with phase := .disconnected, waiting := [] } := by
    rw [step, if_pos hrun]; exact engine_disconnect e
  have hsilent : e.milestones s (.command (.disconnect 0)) = [] := by
    rw [milestones, ← milestones_control, step, if_pos hrun]
    show none.toList ++ seen milestone? (e.disconnect.emit (.disconnectReply 0)).control = []
    rw [Outcome.control_emit, control_disconnect]
    simp [Effect.milestone?, Effect.isControl]
  obtain ⟨handshake, hms⟩ := chronicle_connect (e := (e.step s (.command (.disconnect 0))).engine) s
    (by rw [hleave]; exact hrun) (by rw [hleave]) rfl
  let later : History := [(s, .command (.disconnect 0)), (s, .command (.connect 0)),
    (s, .dialed (.ok 0)), (s, .signal .opened)]
  have hchronicle : chronicle later e = [.attached 0, .offered handshake (.ok ())] := by
    rw [chronicle, hsilent, hms]; rfl
  refine ⟨handshake, later, .ok (), fun m hm => ?_, ?_⟩
  · rw [hchronicle] at hm
    rcases List.mem_pair.mp hm with rfl | rfl <;> rfl
  · rw [hchronicle]; exact List.mem_cons_of_mem _ List.mem_cons_self

/-! ## Starting anew -/

/-- A client `e` that runs on a storage might as well be started anew. -/
structure Restartable (config : Config) (e : Engine) (store : Store) : Prop where
  /-- The thread that is stored is that of the session, or else the one of the start; none is stored if
      there is neither. -/
  thread : Identity.thread? ⟨config.clientId⟩ store = e.session.threadId.or e.resumeThread
  /-- The session that is stored is the one of the thread. -/
  session : e.session.threadId.isSome →
    Identity.session? ⟨config.clientId⟩ store = e.session.sessionId
  /-- The running client opens its next connection with a handshake for the thread that is stored, -/
  next : ∀ handshake, e.Offers handshake →
    handshake.offer? = some (.of (Identity.thread? ⟨config.clientId⟩ store)) ∧
      handshake.thread? = Identity.thread? ⟨config.clientId⟩ store
  /-- and so does the client that is started anew. -/
  anew : ∀ handshake, (started config store).Offers handshake →
    handshake.offer? = some (.of (Identity.thread? ⟨config.clientId⟩ store)) ∧
      handshake.thread? = Identity.thread? ⟨config.clientId⟩ store
  /-- Both have a next connection, unless the running client has stopped. -/
  opens : (∃ handshake, (started config store).Offers handshake) ∧
    (e.running → ∃ handshake, e.Offers handshake)

/-- **A client might as well be started anew** after whatever has happened to it and to its storage, if
    the storage does what it is asked to do and nobody else writes the client's entries. -/
theorem restartable_deeds (config : Config) (store : Store) (deeds : List Deed)
    (hfair : ∀ d ∈ deeds, d.Fair ⟨config.clientId⟩) :
    Restartable config (deeds.foldl Deed.act (started config store, store)).1
      (deeds.foldl Deed.act (started config store, store)).2 := by
  obtain ⟨h, hconfig, hp⟩ := persisted_deeds deeds (x := (started config store, store))
    (sound_create config _) rfl hfair (persisted_started config store)
  generalize deeds.foldl Deed.act (started config store, store) = x at h hconfig hp
  subst hconfig
  have hanew := sound_create x.1.config (Identity.thread? ⟨x.1.config.clientId⟩ x.2)
  refine ⟨hp.thread, hp.session, fun handshake ho => ?_, fun handshake ho => ?_,
    exists_offers rfl, exists_offers⟩
  · obtain ⟨hnamed, hkind⟩ := offers_spec h ho
    have hthread : Identity.thread? ⟨x.1.config.clientId⟩ x.2 = x.1.thread? := hp.thread
    exact ⟨hkind.trans (by rw [hthread]; rfl), hnamed.trans hthread.symm⟩
  · obtain ⟨hnamed, hkind⟩ := offers_spec hanew ho
    exact ⟨hkind, hnamed⟩

/-- A client that has a thread from the start loses it to a rejection and is granted another one, while
    somebody else keeps a setting in the same storage. -/
theorem restartable_setting :
    let config : Config := {}
    let store : Store := ⟨[("ltp_thread_id:ltp-client", "old")]⟩
    let s : Surroundings :=
      { now := 0, unixMillis := 0, write := .ok (), store := fun _ => .ok (), nonce := []
        pair := default }
    let reject := "\x7b\"type\":\"handshake_reject\",\"reason\":\"unknown thread\"\x7d"
    let ack := "\x7b\"type\":\"handshake_ack\",\"thread_id\":\"t\",\"session_id\":\"s\"," ++
      "\"heartbeat_interval_ms\":1000\x7d"
    let deeds : List Deed := [.step s (.command (.connect 0)), .step s (.dialed (.ok 0)),
      .call (.set "theme" "dark"), .step s (.signal .opened),
      .step s (.signal (.message reject)), .step s (.signal (.message ack))]
    (∀ d ∈ deeds, d.Fair ⟨config.clientId⟩) ∧
      Restartable config (deeds.foldl Deed.act (started config store, store)).1
        (deeds.foldl Deed.act (started config store, store)).2 ∧
      Identity.thread? ⟨config.clientId⟩ store = some "old" ∧
      Identity.thread? ⟨config.clientId⟩
        (deeds.foldl Deed.act (started config store, store)).2 = some "t" := by
  intro config store s reject ack deeds
  have hstep : ∀ input, (Deed.step s input).Fair ⟨config.clientId⟩ := fun _ _ => rfl
  have hcall : (Deed.call (.set "theme" "dark")).Fair ⟨config.clientId⟩ := by
    unfold Deed.Fair; decide +kernel
  have hfair : ∀ d ∈ deeds, d.Fair ⟨config.clientId⟩ := by
    refine List.forall_mem_cons.mpr ⟨hstep _, List.forall_mem_cons.mpr ⟨hstep _, ?_⟩⟩
    refine List.forall_mem_cons.mpr ⟨hcall, List.forall_mem_cons.mpr ⟨hstep _, ?_⟩⟩
    exact List.forall_mem_cons.mpr ⟨hstep _, List.forall_mem_singleton.mpr (hstep _)⟩
  exact ⟨hfair, restartable_deeds config store deeds hfair, by decide +kernel, by decide +kernel⟩

end Engine
end Tether
