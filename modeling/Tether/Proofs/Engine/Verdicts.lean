import Tether.Proofs.Engine.Messages
import Tether.Proofs.Message.RoundTrip

/-!
# `Tether.Proofs.Engine.Verdicts` — strict verification

Under strict verification the host hears of the payload of an envelope only if the signature is valid
under the **key in force**: the MAC key of the session at hand, or else the secret, or else none. Which
key that is changes with acks and losses while frames keep arriving, so the verdict on an envelope
belongs to the step that takes it in.

* `Judged` — what becomes of an envelope: a pong, a delivery or a drop, with all that the step does;
* `Vouched` — where the host's callbacks on messages come from;
* `Accounted` — the counters are the numbers of envelopes of each sort that were taken in so far;
* `guarded_run` — all of it, over every history.
-/

namespace Tether

namespace Envelope

/-- The envelope has a signature, and it is the right one under a key. -/
def Authentic (p : Provider) (key : Option Key) (envelope : Envelope) : Prop :=
  ∃ k given expected, key = some k ∧ envelope.signature = some given ∧
    given ≠ Protocol.placeholderSignature ∧ Signer.signature p k envelope = .ok expected ∧
    p.equal (Bytes.ofText expected) (Bytes.ofText (Signer.lowerAscii given)) = true

end Envelope

namespace Signer

/-- An envelope is valid if its signature is right under the key in force. -/
theorem verify_eq_valid_iff_authentic (signer : Signer) (p : Provider) (sessionKey : Option Key)
    (envelope : Envelope) :
    signer.verify p sessionKey envelope = .valid ↔
      envelope.Authentic p (signer.key sessionKey) := by
  unfold verify Envelope.Authentic
  constructor
  · intro h
    split at h
    · cases h
    · rename_i given hgiven
      split at h
      · cases h
      · rename_i hplaceholder
        split at h
        · cases h
        · rename_i k hk
          split at h
          · cases h
          · rename_i expected hexpected
            split at h
            · rename_i hequal
              exact ⟨k, given, expected, hk, hgiven, hplaceholder, hexpected, hequal⟩
            · cases h
  · rintro ⟨k, given, expected, hk, hgiven, hplaceholder, hexpected, hequal⟩
    rw [hgiven]
    dsimp only
    rw [if_neg hplaceholder, hk]
    dsimp only
    rw [hexpected]
    exact if_pos hequal

end Signer

/-- An envelope that was taken in, and the verdict on it at that time. -/
structure Arrival where
  envelope : Envelope
  verdict : Verification

namespace Arrival

/-- Is it a pong? Pongs are not checked. -/
def isPong (a : Arrival) : Bool := a.envelope.kind = .pong

/-- Did it have to be checked, and was it valid? -/
def isValid (a : Arrival) : Bool := a.envelope.kind ≠ .pong ∧ a.verdict = .valid

/-- Did it have to be checked, and was it not valid? -/
def isDropped (a : Arrival) : Bool := a.envelope.kind ≠ .pong ∧ a.verdict ≠ .valid

/-- Every envelope that arrives is of one of three sorts. -/
theorem length_eq_countP (arrivals : List Arrival) :
    arrivals.length =
      arrivals.countP isPong + arrivals.countP isValid + arrivals.countP isDropped := by
  induction arrivals with
  | nil => rfl
  | cons a rest ih =>
    have hone : 1 = (if a.isPong then 1 else 0) + (if a.isValid then 1 else 0)
        + (if a.isDropped then 1 else 0) := by
      unfold isPong isValid isDropped
      by_cases hkind : a.envelope.kind = .pong <;> by_cases hvalid : a.verdict = .valid <;>
        simp [hkind, hvalid]
    rw [List.length_cons, List.countP_cons, List.countP_cons, List.countP_cons]
    omega

end Arrival

namespace Engine

variable {e : Engine} {s : Surroundings} {input : Input}

/-! ## The key in force -/

/-- The key that an envelope is checked with: that of the session if keys are installed, or else the
    secret, if there is one. -/
def keyInForce (e : Engine) : Option Key :=
  match e.session.keys with
  | some keys => some keys.mac
  | none => (e.config.auth.secretKey.filter fun secret => secret ≠ "").map Key.ofText

/-- What the signer says of an envelope that arrives now. -/
def verdict (s : Surroundings) (envelope : Envelope) (e : Engine) : Verification :=
  e.signer.verify s.provider e.session.macKey envelope

theorem key_signer (e : Engine) : e.signer.key e.session.macKey = e.keyInForce := by
  unfold keyInForce Signer.key Session.macKey
  cases e.session.keys <;> rfl

theorem verdict_eq_valid_iff (s : Surroundings) (envelope : Envelope) (e : Engine) :
    e.verdict s envelope = .valid ↔ envelope.Authentic s.provider e.keyInForce := by
  rw [verdict, Signer.verify_eq_valid_iff_authentic, key_signer]

/-! ## What becomes of an envelope -/

/-- What a step does with the envelope that a frame holds: the engine it leaves, and all its effects.
    The host hears of every frame first. -/
inductive Judged (s : Surroundings) (frame : String) (envelope : Envelope) (e : Engine)
    (o : Outcome) : Prop where
  /-- Pongs are not checked; they disarm the watchdog. -/
  | pong (kind : envelope.kind = .pong)
      (engine : o.engine =
        { e with session := e.session.countReceived, heartbeat := e.heartbeat.pong })
      (effects : o.effects = [.host (.message frame), .host .pong])
  /-- The payload is delivered, where the host has a callback for its kind. -/
  | delivered (kind : envelope.kind ≠ .pong) (valid : e.verdict s envelope = .valid)
      (engine : o.engine = { e with session := e.session.countReceived })
      (effects : o.effects = .host (.message frame) :: delivery envelope)
  /-- It is counted and reported, and that is all. -/
  | dropped (kind : envelope.kind ≠ .pong) (invalid : e.verdict s envelope ≠ .valid)
      (engine : o.engine = { e with session := e.session.countReceived.countFailure })
      (effects : o.effects = [.host (.message frame),
        .warn (.inboundDropped envelope.kind (e.verdict s envelope)),
        .host (.verificationFailed envelope.kind (e.verdict s envelope))])

/-- **Every envelope is judged** in the step that takes it in. -/
theorem step_judged {envelope : Envelope} (s : Surroundings)
    (hstrict : e.config.auth.verification = .strict) (ht : e.taken? input = some envelope) :
    ∃ frame, input = .signal (.message frame) ∧ Inbound.parse frame = .ok (.envelope envelope) ∧
      Judged s frame envelope e (e.step s input) := by
  obtain ⟨frame, hinput, hparse, hstep⟩ := step_of_taken s ht
  refine ⟨frame, hinput, hparse, ?_⟩
  rw [hstep]
  have hheard : ((e.doing [.host (.message frame)]).andThen fun e => e.received s envelope) =
      ⟨(e.received s envelope).engine,
        .host (.message frame) :: (e.received s envelope).effects⟩ := rfl
  rw [hheard]
  unfold received
  dsimp only
  by_cases hpong : envelope.kind = .pong
  · rw [if_pos hpong]
    exact .pong hpong rfl rfl
  · -- counting a message changes no key, so the verdict is that of the engine before the step
    have hverdict : ({ e with session := e.session.countReceived } : Engine).signer.verify
        s.provider e.session.countReceived.macKey envelope = e.verdict s envelope := rfl
    rw [if_neg hpong]
    unfold checked
    dsimp only
    rw [hstrict, hverdict]
    dsimp only
    by_cases hvalid : e.verdict s envelope = .valid
    · have hyes : (e.verdict s envelope).isValid = true := by rw [hvalid]; rfl
      rw [if_pos hyes]
      exact .delivered hpong hvalid rfl rfl
    · have hno : ¬(e.verdict s envelope).isValid = true := by
        intro h
        exact hvalid (by simpa [Verification.isValid] using h)
      rw [if_neg hno]
      exact .dropped hpong hvalid rfl rfl

/-! ## What the host hears of messages -/

/-- Where a callback on a message comes from: the envelope that the step takes in. A payload comes from
    one that is valid; one that is not leads to a report, and to nothing else. -/
inductive Vouched (s : Surroundings) (input : Input) (e : Engine) : HostEvent → Prop where
  | stateUpdate {envelope : Envelope} (taken : e.taken? input = some envelope)
      (kind : envelope.kind = .stateUpdate) (valid : e.verdict s envelope = .valid) :
      Vouched s input e (.stateUpdate envelope.payload)
  | event {envelope : Envelope} (taken : e.taken? input = some envelope)
      (kind : envelope.kind = .event) (valid : e.verdict s envelope = .valid) :
      Vouched s input e (.event envelope.payload)
  | error {envelope : Envelope} (taken : e.taken? input = some envelope)
      (kind : envelope.kind = .error) (valid : e.verdict s envelope = .valid) :
      Vouched s input e (.error envelope.payload)
  | report {envelope : Envelope} (taken : e.taken? input = some envelope)
      (kind : envelope.kind ≠ .pong) (invalid : e.verdict s envelope ≠ .valid) :
      Vouched s input e (.verificationFailed envelope.kind (e.verdict s envelope))
  | pong {envelope : Envelope} (taken : e.taken? input = some envelope)
      (kind : envelope.kind = .pong) : Vouched s input e .pong

/-- Sending a message tells the host nothing, and counts nothing as received. -/
theorem Submitted.unheard {draft : Draft} {o : Outcome} (h : Submitted s draft e o) :
    (∀ event, .host event ∉ o.effects) ∧ o.engine.session.received = e.session.received ∧
      o.engine.session.verificationFailures = e.session.verificationFailures := by
  have hwarn : ∀ (notices : List Notice) (event : HostEvent),
      Effect.host event ∉ notices.map Effect.warn := by
    intro notices event hmem
    obtain ⟨notice, _, heq⟩ := List.mem_map.mp hmem
    cases heq
  have hwritten : ∀ (before after : List Notice) (message : Outbound) (answer : Except Error Unit)
      (event : HostEvent),
      Effect.host event ∉ before.map .warn ++ .write message answer :: after.map .warn := by
    intro before after message answer event hmem
    rcases List.mem_append.mp hmem with h | h
    · exact hwarn before event h
    · rcases List.mem_cons.mp h with h | h
      · cases h
      · exact hwarn after event h
  cases h with
  | posted _ _ engine effects =>
    obtain ⟨_, he⟩ := engine
    obtain ⟨before, after, hx⟩ := effects
    exact ⟨fun event => hx ▸ hwritten before after _ _ event, by rw [he]; rfl, by rw [he]; rfl⟩
  | refused _ _ engine effects =>
    obtain ⟨_, he⟩ := engine
    obtain ⟨before, after, hx⟩ := effects
    exact ⟨fun event => hx ▸ hwritten before after _ _ event, by rw [he], by rw [he]⟩
  | dropped _ engine effects =>
    obtain ⟨_, he⟩ := engine
    refine ⟨fun event => ?_, by rw [he], by rw [he]⟩
    rw [effects]
    exact hwarn [_] event

/-- A step that takes in no envelope tells the host of no message, and counts none. -/
theorem step_of_not_taken (s : Surroundings) (ht : e.taken? input = none) :
    (∀ event, (Effect.host event).isTraffic → .host event ∉ (e.step s input).effects) ∧
      (e.step s input).engine.session.received = e.session.received ∧
      (e.step s input).engine.session.verificationFailures = e.session.verificationFailures := by
  cases hd : e.draft? s.now input with
  | some draft =>
    obtain ⟨hhost, hreceived, hfailures⟩ := (step_of_draft hd).unheard
    exact ⟨fun event _ => hhost event, hreceived, hfailures⟩
  | none =>
    have hm := step_mute s hd ht
    have hcounters := Prod.mk.inj hm.counters
    refine ⟨fun event htraffic hmem => ?_, (Prod.mk.inj hcounters.2).1, (Prod.mk.inj hcounters.2).2⟩
    have htold : Effect.host event ∈ (e.step s input).traffic := List.mem_filter.mpr ⟨hmem, htraffic⟩
    rw [hm.traffic] at htold
    exact absurd htold List.not_mem_nil

/-- What is delivered of an envelope is vouched for by its verdict. -/
theorem vouched_delivery {envelope : Envelope} {event : HostEvent}
    (ht : e.taken? input = some envelope) (hvalid : e.verdict s envelope = .valid)
    (hmem : .host event ∈ delivery envelope) : Vouched s input e event := by
  unfold delivery at hmem
  split at hmem
  · rename_i hkind
    obtain rfl := Effect.host.inj (List.mem_singleton.mp hmem)
    exact .stateUpdate ht hkind hvalid
  · rename_i hkind
    obtain rfl := Effect.host.inj (List.mem_singleton.mp hmem)
    exact .event ht hkind hvalid
  · rename_i hkind
    rcases List.mem_cons.mp hmem with h | h
    · cases h
    · obtain rfl := Effect.host.inj (List.mem_singleton.mp h)
      exact .error ht hkind hvalid
  · exact absurd hmem List.not_mem_nil

/-- **Every callback on a message is vouched for.** -/
theorem step_vouched {event : HostEvent} (s : Surroundings)
    (hstrict : e.config.auth.verification = .strict) (htraffic : (Effect.host event).isTraffic)
    (hmem : .host event ∈ (e.step s input).effects) : Vouched s input e event := by
  cases ht : e.taken? input with
  | none => exact absurd hmem ((step_of_not_taken s ht).1 event htraffic)
  | some envelope =>
    obtain ⟨frame, _, _, hjudged⟩ := step_judged s hstrict ht
    -- the callback is not the one on the frame, of which the host hears in any case
    have hne : Effect.host event ≠ .host (.message frame) := by
      intro heq
      rw [heq] at htraffic
      exact absurd htraffic Bool.false_ne_true
    cases hjudged with
    | pong kind _ effects =>
      rw [effects] at hmem
      have hpong := List.mem_singleton.mp ((List.mem_cons.mp hmem).resolve_left hne)
      obtain rfl := Effect.host.inj hpong
      exact .pong ht kind
    | delivered _ valid _ effects =>
      rw [effects] at hmem
      exact vouched_delivery ht valid ((List.mem_cons.mp hmem).resolve_left hne)
    | dropped kind invalid _ effects =>
      rw [effects] at hmem
      rcases List.mem_cons.mp ((List.mem_cons.mp hmem).resolve_left hne) with h | h
      · cases h
      · obtain rfl := Effect.host.inj (List.mem_singleton.mp h)
        exact .report ht kind invalid

/-! ## Accounts -/

/-- The envelope that a step takes in, and the verdict on it. -/
def arrival? (s : Surroundings) (input : Input) (e : Engine) : Option Arrival :=
  (e.taken? input).map fun envelope => ⟨envelope, e.verdict s envelope⟩

/-- The envelopes that a history takes in, each with the verdict on it at that time. -/
def arrivals : History → Engine → List Arrival
  | [], _ => []
  | (s, input) :: rest, e => (e.arrival? s input).toList ++ arrivals rest (e.step s input).engine

/-- The counters tell how many envelopes of each sort were taken in, from those of an engine at the
    start. -/
structure Accounted (arrivals : List Arrival) (e e' : Engine) : Prop where
  received : e'.session.received = e.session.received + arrivals.length
  failures : e'.session.verificationFailures =
    e.session.verificationFailures + arrivals.countP Arrival.isDropped

theorem Accounted.trans {xs ys : List Arrival} {e' e'' : Engine} (h : Accounted xs e e')
    (h' : Accounted ys e' e'') : Accounted (xs ++ ys) e e'' := by
  refine ⟨?_, ?_⟩
  · rw [h'.received, h.received, List.length_append, Nat.add_assoc]
  · rw [h'.failures, h.failures, List.countP_append, Nat.add_assoc]

/-- A step counts what it takes in. -/
theorem accounted_step (s : Surroundings) (input : Input)
    (hstrict : e.config.auth.verification = .strict) :
    Accounted (e.arrival? s input).toList e (e.step s input).engine := by
  unfold arrival?
  cases ht : e.taken? input with
  | none =>
    obtain ⟨_, hreceived, hfailures⟩ := step_of_not_taken s ht
    exact ⟨hreceived, hfailures⟩
  | some envelope =>
    obtain ⟨_, _, _, hjudged⟩ := step_judged s hstrict ht
    cases hjudged with
    | pong kind engine _ =>
      rw [engine]
      exact ⟨rfl, by simp [Arrival.isDropped, kind]; rfl⟩
    | delivered _ valid engine _ =>
      rw [engine]
      exact ⟨rfl, by simp [Arrival.isDropped, valid]; rfl⟩
    | dropped kind invalid engine _ =>
      rw [engine]
      exact ⟨rfl, by simp [Arrival.isDropped, kind, invalid]; rfl⟩

theorem accounted_run (history : History) (h : e.Sound)
    (hstrict : e.config.auth.verification = .strict) :
    Accounted (arrivals history e) e (run history e).engine := by
  induction history generalizing e with
  | nil => exact ⟨rfl, rfl⟩
  | cons head rest ih =>
    obtain ⟨s, input⟩ := head
    have hnext : (e.step s input).engine.config.auth.verification = .strict := by
      rw [config_step s input h]; exact hstrict
    exact (accounted_step s input hstrict).trans (ih (sound_step s input h) hnext)

/-! ## Every history -/

/-- How a client with strict verification treats what arrives, after any history. -/
structure Guarded (history : History) (start : Engine) : Prop where
  /-- An envelope is valid if its signature is right under the key in force at that time. -/
  valid : ∀ s envelope, (run history start).engine.verdict s envelope = .valid ↔
    envelope.Authentic s.provider (run history start).engine.keyInForce
  /-- An envelope that is taken in is a pong, or is delivered because it is valid, or is dropped. -/
  judged : ∀ s input envelope, (run history start).engine.taken? input = some envelope →
    ∃ frame, input = .signal (.message frame) ∧ Inbound.parse frame = .ok (.envelope envelope) ∧
      Judged s frame envelope (run history start).engine ((run history start).engine.step s input)
  /-- The host hears of a message only what is vouched for. -/
  vouched : ∀ s input event, (Effect.host event).isTraffic →
    .host event ∈ ((run history start).engine.step s input).effects →
    Vouched s input (run history start).engine event
  /-- Text that does not parse, and handshakes, count for nothing, and the host hears of no message. -/
  unheard : ∀ s frame, (∀ envelope, Inbound.parse frame ≠ .ok (.envelope envelope)) →
    Mute (run history start).engine
      ((run history start).engine.step s (.signal (.message frame)))
  /-- Neither does anything else that happens count as received, or as a failure. -/
  uncounted : ∀ s input, (run history start).engine.taken? input = none →
    ((run history start).engine.step s input).engine.session.received =
        (run history start).engine.session.received ∧
      ((run history start).engine.step s input).engine.session.verificationFailures =
        (run history start).engine.session.verificationFailures
  /-- What was received is pongs, valid envelopes and failures, -/
  received : (run history start).engine.session.received =
    (arrivals history start).countP Arrival.isPong + (arrivals history start).countP Arrival.isValid
      + (run history start).engine.session.verificationFailures
  /-- and failures are the envelopes that were dropped. -/
  failures : (run history start).engine.session.verificationFailures =
    (arrivals history start).countP Arrival.isDropped

end Engine
end Tether
