import Tether.Proofs.Link.Since

/-!
# `Tether.Proofs.Link.Stream` — what is put on a line is what its receiver gets

Every line of every run is in order (`Streamed`), and so are the frames and the attempts that wait for the
peer (`Box.Posted`): both are carried through one more operation, and so through a run. What waits is
handed out to whoever asks for it, one by one or all at once. Together this is the law of a link.

* `Streamed` — the invariant of one line;
* `Box.Posted` — the invariant of what waits for the peer;
* `receive_of_pending`, `drain_eq`, `nextFrame_of_frames` — what waits is handed out;
* `one_by_one` — asking again and again gets everything;
* `conveyed_run` — **nothing is lost, repeated or overtaken**, and a close is the last signal of a line.
-/

namespace Tether.Link

variable {l : Link} {n : Nat} {op : Op}

/-! ## One line -/

/-- Line `n` after some operations. -/
structure Streamed (n : Nat) (ops : List Op) : Prop where
  /-- Nothing was put on a line that was not handed out. -/
  unborn : (run ops).lines.length ≤ n → emitted n ops = []
  /-- What was taken was put there, in this order. -/
  taken : taken n ops <+: emitted n ops
  /-- The rest waits, as long as the receiver is held, -/
  waits : (run ops).isHeld n = true → emitted n ops = Link.taken n ops ++ (run ops).pending n
  /-- and not any longer. -/
  gone : (run ops).isHeld n = false → (run ops).pending n = []
  /-- A line that is fed has no close on it. -/
  fed : (run ops).feeding = some n → ∀ s ∈ emitted n ops, s.isClose = false
  /-- Nothing follows a close. -/
  closes : ∀ s ∈ (emitted n ops).dropLast, s.isClose = false

theorem streamed_nil (n : Nat) : Streamed n [] :=
  ⟨fun _ => rfl, List.prefix_rfl, fun _ => rfl, fun _ => rfl, nofun, nofun⟩

/-- Nothing is put on, or taken off, a line that nobody holds. -/
theorem idle_of_not_held (hheld : l.isHeld n = false) (hempty : l.pending n = []) :
    accepted n (l, op) = none ∧ yielded n (l, op) = [] := by
  have hacc : accepted n (l, op) = none := if_neg fun h => by simp [hheld] at h
  refine ⟨hacc, ?_⟩
  by_cases hrel : op = .release n
  · rw [hrel]; rfl
  · have heq := pending_act (l := l) hrel
    rw [hempty, hacc] at heq
    exact (List.append_eq_nil_iff.mp heq.symm).1

variable {ops : List Op}

/-- The books of a line after one more operation, if its receiver is held. -/
theorem Streamed.books (h : Streamed n ops) (hheld : (run ops).isHeld n = true) (hrel : op ≠ .release n) :
    emitted n (ops ++ [op]) = Link.taken n (ops ++ [op]) ++ (run (ops ++ [op])).pending n := by
  rw [emitted_concat, taken_concat, run_concat, h.waits hheld, List.append_assoc, List.append_assoc,
    pending_act hrel]

/-- A line that nobody holds, and its books, stay as they are. -/
theorem Streamed.idle (h : Streamed n ops) (hheld : (run ops).isHeld n = false) (op : Op) :
    accepted n (run ops, op) = none ∧ yielded n (run ops, op) = [] ∧
      (run (ops ++ [op])).pending n = [] := by
  obtain ⟨hacc, hyield⟩ := @idle_of_not_held (run ops) n op hheld (h.gone hheld)
  refine ⟨hacc, hyield, ?_⟩
  rw [run_concat]
  by_cases hrel : op = .release n
  · subst hrel
    exact (pending_release _ n).1
  · have heq := pending_act (l := run ops) hrel
    rw [h.gone hheld, hacc, hyield] at heq
    exact heq.symm

/-- **The signals of a line after one more operation.** -/
theorem Streamed.concat (h : Streamed n ops) (op : Op) : Streamed n (ops ++ [op]) := by
  have hlength := length_act (run ops) op
  constructor
  case unborn =>
    intro hn
    rw [run_concat] at hn
    have hn' : (run ops).lines.length ≤ n := Nat.le_trans hlength hn
    rw [emitted_concat, h.unborn hn', (h.idle (isHeld_of_length_le hn') op).1]; rfl
  case taken =>
    cases hheld : (run ops).isHeld n with
    | false =>
      obtain ⟨hacc, hyield, -⟩ := h.idle hheld op
      rw [emitted_concat, taken_concat, hacc, hyield]
      simpa using h.taken
    | true =>
      by_cases hrel : op = .release n
      · subst hrel
        rw [emitted_concat, taken_concat]
        simpa [accepted, Op.signal?, yielded] using h.taken
      · rw [h.books hheld hrel]
        exact List.prefix_append ..
  case waits =>
    intro hheld
    rw [run_concat] at hheld
    have hrel : op ≠ .release n := by
      rintro rfl
      rw [act, (pending_release _ n).2] at hheld
      cases hheld
    by_cases hn : n < (run ops).lines.length
    · rw [isHeld_act hn hrel] at hheld
      exact h.books hheld hrel
    · -- the line was handed out just now
      have hn' := Nat.le_of_not_lt hn
      obtain ⟨hacc, hyield, hpending⟩ := h.idle (isHeld_of_length_le hn') op
      have hempty := h.unborn hn'
      have htaken : Link.taken n ops = [] := List.prefix_nil.mp (hempty ▸ h.taken)
      rw [emitted_concat, taken_concat, hempty, hacc, htaken, hyield, hpending]
      rfl
  case gone =>
    intro hheld
    cases hold : (run ops).isHeld n with
    | false => exact (h.idle hold op).2.2
    | true =>
      rw [run_concat] at hheld ⊢
      by_cases hrel : op = .release n
      · subst hrel
        exact (pending_release _ n).1
      · rw [isHeld_act (lt_length_of_isHeld hold) hrel, hold] at hheld
        cases hheld
  case fed =>
    intro hf s hs
    rw [run_concat] at hf
    rw [emitted_concat] at hs
    rcases (run ops).feeding_act op with feeding | feeding | feeding
    · rw [feeding] at hf
      rcases List.mem_append.mp hs with hs | hs
      · exact h.fed hf s hs
      · -- a close would have detached the line
        have hsignal := (of_accepted (Option.mem_toList.mp hs)).2.2
        refine eq_false_of_ne_true fun hs' => ?_
        rw [detached_of_close hsignal hs', hf] at feeding
        cases feeding
    · rw [feeding] at hf; cases hf
    · obtain rfl : (run ops).lines.length = n := Option.some.inj (feeding.symm.trans hf)
      have hnone := isHeld_of_length_le (l := run ops) (Nat.le_refl _)
      rw [h.unborn (Nat.le_refl _), (h.idle hnone op).1] at hs
      cases hs
  case closes =>
    rw [emitted_concat]
    cases hacc : accepted n (run ops, op) with
    | none => simpa using h.closes
    | some s =>
      rw [Option.toList_some, List.dropLast_concat]
      exact h.fed (of_accepted hacc).1

/-- **Every line of every run is in order.** -/
theorem streamed (n : Nat) (ops : List Op) : Streamed n ops := by
  induction ops using List.reverseRecOn with
  | nil => exact streamed_nil n
  | append_singleton ops op ih => exact ih.concat op

/-- A close comes last, if there is one. -/
def ClosesLast (ss : List Signal) : Prop :=
  ∀ before s after, ss = before ++ s :: after → s.isClose = true → after = []

theorem closesLast_of_dropLast {ss : List Signal} (h : ∀ s ∈ ss.dropLast, s.isClose = false) :
    ClosesLast ss := by
  rintro before s after rfl hs
  cases after with
  | nil => rfl
  | cons s' after =>
    have hmem : s ∈ (before ++ s :: s' :: after).dropLast := by
      rw [List.dropLast_append_of_ne_nil (List.cons_ne_nil _ _)]
      exact List.mem_append_right _ List.mem_cons_self
    rw [h s hmem] at hs
    cases hs

theorem ClosesLast.of_prefix {ss ss' : List Signal} (h : ClosesLast ss') (hp : ss <+: ss') :
    ClosesLast ss := by
  obtain ⟨rest, rfl⟩ := hp
  rintro before s after rfl hs
  have hnil := h before s (after ++ rest) (by simp) hs
  exact (List.append_eq_nil_iff.mp hnil).1

/-- A receiver finds its line at an end when nothing waits and nothing can come. -/
theorem receive_eq_ended_iff (l : Link) (n : Nat) :
    (l.receive n).2 = .ended ↔ l.feeding ≠ some n ∧ l.pending n = [] := by
  rw [receive_eq]
  cases l.pending n with
  | nil => by_cases hf : l.feeding = some n <;> simp [hf]
  | cons s rest => simp

/-! ## What waits for the peer -/

theorem send_eq_ok_iff (l : Link) (frame : String) :
    (l.send frame).2 = .ok () ↔ l.readiness = .opened ∧ l.peerPresent = true := by
  unfold send sendAnswer
  by_cases hr : l.readiness = .opened
  · cases hp : l.peerPresent <;> simp [hr]
  · simp [hr]

/-- What an operation does to the peer's account: what waited and what is put there is what is taken out
    and what waits. -/
structure Posts (l : Link) (op : Op) : Prop where
  frames : l.frames ++ (written (l, op)).toList = (looked (l, op)).toList ++ (l.act op).frames
  requests : l.requests ++ (asks (l, op)).toList = (views (l, op)).toList ++ (l.act op).requests
  peerPresent : (l.act op).peerPresent = l.peerPresent
  attempts : (l.act op).attempts = l.attempts + [op].countP Op.isDial

theorem posts_of_still (h : l.Still (l.act op)) (hw : written (l, op) = none)
    (hl : looked (l, op) = none) (ha : asks (l, op) = none) (hv : views (l, op) = none)
    (hd : op.isDial = false) : l.Posts op :=
  ⟨by simp [hw, hl, h.frames], by simp [ha, hv, h.requests], h.peerPresent, by simp [h.attempts, hd]⟩

/-- **What waits for the peer after an operation**, unless the peer leaves. -/
theorem posts (h : op ≠ .peer .drop) : l.Posts op := by
  cases op with
  | dial url subprotocol =>
    refine ⟨?_, ?_, ?_, ?_⟩ <;> rw [act, dial] <;> dsimp only <;> split <;>
      simp [written, looked, asks, views, Op.isDial] <;> split <;> simp
  | send frame =>
    cases hsend : l.sendAnswer with
    | ok => exact ⟨by simp [act, send, written, looked, hsend], by simp [act, send, asks, views, hsend],
        by simp [act, send, hsend], by simp [act, send, hsend, Op.isDial]⟩
    | error e =>
      have hact : l.act (.send frame) = l := by simp [act, send, hsend]
      refine posts_of_still ?_ (by simp [written, send, hsend]) rfl rfl rfl rfl
      rw [hact]
      exact .refl l
  | nextFrame =>
    cases hframes : l.frames with
    | nil =>
      have hact : l.act .nextFrame = l := by simp [act, nextFrame, hframes]
      refine posts_of_still ?_ rfl (by simp [looked, nextFrame, hframes]) rfl rfl rfl
      rw [hact]
      exact .refl l
    | cons f rest => exact ⟨by simp [act, nextFrame, written, looked, hframes],
        by simp [act, nextFrame, asks, views, hframes], by simp [act, nextFrame, hframes],
        by simp [act, nextFrame, hframes, Op.isDial]⟩
  | nextRequest =>
    cases hrequests : l.requests with
    | nil =>
      have hact : l.act .nextRequest = l := by simp [act, nextRequest, hrequests]
      refine posts_of_still ?_ rfl rfl rfl (by simp [views, nextRequest, hrequests]) rfl
      rw [hact]
      exact .refl l
    | cons r rest => exact ⟨by simp [act, nextRequest, written, looked, hrequests],
        by simp [act, nextRequest, asks, views, hrequests], by simp [act, nextRequest, hrequests],
        by simp [act, nextRequest, hrequests, Op.isDial]⟩
  | close => exact posts_of_still (still_close l) rfl rfl rfl rfl rfl
  | peer a => exact posts_of_still (still_apply l fun heq => h (heq ▸ rfl)) rfl rfl rfl rfl rfl
  | receive m => exact posts_of_still (still_receive l m) rfl rfl rfl rfl rfl
  | drain m =>
    refine posts_of_still ?_ rfl rfl rfl rfl rfl
    rw [act, drain]
    cases l.lines[m]? with
    | none => exact .refl l
    | some line => by_cases hheld : line.held = true <;> simp [hheld] <;> exact ⟨rfl, rfl, rfl, rfl⟩
  | release m => exact posts_of_still ⟨rfl, rfl, rfl, rfl⟩ rfl rfl rfl rfl rfl

/-- What a peer leaves behind: nothing. -/
theorem act_drop (l : Link) :
    (l.act (.peer .drop)) = if l.peerPresent = true then l.dropPeer else l := by
  rw [act, PeerAct.apply]
  split <;> rfl

/-- Without a peer, no frame is written. -/
theorem written_of_absent (h : l.peerPresent = false) (op : Op) : written (l, op) = none := by
  cases op with
  | send frame =>
    have hne := mt (send_eq_ok_iff l frame).mp (by simp [h])
    unfold written
    dsimp only
    split
    · exact absurd ‹_› hne
    · rfl
  | _ => rfl

/-- Without a peer, nobody sees an attempt. -/
theorem asks_of_absent (h : l.peerPresent = false) (op : Op) : asks (l, op) = none := by
  cases op with
  | dial url subprotocol => simp [asks, h]
  | _ => rfl

/-! ### Boxes -/

/-- A box at the peer: what operations put in, what the peer takes out, and what waits in between. -/
structure Box (α : Type) where
  put : Link × Op → Option α
  got : Link × Op → Option α
  waiting : Link → List α

namespace Box

variable {α : Type} {b : Box α}

/-- Frames for the peer. -/
def frames : Box String := ⟨written, looked, Link.frames⟩

/-- Attempts for the peer. -/
def requests : Box (String × String) := ⟨asks, views, Link.requests⟩

/-- A box is empty at first, balances with every operation, and goes with the peer. -/
structure Lawful (b : Box α) : Prop where
  new : b.waiting {} = []
  act : ∀ l op, op ≠ .peer .drop →
    b.waiting l ++ (b.put (l, op)).toList = (b.got (l, op)).toList ++ b.waiting (l.act op)
  gone : ∀ l : Link, b.got (l, .peer .drop) = none ∧ b.waiting l.dropPeer = []
  put_of_absent : ∀ l op, l.peerPresent = false ∨ op = .peer .drop → b.put (l, op) = none

theorem lawful_frames : frames.Lawful where
  new := rfl
  act _ _ h := (posts h).frames
  gone _ := ⟨rfl, rfl⟩
  put_of_absent l op h := by
    rcases h with h | rfl
    · exact written_of_absent h op
    · rfl

theorem lawful_requests : requests.Lawful where
  new := rfl
  act _ _ h := (posts h).requests
  gone _ := ⟨rfl, rfl⟩
  put_of_absent l op h := by
    rcases h with h | rfl
    · exact asks_of_absent h op
    · rfl

/-- Everything put into the box, in order. -/
def allPut (b : Box α) (ops : List Op) : List α := (log {} ops).filterMap b.put

/-- Everything taken out of the box, in order. -/
def allGot (b : Box α) (ops : List Op) : List α := (log {} ops).filterMap b.got

theorem allPut_concat (b : Box α) (ops : List Op) (op : Op) :
    b.allPut (ops ++ [op]) = b.allPut ops ++ (b.put (run ops, op)).toList := filterMap_log_concat ..

theorem allGot_concat (b : Box α) (ops : List Op) (op : Op) :
    b.allGot (ops ++ [op]) = b.allGot ops ++ (b.got (run ops, op)).toList := filterMap_log_concat ..

/-- A box after some operations. -/
structure Posted (b : Box α) (ops : List Op) : Prop where
  /-- What the peer took out was put in, in this order. -/
  got : b.allGot ops <+: b.allPut ops
  /-- The rest waits, as long as there is a peer, -/
  waits : (run ops).peerPresent = true → b.allPut ops = b.allGot ops ++ b.waiting (run ops)
  /-- and not any longer. -/
  gone : (run ops).peerPresent = false → b.waiting (run ops) = []

/-- A box after the peer has left, or did so before. -/
theorem Posted.concat_drop (hb : b.Lawful) (h : b.Posted ops) : b.Posted (ops ++ [.peer .drop]) := by
  have hput : b.allPut (ops ++ [.peer .drop]) = b.allPut ops := by
    rw [allPut_concat, hb.put_of_absent _ _ (Or.inr rfl)]
    exact List.append_nil _
  have hgot : b.allGot (ops ++ [.peer .drop]) = b.allGot ops := by
    rw [allGot_concat, (hb.gone _).1]
    exact List.append_nil _
  constructor
  case got =>
    rw [hput, hgot]
    exact h.got
  case waits =>
    intro hp
    rw [run_concat, act_drop] at hp
    split at hp
    · cases hp
    · exact absurd hp ‹_›
  case gone =>
    intro _
    rw [run_concat, act_drop]
    split
    · exact (hb.gone _).2
    · exact h.gone (eq_false_of_ne_true ‹_›)

/-- **A box after one more operation.** -/
theorem Posted.concat (hb : b.Lawful) (h : b.Posted ops) (op : Op) : b.Posted (ops ++ [op]) := by
  by_cases hdrop : op = .peer .drop
  · subst hdrop
    exact h.concat_drop hb
  have hact := hb.act (run ops) op hdrop
  have hstays : (run (ops ++ [op])).peerPresent = (run ops).peerPresent := by
    rw [run_concat, (posts hdrop).peerPresent]
  cases hp : (run ops).peerPresent with
  | true =>
    have hbooks : b.allPut (ops ++ [op]) = b.allGot (ops ++ [op]) ++ b.waiting (run (ops ++ [op])) := by
      rw [allPut_concat, allGot_concat, run_concat, h.waits hp, List.append_assoc, List.append_assoc,
        hact]
    refine ⟨?_, fun _ => hbooks, fun hgone => ?_⟩
    · rw [hbooks]
      exact List.prefix_append ..
    · rw [hstays, hp] at hgone
      cases hgone
  | false =>
    -- nothing comes in, and nothing was left
    have hput := hb.put_of_absent (run ops) op (Or.inl hp)
    rw [h.gone hp, hput] at hact
    obtain ⟨hgot, hnone⟩ := List.append_eq_nil_iff.mp hact.symm
    refine ⟨?_, fun hpres => ?_, fun _ => ?_⟩
    · rw [allPut_concat, allGot_concat, hput, hgot]
      simpa using h.got
    · rw [hstays, hp] at hpres
      cases hpres
    · rw [run_concat]
      exact hnone

/-- **A lawful box is in order after every run.** -/
theorem Lawful.posted (hb : b.Lawful) (ops : List Op) : b.Posted ops := by
  induction ops using List.reverseRecOn with
  | nil => exact ⟨List.prefix_rfl, fun _ => hb.new.symm, fun _ => hb.new⟩
  | append_singleton ops op ih => exact ih.concat hb op

end Box

/-- Every attempt is counted, refused or not. -/
theorem attempts_run (ops : List Op) : (run ops).attempts = ops.countP Op.isDial := by
  induction ops using List.reverseRecOn with
  | nil => rfl
  | append_singleton ops op ih =>
    rw [run_concat, List.countP_append, ← ih]
    by_cases hdrop : op = .peer .drop
    · subst hdrop
      rw [act_drop]
      split <;> rfl
    · exact (posts hdrop).attempts

/-- The peer is there until it leaves. -/
theorem present_iff (ops : List Op) : (run ops).peerPresent = true ↔ Op.peer .drop ∉ ops := by
  induction ops using List.reverseRecOn with
  | nil => simp
  | append_singleton ops op ih =>
    rw [run_concat, List.mem_append, not_or, List.mem_singleton, ← ih]
    by_cases hdrop : op = .peer .drop
    · subst hdrop
      refine iff_of_false (fun hp => ?_) fun h => h.2 rfl
      rw [act_drop] at hp
      split at hp
      · cases hp
      · exact absurd hp ‹_›
    · rw [(posts hdrop).peerPresent, and_iff_left fun h => hdrop h.symm]

/-! ## What waits is handed out -/

/-- A receiver takes the first signal that waits, and leaves the others. -/
theorem receive_of_pending {s : Signal} {rest : List Signal} (h : l.pending n = s :: rest) :
    (l.receive n).2 = .signal s ∧ (l.act (.receive n)).pending n = rest := by
  have hanswer : (l.receive n).2 = .signal s := by rw [receive_eq, h]
  have hpending := (receive_signal (Prod.ext rfl hanswer)).1
  rw [h] at hpending
  exact ⟨hanswer, (List.cons.inj hpending).2.symm⟩

/-- One signal at most is taken at a time. -/
theorem yielded_receive (l : Link) (n : Nat) : yielded n (l, .receive n) = (l.pending n).take 1 ∧
    (l.act (.receive n)).pending n = (l.pending n).drop 1 := by
  rw [yielded, if_pos rfl]
  cases hp : l.pending n with
  | nil =>
    rw [act, receive_eq, hp]
    by_cases hf : l.feeding = some n <;> simp [hf, hp]
  | cons s rest =>
    obtain ⟨hanswer, hrest⟩ := receive_of_pending hp
    rw [hanswer, hrest]
    exact ⟨rfl, rfl⟩

/-- A line that is held hands out everything that waits on it, and says whether more can come. -/
theorem drain_eq (l : Link) (n : Nat) : l.drain n =
    if l.isHeld n = true then some (l.act (.drain n), l.pending n, decide (l.feeding = some n))
    else none := by
  rw [act, drain, isHeld, pending]
  cases l.lines[n]? with
  | none => rfl
  | some line => cases hheld : line.held <;> simp [hheld]

theorem yielded_drain (h : l.isHeld n = true) : yielded n (l, .drain n) = l.pending n := by
  rw [yielded, if_pos rfl, drain_eq, if_pos h]
  rfl

/-- Nothing is left behind on a line that was held. -/
theorem pending_drained (h : l.isHeld n = true) : (l.act (.drain n)).pending n = [] := by
  have hbooks := pending_drain l n n
  rw [yielded_drain h] at hbooks
  exact List.self_eq_append_right.mp hbooks

/-- The peer reads the first frame that waits, and leaves the others. -/
theorem nextFrame_of_frames {f : String} {rest : List String} (h : l.frames = f :: rest) :
    l.nextFrame.2 = some f ∧ (l.act .nextFrame).frames = rest := by
  rw [act, nextFrame, h]
  exact ⟨rfl, rfl⟩

/-- The peer looks at the first attempt that waits, and leaves the others. -/
theorem nextRequest_of_requests {r : String × String} {rest : List (String × String)}
    (h : l.requests = r :: rest) :
    l.nextRequest.2 = some r ∧ (l.act .nextRequest).requests = rest := by
  rw [act, nextRequest, h]
  exact ⟨rfl, rfl⟩

/-- One frame at most is read at a time. -/
theorem looked_nextFrame (l : Link) : (looked (l, .nextFrame)).toList = l.frames.take 1 ∧
    (l.act .nextFrame).frames = l.frames.drop 1 := by
  rw [looked, act, nextFrame]
  cases hframes : l.frames with
  | nil => exact ⟨rfl, hframes⟩
  | cons f rest => exact ⟨rfl, rfl⟩

/-- **Whoever asks for one at a time gets them all**, and in the order in which they wait. -/
theorem one_by_one {α : Type} (got waiting : List Op → List α)
    (h : ∀ ops, got (ops ++ [op]) = got ops ++ (waiting ops).take 1 ∧
      waiting (ops ++ [op]) = (waiting ops).drop 1) (ops : List Op) (k : Nat) :
    got (ops ++ List.replicate k op) = got ops ++ (waiting ops).take k ∧
      waiting (ops ++ List.replicate k op) = (waiting ops).drop k := by
  induction k with
  | zero => simp
  | succ k ih =>
    obtain ⟨hgot, hwaiting⟩ := ih
    obtain ⟨hgot', hwaiting'⟩ := h (ops ++ List.replicate k op)
    rw [List.replicate_succ', ← List.append_assoc, hgot', hwaiting', hgot, hwaiting]
    exact ⟨by rw [List.append_assoc, List.take_add], by rw [List.drop_drop]⟩

/-- Receiving as often as signals wait takes all of them. -/
theorem taken_replicate (n : Nat) (ops : List Op) :
    taken n (ops ++ List.replicate ((run ops).pending n).length (.receive n)) =
      taken n ops ++ (run ops).pending n := by
  have hstep : ∀ ops, taken n (ops ++ [.receive n]) = taken n ops ++ ((run ops).pending n).take 1 ∧
      (run (ops ++ [.receive n])).pending n = ((run ops).pending n).drop 1 := fun ops => by
    rw [taken_concat, run_concat, (yielded_receive ..).1, (yielded_receive ..).2]
    exact ⟨rfl, rfl⟩
  rw [(one_by_one (taken n) (fun ops => (run ops).pending n) hstep ops _).1, List.take_length]

/-- Reading as often as frames wait reads all of them. -/
theorem seen_replicate (ops : List Op) :
    seen (ops ++ List.replicate (run ops).frames.length .nextFrame) = seen ops ++ (run ops).frames := by
  have hstep : ∀ ops, seen (ops ++ [.nextFrame]) = seen ops ++ (run ops).frames.take 1 ∧
      (run (ops ++ [.nextFrame])).frames = (run ops).frames.drop 1 := fun ops => by
    rw [seen, filterMap_log_concat, run_concat, (looked_nextFrame _).1, (looked_nextFrame _).2]
    exact ⟨rfl, rfl⟩
  rw [(one_by_one seen (fun ops => (run ops).frames) hstep ops _).1, List.take_length]

/-! ## The law of a link -/

/-- An attempt is answered with the number of the line it gets, if it is accepted. -/
theorem dial_eq_ok_iff (l : Link) (url subprotocol : String) (n : Nat) :
    (l.dial url subprotocol).2 = .ok n ↔ Feeds n l (.dial url subprotocol) := by
  cases hrefusing : l.refusing <;> simp [dial, hrefusing, Feeds, Op.isDial]

/-- What holds of a new link after some operations, whatever their order. -/
structure Conveyed (ops : List Op) : Prop where
  /-- The link is open if the peer has opened it, and since then neither end has closed it and no attempt
      was made. -/
  opened : (run ops).readiness = .opened ↔
    Since Opens (fun l op => l.Closes op ∨ op.isDial = true) ops
  /-- An attempt is accepted unless attempts are refused, and gets the next line. -/
  dials : ∀ l url subprotocol, (l, .dial url subprotocol) ∈ log {} ops → ∀ n,
    (l.dial url subprotocol).2 = .ok n ↔ Feeds n l (.dial url subprotocol)
  /-- A line is fed if an attempt got it, and since then neither end has closed the link and no attempt got
      another, -/
  fed : ∀ n, (run ops).feeding = some n ↔
    Since (Feeds n) (fun l op => l.Closes op ∨ ∃ m, Feeds m l op) ops
  /-- and its receiver is held if an attempt got the line and it was not given up since. -/
  held : ∀ n, (run ops).isHeld n = true ↔ Since (Feeds n) (fun _ op => op = .release n) ops
  /-- Attempts are refused if the peer has begun to refuse them and has not stopped since, -/
  refusing : (run ops).refusing = true ↔ Since (Refuses true) (Refuses false) ops
  /-- and the peer is there unless it has left. -/
  present : (run ops).peerPresent = true ↔ Op.peer .drop ∉ ops
  /-- The peer is told whether its signal was put on a line. -/
  told : ∀ l a, (l, .peer a) ∈ log {} ops →
    ((a.apply l).2 = true ↔ ∃ n s, accepted n (l, .peer a) = some s)
  /-- A receiver gets what was put on its line, in this order, and nothing twice. -/
  received : ∀ n, taken n ops <+: emitted n ops
  /-- Nothing is lost: what a receiver has not taken waits for it, as long as it is held. -/
  waits : ∀ n, (run ops).isHeld n = true → emitted n ops = taken n ops ++ (run ops).pending n
  /-- A receiver that asks gets the first signal that waits, and the others go on waiting, -/
  yields : ∀ n s rest, (run ops).pending n = s :: rest →
    ((run ops).receive n).2 = .signal s ∧ (run (ops ++ [.receive n])).pending n = rest
  /-- so one that asks often enough has everything that was put on its line. -/
  catchesUp : ∀ n, (run ops).isHeld n = true →
    taken n (ops ++ List.replicate ((run ops).pending n).length (.receive n)) = emitted n ops
  /-- A receiver that is held can take all that waits at once, and learns whether more can come; -/
  drains : ∀ n, (run ops).drain n = if (run ops).isHeld n = true then
    some (run (ops ++ [.drain n]), (run ops).pending n, decide ((run ops).feeding = some n)) else none
  /-- nothing is left then. -/
  drained : ∀ n, (run ops).isHeld n = true →
    taken n (ops ++ [.drain n]) = emitted n ops ∧ (run (ops ++ [.drain n])).pending n = []
  /-- It finds its line at an end exactly if the line is detached and it has taken everything. -/
  ended : ∀ n, (run ops).isHeld n = true →
    (((run ops).receive n).2 = .ended ↔ (run ops).feeding ≠ some n ∧ taken n ops = emitted n ops)
  /-- Of the signals of a line, those put there as well as those taken, none follows a close. -/
  closes : ∀ n, ClosesLast (emitted n ops) ∧ ClosesLast (taken n ops)
  /-- A frame is taken exactly if the link is open and there is a peer. -/
  sends : ∀ l frame, (l, .send frame) ∈ log {} ops →
    ((l.send frame).2 = .ok () ↔ l.readiness = .opened ∧ l.peerPresent = true)
  /-- The peer reads the frames that were taken, in this order, over any number of connections, -/
  read : seen ops <+: sent ops
  /-- and the rest waits for it, as long as it is there. -/
  unread : (run ops).peerPresent = true → sent ops = seen ops ++ (run ops).frames
  /-- A peer that asks gets the first frame that waits, and the others go on waiting, -/
  reads : ∀ f rest, (run ops).frames = f :: rest →
    (run ops).nextFrame.2 = some f ∧ (run (ops ++ [.nextFrame])).frames = rest
  /-- so one that asks often enough has read everything. -/
  readsAll : (run ops).peerPresent = true →
    seen (ops ++ List.replicate (run ops).frames.length .nextFrame) = sent ops
  /-- Every attempt is counted, refused or not. -/
  attempts : (run ops).attempts = ops.countP Op.isDial
  /-- The peer sees the attempts that were made while it was there, in this order, -/
  viewed : viewed ops <+: asked ops
  /-- and the rest waits for it, as long as it is there. -/
  unviewed : (run ops).peerPresent = true → asked ops = Link.viewed ops ++ (run ops).requests
  /-- A peer that asks gets the first attempt that waits, and the others go on waiting. -/
  views : ∀ r rest, (run ops).requests = r :: rest →
    (run ops).nextRequest.2 = some r ∧ (run (ops ++ [.nextRequest])).requests = rest

/-- **A link conveys what is put into it**: in whatever order the client, the peer and the receivers act,
    every signal and every frame that is taken arrives once and in order. -/
theorem conveyed_run (ops : List Op) : Conveyed ops := by
  have hframes := Box.lawful_frames.posted ops
  have hrequests := Box.lawful_requests.posted ops
  have hstreamed := fun n => streamed n ops
  constructor
  case opened => exact opened_iff ops
  case dials =>
    intro l url subprotocol _ n
    exact dial_eq_ok_iff l url subprotocol n
  case fed =>
    intro n
    exact fed_iff n ops
  case held =>
    intro n
    exact held_iff n ops
  case refusing => exact refusing_iff ops
  case present => exact present_iff ops
  case told =>
    intro l a _
    exact apply_eq_true_iff l a
  case received =>
    intro n
    exact (hstreamed n).taken
  case waits =>
    intro n
    exact (hstreamed n).waits
  case yields =>
    intro n s rest hpending
    rw [run_concat]
    exact receive_of_pending hpending
  case catchesUp =>
    intro n hheld
    rw [taken_replicate, (hstreamed n).waits hheld]
  case drains =>
    intro n
    rw [run_concat]
    exact drain_eq _ n
  case drained =>
    intro n hheld
    rw [taken_concat, yielded_drain hheld, (hstreamed n).waits hheld, run_concat]
    exact ⟨rfl, pending_drained hheld⟩
  case ended =>
    intro n hheld
    rw [receive_eq_ended_iff, (hstreamed n).waits hheld, List.self_eq_append_right]
  case closes =>
    intro n
    have hcloses := closesLast_of_dropLast (hstreamed n).closes
    exact ⟨hcloses, hcloses.of_prefix (hstreamed n).taken⟩
  case sends =>
    intro l frame _
    exact send_eq_ok_iff l frame
  case read => exact hframes.got
  case unread => exact hframes.waits
  case reads =>
    intro f rest hwaiting
    rw [run_concat]
    exact nextFrame_of_frames hwaiting
  case readsAll =>
    intro hp
    rw [seen_replicate]
    exact (hframes.waits hp).symm
  case attempts => exact attempts_run ops
  case viewed => exact hrequests.got
  case unviewed => exact hrequests.waits
  case views =>
    intro r rest hwaiting
    rw [run_concat]
    exact nextRequest_of_requests hwaiting

end Tether.Link
