import Tether.Proofs.Link.Run

/-!
# `Tether.Proofs.Link.Since` — the state of a link, told by what was done to it

Whether a link is open, which line is fed, who is held and who refuses are questions about the past: some
operation started it, and none has ended it since. One step of the link starts it, ends it, or leaves it
as it is, and so the answer is read off a run by induction, once for all of them.

* `Since` — something was started, and has not ended;
* `since_concat`, `since_run` — one operation more, and whole runs;
* `opened_act`, `fed_act`, `held_act`, `refusing_act` — what one operation starts and what it ends;
* `opened_iff`, `fed_iff`, `held_iff`, `refusing_iff` — **the state of a link after a run**.
-/

namespace Tether.Link

/-! ## What was started and has not ended -/

/-- Some operation started it, and no operation has ended it since. -/
def Since (starts ends : Link → Op → Prop) (ops : List Op) : Prop :=
  ∃ before op after, ops = before ++ op :: after ∧ starts (run before) op ∧
    ∀ x ∈ log (run (before ++ [op])) after, ¬ ends x.1 x.2

variable {starts ends : Link → Op → Prop} {ops : List Op} {op : Op} {l : Link} {n : Nat}

theorem not_since_nil : ¬ Since starts ends [] := by
  rintro ⟨before, first, after, heq, -⟩
  simp at heq

theorem log_since (before after : List Op) (first op : Op) :
    log (run (before ++ [first])) (after ++ [op]) =
      log (run (before ++ [first])) after ++ [(run (before ++ first :: after), op)] := by
  rw [log_append]
  simp [log, run]

/-- It was started just now, or before and is not ended just now. -/
theorem since_concat : Since starts ends (ops ++ [op]) ↔
    starts (run ops) op ∨ Since starts ends ops ∧ ¬ ends (run ops) op := by
  constructor
  · rintro ⟨before, first, after, heq, hstarts, hkept⟩
    rcases List.eq_nil_or_concat after with rfl | ⟨after, last, rfl⟩
    · obtain ⟨rfl, hop⟩ := List.append_inj' heq rfl
      obtain rfl := List.singleton_inj.mp hop
      exact Or.inl hstarts
    · rw [List.concat_eq_append] at heq hkept
      rw [← List.cons_append, ← List.append_assoc] at heq
      obtain ⟨rfl, hop⟩ := List.append_inj' heq rfl
      obtain rfl := List.singleton_inj.mp hop
      rw [log_since] at hkept
      obtain ⟨hold, hlast⟩ := List.forall_mem_append.mp hkept
      have hends : ¬ ends (run (before ++ first :: after)) op :=
        hlast (run (before ++ first :: after), op) List.mem_cons_self
      exact Or.inr ⟨⟨before, first, after, rfl, hstarts, hold⟩, hends⟩
  · rintro (hstarts | ⟨⟨before, first, after, rfl, hstarts, hkept⟩, hends⟩)
    · exact ⟨ops, op, [], rfl, hstarts, List.forall_mem_nil _⟩
    · refine ⟨before, first, after ++ [op], by simp, hstarts, ?_⟩
      rw [log_since]
      exact List.forall_mem_append.mpr ⟨hkept, List.forall_mem_singleton.mpr hends⟩

/-- **What one operation starts or ends holds since it was started.** -/
theorem since_run {p : Link → Prop} (hnew : ¬ p {})
    (hact : ∀ l op, p (l.act op) ↔ starts l op ∨ p l ∧ ¬ ends l op) (ops : List Op) :
    p (run ops) ↔ Since starts ends ops := by
  induction ops using List.reverseRecOn with
  | nil => exact iff_of_false hnew not_since_nil
  | append_singleton ops op ih => rw [run_concat, hact, ih, since_concat]

/-! ## Lines that are fed, and the link that is open -/

/-- An attempt is accepted, and gets line `n`. -/
def Feeds (n : Nat) (l : Link) (op : Op) : Prop :=
  op.isDial = true ∧ l.refusing = false ∧ l.lines.length = n

theorem Opens.isDial (h : l.Opens op) : op.isDial = false := by
  rw [h.1]
  rfl

theorem Closes.isDial (h : l.Closes op) : op.isDial = false := by
  rcases h with rfl | ⟨reason, rfl, -⟩ <;> rfl

theorem Closes.not_opens (h : l.Closes op) : ¬ l.Opens op := by
  rintro ⟨rfl, -⟩
  rcases h with heq | ⟨reason, heq, -⟩ <;> cases heq

/-- A link is open after it is opened, or if it was and is neither closed nor dialled. -/
theorem opened_act (l : Link) (op : Op) : (l.act op).readiness = .opened ↔
    l.Opens op ∨ l.readiness = .opened ∧ ¬ (l.Closes op ∨ op.isDial = true) := by
  cases l.shifts op with
  | same _ readiness _ quiet => simp [readiness, quiet.1, quiet.2.1, quiet.2.2]
  | closed _ readiness _ closes => simp [readiness, closes, closes.not_opens]
  | opened _ _ readiness _ opens => simp [readiness, opens]
  | fresh dial _ _ readiness =>
    have hopens : ¬ l.Opens op := fun h => Bool.false_ne_true (h.isDial.symm.trans dial)
    simp [readiness, dial, hopens]
  | refused dial _ _ readiness =>
    have hopens : ¬ l.Opens op := fun h => Bool.false_ne_true (h.isDial.symm.trans dial)
    simp [readiness, dial, hopens]

/-- A line is fed after an attempt gets it, or if it was and neither is the link closed nor another line
    handed out. -/
theorem fed_act (n : Nat) (l : Link) (op : Op) : (l.act op).feeding = some n ↔
    Feeds n l op ∨ l.feeding = some n ∧ ¬ (l.Closes op ∨ ∃ m, Feeds m l op) := by
  cases l.shifts op with
  | same feeding _ _ quiet => simp [feeding, Feeds, quiet.2.1, quiet.2.2]
  | closed feeding _ _ closes => simp [feeding, Feeds, closes, closes.isDial]
  | opened _ feeding _ _ opens =>
    have hcloses : ¬ l.Closes op := fun h => h.not_opens opens
    simp [feeding, Feeds, hcloses, opens.isDial]
  | fresh dial refusing feeding => simp [feeding, Feeds, dial, refusing]
  | refused dial refusing feeding =>
    have hcloses : ¬ l.Closes op := fun h => Bool.false_ne_true (h.isDial.symm.trans dial)
    simp [feeding, Feeds, hcloses, refusing]

/-- **The link is open** if the peer has opened it, and since then neither end has closed it and no attempt
    was made. -/
theorem opened_iff (ops : List Op) : (run ops).readiness = .opened ↔
    Since Opens (fun l op => l.Closes op ∨ op.isDial = true) ops :=
  since_run (p := fun l => l.readiness = .opened) Readiness.noConfusion opened_act ops

/-- **A line is fed** if it was handed out, and since then neither end has closed the link and no other line
    was handed out. -/
theorem fed_iff (n : Nat) (ops : List Op) : (run ops).feeding = some n ↔
    Since (Feeds n) (fun l op => l.Closes op ∨ ∃ m, Feeds m l op) ops :=
  since_run (p := fun l => l.feeding = some n) nofun (fed_act n) ops

/-! ## Receivers that are held -/

theorem isHeld_of_length_le (h : l.lines.length ≤ n) : l.isHeld n = false := by
  simp [isHeld, List.getElem?_eq_none h]

theorem lt_length_of_isHeld (h : l.isHeld n = true) : n < l.lines.length := by
  refine Nat.lt_of_not_le fun hle => ?_
  rw [isHeld_of_length_le hle] at h
  cases h

/-- A line is held from when it is handed out. -/
theorem Feeds.isHeld (h : Feeds n l op) : (l.act op).isHeld n = true := by
  obtain ⟨hdial, hrefusing, rfl⟩ := h
  cases op with
  | dial url subprotocol => simp [act, dial, hrefusing, Link.isHeld]; rfl
  | _ => cases hdial

/-- A line is held after an attempt gets it, or if it was and is not given up. -/
theorem held_act (n : Nat) (l : Link) (op : Op) : (l.act op).isHeld n = true ↔
    Feeds n l op ∨ l.isHeld n = true ∧ ¬ op = .release n := by
  by_cases hfeeds : Feeds n l op
  · exact iff_of_true hfeeds.isHeld (Or.inl hfeeds)
  rw [or_iff_right hfeeds]
  by_cases hrel : op = .release n
  · subst hrel
    simp [act, (pending_release l n).2]
  rcases Nat.lt_or_ge n l.lines.length with hn | hn
  · rw [isHeld_act hn hrel, and_iff_left hrel]
  · -- the line is not handed out now either
    have hlength : (l.act op).lines.length ≤ n := by
      cases l.shifts op with
      | same _ _ length | closed _ _ length | opened _ _ _ length | refused _ _ _ _ length =>
        rw [length]; exact hn
      | fresh dial refusing _ _ length =>
        rw [length]
        exact Nat.lt_of_le_of_ne hn fun heq => hfeeds ⟨dial, refusing, heq⟩
    simp [isHeld_of_length_le hlength, isHeld_of_length_le hn]

/-- **A receiver is held** if its line was handed out and it was not given up since. -/
theorem held_iff (n : Nat) (ops : List Op) : (run ops).isHeld n = true ↔
    Since (Feeds n) (fun _ op => op = .release n) ops :=
  since_run (p := fun l => l.isHeld n = true) Bool.noConfusion (held_act n) ops

/-! ## Refusals -/

/-- The peer begins to refuse attempts, or stops doing so. -/
def Refuses (on : Bool) (l : Link) (op : Op) : Prop :=
  op = .peer (.refuse on) ∧ l.peerPresent = true

theorem refusing_put (l : Link) (m : Nat) (s : Signal) : (l.put m s).1.refusing = l.refusing := by
  unfold put
  split <;> rfl

theorem refusing_emit (l : Link) (s : Signal) : (l.emit s).1.refusing = l.refusing := by
  unfold emit
  split
  · exact refusing_put ..
  · rfl

theorem refusing_emitClose (l : Link) (code : UInt16) (reason : String) :
    (l.emitClose code reason).1.refusing = l.refusing := by
  unfold emitClose
  split
  · exact refusing_put ..
  · rfl

theorem refusing_apply (l : Link) {a : PeerAct} (h : ∀ on, a ≠ .refuse on) :
    (a.apply l).1.refusing = l.refusing := by
  unfold PeerAct.apply
  split
  · cases a with
    | accept =>
      show l.accept.1.refusing = l.refusing
      unfold accept
      split
      · exact refusing_emit ..
      · rfl
    | deliver frame => exact refusing_emit ..
    | hangUp reason => exact refusing_emitClose ..
    | fail reason => exact refusing_emit ..
    | refuse on => exact absurd rfl (h on)
    | drop => rfl
  · rfl

/-- Nobody but the peer decides whether attempts are refused. -/
theorem refusing_act_of_ne (h : ∀ on, op ≠ .peer (.refuse on)) :
    (l.act op).refusing = l.refusing := by
  cases op with
  | dial url subprotocol => rw [act, dial]; dsimp only; split <;> rfl
  | send frame => rw [act, send]; split <;> rfl
  | close => exact refusing_emitClose ..
  | peer a => exact refusing_apply l fun on heq => h on (heq ▸ rfl)
  | nextRequest => rw [act, nextRequest]; split <;> rfl
  | nextFrame => rw [act, nextFrame]; split <;> rfl
  | receive m => rw [act, receive]; split <;> rfl
  | drain m =>
    rw [act, drain]
    cases l.lines[m]? with
    | none => rfl
    | some line => cases hheld : line.held <;> simp [hheld]
  | release m => rfl

/-- A link refuses attempts after the peer begins to, or if it did and the peer does not stop. -/
theorem refusing_act (l : Link) (op : Op) : (l.act op).refusing = true ↔
    Refuses true l op ∨ l.refusing = true ∧ ¬ Refuses false l op := by
  by_cases hrefuse : ∃ on, op = .peer (.refuse on)
  · obtain ⟨on, rfl⟩ := hrefuse
    by_cases hp : l.peerPresent = true <;> cases on <;> simp [act, PeerAct.apply, hp, refuse, Refuses]
  · have hne : ∀ on, op ≠ .peer (.refuse on) := fun on heq => hrefuse ⟨on, heq⟩
    simp [refusing_act_of_ne hne, Refuses, hne]

/-- **Attempts are refused** if the peer has begun to refuse them and has not stopped since. -/
theorem refusing_iff (ops : List Op) : (run ops).refusing = true ↔
    Since (Refuses true) (Refuses false) ops :=
  since_run (p := fun l => l.refusing = true) Bool.noConfusion refusing_act ops

end Tether.Link
