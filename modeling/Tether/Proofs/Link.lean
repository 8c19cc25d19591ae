import Tether.Simulation.Move

/-!
# `Tether.Proofs.Link` — a receiver whose line ends hears of it

A receiver is **served** if its line is the one that is fed, or if the last signal that waits on it is a
close. No operation of the link takes that from a receiver that is held: whatever detaches a line puts
a close on it first, and nothing is put on a line that is detached.

* `Link.Serves` — the invariant, for one line;
* `Link.Keeps` — what every operation but dialing and receiving does to the lines;
* `Serves.receive` — a receiver loses it only with the close itself;
* `serves_dial` — every new line is served;
* `Link.Still` — the peer has seen no attempt and no frame more.
-/

namespace Tether.Link

/-- The receiver of a line will hear of its end: it is fed, or the last signal on it is a close. -/
def Serves (l : Link) (n : Nat) : Prop :=
  ∃ line, l.lines[n]? = some line ∧ line.held = true ∧
    (l.feeding = some n ∨ ∃ s, line.queue.getLast? = some s ∧ s.isClose = true)

/-- What an operation that hands out no line and takes no signal does to the lines. -/
structure Keeps (l l' : Link) : Prop where
  /-- A line that is not fed stays as it is. -/
  idle : ∀ n, l.feeding ≠ some n → l'.lines[n]? = l.lines[n]?
  /-- A receiver that is served stays so. -/
  serves : ∀ n, l.Serves n → l'.Serves n
  length : l'.lines.length = l.lines.length
  /-- Lines are detached, never attached. -/
  feeding : l'.feeding = l.feeding ∨ l'.feeding = none

variable {l l' : Link} {n m : Nat}

/-- Only a line that was handed out is served. -/
theorem Serves.lt_length (h : l.Serves n) : n < l.lines.length := by
  obtain ⟨line, hline, _, _⟩ := h
  exact (List.getElem?_eq_some_iff.mp hline).1

/-- The lines and the line that is fed decide who is served. -/
theorem Serves.congr (h : l.Serves n) (hl : l'.lines = l.lines) (hf : l'.feeding = l.feeding) :
    l'.Serves n := by
  unfold Serves
  rw [hl, hf]
  exact h

namespace Keeps

theorem refl (l : Link) : l.Keeps l := ⟨fun _ _ => rfl, fun _ h => h, rfl, Or.inl rfl⟩

theorem of_eq (hl : l'.lines = l.lines) (hf : l'.feeding = l.feeding) : l.Keeps l' :=
  ⟨fun _ _ => by rw [hl], fun _ h => h.congr hl hf, by rw [hl], Or.inl hf⟩

/-- A line that is not fed never will be. -/
theorem not_fed (h : l.Keeps l') (hn : l.feeding ≠ some n) : l'.feeding ≠ some n := by
  rcases h.feeding with hf | hf
  · rw [hf]; exact hn
  · rw [hf]; simp

theorem trans {l'' : Link} (h : l.Keeps l') (h' : l'.Keeps l'') : l.Keeps l'' := by
  refine ⟨fun n hn => (h'.idle n (h.not_fed hn)).trans (h.idle n hn),
    fun n hs => h'.serves n (h.serves n hs), h'.length.trans h.length, ?_⟩
  rcases h'.feeding with hf | hf
  · rw [hf]; exact h.feeding
  · exact Or.inr hf

end Keeps

/-! ## Signals -/

@[simp] theorem feeding_put (l : Link) (m : Nat) (s : Signal) :
    (l.put m s).1.feeding = l.feeding := by
  unfold put
  split <;> rfl

@[simp] theorem length_put (l : Link) (m : Nat) (s : Signal) :
    (l.put m s).1.lines.length = l.lines.length := by
  unfold put
  split
  · exact List.length_modify ..
  · rfl

/-- A signal changes no line but the one that it is put on. -/
theorem lines_put_of_ne (s : Signal) (h : m ≠ n) : (l.put m s).1.lines[n]? = l.lines[n]? := by
  unfold put
  split
  · exact List.getElem?_modify_ne _ _ h
  · rfl

/-- On that line it waits behind the others. -/
theorem lines_put {line : Line} (s : Signal) (hl : l.lines[n]? = some line)
    (hh : line.held = true) :
    (l.put n s).1.lines[n]? = some { line with queue := line.queue ++ [s] } := by
  have hheld : l.isHeld n = true := by rw [isHeld, hl]; exact hh
  rw [put, if_pos hheld]
  refine (List.getElem?_modify_eq ..).trans ?_
  rw [hl]; rfl

/-- Signals are put on the line that is fed, and change no other. -/
theorem keeps_emit (l : Link) (s : Signal) : l.Keeps (l.emit s).1 := by
  unfold emit
  cases hf : l.feeding with
  | none => exact .refl l
  | some m =>
    refine ⟨fun n hn => lines_put_of_ne s fun h => hn (h ▸ hf), ?_, length_put .., Or.inl (feeding_put ..)⟩
    rintro n ⟨line, hline, hheld, hend⟩
    by_cases hm : m = n
    · subst hm
      exact ⟨_, lines_put s hline hheld, hheld, Or.inl ((feeding_put ..).trans hf)⟩
    · refine ⟨line, (lines_put_of_ne s hm).trans hline, hheld, Or.inr ?_⟩
      refine hend.resolve_left fun h => hm ?_
      exact Option.some.inj (hf.symm.trans h)

/-- No line is fed after a close. -/
@[simp] theorem feeding_emitClose (l : Link) (code : UInt16) (reason : String) :
    (l.emitClose code reason).1.feeding = none := by
  unfold emitClose
  split
  · exact feeding_put ..
  · rfl

/-- A line that is detached gets a close first. -/
theorem keeps_emitClose (l : Link) (code : UInt16) (reason : String) :
    l.Keeps (l.emitClose code reason).1 := by
  refine ⟨fun n hn => ?_, ?_, ?_, Or.inr (feeding_emitClose ..)⟩
  · unfold emitClose
    split
    · exact lines_put_of_ne _ fun h => hn (h ▸ ‹_›)
    · rfl
  · rintro n ⟨line, hline, hheld, hend⟩
    unfold emitClose
    cases hf : l.feeding with
    | none =>
      refine ⟨line, hline, hheld, Or.inr (hend.resolve_left fun h => ?_)⟩
      exact absurd (hf.symm.trans h) (by simp)
    | some m =>
      by_cases hm : m = n
      · subst hm
        exact ⟨_, lines_put _ hline hheld, hheld, Or.inr ⟨_, List.getLast?_concat, rfl⟩⟩
      · refine ⟨line, (lines_put_of_ne _ hm).trans hline, hheld, Or.inr ?_⟩
        refine hend.resolve_left fun h => hm ?_
        exact Option.some.inj (hf.symm.trans h)
  · unfold emitClose
    split
    · exact length_put ..
    · rfl

/-- Opening the link keeps every receiver served. -/
theorem keeps_accept (l : Link) : l.Keeps l.accept.1 := by
  have hready : l.Keeps { l with readiness := .opened } := .of_eq rfl rfl
  unfold accept
  split
  · exact hready.trans (keeps_emit ..)
  · exact .refl l

/-- Whatever the peer does, receivers that are served stay so. -/
theorem keeps_apply (l : Link) (a : PeerAct) : l.Keeps (a.apply l).1 := by
  unfold PeerAct.apply
  split
  · cases a with
    | accept => exact keeps_accept l
    | deliver frame => exact keeps_emit ..
    | hangUp reason => exact keeps_emitClose ..
    | fail reason => exact keeps_emit ..
    | refuse on => exact .of_eq rfl rfl
    | drop => exact .of_eq rfl rfl
  · exact .refl l

/-- Frames do not concern the lines. -/
theorem keeps_send (l : Link) (frame : String) : l.Keeps (l.send frame).1 := by
  unfold send
  split
  · exact .of_eq rfl rfl
  · exact .refl l

/-- Closing from the client's side keeps every receiver served. -/
theorem keeps_close (l : Link) : l.Keeps l.close := keeps_emitClose ..

@[simp] theorem feeding_close (l : Link) : l.close.feeding = none := feeding_emitClose ..

/-! ## Receivers -/

/-- Giving up another receiver changes nothing for this one. -/
theorem Serves.release (h : l.Serves n) (hm : m ≠ n) : (l.release m).Serves n := by
  obtain ⟨line, hline, hheld, hend⟩ := h
  exact ⟨line, (List.getElem?_modify_ne _ _ hm).trans hline, hheld, hend⟩

/-- The signals that wait on a line. -/
def pending (l : Link) (n : Nat) : List Signal := (l.lines[n]?.map Line.queue).getD []

/-- What a receiver finds: the first signal, or a line that ends. -/
theorem receive_eq (l : Link) (n : Nat) :
    l.receive n = match l.pending n with
      | s :: rest =>
        ({ l with lines := l.lines.modify n fun line => { line with queue := rest } }, .signal s)
      | [] => (l, if l.feeding = some n then .waiting else .ended) := rfl

/-- A receiver that is served never finds its line at an end. -/
theorem Serves.pending_ne_nil (h : l.Serves n) (hf : l.feeding ≠ some n) : l.pending n ≠ [] := by
  obtain ⟨line, hline, _, hend⟩ := h
  obtain ⟨s, hlast, _⟩ := hend.resolve_left hf
  rw [pending, hline]
  intro hnil
  rw [show line.queue = [] from hnil] at hlast
  exact absurd hlast (by simp)

/-- A receiver that is served finds a signal on a line that is not fed. -/
theorem Serves.exists_signal (h : l.Serves n) (hf : l.feeding ≠ some n) :
    ∃ l' s, l.receive n = (l', .signal s) := by
  cases hp : l.pending n with
  | nil => exact absurd hp (h.pending_ne_nil hf)
  | cons s rest => exact ⟨_, s, by rw [receive_eq, hp]⟩

/-- Taking a signal leaves the others, and every other line. -/
theorem receive_signal {s : Signal} (hr : l.receive n = (l', .signal s)) :
    l.pending n = s :: l'.pending n ∧ l'.feeding = l.feeding ∧
      l'.lines.length = l.lines.length := by
  rw [receive_eq] at hr
  cases hp : l.pending n with
  | nil =>
    rw [hp] at hr
    dsimp only at hr
    split at hr <;> exact absurd (Prod.mk.inj hr).2 (by simp)
  | cons s' rest =>
    rw [hp] at hr
    obtain ⟨rfl, hs⟩ := Prod.mk.inj hr
    obtain rfl := Received.signal.inj hs
    refine ⟨?_, rfl, List.length_modify ..⟩
    unfold pending at hp ⊢
    rw [List.getElem?_modify_eq]
    cases hline : l.lines[n]? with
    | none => rw [hline] at hp; exact absurd hp (by simp)
    | some line => rfl

/-- **A receiver stops being served only with the close itself.** -/
theorem Serves.receive {s : Signal} (h : l.Serves n) (hr : l.receive n = (l', .signal s)) :
    l'.Serves n ∨ s.isClose = true := by
  obtain ⟨line, hline, hheld, hend⟩ := h
  have hp : l.pending n = line.queue := by rw [pending, hline]; rfl
  rw [receive_eq, hp] at hr
  cases hq : line.queue with
  | nil =>
    rw [hq] at hr
    dsimp only at hr
    split at hr <;> exact absurd (Prod.mk.inj hr).2 (by simp)
  | cons s' rest =>
    rw [hq] at hr
    obtain ⟨rfl, hs⟩ := Prod.mk.inj hr
    obtain rfl := Received.signal.inj hs
    have hline' : (l.lines.modify n fun line => { line with queue := rest })[n]? =
        some { line with queue := rest } := by
      rw [List.getElem?_modify_eq, hline]; rfl
    rcases hend with hf | ⟨c, hlast, hclose⟩
    · exact Or.inl ⟨_, hline', hheld, Or.inl hf⟩
    · rw [hq] at hlast
      cases rest with
      | nil =>
        -- the only signal is the last one
        obtain rfl := Option.some.inj hlast
        exact Or.inr hclose
      | cons s'' rest =>
        rw [List.getLast?_cons_cons] at hlast
        exact Or.inl ⟨_, hline', hheld, Or.inr ⟨c, hlast, hclose⟩⟩

/-- A new line is served, and its number is the first that was never given. -/
theorem serves_dial {url subprotocol : String} (hd : l.dial url subprotocol = (l', .ok n)) :
    n = l.lines.length ∧ l'.Serves n := by
  unfold dial at hd
  dsimp only at hd
  split at hd
  · exact absurd (Prod.mk.inj hd).2 (by simp)
  · obtain ⟨rfl, hn⟩ := Prod.mk.inj hd
    obtain rfl := Except.ok.inj hn
    exact ⟨rfl, default, List.getElem?_concat_length, rfl, Or.inl rfl⟩

/-- Lines are never taken back. -/
theorem length_dial (l : Link) (url subprotocol : String) :
    l.lines.length ≤ (l.dial url subprotocol).1.lines.length := by
  unfold dial
  dsimp only
  split
  · exact Nat.le_refl _
  · rw [List.length_append]; exact Nat.le_add_right ..

/-! ## What reaches the peer -/

/-- The peer has seen no attempt and no frame more, and is there if it was. -/
structure Still (l l' : Link) : Prop where
  attempts : l'.attempts = l.attempts
  requests : l'.requests = l.requests
  frames : l'.frames = l.frames
  peerPresent : l'.peerPresent = l.peerPresent

variable {l'' : Link}

theorem Still.refl (l : Link) : l.Still l := ⟨rfl, rfl, rfl, rfl⟩

theorem Still.trans (h : l.Still l') (h' : l'.Still l'') : l.Still l'' :=
  ⟨h'.attempts.trans h.attempts, h'.requests.trans h.requests, h'.frames.trans h.frames,
    h'.peerPresent.trans h.peerPresent⟩

/-- Signals do not concern the peer's side, -/
theorem still_put (l : Link) (n : Nat) (s : Signal) : l.Still (l.put n s).1 := by
  unfold put
  split <;> exact ⟨rfl, rfl, rfl, rfl⟩

theorem still_emit (l : Link) (s : Signal) : l.Still (l.emit s).1 := by
  unfold emit
  split
  · exact still_put ..
  · exact .refl l

/-- and neither does a close. -/
theorem still_emitClose (l : Link) (code : UInt16) (reason : String) :
    l.Still (l.emitClose code reason).1 := by
  have hdetached : l.Still { l with readiness := .closed, feeding := none } := ⟨rfl, rfl, rfl, rfl⟩
  unfold emitClose
  dsimp only
  split
  · exact hdetached.trans (still_put ..)
  · exact hdetached

theorem still_close (l : Link) : l.Still l.close := still_emitClose ..

theorem still_accept (l : Link) : l.Still l.accept.1 := by
  have hopened : l.Still { l with readiness := .opened } := ⟨rfl, rfl, rfl, rfl⟩
  unfold accept
  split
  · exact hopened.trans (still_emit ..)
  · exact .refl l

/-- What the peer does reaches the client; only by leaving does it lose what it has seen. -/
theorem still_apply (l : Link) {a : PeerAct} (ha : a ≠ .drop) : l.Still (a.apply l).1 := by
  unfold PeerAct.apply
  split
  · cases a with
    | accept => exact still_accept l
    | deliver frame => exact still_emit ..
    | hangUp reason => exact still_emitClose ..
    | fail reason => exact still_emit ..
    | refuse on => exact ⟨rfl, rfl, rfl, rfl⟩
    | drop => exact absurd rfl ha
  · exact .refl l

theorem still_receive (l : Link) (n : Nat) : l.Still (l.receive n).1 := by
  unfold receive
  split <;> exact ⟨rfl, rfl, rfl, rfl⟩

end Tether.Link
