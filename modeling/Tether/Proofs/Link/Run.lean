import Mathlib.Data.List.Induction
import Tether.Proofs.Link

/-!
# `Tether.Proofs.Link.Run` — what is done to a link, and the books of it

Both ends of a link and the receivers of its lines act in any order. The books are kept beside the link:
which signals were put on a line, which ones its receiver took, which frames were written and read. One
equation carries the lines through every operation: what waited and what is put on a line is what is
taken off it and what waits from then on.

* `Link.Op`, `Link.run`, `Link.log` — the operations, and the runs of a link that is new;
* `emitted`, `taken`, `sent`, `seen`, `asked`, `viewed` — the books;
* `pending_act` — the equation of a line;
* `Opens`, `Closes` — the operations that open the link, and those that close it;
* `shifts` — what an operation does to the line that is fed and to the readiness of the link.
-/

namespace Tether

/-- The signal that an act of the peer puts on the line that is fed. -/
def PeerAct.signal? : PeerAct → Option Signal
  | .accept => some .opened
  | .deliver frame => some (.message frame)
  | .hangUp reason => some (.closed (some 1006) reason)
  | .fail reason => some (.failed reason)
  | .refuse _ | .drop => none

namespace Link

/-! ## Runs of a link -/

/-- Something done to a link: by the client, by the peer, or by whoever holds the receiver of a line. -/
inductive Op where
  | dial (url subprotocol : String)
  | send (frame : String)
  | close
  | peer (a : PeerAct)
  | nextRequest
  | nextFrame
  | receive (n : Nat)
  | drain (n : Nat)
  | release (n : Nat)
  deriving DecidableEq, Repr

/-- Does the operation try to connect? -/
def Op.isDial : Op → Bool
  | .dial _ _ => true
  | _ => false

/-- The link after an operation. -/
def act (l : Link) : Op → Link
  | .dial url subprotocol => (l.dial url subprotocol).1
  | .send frame => (l.send frame).1
  | .close => l.close
  | .peer a => (a.apply l).1
  | .nextRequest => l.nextRequest.1
  | .nextFrame => l.nextFrame.1
  | .receive n => (l.receive n).1
  | .drain n => ((l.drain n).map Prod.fst).getD l
  | .release n => l.release n

/-- A new link after some operations. -/
def run (ops : List Op) : Link := ops.foldl act {}

/-- The operations from a link on, each with the link it was applied to. -/
def log : Link → List Op → List (Link × Op)
  | _, [] => []
  | l, op :: ops => (l, op) :: log (l.act op) ops

@[simp] theorem run_nil : run [] = {} := rfl

/-- A run grows by one operation at its end. -/
@[simp] theorem run_concat (ops : List Op) (op : Op) : run (ops ++ [op]) = (run ops).act op := by
  simp [run]

/-- The log of a run that goes on is that of the run, then that of the rest. -/
theorem log_append (ops ops' : List Op) :
    ∀ l : Link, log l (ops ++ ops') = log l ops ++ log (ops.foldl act l) ops' := by
  induction ops with
  | nil => intro l; rfl
  | cons op ops ih => intro l; simp [log, ih]

/-- The last operation is logged with the link it finds. -/
@[simp] theorem log_concat (ops : List Op) (op : Op) :
    log {} (ops ++ [op]) = log {} ops ++ [(run ops, op)] := by
  rw [log_append]; rfl

/-! ## The books -/

/-- The signal that an operation puts on the line that is fed. A dropped peer does nothing. -/
def Op.signal? (l : Link) : Op → Option Signal
  | .close => some (.closed (some 1000) "closed by client")
  | .peer a => if l.peerPresent then a.signal? else none
  | _ => none

/-- The signal that an operation puts on line `n`: the line is fed, and its receiver is held. -/
def accepted (n : Nat) (x : Link × Op) : Option Signal :=
  if x.1.feeding = some n ∧ x.1.isHeld n = true then x.2.signal? x.1 else none

/-- The signals that an operation takes off line `n`. -/
def yielded (n : Nat) : Link × Op → List Signal
  | (l, .receive m) =>
    if m = n then
      match (l.receive n).2 with
      | .signal s => [s]
      | _ => []
    else []
  | (l, .drain m) => if m = n then ((l.drain n).map fun r => r.2.1).getD [] else []
  | _ => []

/-- The frame that an operation writes. -/
def written : Link × Op → Option String
  | (l, .send frame) =>
    match (l.send frame).2 with
    | .ok () => some frame
    | .error _ => none
  | _ => none

/-- The frame that the peer reads. -/
def looked : Link × Op → Option String
  | (l, .nextFrame) => l.nextFrame.2
  | _ => none

/-- The attempt that the peer will see: url and subprotocol. -/
def asks : Link × Op → Option (String × String)
  | (l, .dial url subprotocol) => if l.peerPresent then some (url, subprotocol) else none
  | _ => none

/-- The attempt that the peer looks at. -/
def views : Link × Op → Option (String × String)
  | (l, .nextRequest) => l.nextRequest.2
  | _ => none

/-- All signals put on line `n`, in order. -/
def emitted (n : Nat) (ops : List Op) : List Signal := (log {} ops).filterMap (accepted n)

/-- All signals taken off line `n`, in order. -/
def taken (n : Nat) (ops : List Op) : List Signal := (log {} ops).flatMap (yielded n)

/-- All frames written, in order. -/
def sent (ops : List Op) : List String := (log {} ops).filterMap written

/-- All frames that the peer has read, in order. -/
def seen (ops : List Op) : List String := (log {} ops).filterMap looked

/-- All attempts made while the peer was there, refused ones included, in order. -/
def asked (ops : List Op) : List (String × String) := (log {} ops).filterMap asks

/-- All attempts that the peer has looked at, in order. -/
def viewed (ops : List Op) : List (String × String) := (log {} ops).filterMap views

/-- What is filtered out of a log grows with the log. -/
theorem filterMap_log_concat {α : Type} (f : Link × Op → Option α) (ops : List Op) (op : Op) :
    (log {} (ops ++ [op])).filterMap f = (log {} ops).filterMap f ++ (f (run ops, op)).toList := by
  rw [log_concat, List.filterMap_append]
  cases h : f (run ops, op) <;> simp [h]

/-- An operation puts one signal on a line, or none. -/
@[simp] theorem emitted_concat (n : Nat) (ops : List Op) (op : Op) :
    emitted n (ops ++ [op]) = emitted n ops ++ (accepted n (run ops, op)).toList :=
  filterMap_log_concat ..

/-- An operation takes some signals off a line. -/
@[simp] theorem taken_concat (n : Nat) (ops : List Op) (op : Op) :
    taken n (ops ++ [op]) = taken n ops ++ yielded n (run ops, op) := by
  simp [taken]

variable {l : Link} {n m : Nat} {op : Op}

/-! ## Signals on a line -/

/-- What a receiver sees of its line depends on the lines alone. -/
theorem pending_congr {l' : Link} (h : l'.lines = l.lines) (n : Nat) : l'.pending n = l.pending n := by
  rw [pending, pending, h]

/-- Who is held depends on the lines alone. -/
theorem isHeld_congr {l' : Link} (h : l'.lines = l.lines) (n : Nat) : l'.isHeld n = l.isHeld n := by
  rw [isHeld, isHeld, h]

/-- The signal, if line `n` is fed and held. -/
def arrives (n : Nat) (l : Link) (s : Signal) : List Signal :=
  if l.feeding = some n ∧ l.isHeld n = true then [s] else []

/-- A signal waits on the line it is put on, behind the others, if the receiver is held. -/
theorem pending_put (l : Link) (m n : Nat) (s : Signal) : (l.put m s).1.pending n =
    l.pending n ++ if m = n ∧ l.isHeld n = true then [s] else [] := by
  unfold put
  by_cases hm : m = n
  · subst hm
    by_cases hheld : l.isHeld m = true
    · cases hline : l.lines[m]? with
      | none => simp [isHeld, hline] at hheld
      | some line => simp [hheld, pending, hline]
    · simp [hheld]
  · by_cases hheld : l.isHeld m = true <;> simp [hheld, hm, pending]

theorem isHeld_put (l : Link) (m n : Nat) (s : Signal) : (l.put m s).1.isHeld n = l.isHeld n := by
  unfold put
  split
  · by_cases hm : m = n
    · subst hm
      cases hline : l.lines[m]? <;> simp [isHeld, hline]
    · simp [isHeld, hm]
  · rfl

/-- A signal waits on the line that is fed. -/
theorem pending_emit (l : Link) (n : Nat) (s : Signal) :
    (l.emit s).1.pending n = l.pending n ++ arrives n l s := by
  unfold emit arrives
  cases hf : l.feeding with
  | none => simp
  | some m => simp [pending_put]

theorem isHeld_emit (l : Link) (n : Nat) (s : Signal) : (l.emit s).1.isHeld n = l.isHeld n := by
  unfold emit
  split
  · exact isHeld_put ..
  · rfl

/-- So does the close of that line. -/
theorem pending_emitClose (l : Link) (n : Nat) (code : UInt16) (reason : String) :
    (l.emitClose code reason).1.pending n = l.pending n ++ arrives n l (.closed (some code) reason) := by
  unfold emitClose arrives
  cases hf : l.feeding with
  | none => simp [pending]
  | some m =>
    refine (pending_put { l with readiness := .closed, feeding := none } m n _).trans ?_
    simp only [Option.some.injEq]
    rfl

theorem isHeld_emitClose (l : Link) (n : Nat) (code : UInt16) (reason : String) :
    (l.emitClose code reason).1.isHeld n = l.isHeld n := by
  unfold emitClose
  split
  · exact isHeld_put ..
  · rfl

/-- So does the signal that the link is open. -/
theorem pending_accept (l : Link) (n : Nat) :
    l.accept.1.pending n = l.pending n ++ arrives n l .opened := by
  unfold accept
  split
  · exact pending_emit { l with readiness := .opened } n .opened
  · simp [arrives, ‹l.feeding = none›]

theorem isHeld_accept (l : Link) (n : Nat) : l.accept.1.isHeld n = l.isHeld n := by
  unfold accept
  split
  · exact isHeld_emit ..
  · rfl

/-- A line that is added is empty. -/
theorem pending_dial (l : Link) (url subprotocol : String) (n : Nat) :
    (l.dial url subprotocol).1.pending n = l.pending n := by
  unfold dial
  dsimp only
  split
  · rfl
  · unfold pending
    dsimp only
    rcases Nat.lt_trichotomy n l.lines.length with h | h | h
    · rw [List.getElem?_append_left h]
    · subst h; simp [show (default : Line).queue = [] from rfl]
    · rw [List.getElem?_eq_none (by rw [List.length_append]; exact h),
        List.getElem?_eq_none (Nat.le_of_lt h)]

/-- A new line gives up no receiver. -/
theorem isHeld_dial (h : n < l.lines.length) (url subprotocol : String) :
    (l.dial url subprotocol).1.isHeld n = l.isHeld n := by
  unfold dial
  dsimp only
  split
  · rfl
  · unfold isHeld
    dsimp only
    rw [List.getElem?_append_left h]

/-- What a peer that is there puts on a line. -/
theorem accepted_peer (n : Nat) (l : Link) (a : PeerAct) (hp : l.peerPresent = true) :
    (accepted n (l, .peer a)).toList = (a.signal?.map (arrives n l)).getD [] := by
  unfold accepted arrives
  simp only [Op.signal?, hp, if_true]
  split <;> cases a.signal? <;> rfl

/-- What the peer puts on a line waits there. -/
theorem pending_apply (l : Link) (a : PeerAct) (n : Nat) :
    (a.apply l).1.pending n = l.pending n ++ (accepted n (l, .peer a)).toList := by
  unfold PeerAct.apply
  by_cases hp : l.peerPresent = true
  · rw [if_pos hp, accepted_peer n l a hp]
    cases a with
    | accept => exact pending_accept l n
    | deliver frame => exact pending_emit l n _
    | hangUp reason => exact pending_emitClose l n _ _
    | fail reason => exact pending_emit l n _
    | refuse on => exact (List.append_nil _).symm
    | drop => exact (List.append_nil _).symm
  · rw [if_neg hp]
    simp [accepted, Op.signal?, hp]

/-- The peer gives up no receiver. -/
theorem isHeld_apply (l : Link) (a : PeerAct) (n : Nat) : (a.apply l).1.isHeld n = l.isHeld n := by
  unfold PeerAct.apply
  split
  · cases a with
    | accept => exact isHeld_accept l n
    | deliver frame => exact isHeld_emit l n _
    | hangUp reason => exact isHeld_emitClose l n _ _
    | fail reason => exact isHeld_emit l n _
    | refuse on => rfl
    | drop => rfl
  · rfl

/-! ## Signals off a line -/

/-- What a receiver takes no longer waits. -/
theorem pending_receive (l : Link) (m n : Nat) :
    l.pending n = yielded n (l, .receive m) ++ (l.receive m).1.pending n := by
  by_cases hm : m = n
  · subst hm
    simp only [yielded, if_true]
    cases hp : l.pending m with
    | nil => rw [receive_eq, hp]; by_cases hf : l.feeding = some m <;> simp [hp, hf]
    | cons s rest =>
      rw [receive_eq, hp]
      cases hline : l.lines[m]? with
      | none => simp [pending, hline] at hp
      | some line => simp [pending, hline]
  · rw [yielded, if_neg hm, receive_eq]
    cases l.pending m with
    | nil => rfl
    | cons s rest => simp [pending, hm]

theorem isHeld_receive (l : Link) (m n : Nat) : (l.receive m).1.isHeld n = l.isHeld n := by
  rw [receive_eq]
  cases l.pending m with
  | nil => rfl
  | cons s rest =>
    by_cases hm : m = n
    · subst hm
      cases hline : l.lines[m]? <;> simp [isHeld, hline]
    · simp [isHeld, hm]

/-- What is drained no longer waits. -/
theorem pending_drain (l : Link) (m n : Nat) :
    l.pending n = yielded n (l, .drain m) ++ (l.act (.drain m)).pending n := by
  simp only [yielded, act]
  unfold drain
  by_cases hm : m = n
  · subst hm
    cases hline : l.lines[m]? with
    | none => simp
    | some line => by_cases hheld : line.held = true <;> simp [pending, hline, hheld]
  · rw [if_neg hm, List.nil_append]
    cases l.lines[m]? with
    | none => rfl
    | some line => by_cases hheld : line.held = true <;> simp [pending, hheld, hm]

theorem isHeld_drain (l : Link) (m n : Nat) : (l.act (.drain m)).isHeld n = l.isHeld n := by
  simp only [act]
  unfold drain
  cases hline : l.lines[m]? with
  | none => rfl
  | some line =>
    by_cases hheld : line.held = true
    · by_cases hm : m = n
      · subst hm; simp [isHeld, hline, hheld]
      · simp [isHeld, hheld, hm]
    · simp [hheld]

/-- Nothing waits on a line that is given up, and nothing will. -/
theorem pending_release (l : Link) (n : Nat) :
    (l.release n).pending n = [] ∧ (l.release n).isHeld n = false := by
  cases hline : l.lines[n]? <;> simp [release, pending, isHeld, hline]

/-- Giving up one receiver leaves the other lines alone. -/
theorem release_of_ne (h : m ≠ n) : (l.release m).lines[n]? = l.lines[n]? :=
  List.getElem?_modify_ne _ _ h

/-! ## One operation -/

/-- Is the operation about frames or requests only? -/
def Op.isAside : Op → Bool
  | .send _ | .nextRequest | .nextFrame => true
  | _ => false

/-- The lines of a link, and how far it has got. -/
structure Aside (l l' : Link) : Prop where
  lines : l'.lines = l.lines
  feeding : l'.feeding = l.feeding
  readiness : l'.readiness = l.readiness

/-- Frames and requests pass by the lines. -/
theorem act_aside (h : op.isAside = true) : l.Aside (l.act op) := by
  cases op with
  | send frame => rw [act, send]; split <;> exact ⟨rfl, rfl, rfl⟩
  | nextRequest => rw [act, nextRequest]; split <;> exact ⟨rfl, rfl, rfl⟩
  | nextFrame => rw [act, nextFrame]; split <;> exact ⟨rfl, rfl, rfl⟩
  | _ => cases h

/-- **What waited and what is put on a line is what is taken off it and what waits**, unless its receiver
    is given up. -/
theorem pending_act (h : op ≠ .release n) :
    l.pending n ++ (accepted n (l, op)).toList = yielded n (l, op) ++ (l.act op).pending n := by
  have hidle : op.signal? l = none → (accepted n (l, op)).toList = [] := fun hs => by
    rw [accepted, hs, ite_self]; rfl
  have haside : op.isAside = true → (l.act op).pending n = l.pending n :=
    fun h => pending_congr (act_aside h).lines n
  cases op with
  | dial url subprotocol => simp [hidle rfl, act, pending_dial, yielded]
  | send frame => simp [hidle rfl, haside rfl, yielded]
  | close =>
    have hclose := pending_emitClose l n 1000 "closed by client"
    simp only [act, yielded, List.nil_append, close, hclose, accepted, arrives, Op.signal?]
    split <;> rfl
  | peer a => simp [act, yielded, pending_apply]
  | nextRequest => simp [hidle rfl, haside rfl, yielded]
  | nextFrame => simp [hidle rfl, haside rfl, yielded]
  | receive m => rw [hidle rfl, List.append_nil]; exact pending_receive l m n
  | drain m => rw [hidle rfl, List.append_nil]; exact pending_drain l m n
  | release m =>
    have hm : m ≠ n := fun heq => h (heq ▸ rfl)
    simp [hidle rfl, yielded, act, pending, release_of_ne hm]

/-- Receivers are held until they are given up. -/
theorem isHeld_act (hn : n < l.lines.length) (h : op ≠ .release n) :
    (l.act op).isHeld n = l.isHeld n := by
  cases op with
  | dial url subprotocol => exact isHeld_dial hn url subprotocol
  | send frame => exact isHeld_congr (act_aside rfl).lines n
  | close => exact isHeld_emitClose ..
  | peer a => exact isHeld_apply l a n
  | nextRequest => exact isHeld_congr (act_aside rfl).lines n
  | nextFrame => exact isHeld_congr (act_aside rfl).lines n
  | receive m => exact isHeld_receive l m n
  | drain m => exact isHeld_drain l m n
  | release m =>
    have hm : m ≠ n := fun heq => h (heq ▸ rfl)
    rw [act, isHeld, isHeld, release_of_ne hm]

@[simp] theorem readiness_put (l : Link) (m : Nat) (s : Signal) :
    (l.put m s).1.readiness = l.readiness := by
  unfold put
  split <;> rfl

/-- The peer opens the link to the line that is fed. -/
def Opens (l : Link) (op : Op) : Prop :=
  op = .peer .accept ∧ l.peerPresent = true ∧ l.feeding ≠ none

/-- Either end closes the link. -/
def Closes (l : Link) (op : Op) : Prop :=
  op = .close ∨ ∃ reason, op = .peer (.hangUp reason) ∧ l.peerPresent = true

/-- The operation neither opens nor closes the link, and is no attempt to connect. -/
def Quiet (l : Link) (op : Op) : Prop := ¬ l.Opens op ∧ ¬ l.Closes op ∧ op.isDial = false

/-- What an operation does to the line that is fed and to the readiness of the link. -/
inductive Shifts (l : Link) (op : Op) (l' : Link) : Prop
  /-- Neither changes. -/
  | same (feeding : l'.feeding = l.feeding) (readiness : l'.readiness = l.readiness)
      (length : l'.lines.length = l.lines.length) (quiet : l.Quiet op)
  /-- Either end closes the link. -/
  | closed (feeding : l'.feeding = none) (readiness : l'.readiness = .closed)
      (length : l'.lines.length = l.lines.length) (closes : l.Closes op)
  /-- The peer opens the link to the line that is fed. -/
  | opened (fed : l.feeding ≠ none) (feeding : l'.feeding = l.feeding)
      (readiness : l'.readiness = .opened) (length : l'.lines.length = l.lines.length)
      (opens : l.Opens op)
  /-- A new line takes the place of the one that was fed. -/
  | fresh (dial : op.isDial = true) (refusing : l.refusing = false)
      (feeding : l'.feeding = some l.lines.length) (readiness : l'.readiness = .connecting)
      (length : l'.lines.length = l.lines.length + 1)
  /-- An attempt is refused. The line that was fed is left as it is. -/
  | refused (dial : op.isDial = true) (refusing : l.refusing = true)
      (feeding : l'.feeding = l.feeding) (readiness : l'.readiness = .closed)
      (length : l'.lines.length = l.lines.length)

/-- Signals shift nothing, closes apart. -/
theorem shifts_emit (h : l.Quiet op) (s : Signal) : l.Shifts op (l.emit s).1 := by
  unfold emit
  split
  · exact .same (feeding_put ..) (readiness_put ..) (length_put ..) h
  · exact .same rfl rfl rfl h

/-- A close detaches the line that is fed. -/
theorem shifts_emitClose (h : l.Closes op) (code : UInt16) (reason : String) :
    l.Shifts op (l.emitClose code reason).1 := by
  refine .closed (feeding_emitClose ..) ?_ (keeps_emitClose l code reason).length h
  unfold emitClose
  split
  · exact readiness_put ..
  · rfl

/-- The link opens to the line that is fed, if there is one. -/
theorem shifts_accept (hp : l.peerPresent = true) : l.Shifts (.peer .accept) l.accept.1 := by
  have hlength := (keeps_accept l).length
  cases hf : l.feeding with
  | some m =>
    refine .opened (by simp [hf]) ?_ ?_ hlength ⟨rfl, hp, by simp [hf]⟩ <;> simp [accept, emit, hf]
  | none =>
    rw [accept, hf]
    exact .same rfl rfl rfl (by simp [Quiet, Opens, Closes, Op.isDial, hf])

/-- Of what the peer does, opening and hanging up shift the link. -/
theorem shifts_apply (l : Link) (a : PeerAct) : l.Shifts (.peer a) (a.apply l).1 := by
  unfold PeerAct.apply
  split
  case isTrue hp =>
    cases a with
    | accept => exact shifts_accept hp
    | deliver frame => exact shifts_emit (by simp [Quiet, Opens, Closes, Op.isDial]) _
    | hangUp reason => exact shifts_emitClose (Or.inr ⟨reason, rfl, hp⟩) _ _
    | fail reason => exact shifts_emit (by simp [Quiet, Opens, Closes, Op.isDial]) _
    | refuse on => exact .same rfl rfl rfl (by simp [Quiet, Opens, Closes, Op.isDial])
    | drop => exact .same rfl rfl rfl (by simp [Quiet, Opens, Closes, Op.isDial])
  case isFalse hp => exact .same rfl rfl rfl (by simp [Quiet, Opens, Closes, Op.isDial, hp])

/-- **How an operation shifts a link.** -/
theorem shifts (l : Link) (op : Op) : l.Shifts op (l.act op) := by
  have haside : op.isAside = true → l.Quiet op → l.Shifts op (l.act op) := fun h =>
    .same (act_aside h).feeding (act_aside h).readiness (congrArg List.length (act_aside h).lines)
  cases op with
  | dial url subprotocol =>
    cases href : l.refusing with
    | true => refine .refused rfl href ?_ ?_ ?_ <;> simp [act, dial, href]
    | false => refine .fresh rfl href ?_ ?_ ?_ <;> simp [act, dial, href]
  | close => exact shifts_emitClose (Or.inl rfl) _ _
  | peer a => exact shifts_apply l a
  | receive m =>
    have hquiet : l.Quiet (.receive m) := by simp [Quiet, Opens, Closes, Op.isDial]
    rw [act, receive_eq]
    cases l.pending m with
    | nil => exact .same rfl rfl rfl hquiet
    | cons s rest => exact .same rfl rfl (List.length_modify ..) hquiet
  | drain m =>
    have hquiet : l.Quiet (.drain m) := by simp [Quiet, Opens, Closes, Op.isDial]
    rw [act, drain]
    cases l.lines[m]? with
    | none => exact .same rfl rfl rfl hquiet
    | some line =>
      by_cases hheld : line.held = true
      · simp only [hheld, if_true]
        exact .same rfl rfl (List.length_modify ..) hquiet
      · simp only [hheld]
        exact .same rfl rfl rfl hquiet
  | release m =>
    exact .same rfl rfl (List.length_modify ..) (by simp [Quiet, Opens, Closes, Op.isDial])
  | _ => exact haside rfl (by simp [Quiet, Opens, Closes, Op.isDial])

/-- The line that is fed stays, is detached, or is a new one. -/
theorem feeding_act (l : Link) (op : Op) :
    (l.act op).feeding = l.feeding ∨ (l.act op).feeding = none ∨
      (l.act op).feeding = some l.lines.length := by
  cases l.shifts op with
  | same feeding => exact Or.inl feeding
  | closed feeding => exact Or.inr (Or.inl feeding)
  | opened _ feeding => exact Or.inl feeding
  | fresh _ _ feeding => exact Or.inr (Or.inr feeding)
  | refused _ _ feeding => exact Or.inl feeding

/-- Lines are never taken back. -/
theorem length_act (l : Link) (op : Op) : l.lines.length ≤ (l.act op).lines.length := by
  cases l.shifts op <;> omega

/-- Only a line that is fed and held takes signals. -/
theorem of_accepted {s : Signal} (h : accepted n (l, op) = some s) :
    l.feeding = some n ∧ l.isHeld n = true ∧ op.signal? l = some s := by
  unfold accepted at h
  split at h
  · exact ⟨And.left ‹_›, And.right ‹_›, h⟩
  · cases h

/-- **A close detaches the line** on which it is put. -/
theorem detached_of_close {s : Signal} (h : op.signal? l = some s) (hs : s.isClose = true) :
    (l.act op).feeding = none := by
  cases op with
  | close => exact feeding_close l
  | peer a =>
    unfold Op.signal? at h
    dsimp only at h
    split at h
    · rename_i hp
      cases a with
      | hangUp reason => simp [act, PeerAct.apply, hp, hangUp]
      | accept | deliver _ | fail _ => cases h; cases hs
      | refuse _ | drop => cases h
    · cases h
  | _ => cases h

/-- The peer is told whether its signal was put on a line. -/
theorem apply_eq_true_iff (l : Link) (a : PeerAct) :
    (a.apply l).2 = true ↔ ∃ n s, accepted n (l, .peer a) = some s := by
  unfold PeerAct.apply accepted
  by_cases hp : l.peerPresent = true
  · cases hf : l.feeding with
    | none =>
      cases a <;> simp [hp, hf, accept, deliver, hangUp, fail, emit, emitClose]
    | some m =>
      have hput : ∀ (l' : Link) s, l'.lines = l.lines → (l'.put m s).2 = l.isHeld m := by
        intro l' s heq
        unfold put
        rw [isHeld_congr heq]
        cases l.isHeld m <;> rfl
      cases a <;> simp [hp, hf, accept, deliver, hangUp, fail, emit, emitClose, hput,
        Op.signal?, PeerAct.signal?]
  · simp [hp, Op.signal?]

end Link
end Tether
