import Mathlib.Data.List.Nodup
import Tether.Identity

/-!
# `Tether.Proofs.Identity` — clients that share a store

Every client keeps two entries in a store, under keys made of its name. Other clients, and others who are
no clients at all, may use the same store at the same time, so that between the two calls of one client's
operation any calls of others may come. What is read under a key is what the last call to write it has
left, and no two clients ever write the same key, whatever they are called; so each reads what it would
read if the store were its own.

* `StoreCall.get?_foldl_apply` — the last call to write a key decides what is read under it;
* `Identity.nodup_keys_iff` — the keys of different clients are different;
* `Identity.kept_apart` — no client is disturbed by anybody, and nobody by a client.
-/

namespace Tether

namespace StoreCall

variable {c : StoreCall} {key : String}

/-- The key whose entry a call may change. -/
def written? : StoreCall → Option String
  | .get _ => none
  | .set key _ => some key
  | .remove key => some key

/-- What a call leaves under a key, a value or nothing, if it writes the key. -/
def left? (key : String) : StoreCall → Option (Option String)
  | .get _ => none
  | .set k value => if k = key then some (some value) else none
  | .remove k => if k = key then some none else none

/-- A call leaves nothing under a key that it does not write. -/
theorem left?_of_ne (h : c.written? ≠ some key) : c.left? key = none := by
  cases c with
  | get _ => rfl
  | set k _ | remove k => exact if_neg fun hk => h (congrArg some hk)

/-- What stands under a key is what the call left there, or else what stood there before. -/
theorem get?_apply (c : StoreCall) (store : Store) (key : String) :
    (c.apply store).get? key = (c.left? key).getD (store.get? key) := by
  cases c with
  | get _ => rfl
  | set k value =>
    by_cases hk : k = key
    · subst hk
      rw [left?, if_pos rfl]
      exact store.get?_set_self k value
    · rw [left?, if_neg hk]
      exact store.get?_set_of_ne value (Ne.symm hk)
  | remove k =>
    by_cases hk : k = key
    · subst hk
      rw [left?, if_pos rfl]
      exact store.get?_remove_self k
    · rw [left?, if_neg hk]
      exact store.get?_remove_of_ne (Ne.symm hk)

/-- A call leaves the entries of other keys. -/
theorem get?_apply_of_ne (h : c.written? ≠ some key) (store : Store) :
    (c.apply store).get? key = store.get? key := by
  rw [get?_apply, left?_of_ne h, Option.getD_none]

/-- **The last call to write a key decides what is read under it.** -/
theorem get?_foldl_apply (calls : List StoreCall) (store : Store) (key : String) :
    (calls.foldl apply store).get? key =
      (calls.filterMap (left? key)).getLast?.getD (store.get? key) := by
  induction calls generalizing store with
  | nil => rfl
  | cons c calls ih =>
    rw [List.foldl_cons, ih, get?_apply]
    cases hc : c.left? key with
    | none => rw [List.filterMap_cons_none hc, Option.getD_none]
    | some value => rw [List.filterMap_cons_some hc, List.getLast?_cons, Option.getD_some, Option.getD_some]

/-- What calls leave under a key where nothing was at first. -/
def latest? (key : String) (calls : List StoreCall) : Option String :=
  (calls.filterMap (left? key)).getLast?.join

theorem get?_foldl_apply_empty (calls : List StoreCall) (key : String) :
    (calls.foldl apply {}).get? key = latest? key calls := by
  rw [get?_foldl_apply, latest?]
  cases (calls.filterMap (left? key)).getLast? <;> rfl

end StoreCall

namespace Identity

variable {i j : Identity} {key : String}

/-! ## Keys -/

/-- The keys of an identity. -/
def keys (i : Identity) : List String := [i.threadKey, i.sessionKey]

/-- Different identities have different thread keys, -/
theorem threadKey_inj : i.threadKey = j.threadKey ↔ i = j := by
  cases i; cases j
  simp [threadKey]

/-- and different session keys. -/
theorem sessionKey_inj : i.sessionKey = j.sessionKey ↔ i = j := by
  cases i; cases j
  simp [sessionKey]

/-- No name makes a key of one kind look like one of the other. -/
theorem threadKey_ne_sessionKey (i j : Identity) : i.threadKey ≠ j.sessionKey := by
  intro h
  -- the two kinds differ in their fifth letter
  have hfifth := congrArg (fun s => s.toList[4]?) h
  simp [threadKey, sessionKey] at hfifth

/-- No key belongs to two identities. -/
theorem eq_of_mem_keys (hi : key ∈ i.keys) (hj : key ∈ j.keys) : i = j := by
  simp only [keys, List.mem_cons, List.not_mem_nil, or_false] at hi hj
  rcases hi with rfl | rfl <;> rcases hj with hj | hj
  · exact threadKey_inj.mp hj
  · exact absurd hj (threadKey_ne_sessionKey i j)
  · exact absurd hj.symm (threadKey_ne_sessionKey j i)
  · exact sessionKey_inj.mp hj

/-- **The keys of different clients are different**, and so are the two of each. -/
theorem nodup_keys_iff {clients : List Identity} : (clients.flatMap keys).Nodup ↔ clients.Nodup := by
  rw [List.nodup_flatMap]
  constructor
  · rintro ⟨-, hdisjoint⟩
    -- a client that came twice would have its keys in common with itself
    refine hdisjoint.imp fun {i j} hkeys hij => ?_
    subst hij
    exact hkeys List.mem_cons_self List.mem_cons_self
  · intro h
    refine ⟨fun i _ => ?_, h.imp fun hne _ hi hj => hne (eq_of_mem_keys hi hj)⟩
    simpa [keys] using threadKey_ne_sessionKey i i

/-- A thread that was saved is read back, -/
theorem thread?_save (i : Identity) (store : Store) (threadId sessionId : String) :
    i.thread? (i.save store threadId sessionId) = some threadId := by
  show ((store.set i.threadKey threadId).set i.sessionKey sessionId).get? i.threadKey = _
  rw [Store.get?_set_of_ne _ _ (i.threadKey_ne_sessionKey i), Store.get?_set_self]

/-- and so is its session. -/
theorem session?_save (i : Identity) (store : Store) (threadId sessionId : String) :
    i.session? (i.save store threadId sessionId) = some sessionId :=
  Store.get?_set_self ..

/-- Nothing is read after clearing. -/
theorem thread?_clear (i : Identity) (store : Store) : i.thread? (i.clear store) = none := by
  show ((store.remove i.threadKey).remove i.sessionKey).get? i.threadKey = _
  rw [Store.get?_remove_of_ne _ (i.threadKey_ne_sessionKey i), Store.get?_remove_self]

/-! ## Operations -/

/-- What a client asks of its entries. -/
inductive Operation where
  | save (threadId sessionId : String)
  | clear
  deriving DecidableEq, Repr

namespace Operation

/-- The calls that an operation is made of. -/
def calls (i : Identity) : Operation → List StoreCall
  | save threadId sessionId => i.saving threadId sessionId
  | clear => i.clearing

/-- The pair that an operation leaves. -/
def pair? : Operation → Option (String × String)
  | save threadId sessionId => some (threadId, sessionId)
  | clear => none

/-- A client writes its own keys only. -/
theorem mem_keys_of_written? {o : Operation} {c : StoreCall} (h : c ∈ o.calls i)
    (hw : c.written? = some key) : key ∈ i.keys := by
  cases o <;> simp only [calls, saving, clearing, List.mem_cons, List.not_mem_nil, or_false] at h <;>
    rcases h with rfl | rfl <;> obtain rfl := Option.some.inj hw <;> simp [keys]

theorem left?_threadKey_calls (i : Identity) (o : Operation) :
    (o.calls i).filterMap (StoreCall.left? i.threadKey) = [o.pair?.map Prod.fst] := by
  have hne := threadKey_ne_sessionKey i i
  cases o <;> simp [calls, saving, clearing, StoreCall.left?, pair?, hne.symm]

theorem left?_sessionKey_calls (i : Identity) (o : Operation) :
    (o.calls i).filterMap (StoreCall.left? i.sessionKey) = [o.pair?.map Prod.snd] := by
  have hne := threadKey_ne_sessionKey i i
  cases o <;> simp [calls, saving, clearing, StoreCall.left?, pair?, hne]

/-- Of whole operations, the last one decides what their calls leave under each key. -/
theorem latest?_calls {part : String × String → String}
    (h : ∀ o : Operation, (o.calls i).filterMap (StoreCall.left? key) = [o.pair?.map part])
    (operations : List Operation) :
    StoreCall.latest? key (operations.flatMap (calls i)) =
      (operations.getLast?.bind pair?).map part := by
  have hlefts : (operations.flatMap (calls i)).filterMap (StoreCall.left? key) =
      operations.map fun o => o.pair?.map part := by
    rw [List.filterMap_flatMap, List.map_eq_flatMap]
    exact congrArg operations.flatMap (funext h)
  rw [StoreCall.latest?, hlefts, List.getLast?_map]
  cases operations.getLast? <;> rfl

end Operation

/-! ## A shared store -/

/-- A call to a store that clients share. -/
structure Access where
  /-- The client that makes it, if it is made by one. -/
  client? : Option Identity
  call : StoreCall
  deriving DecidableEq, Repr

/-- A client writes no keys but its own, and everybody else none of a client. -/
def Access.Proper (clients : List Identity) (a : Access) : Prop :=
  match a.client? with
  | some i => i ∈ clients ∧ ∀ key ∈ a.call.written?, key ∈ i.keys
  | none => ∀ key ∈ a.call.written?, ∀ i ∈ clients, key ∉ i.keys

instance (clients : List Identity) (a : Access) : Decidable (a.Proper clients) :=
  match a with
  | ⟨some i, c⟩ => inferInstanceAs (Decidable (i ∈ clients ∧ ∀ key ∈ c.written?, key ∈ i.keys))
  | ⟨none, c⟩ => inferInstanceAs (Decidable (∀ key ∈ c.written?, ∀ i ∈ clients, key ∉ i.keys))

/-- The calls with which one client writes, or, for none, those with which everybody else does. -/
def writes (client? : Option Identity) (log : List Access) : List StoreCall :=
  log.filterMap fun a => if a.client? = client? ∧ a.call.written? ≠ none then some a.call else none

/-- The store, empty at first, after all the calls. -/
def after (log : List Access) : Store := (log.map Access.call).foldl StoreCall.apply {}

/-- The calls of an operation that nobody interrupts. -/
def Operation.accesses (i : Identity) (o : Operation) : List Access :=
  (o.calls i).map fun c => ⟨some i, c⟩

variable {clients : List Identity} {log : List Access}

/-- **A key is read as if its owner had been alone.** -/
theorem get?_after {client? : Option Identity}
    (h : ∀ a ∈ log, a.call.written? = some key → a.client? = client?) :
    (after log).get? key = StoreCall.latest? key (writes client? log) := by
  have hlefts : (log.map Access.call).filterMap (StoreCall.left? key) =
      (writes client? log).filterMap (StoreCall.left? key) := by
    rw [List.filterMap_map, writes, List.filterMap_filterMap]
    refine List.filterMap_congr fun a ha => ?_
    by_cases hw : a.call.written? = some key
    · simp [h a ha hw, hw]
    · -- whoever makes a call, it leaves nothing under a key that it does not write
      have hnone : a.call.left? key = none := StoreCall.left?_of_ne hw
      split <;> simp [hnone]
  rw [after, StoreCall.get?_foldl_apply_empty, StoreCall.latest?, StoreCall.latest?, hlefts]

/-- The calls of an operation that nobody interrupts carry the whole operation out. -/
theorem after_append_accesses (log : List Access) (i : Identity) (o : Operation) :
    after (log ++ o.accesses i) = (o.calls i).foldl StoreCall.apply (after log) := by
  rw [after, Operation.accesses, List.map_append, List.foldl_append, List.map_map]
  exact congrArg (List.foldl StoreCall.apply (after log)) (List.map_id _)

/-- The keys of a client are written by that client only. -/
theorem client?_of_mem_keys {a : Access} (ha : a.Proper clients) (hi : i ∈ clients)
    (hkey : key ∈ i.keys) (hw : a.call.written? = some key) : a.client? = some i := by
  unfold Access.Proper at ha
  split at ha
  · rename_i j hj
    rw [hj, eq_of_mem_keys hkey (ha.2 key hw)]
  · exact absurd hkey (ha key hw i hi)

/-- Other keys are written by no client. -/
theorem client?_of_forall_notMem_keys {a : Access} (ha : a.Proper clients)
    (hkey : ∀ i ∈ clients, key ∉ i.keys) (hw : a.call.written? = some key) : a.client? = none := by
  unfold Access.Proper at ha
  split at ha
  · exact absurd (ha.2 key hw) (hkey _ ha.1)
  · assumption

/-- A client whose operations are all finished reads what the last one left. -/
theorem get?_after_of_operations {part : String × String → String} (hlog : ∀ a ∈ log, a.Proper clients)
    (hi : i ∈ clients) (hkey : key ∈ i.keys)
    (hpart : ∀ o : Operation, (o.calls i).filterMap (StoreCall.left? key) = [o.pair?.map part])
    {operations : List Operation}
    (hown : writes (some i) log = operations.flatMap (Operation.calls i)) :
    (after log).get? key = (operations.getLast?.bind Operation.pair?).map part := by
  rw [get?_after fun a ha hw => client?_of_mem_keys (hlog a ha) hi hkey hw, hown,
    Operation.latest?_calls hpart]

/-- Nobody gets in the way of anybody on a shared store. -/
structure KeptApart (clients : List Identity) (log : List Access) : Prop where
  /-- A client that has made the calls of some operations, with whatever calls of others before, between
  and after them, reads the pair that the last one saved, or nothing if that one cleared or there is
  none. -/
  client : ∀ i ∈ clients, ∀ operations : List Operation,
    writes (some i) log = operations.flatMap (Operation.calls i) →
      i.thread? (after log) = (operations.getLast?.bind Operation.pair?).map Prod.fst ∧
      i.session? (after log) = (operations.getLast?.bind Operation.pair?).map Prod.snd
  /-- Under a key of no client is what was last set there, if it was not removed since. -/
  other : ∀ key, (∀ i ∈ clients, key ∉ i.keys) →
    (after log).get? key = StoreCall.latest? key (writes none log)
  /-- The two keys of each client are different from each other and from those of all others. -/
  distinct : clients.Nodup → (clients.flatMap keys).Nodup
  /-- Whatever a client is called, its operations keep to its own keys; -/
  proper : ∀ i ∈ clients, ∀ o : Operation, ∀ a ∈ o.accesses i, a.Proper clients
  /-- and what nobody interrupts saves and clears as a whole. -/
  whole : ∀ (i : Identity) (threadId sessionId : String),
    after (log ++ (Operation.save threadId sessionId).accesses i) =
      i.save (after log) threadId sessionId ∧
    after (log ++ Operation.clear.accesses i) = i.clear (after log)

/-- **Clients that share a store do not disturb one another**, whatever they are called, and whatever calls
    come between the calls of their operations. -/
theorem kept_apart (clients : List Identity) (log : List Access) (hlog : ∀ a ∈ log, a.Proper clients) :
    KeptApart clients log where
  client i hi _ hown :=
    ⟨get?_after_of_operations hlog hi List.mem_cons_self (Operation.left?_threadKey_calls i) hown,
      get?_after_of_operations hlog hi (List.mem_cons_of_mem _ List.mem_cons_self)
        (Operation.left?_sessionKey_calls i) hown⟩
  other _ hkey := get?_after fun a ha hw => client?_of_forall_notMem_keys (hlog a ha) hkey hw
  distinct := nodup_keys_iff.mpr
  proper i hi o a ha := by
    obtain ⟨c, hc, rfl⟩ := List.mem_map.mp ha
    exact ⟨hi, fun _ => Operation.mem_keys_of_written? hc⟩
  whole i _ _ := ⟨after_append_accesses log i _, after_append_accesses log i _⟩

/-- Three clients, two of them named like a key or the start of one, and somebody else. The save of the
    first and the clearing of the second are cut in two by calls of the others, and the third has only begun
    to save. -/
theorem kept_apart_overlapping :
    let a : Identity := ⟨"a"⟩
    let b : Identity := ⟨":a"⟩
    let c : Identity := ⟨"ltp_session_id:a"⟩
    let log : List Access :=
      [⟨some a, .set a.threadKey "t1"⟩, ⟨some b, .set b.threadKey "t2"⟩,
        ⟨none, .set "ltp_thread_id" "x"⟩, ⟨some a, .set a.sessionKey "s1"⟩,
        ⟨some b, .set b.sessionKey "s2"⟩, ⟨some b, .remove b.threadKey⟩, ⟨some a, a.reading⟩,
        ⟨none, .remove "ltp_thread_id:"⟩, ⟨some c, .set c.threadKey "t3"⟩,
        ⟨some b, .remove b.sessionKey⟩]
    (∀ x ∈ log, x.Proper [a, b, c]) ∧ ([a, b, c].flatMap keys).Nodup ∧
      (a.thread? (after log) = some "t1" ∧ a.session? (after log) = some "s1") ∧
      (b.thread? (after log) = none ∧ b.session? (after log) = none) ∧
      (after log).get? "ltp_thread_id" = some "x" := by
  intro a b c log
  have hproper : ∀ x ∈ log, x.Proper [a, b, c] := by decide
  have h := kept_apart [a, b, c] log hproper
  exact ⟨hproper, h.distinct (by decide), h.client a (by simp) [.save "t1" "s1"] rfl,
    h.client b (by simp) [.save "t2" "s2", .clear] rfl, h.other "ltp_thread_id" (by decide)⟩

end Identity
end Tether
