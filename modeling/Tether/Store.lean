import Tether.Error

/-!
# `Tether.Store` — key-value storage

A store maps keys to texts. The client talks to any storage through `StoreCall`s, whose answers are
given from outside; `Store` is the storage in memory, where every call succeeds.

* `Store.get?`, `Store.set`, `Store.remove` — the map;
* `StoreCall.made`, `StoreCall.failure?` — calls one after the other, up to the first that fails.
-/

namespace Tether

/-- A store in memory, with one entry per key. -/
structure Store where
  entries : List (String × String) := []
  deriving DecidableEq, Repr, Inhabited

namespace Store

/-- The value under a key. -/
def get? (s : Store) (key : String) : Option String := s.entries.lookup key

/-- The store without a key. -/
def remove (s : Store) (key : String) : Store := ⟨s.entries.filter fun e => e.1 != key⟩

/-- The store with a value under a key. -/
def set (s : Store) (key value : String) : Store := ⟨(key, value) :: (s.remove key).entries⟩

/-- The number of entries. -/
def size (s : Store) : Nat := s.entries.length

/-- Is nothing stored? -/
def isEmpty (s : Store) : Bool := s.size == 0

theorem lookup_filter_self (key : String) (es : List (String × String)) :
    (es.filter fun e => e.1 != key).lookup key = none := by
  induction es with
  | nil => rfl
  | cons e es ih =>
    obtain ⟨k, v⟩ := e
    by_cases h : k = key
    · simpa [h] using ih
    · have h' : (key == k) = false := by simpa using fun he => h he.symm
      simpa [List.filter_cons, h, List.lookup_cons, h'] using ih

theorem lookup_filter_of_ne {key other : String} (h : other ≠ key) (es : List (String × String)) :
    (es.filter fun e => e.1 != key).lookup other = es.lookup other := by
  induction es with
  | nil => rfl
  | cons e es ih =>
    obtain ⟨k, v⟩ := e
    by_cases he : k = key
    · have h' : (other == k) = false := by simpa [he] using h
      rw [List.lookup_cons, h', ← ih]
      simp [he]
    · rw [List.filter_cons_of_pos (by simpa using he), List.lookup_cons, List.lookup_cons, ih]

@[simp] theorem get?_remove_self (s : Store) (key : String) : (s.remove key).get? key = none :=
  lookup_filter_self key s.entries

/-- Removing a key leaves the others. -/
theorem get?_remove_of_ne (s : Store) {key other : String} (h : other ≠ key) :
    (s.remove key).get? other = s.get? other :=
  lookup_filter_of_ne h s.entries

@[simp] theorem get?_set_self (s : Store) (key value : String) :
    (s.set key value).get? key = some value := by
  simp [set, get?]

/-- Setting a key leaves the others. -/
theorem get?_set_of_ne (s : Store) {key other : String} (value : String) (h : other ≠ key) :
    (s.set key value).get? other = s.get? other := by
  have h' : (other == key) = false := by simpa using h
  simp [set, get?, List.lookup_cons, h']
  exact get?_remove_of_ne s h

end Store

/-- A call to a storage. -/
inductive StoreCall where
  | get (key : String)
  | set (key value : String)
  | remove (key : String)
  deriving DecidableEq, Repr

namespace StoreCall

/-- The name of the operation. -/
def name : StoreCall → String
  | .get _ => "get"
  | .set _ _ => "set"
  | .remove _ => "remove"

/-- The store in memory after the call. -/
def apply (s : Store) : StoreCall → Store
  | .get _ => s
  | .set key value => s.set key value
  | .remove key => s.remove key

/-- The failure of a storage that refuses the operation. -/
def refusal (c : StoreCall) : Error := .storage (c.name ++ " refused")

/-- The calls made, in turn, up to the first that fails, with their results. -/
def made (answer : StoreCall → Except Error Unit) :
    List StoreCall → List (StoreCall × Except Error Unit)
  | [] => []
  | c :: rest =>
    match answer c with
    | .ok () => (c, .ok ()) :: made answer rest
    | .error e => [(c, .error e)]

/-- The first failure among calls made in turn. -/
def failure? (answer : StoreCall → Except Error Unit) : List StoreCall → Option Error
  | [] => none
  | c :: rest =>
    match answer c with
    | .ok () => failure? answer rest
    | .error e => some e

end StoreCall
end Tether
