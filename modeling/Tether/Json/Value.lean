import Tether.Decimal.Shortest

/-!
# `Tether.Json.Value` — JSON values

A value is what a JSON text means. Numbers come in two kinds that stay apart: whole numbers that fit
64 bits, signed or unsigned, and doubles. The members of an object are a list; free-form objects keep
it in ascending order of the keys, without repetition (`Json.Ordered`), while the record of a message
lists its members in the order of the wire format.

* `Json.insert` — adds a member to an ordered object, the newest of equal keys winning;
* `Json.Ordered` — every object inside is in strictly ascending order;
* `Json.get?` — the member of a key.
-/

namespace Tether

/-- A whole number that fits 64 bits, as a signed or as an unsigned word. -/
structure Whole where
  val : Int
  least : -0x8000000000000000 ≤ val := by decide
  greatest : val < 0x10000000000000000 := by decide
  deriving DecidableEq, Repr

namespace Whole

/-- The whole number of an integer in range. -/
def ofInt? (i : Int) : Option Whole :=
  if h : -0x8000000000000000 ≤ i ∧ i < 0x10000000000000000 then some ⟨i, h.1, h.2⟩ else none

/-- A natural number that fits an unsigned word. -/
def ofUInt64 (n : UInt64) : Whole :=
  ⟨n.toNat, by omega, by have := n.toNat_lt; omega⟩

/-- An integer that fits a signed word. -/
def ofInt64 (i : Int64) : Whole :=
  ⟨i.toInt, i.le_toInt, by have := i.toInt_lt; omega⟩

/-- A natural number that fits 32 bits. -/
def ofUInt32 (n : UInt32) : Whole :=
  ⟨n.toNat, by omega, by have := n.toNat_lt; omega⟩

end Whole

/-- A JSON number. -/
inductive Number where
  | whole (n : Whole)
  | real (x : Binary64)
  deriving DecidableEq, Repr

/-- Is the number finite? Whole numbers are. -/
def Number.isFinite : Number → Bool
  | .whole _ => true
  | .real x => x.isFinite

/-- A JSON value. -/
inductive Json where
  | null
  | bool (b : Bool)
  | number (n : Number)
  | text (s : String)
  | list (items : List Json)
  | object (members : List (String × Json))
  deriving Repr, Inhabited

namespace Json

/-- A small natural number as a value. -/
def ofNat (n : Nat) : Json :=
  match Whole.ofInt? n with
  | some w => .number (.whole w)
  | none => .null

/-- A text, or null. -/
def ofText? : Option String → Json
  | some s => .text s
  | none => .null

/-! ## Ordered objects -/

/-- Adds a member in its place, or replaces the member of an equal key. -/
def insert (key : String) (value : Json) : List (String × Json) → List (String × Json)
  | [] => [(key, value)]
  | (k, v) :: rest =>
    if key < k then (key, value) :: (k, v) :: rest
    else if key = k then (key, value) :: rest
    else (k, v) :: insert key value rest

/-- Members put in order, the last of equal keys winning. -/
def ordered (members : List (String × Json)) : List (String × Json) :=
  members.foldl (fun ms (k, v) => insert k v ms) []

mutual
/-- The value with every object inside put in order. -/
def sorted : Json → Json
  | .list items => .list (sortedItems items)
  | .object members => .object (ordered (sortedMembers members))
  | v => v

/-- The items of a list, each sorted inside. -/
def sortedItems : List Json → List Json
  | [] => []
  | v :: rest => sorted v :: sortedItems rest

/-- The members of an object, each sorted inside. -/
def sortedMembers : List (String × Json) → List (String × Json)
  | [] => []
  | (k, v) :: rest => (k, sorted v) :: sortedMembers rest
end

/-- The keys are in strictly ascending order. -/
def Ascending : List (String × Json) → Prop
  | [] => True
  | [_] => True
  | (k, _) :: (k', v') :: rest => k < k' ∧ Ascending ((k', v') :: rest)

mutual
/-- Every object inside the value lists its keys in strictly ascending order. -/
def Ordered : Json → Prop
  | .list items => OrderedItems items
  | .object members => Ascending members ∧ OrderedMembers members
  | _ => True

/-- Every item is ordered. -/
def OrderedItems : List Json → Prop
  | [] => True
  | v :: rest => Ordered v ∧ OrderedItems rest

/-- The value of every member is ordered. -/
def OrderedMembers : List (String × Json) → Prop
  | [] => True
  | (_, v) :: rest => Ordered v ∧ OrderedMembers rest
end

/-! ## Looking inside -/

/-- The first member of a key. -/
def find? (key : String) : List (String × Json) → Option Json
  | [] => none
  | (k, v) :: rest => if k = key then some v else find? key rest

/-- The member of a key, if the value is an object that has it. -/
def get? (key : String) : Json → Option Json
  | .object members => find? key members
  | _ => none

/-- The text, if the value is one. -/
def text? : Json → Option String
  | .text s => some s
  | _ => none

mutual
/-- How deep lists and objects nest. -/
def depth : Json → Nat
  | .list items => depthItems items + 1
  | .object members => depthMembers members + 1
  | _ => 0

/-- The greatest depth among items. -/
def depthItems : List Json → Nat
  | [] => 0
  | v :: rest => max (depth v) (depthItems rest)

/-- The greatest depth among members. -/
def depthMembers : List (String × Json) → Nat
  | [] => 0
  | (_, v) :: rest => max (depth v) (depthMembers rest)
end

mutual
/-- No number inside the value is a double. -/
def Exact : Json → Prop
  | .number (.real _) => False
  | .list items => ExactItems items
  | .object members => ExactMembers members
  | _ => True

/-- No item holds a double. -/
def ExactItems : List Json → Prop
  | [] => True
  | v :: rest => Exact v ∧ ExactItems rest

/-- No member holds a double. -/
def ExactMembers : List (String × Json) → Prop
  | [] => True
  | (_, v) :: rest => Exact v ∧ ExactMembers rest
end

end Json
end Tether
