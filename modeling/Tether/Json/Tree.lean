import Tether.Json.Fault

/-!
# `Tether.Json.Tree` — a JSON text as it is written

A tree keeps what a value forgets: the order of members, repeated keys, texts whose escapes do not
pair up, numbers out of range, and the place where the text stops being JSON. A record can so be
read off a text from the front, and the fault that comes first in the text is the one reported: a
field of the wrong kind before a later syntax fault, or the other way round.

A part of the text that nobody asks for is only *skimmed*: its brackets and quotes have to match, but
numbers may be out of range and escapes need not pair up. A reader who wants a name looks at the first
character of a part and goes no further unless it can begin one. `Break` is the place where the text
stops, with what each of them makes of it.

* `Break.nameFault` — the fault for a reader of a name;
* `Tree.skim` — the fault a skimmer meets;
* `Tree.toJson` — the value, if the part is sound and nests at most `room` deep;
* `Json.toTree` — a value as the text that spells it.
-/

namespace Tether.Json

/-- How the part begins in which a text stops. -/
inductive Opening where
  /-- There is nothing left of the text. -/
  | nothing
  /-- With the first letter of null. -/
  | null
  /-- With a quote. -/
  | quote
  /-- With anything else. -/
  | other
  deriving DecidableEq, Repr

/-- The place where a text stops being JSON. -/
structure Break where
  opening : Opening
  /-- The fault for a reader of the part. -/
  full : Fault
  /-- The fault for a skimmer. -/
  skim : Fault
  deriving DecidableEq, Repr

namespace Break

/-- The place where the text ends. -/
def textEnd : Break := ⟨.nothing, .truncated, .truncated⟩

/-- The place where the text ends behind a comma. -/
def afterComma : Break := ⟨.other, .truncated, .truncated⟩

/-- The place where a character is out of place. -/
def outOfPlace : Break := ⟨.other, .malformed, .malformed⟩

/-- The fault for a reader of a name, who stops at a first character that begins none. -/
def nameFault (b : Break) : Fault :=
  match b.opening with
  | .nothing | .quote => b.full
  | .null | .other => .malformed

end Break

/-- A JSON text as it is written. -/
inductive Tree where
  | null
  | bool (b : Bool)
  /-- A numeral; `none` if it is out of range. -/
  | number (n : Option Number)
  /-- A text; `none` if its escapes do not pair up. -/
  | text (s : Option String)
  /-- Items, and the fault if the text breaks off between items. -/
  | list (items : List Tree) (cut : Option Fault)
  /-- Members, and the place of a further member if the object is not closed. -/
  | object (members : List (Option String × Tree)) (stray : Option Break)
  /-- The text stops being JSON here. -/
  | broken (b : Break)
  deriving Repr, Inhabited

/-- The deepest nesting of lists and objects that a text may have. -/
def maxDepth : Nat := 127

namespace Tree

mutual
/-- The fault met when the part is passed over. -/
def skim : Tree → Option Fault
  | .broken b => some b.skim
  | .list items cut => (skimItems items).or cut
  | .object members stray => (skimMembers members).or (stray.map Break.skim)
  | _ => none

/-- The first fault in a list of parts that are passed over. -/
def skimItems : List Tree → Option Fault
  | [] => none
  | t :: rest => (skim t).or (skimItems rest)

/-- The first fault in the members of an object that is passed over. -/
def skimMembers : List (Option String × Tree) → Option Fault
  | [] => none
  | (_, t) :: rest => (skim t).or (skimMembers rest)
end

mutual
/-- The value of a part that nests at most `room` deep. The last of equal keys wins. -/
def toJson (room : Nat) : Tree → Except Fault Json
  | .null => .ok .null
  | .bool b => .ok (.bool b)
  | .number (some n) => .ok (.number n)
  | .number none => .error .malformed
  | .text (some s) => .ok (.text s)
  | .text none => .error .malformed
  | .broken b => .error b.full
  | .list items cut =>
    match room with
    | 0 => .error .malformed
    | room + 1 =>
      match toItems room items with
      | .error f => .error f
      | .ok vs =>
        match cut with
        | some f => .error f
        | none => .ok (.list vs)
  | .object members stray =>
    match room with
    | 0 => .error .malformed
    | room + 1 =>
      match toMembers room [] members with
      | .error f => .error f
      | .ok ms =>
        match stray with
        | some b => .error b.full
        | none => .ok (.object ms)

/-- The values of items. -/
def toItems (room : Nat) : List Tree → Except Fault (List Json)
  | [] => .ok []
  | t :: rest =>
    match toJson room t with
    | .error f => .error f
    | .ok v =>
      match toItems room rest with
      | .error f => .error f
      | .ok vs => .ok (v :: vs)

/-- The members of an object, put in order as they come. -/
def toMembers (room : Nat) (sofar : List (String × Json)) :
    List (Option String × Tree) → Except Fault (List (String × Json))
  | [] => .ok sofar
  | (none, _) :: _ => .error .malformed
  | (some k, t) :: rest =>
    match toJson room t with
    | .error f => .error f
    | .ok v => toMembers room (insert k v sofar) rest
end

/-- What stands here, for a complaint; a broken or unsound scalar is its own complaint. -/
def found : Tree → Except Fault Found
  | .null => .ok .null
  | .bool b => .ok (.bool b)
  | .number (some n) => .ok (.number n)
  | .number none => .error .malformed
  | .text (some s) => .ok (.text s)
  | .text none => .error .malformed
  | .list _ _ => .ok .list
  | .object _ _ => .ok .object
  | .broken b => .error b.full

/-- The complaint that something of another kind was wanted. -/
def misfit {α : Type} (t : Tree) (wanted : Wanted) : Except Fault α :=
  match t.found with
  | .ok f => .error (.misfit (.kind f wanted))
  | .error f => .error f

end Tree

mutual
/-- A value as the text that spells it. -/
def toTree : Json → Tree
  | .null => .null
  | .bool b => .bool b
  | .number n => .number (some n)
  | .text s => .text (some s)
  | .list items => .list (toTrees items) none
  | .object members => .object (toTreeMembers members) none

/-- Items as the text that spells them. -/
def toTrees : List Json → List Tree
  | [] => []
  | v :: rest => toTree v :: toTrees rest

/-- Members as the text that spells them. -/
def toTreeMembers : List (String × Json) → List (Option String × Tree)
  | [] => []
  | (k, v) :: rest => (some k, toTree v) :: toTreeMembers rest
end

end Tether.Json
