import Tether.Json.Tree

/-!
# `Tether.Toml.Value` — TOML values and the tables they stand in

A document is a list of statements: entries with a dotted path, table headers, and headers of a
further element of an array of tables. `build` puts them into one table and refuses every statement
that would define something twice:

* a table has at most one header, and a table that dotted keys have made has none;
* dotted keys do not reach into a table that has a header; a table that headers have implied, and the
  last element of an array of tables, they pass through but do not add to;
* nothing reaches into a value, inline tables included.

* `Value`, `Table` — what a document holds;
* `Statement`, `build` — from statements to the table of the document;
* `Value.toTree` — a value as the tree a record is read off.
-/

namespace Tether.Toml

/-- How a table came to be. -/
inductive Origin where
  /-- By a header, an element of an array of tables, or as the document itself. -/
  | header
  /-- By the header of a table inside. -/
  | implied
  /-- By a dotted key. -/
  | dotted
  deriving DecidableEq, Repr

/-- A TOML value. -/
inductive Value where
  | text (s : String)
  | integer (i : Int)
  /-- A double; `none` if it is not finite. -/
  | real (x : Option Binary64)
  | bool (b : Bool)
  /-- A date, a time or both, in normal form. -/
  | moment (s : String)
  | list (items : List Value)
  | inline (members : List (String × Value))
  | table (origin : Origin) (members : List (String × Value))
  /-- An array of tables. -/
  | tables (elements : List (List (String × Value)))
  deriving Repr, Inhabited

/-- The members of a table. -/
abbrev Members := List (String × Value)

/-- The member of a key. -/
def find? (key : String) (ms : Members) : Option Value := ms.lookup key

/-- Replaces the member of a key, or adds it at the end. -/
def put (key : String) (v : Value) : Members → Members
  | [] => [(key, v)]
  | (k, w) :: rest => if k = key then (k, v) :: rest else (k, w) :: put key v rest

/-- Changes the last element of a list. -/
def changeLast {α : Type} (f : α → Option α) : List α → Option (List α)
  | [] => none
  | [a] => (f a).map ([·])
  | a :: rest => (changeLast f rest).map (a :: ·)

/-- Changes the table at a path of headers. Tables missing on the way are implied; an array of tables
is entered at its last element. -/
def alongHeaders (f : Members → Option Members) : List String → Members → Option Members
  | [], ms => f ms
  | key :: path, ms =>
    match find? key ms with
    | none => (alongHeaders f path []).map fun inner => put key (.table .implied inner) ms
    | some (.table origin inner) =>
      (alongHeaders f path inner).map fun inner => put key (.table origin inner) ms
    | some (.tables elements) =>
      (changeLast (alongHeaders f path) elements).map fun es => put key (.tables es) ms
    | some _ => none

/-- Adds an entry under a dotted path to a table. -/
def addDotted (v : Value) : List String → Members → Option Members
  | [], _ => none
  | [key], ms => if (find? key ms).isSome then none else some (put key v ms)
  | key :: path, ms =>
    match find? key ms with
    | none => (addDotted v path []).map fun inner => put key (.table .dotted inner) ms
    | some (.table .dotted inner) =>
      (addDotted v path inner).map fun inner => put key (.table .dotted inner) ms
    | some (.table .implied inner) =>
      if path.length ≤ 1 then none
      else (addDotted v path inner).map fun inner => put key (.table .implied inner) ms
    | some (.tables elements) =>
      if path.length ≤ 1 then none
      else (changeLast (addDotted v path) elements).map fun es => put key (.tables es) ms
    | some _ => none

/-- An inline table of entries with dotted paths. -/
def inlineTable (entries : List (List String × Value)) : Option Members :=
  entries.foldlM (fun ms (path, v) => addDotted v path ms) []

/-- A line of a document that says something. -/
inductive Statement where
  | entry (path : List String) (v : Value)
  | header (path : List String)
  | element (path : List String)
  deriving Repr

/-- Makes the table of a header, or takes over a table that was implied before. -/
def openTable (key : String) (ms : Members) : Option Members :=
  match find? key ms with
  | none => some (put key (.table .header []) ms)
  | some (.table .implied inner) => some (put key (.table .header inner) ms)
  | some _ => none

/-- Adds an element to an array of tables. -/
def openElement (key : String) (ms : Members) : Option Members :=
  match find? key ms with
  | none => some (put key (.tables [[]]) ms)
  | some (.tables elements) => some (put key (.tables (elements ++ [[]])) ms)
  | some _ => none

/-- A document under construction: the whole table, and the path of the header in force. -/
structure Draft where
  root : Members := []
  here : List String := []
  deriving Repr

/-- Changes the last key of a path by `f`, along headers for the keys before it. -/
def atLast (f : String → Members → Option Members) (path : List String) (ms : Members) :
    Option Members :=
  match path.getLast? with
  | none => none
  | some key => alongHeaders (f key) path.dropLast ms

/-- Takes a statement into a document. -/
def Draft.add (d : Draft) : Statement → Option Draft
  | .entry path v =>
    (alongHeaders (addDotted v path) d.here d.root).map fun root => { d with root }
  | .header path => (atLast openTable path d.root).map fun root => { root, here := path }
  | .element path => (atLast openElement path d.root).map fun root => { root, here := path }

/-- The table of a document. -/
def build (statements : List Statement) : Option Members :=
  (statements.foldlM Draft.add {}).map Draft.root

/-! ## Trees -/

/-- The key under which a date or time is handed to readers of records. -/
def momentKey : String := "$__toml_private_datetime"

mutual
/-- A value as a tree. A double that is not finite has no spelling and reads as null. -/
def Value.toTree : Value → Json.Tree
  | .text s => .text (some s)
  | .integer i =>
    match Whole.ofInt? i with
    | some w => .number (some (.whole w))
    | none => .null
  | .real (some x) => .number (some (.real x))
  | .real none => .null
  | .bool b => .bool b
  | .moment s => .object [(some momentKey, .text (some s))] none
  | .list items => .list (itemTrees items) none
  | .inline members => .object (memberTrees members) none
  | .table _ members => .object (memberTrees members) none
  | .tables elements => .list (elementTrees elements) none

/-- Items as trees. -/
def itemTrees : List Value → List Json.Tree
  | [] => []
  | v :: rest => v.toTree :: itemTrees rest

/-- Members as trees. -/
def memberTrees : List (String × Value) → List (Option String × Json.Tree)
  | [] => []
  | (k, v) :: rest => (some k, v.toTree) :: memberTrees rest

/-- Elements of an array of tables as trees. -/
def elementTrees : List (List (String × Value)) → List Json.Tree
  | [] => []
  | ms :: rest => .object (memberTrees ms) none :: elementTrees rest
end

end Tether.Toml
