import Tether.Json.Reader

/-!
# `Tether.Json.Schema` — reading records off trees

A `Reader` makes something of a tree. A `Schema` describes a record: its fields in order, each with a
name, a reader and what holds when it is absent. A record may be given as an object, in any order of
members, or as a list of its fields in the order of the schema.

An object is read from the front: a field that comes a second time, or whose content does not fit, is
reported where it stands, and unknown members are skimmed. Only then are absent fields looked at, in
the order of the schema. So the first fault of the text wins.

The three places a tree can come from differ in small ways, collected in `Source`.
-/

namespace Tether.Json

/-- Where a tree comes from. -/
inductive Source where
  /-- A JSON text that is being read. -/
  | text
  /-- A JSON value. -/
  | value
  /-- The fields of a tagged record, gathered while looking for the tag. -/
  | gathered
  /-- A TOML table. -/
  | table
  deriving DecidableEq, Repr

/-- Where a reader stands: the source, and how much deeper lists and objects may nest. -/
structure Place where
  source : Source
  room : Nat
  deriving DecidableEq, Repr

namespace Place

/-- The start of a JSON text. -/
def text : Place := ⟨.text, maxDepth⟩

/-- The top of a JSON value. -/
def value : Place := ⟨.value, maxDepth⟩

/-- The top of a TOML table. Its reader has its own bound on nesting, so there is room for all. -/
def table : Place := ⟨.table, 1000⟩

/-- One level inside. -/
def inside (p : Place) : Place := { p with room := p.room - 1 }

end Place

/-- Makes something of a tree at a place. -/
abbrev Reader (α : Type) := Place → Tree → Except Fault α

namespace Reader

variable {α β : Type}

/-- A text. -/
def text : Reader String := fun _ t =>
  match t with
  | .text (some s) => .ok s
  | t => t.misfit .text

/-- A truth value. -/
def flag : Reader Bool := fun _ t =>
  match t with
  | .bool b => .ok b
  | t => t.misfit .flag

/-- A whole number that `fit?` accepts. -/
def natural (fit? : Int → Option α) (wanted : Wanted) : Reader α := fun _ t =>
  match t with
  | .number (some (.whole n)) =>
    match fit? n.val with
    | some a => .ok a
    | none => .error (.misfit (.range (.number (.whole n)) wanted))
  | t => t.misfit wanted

/-- A natural number of 64 bits. -/
def natural64 : Reader UInt64 :=
  natural (fun i => if 0 ≤ i ∧ i < 0x10000000000000000 then some (UInt64.ofNat i.toNat) else none) .natural64

/-- A natural number of 32 bits. -/
def natural32 : Reader UInt32 :=
  natural (fun i => if 0 ≤ i ∧ i < 0x100000000 then some (UInt32.ofNat i.toNat) else none) .natural32

/-- A number. -/
def number : Reader Number := fun _ t =>
  match t with
  | .number (some n) => .ok n
  | t => t.misfit .number

/-- Any value. -/
def json : Reader Json := fun p t => t.toJson p.room

/-- Null, or what `r` reads. A part that begins like null is read as null. A table has no null: what
reads as null there is a value. -/
def optional (r : Reader α) : Reader (Option α) := fun p t =>
  match t, p.source with
  | .null, .text => .ok none
  | .null, .value => .ok none
  | .null, .gathered => .ok none
  | .broken ⟨.null, full, _⟩, _ => .error full
  | t, _ =>
    match r p t with
    | .ok a => .ok (some a)
    | .error f => .error f

/-- What `r` reads, seen through `f`. -/
def map (f : α → β) (r : Reader α) : Reader β := fun p t =>
  match r p t with
  | .ok a => .ok (f a)
  | .error e => .error e

/-- The items of a list, one after the other. -/
def items (r : Reader α) (p : Place) : List Tree → Except Fault (List α)
  | [] => .ok []
  | t :: rest =>
    match r p t with
    | .error f => .error f
    | .ok a =>
      match items r p rest with
      | .error f => .error f
      | .ok as => .ok (a :: as)

/-- A list of what `r` reads. -/
def list (r : Reader α) : Reader (List α) := fun p t =>
  match t with
  | .list ts cut =>
    if p.room = 0 then .error .malformed
    else
      match items r p.inside ts with
      | .error f => .error f
      | .ok as =>
        match cut with
        | some f => .error f
        | none => .ok as
  | t => t.misfit .list

/-! ## A choice among names -/

/-- The meaning of a name. -/
def lookup (known : List (String × α)) (name : String) : Except Fault α :=
  match known.lookup name with
  | some a => .ok a
  | none => .error (.misfit (.variant name (known.map Prod.fst)))

/-- Null, as the content of a choice that has none. -/
def empty : Tree → Except Fault Unit
  | .null => .ok ()
  | t => t.misfit .null

/-- The first fault behind the only member an object may hold; whatever is there instead of the closing
brace is out of place. -/
def afterOnly : (more : List (Option String × Tree)) → (stray : Option Break) → Option Fault
  | [], none => none
  | [], some b => if b.opening = .nothing then some b.full else some .malformed
  | _ :: _, _ => some .malformed

/-- A choice in a text: a name, or an object of one member with the name as key and null inside. -/
def choiceInText (known : List (String × α)) (p : Place) : Tree → Except Fault α
  | .text (some s) => lookup known s
  | .object [] (some b) => if p.room = 0 then .error .malformed else .error b.full
  | .object ((some key, t) :: more) stray =>
    if p.room = 0 then .error .malformed
    else
      match lookup known key with
      | .error f => .error f
      | .ok a =>
        match empty t with
        | .error f => .error f
        | .ok () =>
          match afterOnly more stray with
          | some f => .error f
          | none => .ok a
  | .broken b => .error b.nameFault
  | _ => .error .malformed

/-- A choice in a value. -/
def choiceInValue (known : List (String × α)) : Tree → Except Fault α
  | .text (some s) => lookup known s
  | .object [(some key, t)] none =>
    match lookup known key with
    | .error f => .error f
    | .ok a =>
      match empty t with
      | .error f => .error f
      | .ok () => .ok a
  | .object _ _ => .error (.misfit (.range .object .singleMember))
  | t => t.misfit .nameOrObject

/-- A choice in a table: a name, or a table of one member with the name as key and an empty list or
table inside. -/
def choiceInTable (known : List (String × α)) : Tree → Except Fault α
  | .text (some s) => lookup known s
  | .object [(some key, t)] none =>
    match lookup known key, t with
    | .ok a, .list [] none => .ok a
    | .ok a, .object [] none => .ok a
    | .ok _, t => t.misfit .null
    | .error f, _ => .error f
  | t => t.misfit .nameOrObject

/-- A choice among names without content. -/
def choice (known : List (String × α)) : Reader α := fun p t =>
  match p.source with
  | .text => choiceInText known p t
  | .value => choiceInValue known t
  | .gathered => choiceInValue known t
  | .table => choiceInTable known t

end Reader

/-! ## Records -/

/-- What holds when a field is absent. -/
inductive Absence (α : Type) where
  /-- The record is refused. -/
  | refused
  /-- The field has a value, in an object and at the end of a list. -/
  | default (a : α)
  /-- The field has a value in an object; a list has to spell it out. -/
  | inObject (a : α)

/-- A description of records: the fields that are known, with a check of their content; how to
gather the record from the members of an object that has passed the checks; and how to take it off
the front of a list, given the number of items already taken and the fault of a list that is cut. -/
structure Schema (α : Type) where
  fields : List (String × (Place → Tree → Except Fault Unit))
  ofMembers : Place → List (Option String × Tree) → Except Fault α
  ofItems : (total : String × Nat) → Place → (cut : Option Fault) → (taken : Nat) → List Tree →
    Except Fault (α × Nat × List Tree)

namespace Schema

variable {α β : Type}

/-- The tree of a key. -/
def find? (key : String) : List (Option String × Tree) → Option Tree
  | [] => none
  | (k, t) :: rest => if k = some key then some t else find? key rest

/-- A record of one field. -/
def field (name : String) (r : Reader α) (absence : Absence α) : Schema α where
  fields := [(name, fun p t => (r p t).map fun _ => ())]
  ofMembers p ms :=
    match find? name ms with
    | some t => r p t
    | none =>
      match absence with
      | .refused => .error (.misfit (.missing name))
      | .default a => .ok a
      | .inObject a => .ok a
  ofItems total p cut taken ts :=
    match ts with
    | t :: rest =>
      match r p t with
      | .ok a => .ok (a, taken + 1, rest)
      | .error f => .error f
    | [] =>
      match cut with
      | some f => .error f
      | none =>
        match absence with
        | .default a => .ok (a, taken + 1, [])
        | _ => .error (.misfit (.length taken (.recordOf total.1 total.2)))

/-- A field that has to be there. -/
def required (name : String) (r : Reader α) : Schema α := field name r .refused

/-- A field with a default. -/
def withDefault (name : String) (r : Reader α) (a : α) : Schema α := field name r (.default a)

/-- A field that may be null or absent. -/
def optional (name : String) (r : Reader α) : Schema (Option α) :=
  field name r.optional (.default none)

/-- A field that may be null, or absent from an object, but not from a list. -/
def nullable (name : String) (r : Reader α) : Schema (Option α) :=
  field name r.optional (.inObject none)

/-- The record seen through a function. -/
def map (f : α → β) (s : Schema α) : Schema β where
  fields := s.fields
  ofMembers p ms :=
    match s.ofMembers p ms with
    | .ok a => .ok (f a)
    | .error e => .error e
  ofItems total p cut taken ts :=
    match s.ofItems total p cut taken ts with
    | .ok (a, taken, rest) => .ok (f a, taken, rest)
    | .error e => .error e

/-- The fields of one record, then those of another. -/
def and (s : Schema (α → β)) (t : Schema α) : Schema β where
  fields := s.fields ++ t.fields
  ofMembers p ms :=
    match s.ofMembers p ms with
    | .error e => .error e
    | .ok f =>
      match t.ofMembers p ms with
      | .ok a => .ok (f a)
      | .error e => .error e
  ofItems total p cut taken ts :=
    match s.ofItems total p cut taken ts with
    | .error e => .error e
    | .ok (f, taken, rest) =>
      match t.ofItems total p cut taken rest with
      | .ok (a, taken, rest) => .ok (f a, taken, rest)
      | .error e => .error e

/-- Checks the members of an object from the front; `seen` holds the fields already met, and `other`
finds the fault of a member that is no field. -/
def check (fields : List (String × (Place → Tree → Except Fault Unit)))
    (other : Tree → Option Fault) (p : Place) :
    (seen : List String) → List (Option String × Tree) → Except Fault Unit
  | _, [] => .ok ()
  | _, (none, _) :: _ => .error .malformed
  | seen, (some key, t) :: rest =>
    match fields.lookup key with
    | some content =>
      if key ∈ seen then .error (.misfit (.repeated key))
      else
        match content p t with
        | .error f => .error f
        | .ok () => check fields other p (key :: seen) rest
    | none =>
      match other t with
      | some f => .error f
      | none => check fields other p seen rest

/-- The fault of items that no field has taken. -/
def leftover (p : Place) (all : Nat) (taken : Nat) (rest : List Tree) (cut : Option Fault) :
    Option Fault :=
  match p.source with
  | .text => if rest.isEmpty then cut else some .malformed
  | .value => if rest.isEmpty then none else some (.misfit (.length all .shorterList))
  | .gathered => if rest.isEmpty then none else some (.misfit (.length all (.listOf taken)))
  | .table => none

/-- The record given as an object. -/
def readMembers (s : Schema α) (p : Place) (members : List (Option String × Tree))
    (stray : Option Break) : Except Fault α :=
  match check s.fields Tree.skim p [] members with
  | .error f => .error f
  | .ok () =>
    match stray.map Break.full with
    | some f => .error f
    | none => s.ofMembers p members

/-- The record given as a list. -/
def readItems (s : Schema α) (name : String) (p : Place) (ts : List Tree) (cut : Option Fault) :
    Except Fault α :=
  match s.ofItems (name, s.fields.length) p cut 0 ts with
  | .error f => .error f
  | .ok (a, taken, rest) =>
    match leftover p ts.length taken rest cut with
    | some f => .error f
    | none => .ok a

/-- A record called `name` in complaints. -/
def reader (s : Schema α) (name : String) : Reader α := fun p t =>
  match t with
  | .object members stray =>
    if p.room = 0 then .error .malformed else s.readMembers p.inside members stray
  | .list ts cut =>
    if p.room = 0 then .error .malformed else s.readItems name p.inside ts cut
  | t => t.misfit (.record name)

/-! ## Records with further members -/

/-- The fault of a part that is read as a value. -/
def valueFault (room : Nat) (t : Tree) : Option Fault :=
  match t.toJson room with
  | .error f => some f
  | .ok _ => none

/-- The members that are no field. -/
def further (s : Schema α) (members : List (Option String × Tree)) : List (Option String × Tree) :=
  members.filter fun (k, _) => k.all fun k => (s.fields.lookup k).isNone

/-- A record that keeps the members that are no field, as values in the order of their keys. It has
to be given as an object. -/
def openReader (s : Schema (List (String × Json) → α)) (name : String) : Reader α := fun p t =>
  match t with
  | .object members stray =>
    if p.room = 0 then .error .malformed
    else
      let p := p.inside
      match check s.fields (valueFault p.room) p [] members with
      | .error f => .error f
      | .ok () =>
        match stray.map Break.full with
        | some f => .error f
        | none =>
          match s.ofMembers p members, Tree.toMembers p.room [] (s.further members) with
          | .ok make, .ok more => .ok (make more)
          | .error f, _ => .error f
          | .ok _, .error f => .error f
  | t => t.misfit (.record name)

end Schema

/-! ## Tagged records -/

namespace Union

variable {α : Type}

/-- The variant that a tag names. -/
def variant (variants : List (String × Reader α)) : Tree → Except Fault (Reader α)
  | .text (some s) => Reader.lookup variants s
  | t => t.misfit .variantName

/-- Walks an object from the front, looking for the tag and gathering the other members. -/
def gather (tag : String) (variants : List (String × Reader α)) (room : Nat) :
    (found : Option (Reader α)) → List (Option String × Tree) →
    Except Fault (Option (Reader α) × List (Option String × Tree))
  | found, [] => .ok (found, [])
  | _, (none, _) :: _ => .error .malformed
  | found, (some key, t) :: rest =>
    if key = tag then
      if found.isSome then .error (.misfit (.repeated tag))
      else
        match variant variants t with
        | .error f => .error f
        | .ok r => gather tag variants room (some r) rest
    else
      match Schema.valueFault room t with
      | some f => .error f
      | none =>
        match gather tag variants room found rest with
        | .error f => .error f
        | .ok (found, ms) => .ok (found, (some key, t) :: ms)

/-- A record whose member `tag` says which kind of record it is. In a list the tag comes first. -/
def reader (name tag : String) (variants : List (String × Reader α)) : Reader α := fun p t =>
  match t with
  | .object members stray =>
    if p.room = 0 then .error .malformed
    else
      match gather tag variants (p.room - 1) none members with
      | .error f => .error f
      | .ok (found, ms) =>
        match stray.map Break.full, found with
        | some f, _ => .error f
        | none, none => .error (.misfit (.missing tag))
        | none, some r => r { p with source := .gathered } (.object ms none)
  | .list ts cut =>
    if p.room = 0 then .error .malformed
    else
      match ts with
      | [] => .error (cut.getD (.misfit (.missing tag)))
      | t :: rest =>
        match variant variants t with
        | .error f => .error f
        | .ok r =>
          match Tree.toItems (p.room - 1) rest, cut with
          | .error f, _ => .error f
          | .ok _, some f => .error f
          | .ok _, none => r { p with source := .gathered } (.list rest none)
  | t => t.misfit (.union name)

end Union
end Tether.Json
