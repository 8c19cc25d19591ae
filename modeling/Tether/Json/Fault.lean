import Tether.Json.Printer
import Tether.Text.Quoted

/-!
# `Tether.Json.Fault` — why a JSON text or value is refused

A text can break off, be malformed, or be a sound text whose content does not fit what is wanted.
The third kind carries what was found and what was wanted; `Fault.message` is the only place where
either gets words.
-/

namespace Tether.Json

/-- What stood where something else was wanted. -/
inductive Found where
  | null
  | bool (b : Bool)
  | number (n : Number)
  | text (s : String)
  | list
  | object
  deriving DecidableEq, Repr

/-- What was wanted. -/
inductive Wanted where
  | text
  | flag
  | list
  | natural64
  | natural32
  | number
  | null
  | record (name : String)
  | recordOf (name : String) (fields : Nat)
  | union (name : String)
  | variantName
  | nameOrObject
  | singleMember
  | shorterList
  | listOf (items : Nat)
  deriving DecidableEq, Repr

/-- How a sound text or a value fails to fit. -/
inductive Misfit where
  /-- A value of the wrong kind. -/
  | kind (found : Found) (wanted : Wanted)
  /-- A value of the right kind that is out of range. -/
  | range (found : Found) (wanted : Wanted)
  /-- A list of the wrong length. -/
  | length (items : Nat) (wanted : Wanted)
  /-- A required field is absent. -/
  | missing (field : String)
  /-- A field is given twice. -/
  | repeated (field : String)
  /-- A name that is none of the known ones. -/
  | variant (name : String) (known : List String)
  /-- The number of a field is not finite. -/
  | infinite (field : String) (n : Number)
  deriving DecidableEq, Repr

/-- Why a text or value is refused. -/
inductive Fault where
  /-- The text is not JSON. -/
  | malformed
  /-- The text ends inside a value. -/
  | truncated
  /-- The content does not fit. -/
  | misfit (m : Misfit)
  deriving DecidableEq, Repr

namespace Found

/-- The finding in words. -/
def message : Found → String
  | .null => "null"
  | .bool b => "boolean `" ++ (if b then "true" else "false") ++ "`"
  | .number (.whole n) => "integer `" ++ String.ofList (integerChars n.val) ++ "`"
  | .number (.real x) => "floating point `" ++ String.ofList (x.write layout) ++ "`"
  | .text s => "string " ++ Text.quoted s
  | .list => "sequence"
  | .object => "map"

end Found

/-- A count of elements. -/
def elements (n : Nat) : String := toString n ++ (if n = 1 then " element" else " elements")

namespace Wanted

/-- The wish in words. -/
def message : Wanted → String
  | .text => "a string"
  | .flag => "a boolean"
  | .list => "a sequence"
  | .natural64 => "u64"
  | .natural32 => "u32"
  | .number => "a JSON number"
  | .null => "unit"
  | .record name => "struct " ++ name
  | .recordOf name fields => "struct " ++ name ++ " with " ++ elements fields
  | .union name => "internally tagged enum " ++ name
  | .variantName => "variant identifier"
  | .nameOrObject => "string or map"
  | .singleMember => "map with a single key"
  | .shorterList => "fewer elements in array"
  | .listOf items => elements items ++ " in sequence"

end Wanted

/-- A choice of names in words. -/
def oneOf : List String → String
  | [a] => "`" ++ a ++ "`"
  | [a, b] => "`" ++ a ++ "` or `" ++ b ++ "`"
  | names => "one of " ++ ", ".intercalate (names.map fun n => "`" ++ n ++ "`")

namespace Misfit

/-- The misfit in words. -/
def message : Misfit → String
  | .kind found wanted => "invalid type: " ++ found.message ++ ", expected " ++ wanted.message
  | .range found wanted => "invalid value: " ++ found.message ++ ", expected " ++ wanted.message
  | .length items wanted => "invalid length " ++ toString items ++ ", expected " ++ wanted.message
  | .missing field => "missing field `" ++ field ++ "`"
  | .repeated field => "duplicate field `" ++ field ++ "`"
  | .variant name known => "unknown variant `" ++ name ++ "`, expected " ++ oneOf known
  | .infinite field n => field ++ " out of range: " ++ String.ofList (numberChars n)

end Misfit

namespace Fault

/-- The fault in words. -/
def message : Fault → String
  | .malformed => "malformed text"
  | .truncated => "unexpected end of text"
  | .misfit m => m.message

end Fault
end Tether.Json
