import Tether.Json.Value

/-!
# `Tether.Json.Printer` — the compact text of a JSON value

No blanks, members in the order in which the object lists them. Inside a text only the double quote,
the backslash and the controls below U+0020 are escaped, by a letter where there is one and by four
hexadecimal digits otherwise; everything else stands for itself. Whole numbers are written in
decimal, doubles by their shortest digits in the layout `Json.layout`.

Main definitions: `Json.chars` (the text as characters) and `Json.render`.
-/

namespace Tether

namespace Json

/-- Doubles are written positionally from `1e-5` up to below `1e16`, otherwise with an `e` and a
signed exponent. -/
def layout : Layout := ⟨-5, 15, 'e', true⟩

/-- Four hexadecimal digits of a control character. -/
def hex4 (c : Char) : List Char :=
  let cs := Nat.toDigits 16 c.toNat
  List.replicate (4 - cs.length) '0' ++ cs

/-- The spelling of one character inside a text. -/
def escape (c : Char) : List Char :=
  if c = '"' then ['\\', '"']
  else if c = '\\' then ['\\', '\\']
  else if c.val < 0x20 then
    if c = '\x08' then ['\\', 'b']
    else if c = '\x0c' then ['\\', 'f']
    else if c = '\n' then ['\\', 'n']
    else if c = '\r' then ['\\', 'r']
    else if c = '\t' then ['\\', 't']
    else '\\' :: 'u' :: hex4 c
  else [c]

/-- A text between quotes. -/
def textChars (s : String) : List Char := '"' :: (s.toList.flatMap escape ++ ['"'])

/-- The decimal numeral of an integer. -/
def integerChars (i : Int) : List Char :=
  if i < 0 then '-' :: Nat.toDigits 10 i.natAbs else Nat.toDigits 10 i.natAbs

/-- The text of a number. -/
def numberChars : Number → List Char
  | .whole n => integerChars n.val
  | .real x => x.write layout

mutual
/-- The text of a value, as characters. -/
def chars : Json → List Char
  | .null => ['n', 'u', 'l', 'l']
  | .bool true => ['t', 'r', 'u', 'e']
  | .bool false => ['f', 'a', 'l', 's', 'e']
  | .number n => numberChars n
  | .text s => textChars s
  | .list [] => ['[', ']']
  | .list (v :: rest) => '[' :: (chars v ++ itemChars rest)
  | .object [] => ['\x7b', '\x7d']
  | .object ((k, v) :: rest) => '\x7b' :: (textChars k ++ ':' :: (chars v ++ memberChars rest))

/-- The items after the first, and the closing bracket. -/
def itemChars : List Json → List Char
  | [] => [']']
  | v :: rest => ',' :: (chars v ++ itemChars rest)

/-- The members after the first, and the closing brace. -/
def memberChars : List (String × Json) → List Char
  | [] => ['\x7d']
  | (k, v) :: rest => ',' :: (textChars k ++ ':' :: (chars v ++ memberChars rest))
end

/-- The compact text of a value. -/
def render (v : Json) : String := String.ofList v.chars

end Json
end Tether
