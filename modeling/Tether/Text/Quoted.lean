import Tether.Text.Unprintable
import Tether.Text.Combining

/-!
# `Tether.Text.Quoted` — texts and characters shown between quotes

Diagnostics show a text between double quotes and a character between single quotes. The quote in
use and the backslash are escaped by a backslash, the common controls by their letter; any other
character that would not stand for itself (a control, an unprintable or a combining character) is
shown by its number, as a backslash, `u` and the hexadecimal code point in braces.
-/

namespace Tether.Text

/-- The lower-case hexadecimal digits of a number, at least one. -/
def hexDigits (n : Nat) : List Char := Nat.toDigits 16 n

/-- Would the character not show as itself? -/
def hidden (c : Char) : Bool :=
  if c.val < 0x20 then true
  else if c.val < 0x7f then false
  else c.val = 0x7f || Combining.member c.toNat || Unprintable.member c.toNat

/-- The spelling of one character between quotes of the kind `quote`. -/
def spell (quote : Char) (c : Char) : List Char :=
  if c = quote ∨ c = '\\' then ['\\', c]
  else match c with
    | '\t' => ['\\', 't']
    | '\r' => ['\\', 'r']
    | '\n' => ['\\', 'n']
    | '\x00' => ['\\', '0']
    | c => if hidden c then '\\' :: 'u' :: '\x7b' :: hexDigits c.toNat ++ ['\x7d'] else [c]

/-- The single quote. -/
def singleQuote : Char := Char.ofNat 39

/-- A text between double quotes. -/
def quoted (s : String) : String :=
  String.ofList ('"' :: s.toList.flatMap (spell '"') ++ ['"'])

/-- A character between single quotes. -/
def quotedChar (c : Char) : String :=
  String.ofList (singleQuote :: spell singleQuote c ++ [singleQuote])

end Tether.Text
