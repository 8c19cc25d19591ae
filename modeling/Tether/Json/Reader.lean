import Tether.Json.Tree
import Tether.Json.Numeral

/-!
# `Tether.Json.Reader` — from text to tree

The reader walks the text once and never backtracks. It follows RFC 8259 to the letter: blanks are
space, tab, line feed and carriage return; a numeral has no leading zero and at least one digit
wherever digits may stand; a text holds no raw control character.

Every reading step returns the tree and the text that follows, or no text where reading stopped. The
steps recurse on a number that starts above the length of the text, so it never runs out.

* `pieces`, `joined?` — the characters and escapes of a text, and the text they spell;
* `readNumeral` — the longest numeral at the front;
* `readTree` — the tree at the front;
* `Document.ofText` — the tree of a whole text, with a mark if something follows it;
* `parse` — the value of a whole text.
-/

namespace Tether.Json

/-- Is the character a blank between tokens? -/
def isBlank (c : Char) : Bool := c = ' ' || c = '\t' || c = '\n' || c = '\r'

/-- The text without blanks at its front. -/
def skipBlanks (cs : List Char) : List Char := cs.dropWhile isBlank

/-! ## Texts -/

/-- A character of a text, or a 16-bit unit given by its number. -/
inductive Piece where
  | char (c : Char)
  | unit (n : Nat)
  deriving DecidableEq, Repr

/-- The value of a hexadecimal digit. -/
def hexValue? (c : Char) : Option Nat :=
  if '0' ≤ c ∧ c ≤ '9' then some (c.toNat - 48)
  else if 'a' ≤ c ∧ c ≤ 'f' then some (c.toNat - 87)
  else if 'A' ≤ c ∧ c ≤ 'F' then some (c.toNat - 55)
  else none

/-- The value of four hexadecimal digits. -/
def hexUnit? (a b c d : Char) : Option Nat :=
  match hexValue? a, hexValue? b, hexValue? c, hexValue? d with
  | some a, some b, some c, some d => some (((a * 16 + b) * 16 + c) * 16 + d)
  | _, _, _, _ => none

/-- The character a single-letter escape stands for. -/
def unescape? (c : Char) : Option Char :=
  if c = '"' then some '"'
  else if c = '\\' then some '\\'
  else if c = '/' then some '/'
  else if c = 'b' then some '\x08'
  else if c = 'f' then some '\x0c'
  else if c = 'n' then some '\n'
  else if c = 'r' then some '\r'
  else if c = 't' then some '\t'
  else none

/-- The bytes of a text in UTF-8. -/
def byteLength (cs : List Char) : Nat := cs.foldl (fun n c => n + c.utf8Size) 0

/-- The pieces of a text up to its closing quote, and what follows the quote, or the fault that
stops the text. An escape by number is cut off only if fewer than four bytes are left. -/
def pieces : List Char → List Piece × Except Fault (List Char)
  | [] => ([], .error .truncated)
  | '"' :: rest => ([], .ok rest)
  | '\\' :: 'u' :: a :: b :: c :: d :: rest =>
    match hexUnit? a b c d with
    | none => ([], .error .malformed)
    | some n =>
      let (ps, e) := pieces rest
      (.unit n :: ps, e)
  | '\\' :: 'u' :: rest => ([], .error (if byteLength rest < 4 then .truncated else .malformed))
  | '\\' :: c :: rest =>
    match unescape? c with
    | none => ([], .error .malformed)
    | some c =>
      let (ps, e) := pieces rest
      (.char c :: ps, e)
  | ['\\'] => ([], .error .truncated)
  | c :: rest =>
    if c.val < 0x20 then ([], .error .malformed)
    else
      let (ps, e) := pieces rest
      (.char c :: ps, e)

/-- Is the unit the first of a pair? -/
def isLead (n : Nat) : Bool := 0xD800 ≤ n && n ≤ 0xDBFF

/-- Is the unit the second of a pair? -/
def isTrail (n : Nat) : Bool := 0xDC00 ≤ n && n ≤ 0xDFFF

/-- The characters that pieces spell; `none` if a unit of a pair stands alone. -/
def joined? : List Piece → Option (List Char)
  | [] => some []
  | .char c :: rest => (joined? rest).map (c :: ·)
  | .unit n :: .unit m :: rest =>
    if isLead n then
      if isTrail m then
        (joined? rest).map (Char.ofNat (0x10000 + (n - 0xD800) * 0x400 + (m - 0xDC00)) :: ·)
      else none
    else if isTrail n then none
    else (joined? (.unit m :: rest)).map (Char.ofNat n :: ·)
  | .unit n :: rest =>
    if isLead n || isTrail n then none else (joined? rest).map (Char.ofNat n :: ·)

/-- Pieces without a first unit of a pair at the end, which might still have been completed. -/
def settled (ps : List Piece) : List Piece :=
  match ps.getLast? with
  | some (.unit n) => if isLead n then ps.dropLast else ps
  | _ => ps

/-- A text behind its opening quote: the text with what follows, or the place where it stops. -/
def readText (cs : List Char) : Except Break (Option String × List Char) :=
  let (ps, e) := pieces cs
  match e with
  | .ok rest => .ok ((joined? ps).map String.ofList, rest)
  | .error f => .error ⟨.quote, if (joined? (settled ps)).isSome then f else .malformed, f⟩

/-! ## Numbers -/

/-- The place where a numeral lacks a digit. -/
def lacksDigit : List Char → Break
  | [] => ⟨.other, .truncated, .malformed⟩
  | _ => .outOfPlace

/-- The exponent at the front, if there is one. -/
def readExponent : List Char → Except Break (Option (Bool × List Char) × List Char)
  | c :: cs =>
    if c = 'e' ∨ c = 'E' then
      let (negative, cs) := match cs with
        | '-' :: cs => (true, cs)
        | '+' :: cs => (false, cs)
        | cs => (false, cs)
      let digits := cs.takeWhile Char.isDigit
      let rest := cs.dropWhile Char.isDigit
      if digits.isEmpty then .error (lacksDigit rest) else .ok (some (negative, digits), rest)
    else .ok (none, c :: cs)
  | [] => .ok (none, [])

/-- The fraction at the front, if there is one. -/
def readFraction : List Char → Except Break (List Char × List Char)
  | '.' :: cs =>
    let digits := cs.takeWhile Char.isDigit
    let rest := cs.dropWhile Char.isDigit
    if digits.isEmpty then .error (lacksDigit rest) else .ok (digits, rest)
  | cs => .ok ([], cs)

/-- The digits before the point: a zero alone, or digits that do not start with zero. -/
def readWhole (cs : List Char) : Except Break (List Char × List Char) :=
  let digits := cs.takeWhile Char.isDigit
  let rest := cs.dropWhile Char.isDigit
  match digits with
  | [] => .error (lacksDigit rest)
  | '0' :: _ :: _ => .error .outOfPlace
  | digits => .ok (digits, rest)

/-- The longest numeral at the front. -/
def readNumeral (cs : List Char) : Except Break (Numeral × List Char) :=
  let (negative, cs) := match cs with
    | '-' :: cs => (true, cs)
    | cs => (false, cs)
  match readWhole cs with
  | .error b => .error b
  | .ok (whole, cs) =>
    match readFraction cs with
    | .error b => .error b
    | .ok (fraction, cs) =>
      match readExponent cs with
      | .error b => .error b
      | .ok (exponent, cs) => .ok (⟨negative, whole, fraction, exponent⟩, cs)

/-! ## Trees -/

/-- What one reading step leaves: a tree, and the text behind it unless reading stopped there. -/
abbrev Step (α : Type) := α × Option (List Char)

/-- The rest of a keyword, of which the first letter is read. -/
def readKeyword (opening : Opening) (value : Tree) : (word cs : List Char) → Step Tree
  | [], cs => (value, some cs)
  | _ :: _, [] => (.broken ⟨opening, .truncated, .truncated⟩, none)
  | w :: word, c :: cs =>
    if w = c then readKeyword opening value word cs
    else (.broken ⟨opening, .malformed, .malformed⟩, none)

/-- A numeral as a tree. -/
def readNumber (cs : List Char) : Step Tree :=
  match readNumeral cs with
  | .error b => (.broken b, none)
  | .ok (n, rest) => (.number n.value?, some rest)

/-- A text as a tree. -/
def readTextTree (cs : List Char) : Step Tree :=
  match readText cs with
  | .error b => (.broken b, none)
  | .ok (s, rest) => (.text s, some rest)

mutual
/-- The tree at the front of a text. -/
def readTree : Nat → List Char → Step Tree
  | 0, _ => (.broken .outOfPlace, none)
  | fuel + 1, cs =>
    match skipBlanks cs with
    | [] => (.broken .textEnd, none)
    | c :: cs =>
      if c = 'n' then readKeyword .null .null ['u', 'l', 'l'] cs
      else if c = 't' then readKeyword .other (.bool true) ['r', 'u', 'e'] cs
      else if c = 'f' then readKeyword .other (.bool false) ['a', 'l', 's', 'e'] cs
      else if c = '"' then readTextTree cs
      else if c = '[' then
        let (items, cut, rest) := readItems fuel true cs
        (.list items cut, rest)
      else if c = '\x7b' then
        let (members, stray, rest) := readMembers fuel true cs
        (.object members stray, rest)
      else if c = '-' ∨ c.isDigit then readNumber (c :: cs)
      else (.broken .outOfPlace, none)

/-- The items up to the closing bracket; `first` until one has been read. -/
def readItems : Nat → Bool → List Char → List Tree × Option Fault × Option (List Char)
  | 0, _, _ => ([], some .malformed, none)
  | fuel + 1, first, cs =>
    match skipBlanks cs with
    | [] => ([], some .truncated, none)
    | c :: cs =>
      if c = ']' then ([], none, some cs)
      else if first then readItem fuel (c :: cs)
      else if c = ',' then readItem fuel cs
      else ([], some .malformed, none)

/-- An item and those after it. -/
def readItem : Nat → List Char → List Tree × Option Fault × Option (List Char)
  | 0, _ => ([], some .malformed, none)
  | fuel + 1, cs =>
    match readTree fuel cs with
    | (t, none) => ([t], none, none)
    | (t, some rest) =>
      let (ts, cut, rest) := readItems fuel false rest
      (t :: ts, cut, rest)

/-- The members up to the closing brace; `first` until one has been read. -/
def readMembers : Nat → Bool → List Char →
    List (Option String × Tree) × Option Break × Option (List Char)
  | 0, _, _ => ([], some .outOfPlace, none)
  | fuel + 1, first, cs =>
    match skipBlanks cs with
    | [] => ([], some .textEnd, none)
    | c :: cs =>
      if c = '\x7d' then ([], none, some cs)
      else if first then readMember fuel (c :: cs)
      else if c = ',' then readMember fuel (skipBlanks cs)
      else ([], some .outOfPlace, none)

/-- A member and those after it. A key has to be a text. -/
def readMember : Nat → List Char → List (Option String × Tree) × Option Break × Option (List Char)
  | 0, _ => ([], some .outOfPlace, none)
  | fuel + 1, cs =>
    match cs with
    | [] => ([], some .afterComma, none)
    | '"' :: rest =>
      match readText rest with
      | .error b => ([], some b, none)
      | .ok (key, rest) =>
        match skipBlanks rest with
        | [] => ([(key, .broken .textEnd)], none, none)
        | ':' :: rest =>
          match readTree fuel rest with
          | (t, none) => ([(key, t)], none, none)
          | (t, some rest) =>
            let (ms, stray, rest) := readMembers fuel false rest
            ((key, t) :: ms, stray, rest)
        | _ => ([(key, .broken .outOfPlace)], none, none)
    | _ => ([], some .outOfPlace, none)
end

/-! ## Whole texts -/

/-- A whole text: the tree at its front, and whether anything but blanks follows it. -/
structure Document where
  tree : Tree
  trailing : Bool
  deriving Repr

namespace Document

/-- The document of a text. -/
def ofText (s : String) : Document :=
  let cs := s.toList
  match readTree (3 * cs.length + 3) cs with
  | (t, none) => ⟨t, false⟩
  | (t, some rest) => ⟨t, !(skipBlanks rest).isEmpty⟩

/-- What a reader of trees makes of the document; text behind the tree is a fault that comes last. -/
def read {α : Type} (d : Document) (reader : Tree → Except Fault α) : Except Fault α :=
  match reader d.tree with
  | .error f => .error f
  | .ok a => if d.trailing then .error .malformed else .ok a

end Document

/-- The value of a text. -/
def parse (s : String) : Except Fault Json := (Document.ofText s).read (Tree.toJson maxDepth)

end Tether.Json
