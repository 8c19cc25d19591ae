import Tether.Toml.Value
import Tether.Toml.Moment
import Tether.Json.Numeral

/-!
# `Tether.Toml.Reader` — from text to table

A reader of TOML 1.0. Each `read…` function takes what it names off the front of a text and returns
it with the rest, or nothing if it is not there. Lists and inline tables nest to a fixed depth.

* `parse` — the table of a document, or nothing if the text is not TOML.
-/

namespace Tether.Toml

/-- A list, an inline table or a dotted key may not be deeper than this. -/
def depthLimit : Nat := 80

/-! ## Blanks and comments -/

/-- A blank inside a line. -/
def isBlank (c : Char) : Bool := c = ' ' || c = '\t'

/-- The text without blanks at its front. -/
def skipBlanks (cs : List Char) : List Char := cs.dropWhile isBlank

/-- May the character stand in a comment or a literal text? -/
def isPlain (c : Char) : Bool := c = '\t' || (0x20 ≤ c.val && c.val ≠ 0x7f)

/-- The text behind a line end. -/
def readLineEnd : List Char → Option (List Char)
  | '\n' :: cs => some cs
  | '\r' :: '\n' :: cs => some cs
  | _ => none

/-- The text behind a comment, if one begins here. -/
def skipComment : List Char → List Char
  | '#' :: cs => cs.dropWhile isPlain
  | cs => cs

/-- The text behind the rest of a line, which may hold blanks and a comment only. -/
def readRestOfLine (cs : List Char) : Option (List Char) :=
  match skipComment (skipBlanks cs) with
  | [] => some []
  | cs => readLineEnd cs

/-- The text behind blanks, comments and line ends. -/
def skipLines : (fuel : Nat) → List Char → List Char
  | 0, cs => cs
  | fuel + 1, cs =>
    let cs := skipComment (skipBlanks cs)
    match readLineEnd cs with
    | some rest => skipLines fuel rest
    | none => cs

/-! ## Texts -/

/-- The value of a hexadecimal digit. -/
def hexValue? (c : Char) : Option Nat :=
  if '0' ≤ c ∧ c ≤ '9' then some (c.toNat - 48)
  else if 'a' ≤ c ∧ c ≤ 'f' then some (c.toNat - 87)
  else if 'A' ≤ c ∧ c ≤ 'F' then some (c.toNat - 55)
  else none

/-- The number of `n` hexadecimal digits. -/
def readHex : (n acc : Nat) → List Char → Option (Nat × List Char)
  | 0, acc, cs => some (acc, cs)
  | n + 1, acc, c :: cs =>
    match hexValue? c with
    | some d => readHex n (acc * 16 + d) cs
    | none => none
  | _ + 1, _, [] => none

/-- The character of a code point. -/
def ofCodePoint? (n : Nat) : Option Char :=
  if n < 0xD800 ∨ (0xDFFF < n ∧ n < 0x110000) then some (Char.ofNat n) else none

/-- A character given by `n` hexadecimal digits. -/
def readCodePoint (n : Nat) (cs : List Char) : Option (Char × List Char) := do
  let (code, cs) ← readHex n 0 cs
  let c ← ofCodePoint? code
  some (c, cs)

/-- The character of an escape behind its backslash. -/
def readEscape : List Char → Option (Char × List Char)
  | 'b' :: cs => some ('\x08', cs)
  | 't' :: cs => some ('\t', cs)
  | 'n' :: cs => some ('\n', cs)
  | 'f' :: cs => some ('\x0c', cs)
  | 'r' :: cs => some ('\r', cs)
  | '"' :: cs => some ('"', cs)
  | '\\' :: cs => some ('\\', cs)
  | 'u' :: cs => readCodePoint 4 cs
  | 'U' :: cs => readCodePoint 8 cs
  | _ => none

/-- The single quote. -/
def singleQuote : Char := Char.ofNat 39

/-- A text between double quotes, behind the opening one. -/
def readBasic : (fuel : Nat) → (acc : List Char) → List Char → Option (String × List Char)
  | 0, _, _ => none
  | _ + 1, _, [] => none
  | fuel + 1, acc, c :: cs =>
    if c = '"' then some (String.ofList acc.reverse, cs)
    else if c = '\\' then do
      let (c, cs) ← readEscape cs
      readBasic fuel (c :: acc) cs
    else if isPlain c then readBasic fuel (c :: acc) cs
    else none

/-- A text between single quotes, behind the opening one. -/
def readLiteral (cs : List Char) : Option (String × List Char) :=
  let body := cs.takeWhile fun c => isPlain c && c != singleQuote
  match cs.dropWhile fun c => isPlain c && c != singleQuote with
  | c :: rest => if c = singleQuote then some (String.ofList body, rest) else none
  | [] => none

/-- Does a line end follow, after blanks? A backslash there joins the lines. -/
def joinsLines (cs : List Char) : Bool := (readLineEnd (skipBlanks cs)).isSome

/-- The text without blanks and line ends at its front. -/
def skipBlankLines : (fuel : Nat) → List Char → List Char
  | 0, cs => cs
  | fuel + 1, cs =>
    let cs := skipBlanks cs
    match readLineEnd cs with
    | some rest => skipBlankLines fuel rest
    | none => cs

/-- The closing quotes of a text of several lines: three, with up to two quotes of the text before
them. Returns how many quotes belong to the text. -/
def readClosing (quote : Char) (cs : List Char) : Option (Nat × List Char) :=
  let quotes := (cs.takeWhile (· == quote)).length
  if 3 ≤ quotes then
    let inner := min (quotes - 3) 2
    some (inner, cs.drop (inner + 3))
  else none

/-- A text of several lines behind its opening quotes; `escapes` between double quotes. -/
def readLinesText (quote : Char) (escapes : Bool) :
    (fuel : Nat) → (acc : List Char) → List Char → Option (String × List Char)
  | 0, _, _ => none
  | _ + 1, _, [] => none
  | fuel + 1, acc, c :: cs =>
    if c = quote then
      match readClosing quote (c :: cs) with
      | some (inner, rest) =>
        some (String.ofList (acc.reverse ++ List.replicate inner quote), rest)
      | none => readLinesText quote escapes fuel (c :: acc) cs
    else if c = '\\' ∧ escapes then
      if joinsLines cs then readLinesText quote escapes fuel acc (skipBlankLines cs.length cs)
      else do
        let (c, cs) ← readEscape cs
        readLinesText quote escapes fuel (c :: acc) cs
    else if isPlain c then readLinesText quote escapes fuel (c :: acc) cs
    else
      match readLineEnd (c :: cs) with
      | some rest => readLinesText quote escapes fuel ('\n' :: acc) rest
      | none => none

/-- The text behind a line end directly after the opening quotes. -/
def skipFirstLineEnd (cs : List Char) : List Char := (readLineEnd cs).getD cs

/-- A text of one line. -/
def readLineText : List Char → Option (String × List Char)
  | c :: cs =>
    if c = '"' then readBasic (cs.length + 1) [] cs
    else if c = singleQuote then readLiteral cs
    else none
  | [] => none

/-- A text of one or several lines. -/
def readText : List Char → Option (String × List Char)
  | a :: b :: c :: cs =>
    if a = '"' ∧ b = '"' ∧ c = '"' then
      readLinesText '"' true (cs.length + 1) [] (skipFirstLineEnd cs)
    else if a = singleQuote ∧ b = singleQuote ∧ c = singleQuote then
      readLinesText singleQuote false (cs.length + 1) [] (skipFirstLineEnd cs)
    else readLineText (a :: b :: c :: cs)
  | cs => readLineText cs

/-! ## Keys -/

/-- May the character stand in a key without quotes? -/
def isBare (c : Char) : Bool := c.isAlphanum || c = '_' || c = '-'

/-- One key of a path. -/
def readSimpleKey (cs : List Char) : Option (String × List Char) :=
  let bare := cs.takeWhile isBare
  if bare.isEmpty then readLineText cs else some (String.ofList bare, cs.dropWhile isBare)

/-- A path of keys with dots between them. -/
def readPath : (fuel : Nat) → List Char → Option (List String × List Char)
  | 0, _ => none
  | fuel + 1, cs => do
    let (key, cs) ← readSimpleKey (skipBlanks cs)
    match skipBlanks cs with
    | '.' :: rest => do
      let (path, cs) ← readPath fuel rest
      some (key :: path, cs)
    | cs => some ([key], cs)

/-- A path that is not too deep. -/
def readKey (cs : List Char) : Option (List String × List Char) := do
  let (path, cs) ← readPath (cs.length + 1) cs
  if path.length < depthLimit then some (path, cs) else none

/-! ## Numbers -/

/-- Digits with single underscores between them. -/
def readSpaced (isDigit : Char → Bool) : (fuel : Nat) → List Char → Option (List Char × List Char)
  | 0, _ => none
  | fuel + 1, cs =>
    match cs with
    | c :: rest =>
      if isDigit c then
        match rest with
        | '_' :: more => (readSpaced isDigit fuel more).map fun (ds, cs) => (c :: ds, cs)
        | d :: _ =>
          if isDigit d then (readSpaced isDigit fuel rest).map fun (ds, cs) => (c :: ds, cs)
          else some ([c], rest)
        | [] => some ([c], [])
      else none
    | [] => none

/-- Decimal digits with underscores. -/
def readDecimal (cs : List Char) : Option (List Char × List Char) :=
  readSpaced Char.isDigit (cs.length + 1) cs

/-- The digits before a point: a zero alone, or digits that do not start with zero. -/
def readWhole : List Char → Option (List Char × List Char)
  | '0' :: cs => some (['0'], cs)
  | cs => readDecimal cs

/-- A sign, if there is one; is it negative? -/
def readSign : List Char → Bool × List Char
  | '-' :: cs => (true, cs)
  | '+' :: cs => (false, cs)
  | cs => (false, cs)

/-- The integer, if it fits 64 bits with a sign. -/
def integer? (i : Int) : Option Value :=
  if -0x8000000000000000 ≤ i ∧ i < 0x8000000000000000 then some (.integer i) else none

/-- A numeral in a base that is a power of two, behind its mark. -/
def readBased (base : Nat) (cs : List Char) : Option (Value × List Char) := do
  let isDigit c := (hexValue? c).any (· < base)
  let (ds, cs) ← readSpaced isDigit (cs.length + 1) cs
  let v ← integer? (ds.foldl (fun n c => n * base + (hexValue? c).getD 0) 0 : Nat)
  some (v, cs)

/-- An exponent, behind its letter. -/
def readExponent (cs : List Char) : Option (Int × List Char) := do
  let (negative, cs) := readSign cs
  let (ds, cs) ← readDecimal cs
  let e : Int := Json.Numeral.natural ds
  some (if negative then -e else e, cs)

/-- The double of a decimal numeral. Too large a positive one is refused. -/
def real? (negative : Bool) (whole fraction : List Char) (exponent : Int) : Option Value :=
  let digits := Json.Numeral.natural (whole ++ fraction)
  match Binary64.nearest10 negative digits (exponent - fraction.length) with
  | some x => some (.real (some x))
  | none => if negative then some (.real none) else none

/-- Is the letter that of an exponent? -/
def isExponentMark (c : Char) : Bool := c = 'e' || c = 'E'

/-- What follows the digits before a point: a fraction, an exponent, both or neither. -/
def readAfterWhole (negative : Bool) (whole : List Char) : List Char → Option (Value × List Char)
  | '.' :: cs => do
    let (fraction, cs) ← readDecimal cs
    match cs with
    | c :: rest =>
      if isExponentMark c then do
        let (e, cs) ← readExponent rest
        let v ← real? negative whole fraction e
        some (v, cs)
      else do
        let v ← real? negative whole fraction 0
        some (v, c :: rest)
    | [] => do
      let v ← real? negative whole fraction 0
      some (v, [])
  | c :: cs =>
    if isExponentMark c then do
      let (e, cs) ← readExponent cs
      let v ← real? negative whole [] e
      some (v, cs)
    else do
      let n : Int := Json.Numeral.natural whole
      let v ← integer? (if negative then -n else n)
      some (v, c :: cs)
  | [] => do
    let n : Int := Json.Numeral.natural whole
    let v ← integer? (if negative then -n else n)
    some (v, [])

/-- A number with an optional sign. -/
def readSigned (cs : List Char) : Option (Value × List Char) := do
  let (negative, cs) := readSign cs
  match cs with
  | 'i' :: 'n' :: 'f' :: cs => some (.real none, cs)
  | 'n' :: 'a' :: 'n' :: cs => some (.real none, cs)
  | cs =>
    let (whole, cs) ← readWhole cs
    readAfterWhole negative whole cs

/-- Does a date or time begin here? -/
def startsMoment : List Char → Bool
  | a :: b :: ':' :: _ => a.isDigit && b.isDigit
  | a :: b :: c :: d :: '-' :: _ => a.isDigit && b.isDigit && c.isDigit && d.isDigit
  | _ => false

/-- A date, a time or a number. -/
def readNumber (cs : List Char) : Option (Value × List Char) :=
  if startsMoment cs then (readMoment cs).map fun (s, cs) => (.moment s, cs)
  else
    match cs with
    | '0' :: 'x' :: cs => readBased 16 cs
    | '0' :: 'o' :: cs => readBased 8 cs
    | '0' :: 'b' :: cs => readBased 2 cs
    | cs => readSigned cs

/-! ## Values -/

mutual
/-- The value at the front; `depth` lists and inline tables may still open. -/
def readValue : (fuel depth : Nat) → List Char → Option (Value × List Char)
  | 0, _, _ => none
  | fuel + 1, depth, cs =>
    match cs with
    | [] => none
    | c :: rest =>
      if c = '"' ∨ c = singleQuote then (readText cs).map fun (s, cs) => (.text s, cs)
      else if c = '[' then
        match depth with
        | 0 => none
        | depth + 1 => (readItems fuel depth rest).map fun (vs, cs) => (.list vs, cs)
      else if c = '\x7b' then
        match depth with
        | 0 => none
        | depth + 1 => do
          let (entries, cs) ← readEntries fuel depth true rest
          let members ← inlineTable entries
          some (.inline members, cs)
      else if c = 't' then
        match rest with
        | 'r' :: 'u' :: 'e' :: cs => some (.bool true, cs)
        | _ => none
      else if c = 'f' then
        match rest with
        | 'a' :: 'l' :: 's' :: 'e' :: cs => some (.bool false, cs)
        | _ => none
      else readNumber cs

/-- The items of a list up to its closing bracket. A comma may follow the last one. -/
def readItems : (fuel depth : Nat) → List Char → Option (List Value × List Char)
  | 0, _, _ => none
  | fuel + 1, depth, cs =>
    match skipLines (cs.length + 1) cs with
    | ']' :: rest => some ([], rest)
    | cs => do
      let (v, cs) ← readValue fuel depth cs
      match skipLines (cs.length + 1) cs with
      | ']' :: rest => some ([v], rest)
      | ',' :: rest => do
        let (vs, cs) ← readItems fuel depth rest
        some (v :: vs, cs)
      | _ => none

/-- The entries of an inline table up to its closing brace; `first` until one has been read. -/
def readEntries : (fuel depth : Nat) → (first : Bool) → List Char →
    Option (List (List String × Value) × List Char)
  | 0, _, _, _ => none
  | fuel + 1, depth, first, cs =>
    let cs := skipBlanks cs
    match cs, first with
    | '\x7d' :: rest, true => some ([], rest)
    | cs, _ => do
      let (path, cs) ← readKey cs
      let '=' :: cs := cs | none
      let (v, cs) ← readValue fuel depth (skipBlanks cs)
      match skipBlanks cs with
      | '\x7d' :: rest => some ([(path, v)], rest)
      | ',' :: rest => do
        let (entries, cs) ← readEntries fuel depth false rest
        some ((path, v) :: entries, cs)
      | _ => none
end

/-! ## Documents -/

/-- The statement at the front, which does not begin with a blank. -/
def readStatement (cs : List Char) : Option (Statement × List Char) :=
  match cs with
  | '[' :: '[' :: cs => do
    let (path, cs) ← readKey cs
    let ']' :: ']' :: cs := cs | none
    some (.element path, cs)
  | '[' :: cs => do
    let (path, cs) ← readKey cs
    let ']' :: cs := cs | none
    some (.header path, cs)
  | cs => do
    let (path, cs) ← readKey cs
    let '=' :: cs := cs | none
    let cs := skipBlanks cs
    let (v, cs) ← readValue (2 * cs.length + 2) (depthLimit - 1) cs
    some (.entry path v, cs)

/-- The statements of a document. -/
def readStatements : (fuel : Nat) → List Char → Option (List Statement)
  | 0, _ => none
  | fuel + 1, cs =>
    match skipLines (cs.length + 1) cs with
    | [] => some []
    | cs => do
      let (s, cs) ← readStatement cs
      let cs ← readRestOfLine cs
      let rest ← readStatements fuel cs
      some (s :: rest)

/-- The text without a byte order mark at its front. -/
def skipMark : List Char → List Char
  | '\ufeff' :: cs => cs
  | cs => cs

/-- The table of a document. -/
def parse (s : String) : Option Members := do
  let cs := skipMark s.toList
  let statements ← readStatements (cs.length + 1) cs
  build statements

end Tether.Toml
