/-!
# `Tether.Toml.Moment` — dates and times

A date, a time of day, or both with an optional offset from UTC (RFC 3339). Days fit their month, and
a minute may have a leap second. The normal form has a `T` between date and time, a fraction of at
most nine digits without zeros at its end, and `Z` or a signed offset.

* `readMoment` — the date or time at the front of a text, in normal form.
-/

namespace Tether.Toml

/-- Exactly `n` digits at the front, as a number. -/
def readDigits : (n : Nat) → (acc : Nat) → List Char → Option (Nat × List Char)
  | 0, acc, cs => some (acc, cs)
  | n + 1, acc, c :: cs =>
    if c.isDigit then readDigits n (acc * 10 + (c.toNat - 48)) cs else none
  | _ + 1, _, [] => none

/-- A number of two digits, at most `greatest`. -/
def readTwo (greatest : Nat) (cs : List Char) : Option (Nat × List Char) :=
  match readDigits 2 0 cs with
  | some (n, cs) => if n ≤ greatest then some (n, cs) else none
  | none => none

/-- Two digits of a number. -/
def two (n : Nat) : String := if n < 10 then "0" ++ toString n else toString n

/-- Four digits of a number. -/
def four (n : Nat) : String := two (n / 100) ++ two (n % 100)

/-- Days in a month. -/
def daysIn (year month : Nat) : Nat :=
  if month = 2 then
    if year % 4 = 0 ∧ (year % 100 ≠ 0 ∨ year % 400 = 0) then 29 else 28
  else if month = 4 ∨ month = 6 ∨ month = 9 ∨ month = 11 then 30
  else 31

/-- A date. -/
def readDate (cs : List Char) : Option (String × List Char) := do
  let (year, cs) ← readDigits 4 0 cs
  let '-' :: cs := cs | none
  let (month, cs) ← readTwo 12 cs
  let '-' :: cs := cs | none
  let (day, cs) ← readTwo (daysIn year month) cs
  if month = 0 ∨ day = 0 then none
  else some (four year ++ "-" ++ two month ++ "-" ++ two day, cs)

/-- The fraction of a second, cut off after nine digits, without zeros at its end. -/
def readFraction : List Char → Option (String × List Char)
  | '.' :: cs =>
    let digits := cs.takeWhile Char.isDigit
    if digits.isEmpty then none
    else
      let kept := ((digits.take 9).reverse.dropWhile (· == '0')).reverse
      some (if kept.isEmpty then "" else "." ++ String.ofList kept, cs.dropWhile Char.isDigit)
  | cs => some ("", cs)

/-- A time of day. -/
def readTime (cs : List Char) : Option (String × List Char) := do
  let (hour, cs) ← readTwo 23 cs
  let ':' :: cs := cs | none
  let (minute, cs) ← readTwo 59 cs
  let ':' :: cs := cs | none
  let (second, cs) ← readTwo 60 cs
  let (fraction, cs) ← readFraction cs
  some (two hour ++ ":" ++ two minute ++ ":" ++ two second ++ fraction, cs)

/-- An offset from UTC, empty if there is none. -/
def readOffset : List Char → Option (String × List Char)
  | 'Z' :: cs => some ("Z", cs)
  | 'z' :: cs => some ("Z", cs)
  | c :: cs =>
    if c = '+' ∨ c = '-' then do
      let (hours, cs) ← readTwo 23 cs
      let ':' :: cs := cs | none
      let (minutes, cs) ← readTwo 59 cs
      -- A negative offset of nothing is the same as a positive one.
      let sign := if c = '-' ∧ (hours ≠ 0 ∨ minutes ≠ 0) then "-" else "+"
      some (sign ++ two hours ++ ":" ++ two minutes, cs)
    else some ("", c :: cs)
  | [] => some ("", [])

/-- What may stand between date and time. -/
def isDelimiter (c : Char) : Bool := c = 'T' || c = 't' || c = ' '

/-- Does a time of day begin here? -/
def startsTime : List Char → Bool
  | a :: b :: ':' :: _ => a.isDigit && b.isDigit
  | _ => false

/-- The date or time at the front of a text; `none` if there is none, or if it is no valid one. -/
def readMoment (cs : List Char) : Option (String × List Char) :=
  if startsTime cs then readTime cs
  else do
    let (date, cs) ← readDate cs
    match cs with
    | c :: rest =>
      if isDelimiter c && startsTime rest then do
        let (time, cs) ← readTime rest
        let (offset, cs) ← readOffset cs
        some (date ++ "T" ++ time ++ offset, cs)
      else some (date, cs)
    | [] => some (date, [])

end Tether.Toml
