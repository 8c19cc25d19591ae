/-!
# `Tether.Text.Duration` — spans of time in words

A span of milliseconds is shown in seconds from one second on, in milliseconds below; the fraction
of a second is written without zeros at its end: `10s`, `7.001s`, `2.5s`, `250ms`, `0ns` for none.
-/

namespace Tether.Text

/-- Digits of a fraction below one thousandth steps, zeros at the end cut off. -/
def fraction (thousandths : Nat) : List Char :=
  let cs := Nat.toDigits 10 thousandths
  (List.replicate (3 - cs.length) '0' ++ cs).reverse.dropWhile (· == '0') |>.reverse

/-- A span of milliseconds in words. -/
def duration (milliseconds : Nat) : String :=
  if milliseconds = 0 then "0ns"
  else if milliseconds < 1000 then toString milliseconds ++ "ms"
  else
    let seconds := toString (milliseconds / 1000)
    match fraction (milliseconds % 1000) with
    | [] => seconds ++ "s"
    | cs => seconds ++ "." ++ String.ofList cs ++ "s"

end Tether.Text
