import Mathlib.Tactic.IntervalCases
import Tether.Bytes.Base64

/-!
# `Tether.Proofs.Bytes.Base64` — base64 text is read back

Three bytes are cut into four numbers of six bits. The bytes are put together again from those numbers
(`rebuilt`), every number has a digit of its own (`value?_digit`), and no digit is the padding, so the
reader takes the same way through a text as the writer took through the bytes.

Main statement: `decode?_encode`.
-/

namespace Tether.Bytes.Base64

/-! ## Six bits at a time -/

/-- Three bytes are put together again from the four numbers that they are cut into. -/
theorem rebuilt (a b c : UInt8) :
    (a >>> 2) <<< 2 ||| ((a &&& 3) <<< 4 ||| b >>> 4) >>> 4 = a ∧
      ((a &&& 3) <<< 4 ||| b >>> 4) <<< 4 ||| ((b &&& 15) <<< 2 ||| c >>> 6) >>> 2 = b ∧
      ((b &&& 15) <<< 2 ||| c >>> 6) <<< 6 ||| (c &&& 63) = c := by
  refine ⟨?_, ?_, ?_⟩
  all_goals
    apply UInt8.toBitVec_inj.mp
    ext i hi
    interval_cases i <;> simp

/-- The numbers are their own six low bits. -/
theorem masked (a b c : UInt8) :
    (63 : UInt8) &&& (a >>> 2) = a >>> 2 ∧
      (63 : UInt8) &&& ((a &&& 3) <<< 4 ||| b >>> 4) = (a &&& 3) <<< 4 ||| b >>> 4 ∧
      (63 : UInt8) &&& ((b &&& 15) <<< 2 ||| c >>> 6) = (b &&& 15) <<< 2 ||| c >>> 6 ∧
      (63 : UInt8) &&& (c &&& 63) = c &&& 63 := by
  refine ⟨?_, ?_, ?_, ?_⟩
  all_goals
    apply UInt8.toBitVec_inj.mp
    ext i hi
    interval_cases i <;> simp

/-- What a last digit does not need is zero. -/
theorem spare (a b : UInt8) : ((a &&& 3) <<< 4) &&& 15 = 0 ∧ ((b &&& 15) <<< 2) &&& 3 = 0 := by
  refine ⟨?_, ?_⟩
  all_goals
    apply UInt8.toBitVec_inj.mp
    ext i hi
    interval_cases i <;> simp

theorem lt_of_masked {n : UInt8} (h : 63 &&& n = n) : n < 64 := by
  rw [← h, UInt8.lt_iff_toNat_lt, UInt8.toNat_and]
  exact Nat.lt_succ_of_le Nat.and_le_left

/-! ## Digits -/

/-- Every number below 64 is read back from its digit. -/
theorem value?_digit {n : UInt8} (h : n < 64) : value? (digit n) = some n := by
  have hall : ∀ i : Fin 64, value? (digit (UInt8.ofNat i)) = some (UInt8.ofNat i) := by decide
  have hn := hall ⟨n.toNat, UInt8.lt_iff_toNat_lt.mp h⟩
  rwa [UInt8.ofNat_toNat] at hn

/-- No digit is the padding. -/
theorem digit_ne_pad {n : UInt8} (h : n < 64) : digit n ≠ '=' := by
  intro heq
  have hvalue := value?_digit h
  rw [heq, show value? '=' = none from rfl] at hvalue
  cases hvalue

/-- Four digits and more are read as three bytes and the rest. -/
theorem ofDigits?_cons (a b c : UInt8) {rest : List Char} {bs : Bytes}
    (hrest : ofDigits? rest = some bs) :
    ofDigits? (digit (a >>> 2) :: digit ((a &&& 3) <<< 4 ||| b >>> 4) ::
      digit ((b &&& 15) <<< 2 ||| c >>> 6) :: digit (c &&& 63) :: rest) =
      some (a :: b :: c :: bs) := by
  obtain ⟨hfirst, hsecond, hthird, hfourth⟩ := masked a b c
  have hpad := digit_ne_pad (lt_of_masked hfourth)
  obtain ⟨ha, hb, hc⟩ := rebuilt a b c
  rw [ofDigits?.eq_4 _ _ _ _ _ (fun _ h => absurd h hpad) (fun h => absurd h hpad),
    value?_digit (lt_of_masked hfirst), value?_digit (lt_of_masked hsecond),
    value?_digit (lt_of_masked hthird), value?_digit (lt_of_masked hfourth), hrest]
  simp only [Option.bind_eq_bind, Option.bind_some, ha, hb, hc]

/-- **Digits stand for the bytes that they were written for.** -/
theorem ofDigits?_digits (bs : Bytes) : ofDigits? (digits bs) = some bs := by
  induction bs using digits.induct with
  | case1 => rfl
  | case2 a =>
    -- one byte is like three of which the others are zero
    obtain ⟨hfirst, hsecond, _, _⟩ := masked a 0 0
    obtain ⟨ha, _, _⟩ := rebuilt a 0 0
    rw [show (0 : UInt8) >>> 4 = 0 from rfl, UInt8.or_zero] at hsecond ha
    rw [digits, ofDigits?.eq_2, value?_digit (lt_of_masked hfirst),
      value?_digit (lt_of_masked hsecond)]
    simp only [Option.bind_eq_bind, Option.bind_some]
    rw [if_pos (spare a 0).1, ha]
  | case3 a b =>
    obtain ⟨hfirst, hsecond, hthird, _⟩ := masked a b 0
    obtain ⟨ha, hb, _⟩ := rebuilt a b 0
    rw [show (0 : UInt8) >>> 6 = 0 from rfl, UInt8.or_zero] at hthird hb
    rw [digits, ofDigits?.eq_3 _ _ _ (fun h => absurd h (digit_ne_pad (lt_of_masked hthird))),
      value?_digit (lt_of_masked hfirst), value?_digit (lt_of_masked hsecond),
      value?_digit (lt_of_masked hthird)]
    simp only [Option.bind_eq_bind, Option.bind_some]
    rw [if_pos (spare 0 b).2, ha, hb]
  | case4 a b c rest ih => exact ofDigits?_cons a b c ih

/-- **Base64 text is read back.** -/
theorem decode?_encode (bs : Bytes) : decode? (encode bs) = some bs := by
  rw [decode?, encode, String.toList_ofList]
  exact ofDigits?_digits bs

end Tether.Bytes.Base64
