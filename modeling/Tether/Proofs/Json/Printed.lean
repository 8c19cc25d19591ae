import Mathlib.Tactic.IntervalCases
import Tether.Json.Printer
import Tether.Json.Reader

/-!
# `Tether.Proofs.Json.Printed` — what is printed is read back

The reader takes the printed text of a value off the front of any text, and leaves the rest. It needs to
know only that the rest continues no numeral (`Stops`), and that no number inside is a double
(`Json.Exact`): whole numbers have one spelling each, and it is read as it was written.

* `readTree_chars` — the tree of a value is at the front of its text;
* `Document.ofText_render` — the text of a value is a sound document;
* `chars_append_inj` — so a printed value ends in one place only: texts that begin with one are the same
  value followed by the same rest.
-/

namespace Tether.Json

/-! ## Numerals -/

/-- The text continues no numeral. -/
def Stops : List Char → Prop
  | [] => True
  | c :: _ => c.isDigit = false ∧ c ≠ '.' ∧ c ≠ 'e' ∧ c ≠ 'E'

theorem stops_nil : Stops [] := trivial

theorem stops_cons {c : Char} (cs : List Char) (h : c = ',' ∨ c = ']' ∨ c = '\x7d') :
    Stops (c :: cs) := by
  rcases h with rfl | rfl | rfl <;> exact ⟨by decide, by decide, by decide, by decide⟩

theorem takeWhile_isDigit_of_stops {rest : List Char} (h : Stops rest) :
    rest.takeWhile Char.isDigit = [] := by
  cases rest with
  | nil => rfl
  | cons c cs => rw [List.takeWhile_cons, if_neg (by rw [h.1]; exact Bool.false_ne_true)]

theorem dropWhile_isDigit_of_stops {rest : List Char} (h : Stops rest) :
    rest.dropWhile Char.isDigit = rest := by
  cases rest with
  | nil => rfl
  | cons c cs => rw [List.dropWhile_cons, if_neg (by rw [h.1]; exact Bool.false_ne_true)]

theorem isDigit_of_mem_toDigits {n : Nat} {c : Char} (h : c ∈ Nat.toDigits 10 n) :
    c.isDigit = true := Nat.isDigit_of_mem_toDigits (by decide) (by decide) h

/-- Digits stand for the number that they were written for. -/
theorem natural_toDigits (n : Nat) : Numeral.natural (Nat.toDigits 10 n) = n := by
  have hfold : Numeral.natural (Nat.toDigits 10 n) = Nat.ofDigitChars 10 (Nat.toDigits 10 n) 0 := by
    unfold Numeral.natural Nat.ofDigitChars
    congr 1
    funext m c
    rw [Nat.mul_comm]; rfl
  rw [hfold, Nat.ofDigitChars_ten_toDigits]

/-- Only zero is written with a zero in front. -/
theorem toDigits_ne_zero_cons {n : Nat} {c : Char} {cs : List Char} :
    Nat.toDigits 10 n ≠ '0' :: c :: cs := by
  have hhead : ∀ n, 0 < n → (Nat.toDigits 10 n).head? ≠ some '0' := by
    intro n
    induction n using Nat.strongRecOn with
    | ind n ih =>
      intro hn
      rw [Nat.toDigits_eq_if (by decide)]
      split
      · interval_cases n <;> decide
      · have hrec := ih (n / 10) (by omega) (by omega)
        cases hd : Nat.toDigits 10 (n / 10) with
        | nil => exact absurd hd Nat.toDigits_ne_nil
        | cons d ds => rw [hd] at hrec; exact hrec
  intro h
  rcases Nat.eq_zero_or_pos n with rfl | hn
  · rw [Nat.toDigits_zero] at h; cases h
  · exact hhead n hn (by rw [h]; rfl)

theorem readWhole_toDigits (n : Nat) {rest : List Char} (h : Stops rest) :
    readWhole (Nat.toDigits 10 n ++ rest) = .ok (Nat.toDigits 10 n, rest) := by
  have hall : ∀ c ∈ Nat.toDigits 10 n, c.isDigit = true := fun _ => isDigit_of_mem_toDigits
  unfold readWhole
  rw [List.takeWhile_append_of_pos hall, List.dropWhile_append_of_pos hall,
    takeWhile_isDigit_of_stops h, dropWhile_isDigit_of_stops h, List.append_nil]
  dsimp only
  split
  · exact absurd ‹_› Nat.toDigits_ne_nil
  · exact absurd ‹_› toDigits_ne_zero_cons
  · rfl

theorem readFraction_of_stops {rest : List Char} (h : Stops rest) :
    readFraction rest = .ok ([], rest) := by
  unfold readFraction
  split
  · exact absurd rfl h.2.1
  · rfl

theorem readExponent_of_stops {rest : List Char} (h : Stops rest) :
    readExponent rest = .ok (none, rest) := by
  cases rest with
  | nil => rfl
  | cons c cs => exact if_neg (not_or.mpr ⟨h.2.2.1, h.2.2.2⟩)

/-- The numeral of an integer. -/
def integerNumeral (i : Int) : Numeral := ⟨decide (i < 0), Nat.toDigits 10 i.natAbs, [], none⟩

/-- The digits of an integer are read as a numeral without fraction and exponent. -/
theorem readNumeral_integerChars (i : Int) {rest : List Char} (h : Stops rest) :
    readNumeral (integerChars i ++ rest) = .ok (integerNumeral i, rest) := by
  unfold readNumeral integerChars integerNumeral
  by_cases hi : i < 0
  · rw [if_pos hi]
    simp only [List.cons_append, readWhole_toDigits _ h, readFraction_of_stops h,
      readExponent_of_stops h, hi, decide_true]
  · rw [if_neg hi]
    -- the first digit is no sign
    have hsign : ∀ cs, Nat.toDigits 10 i.natAbs ++ rest ≠ '-' :: cs := by
      intro cs heq
      cases hd : Nat.toDigits 10 i.natAbs with
      | nil => exact absurd hd Nat.toDigits_ne_nil
      | cons d ds =>
        have hdigit : d.isDigit = true := isDigit_of_mem_toDigits (hd ▸ List.mem_cons_self)
        rw [hd, List.cons_append] at heq
        rw [(List.cons.inj heq).1] at hdigit
        exact absurd hdigit (by decide)
    split
    rename_i negative cs' hmatch
    split at hmatch
    · exact absurd ‹_› (hsign _)
    · cases hmatch
      simp only [readWhole_toDigits _ h, readFraction_of_stops h, readExponent_of_stops h, hi,
        decide_false]

/-- A whole number that is written is read as that number. -/
theorem value?_integerNumeral (n : Whole) : (integerNumeral n.val).value? = some (.whole n) := by
  obtain ⟨i, hleast, hgreatest⟩ := n
  have hwhole : (integerNumeral i).whole? = some ⟨i, hleast, hgreatest⟩ := by
    unfold Numeral.whole? integerNumeral
    simp only [List.isEmpty_nil, Option.isNone_none, and_self, if_true, natural_toDigits,
      decide_eq_true_eq]
    split
    · rw [if_neg (by omega), show -(i.natAbs : Int) = i by omega]
      exact dif_pos ⟨hleast, hgreatest⟩
    · rw [show (i.natAbs : Int) = i by omega]
      exact dif_pos ⟨hleast, hgreatest⟩
  rw [Numeral.value?, hwhole]

/-- An integer that is printed is read as that integer. -/
theorem readNumber_integerChars (n : Whole) {rest : List Char} (h : Stops rest) :
    readNumber (integerChars n.val ++ rest) = (.number (some (.whole n)), some rest) := by
  rw [readNumber, readNumeral_integerChars _ h]
  dsimp only
  rw [value?_integerNumeral]

/-! ## Texts -/

/-- What the spelling of a character is read as. -/
def spelled (c : Char) : Piece :=
  if c.val < 0x20 ∧ c ∉ ['\x08', '\x0c', '\n', '\r', '\t'] then .unit c.toNat else .char c

/-- A control character is spelled by four digits. -/
theorem hexUnit?_hex4 {c : Char} (h : c.val < 0x20) :
    ∃ x y z w, hex4 c = [x, y, z, w] ∧ hexUnit? x y z w = some c.toNat := by
  have hall : ∀ n : Fin 32, hex4 (Char.ofNat n) = ['0', '0', Nat.digitChar (n / 16),
      Nat.digitChar (n % 16)] ∧ hexUnit? '0' '0' (Nat.digitChar (n / 16)) (Nat.digitChar (n % 16)) =
        some n.val := by decide
  obtain ⟨hhex, hunit⟩ := hall ⟨c.toNat, h⟩
  rw [show Char.ofNat (⟨c.toNat, h⟩ : Fin 32) = c from Char.ofNat_toNat c] at hhex
  exact ⟨_, _, _, _, hhex, hunit⟩

/-- A character that is escaped is read as one piece. -/
theorem pieces_escape (c : Char) (cs : List Char) :
    pieces (escape c ++ cs) = (spelled c :: (pieces cs).1, (pieces cs).2) := by
  unfold escape
  split
  · subst c; rfl
  split
  · subst c; rfl
  split
  · rename_i hctrl
    split
    · subst c; rfl
    split
    · subst c; rfl
    split
    · subst c; rfl
    split
    · subst c; rfl
    split
    · subst c; rfl
    · obtain ⟨x, y, z, w, hhex, hunit⟩ := hexUnit?_hex4 hctrl
      have hsp : spelled c = .unit c.toNat := if_pos ⟨hctrl, by simp [*]⟩
      rw [hhex, hsp]
      simp only [List.cons_append, List.nil_append]
      rw [pieces, hunit]
  · rename_i hquote hslash hctrl
    have hsp : spelled c = .char c := if_neg fun h => hctrl h.1
    rw [hsp, List.singleton_append, pieces.eq_def]
    split <;> simp_all

/-- A unit that belongs to no pair is a character of its own. -/
theorem joined?_unit {n : Nat} (hlead : isLead n = false) (htrail : isTrail n = false)
    (ps : List Piece) : joined? (.unit n :: ps) = (joined? ps).map (Char.ofNat n :: ·) := by
  rw [joined?.eq_def]
  split <;> simp_all

/-- A spelling is one character, whatever follows it. -/
theorem joined?_spelled (c : Char) (ps : List Piece) :
    joined? (spelled c :: ps) = (joined? ps).map (c :: ·) := by
  unfold spelled
  split
  · rename_i h
    have hlow : c.toNat < 32 := h.1
    have hlead : isLead c.toNat = false := by
      unfold isLead; simp only [Bool.and_eq_false_iff, decide_eq_false_iff_not]; omega
    have htrail : isTrail c.toNat = false := by
      unfold isTrail; simp only [Bool.and_eq_false_iff, decide_eq_false_iff_not]; omega
    rw [joined?_unit hlead htrail, Char.ofNat_toNat]
  · rfl

/-- A text that is escaped is read up to the quote that ends it. -/
theorem pieces_flatMap_escape (cs rest : List Char) :
    pieces (cs.flatMap escape ++ '"' :: rest) = (cs.map spelled, .ok rest) := by
  induction cs with
  | nil => rfl
  | cons c cs ih =>
    rw [List.flatMap_cons, List.append_assoc, pieces_escape, ih]; rfl

/-- The pieces of a text that was escaped join to the text. -/
theorem joined?_map_spelled (cs : List Char) : joined? (cs.map spelled) = some cs := by
  induction cs with
  | nil => rfl
  | cons c cs ih => rw [List.map_cons, joined?_spelled, ih]; rfl

/-- **A text is read as it was written**, up to its closing quote. -/
theorem readText_escaped (s : String) (rest : List Char) :
    readText (s.toList.flatMap escape ++ '"' :: rest) = .ok (some s, rest) := by
  unfold readText
  rw [pieces_flatMap_escape]
  dsimp only
  rw [joined?_map_spelled, Option.map_some, String.ofList_toList]

/-! ## Values -/

theorem skipBlanks_cons {c : Char} (cs : List Char) (h : isBlank c = false) :
    skipBlanks (c :: cs) = c :: cs :=
  List.dropWhile_cons_of_neg (by rw [h]; exact Bool.false_ne_true)

/-- How the text of a value begins: neither with a blank nor with a sign between parts. -/
theorem chars_eq_cons {v : Json} (h : v.Exact) :
    ∃ c cs, v.chars = c :: cs ∧ isBlank c = false ∧ c ≠ ']' := by
  cases v with
  | null | text _ => exact ⟨_, _, rfl, by decide, by decide⟩
  | bool b => cases b <;> exact ⟨_, _, rfl, by decide, by decide⟩
  | list items => cases items <;> exact ⟨_, _, rfl, by decide, by decide⟩
  | object members => cases members <;> exact ⟨_, _, rfl, by decide, by decide⟩
  | number n =>
    cases n with
    | real x => exact h.elim
    | whole n =>
      show ∃ c cs, integerChars n.val = c :: cs ∧ _
      unfold integerChars
      split
      · exact ⟨_, _, rfl, by decide, by decide⟩
      · cases hd : Nat.toDigits 10 n.val.natAbs with
        | nil => exact absurd hd Nat.toDigits_ne_nil
        | cons d ds =>
          have hdigit : d.isDigit = true := isDigit_of_mem_toDigits (hd ▸ List.mem_cons_self)
          refine ⟨d, ds, rfl, eq_false_of_ne_true fun hb => ?_, ?_⟩
          · unfold isBlank at hb
            simp only [Bool.or_eq_true, decide_eq_true_eq] at hb
            rcases hb with ((rfl | rfl) | rfl) | rfl <;> exact absurd hdigit (by decide)
          · rintro rfl; exact absurd hdigit (by decide)

/-- A numeral is at the front of a tree's text. -/
theorem readTree_integerChars (n : Whole) (fuel : Nat) {rest : List Char} (h : Stops rest) :
    readTree (fuel + 1) (integerChars n.val ++ rest) = (.number (some (.whole n)), some rest) := by
  obtain ⟨c, cs, hcs, hblank, _⟩ := chars_eq_cons (v := .number (.whole n)) trivial
  have hcs : integerChars n.val = c :: cs := hcs
  have hhead : c = '-' ∨ c.isDigit = true := by
    unfold integerChars at hcs
    split at hcs
    · exact Or.inl (List.cons.inj hcs).1.symm
    · exact Or.inr (isDigit_of_mem_toDigits (hcs ▸ List.mem_cons_self))
  have hne : ∀ d : Char, d ≠ '-' → d.isDigit = false → c ≠ d := by
    rintro d hd hdigit rfl
    exact hhead.elim hd fun h => absurd (h.symm.trans hdigit) (by simp)
  have hnumber := readNumber_integerChars n h
  rw [hcs, List.cons_append] at hnumber ⊢
  rw [readTree, skipBlanks_cons _ hblank]
  dsimp only
  rw [if_neg (hne 'n' (by decide) (by decide)), if_neg (hne 't' (by decide) (by decide)),
    if_neg (hne 'f' (by decide) (by decide)), if_neg (hne '"' (by decide) (by decide)),
    if_neg (hne '[' (by decide) (by decide)), if_neg (hne '\x7b' (by decide) (by decide)),
    if_pos hhead, hnumber]

/-- What follows an item ends a number. -/
theorem stops_itemChars (vs : List Json) (rest : List Char) : Stops (itemChars vs ++ rest) := by
  cases vs <;> exact stops_cons _ (by simp)

/-- So does what follows a member. -/
theorem stops_memberChars (ms : List (String × Json)) (rest : List Char) :
    Stops (memberChars ms ++ rest) := by
  rcases ms with _ | ⟨⟨_, _⟩, _⟩ <;> exact stops_cons _ (by simp)

/-- An item, and those after it, are read if each is read by itself. -/
theorem readItem_of {k : Nat} {v : Json} {vs : List Json} {rest : List Char}
    (hv : readTree k (v.chars ++ (itemChars vs ++ rest)) = (v.toTree, some (itemChars vs ++ rest)))
    (hvs : readItems k false (itemChars vs ++ rest) = (toTrees vs, none, some rest)) :
    readItem (k + 1) (v.chars ++ (itemChars vs ++ rest)) = (toTrees (v :: vs), none, some rest) := by
  rw [readItem, hv]
  dsimp only
  rw [hvs, toTrees]

/-- A member, and those after it, are read if each value is read by itself. -/
theorem readMember_of {k : Nat} (key : String) {v : Json} {ms : List (String × Json)}
    {rest : List Char}
    (hv : readTree k (v.chars ++ (memberChars ms ++ rest)) =
      (v.toTree, some (memberChars ms ++ rest)))
    (hms : readMembers k false (memberChars ms ++ rest) = (toTreeMembers ms, none, some rest)) :
    readMember (k + 1) (textChars key ++ ':' :: (v.chars ++ (memberChars ms ++ rest))) =
      (toTreeMembers ((key, v) :: ms), none, some rest) := by
  rw [textChars, List.cons_append, List.append_assoc, List.singleton_append, readMember,
    readText_escaped]
  dsimp only
  rw [skipBlanks_cons _ (by decide)]
  simp only [hv, hms, toTreeMembers]

mutual

/-- **The tree of a value is at the front of its text.** Reading takes at most three steps for every
    character. -/
theorem readTree_chars (v : Json) (hv : v.Exact) (fuel : Nat) (rest : List Char)
    (hf : 3 * v.chars.length ≤ fuel) (hr : Stops rest) :
    readTree fuel (v.chars ++ rest) = (v.toTree, some rest) := by
  obtain ⟨c, cs, hcs, -, -⟩ := chars_eq_cons hv
  obtain ⟨fuel, rfl⟩ : ∃ n, fuel = n + 3 :=
    ⟨fuel - 3, by rw [hcs, List.length_cons] at hf; omega⟩
  cases v with
  | null => rfl
  | bool b => cases b <;> rfl
  | number n =>
    cases n with
    | real x => exact hv.elim
    | whole n => exact readTree_integerChars n _ hr
  | text s =>
    have htext := readText_escaped s rest
    show readTree (fuel + 3) (textChars s ++ rest) = _
    rw [textChars, List.cons_append, List.append_assoc, List.singleton_append, readTree,
      skipBlanks_cons _ (by decide)]
    simp only [Char.reduceEq, if_false, if_true, readTextTree, htext, toTree]
  | list items =>
    cases items with
    | nil => rfl
    | cons v vs =>
      obtain ⟨hv, hvs⟩ := hv
      rw [chars, List.length_cons, List.length_append] at hf
      obtain ⟨c, cs, hcs, hblank, hne⟩ := chars_eq_cons hv
      have hfirst := readTree_chars v hv fuel (itemChars vs ++ rest) (by omega)
        (stops_itemChars vs rest)
      have hrest := readItems_itemChars vs hvs fuel rest (by omega)
      have hitem := readItem_of hfirst hrest
      rw [chars, List.cons_append, List.append_assoc, readTree, skipBlanks_cons _ (by decide)]
      simp only [Char.reduceEq, if_false, if_true]
      rw [hcs, List.cons_append] at hitem ⊢
      rw [readItems, skipBlanks_cons _ hblank]
      dsimp only
      rw [if_neg hne, if_pos rfl, hitem, toTree]
  | object members =>
    rcases members with _ | ⟨⟨key, v⟩, ms⟩
    · rfl
    · obtain ⟨hv, hms⟩ := hv
      rw [chars, List.length_cons, List.length_append, List.length_cons, List.length_append] at hf
      have hfirst := readTree_chars v hv fuel (memberChars ms ++ rest) (by omega)
        (stops_memberChars ms rest)
      have hrest := readMembers_memberChars ms hms fuel rest (by omega)
      have hmember := readMember_of key hfirst hrest
      rw [chars, List.cons_append, List.append_assoc, List.cons_append, List.append_assoc, readTree,
        skipBlanks_cons _ (by decide)]
      simp only [Char.reduceEq, if_false, if_true]
      rw [textChars, List.cons_append] at hmember ⊢
      rw [readMembers, skipBlanks_cons _ (by decide)]
      simp only [Char.reduceEq, if_false, if_true]
      rw [hmember, toTree]

/-- The items after the first are read up to the closing bracket. -/
theorem readItems_itemChars (vs : List Json) (hvs : ExactItems vs) (fuel : Nat) (rest : List Char)
    (hf : 3 * (itemChars vs).length ≤ fuel) :
    readItems fuel false (itemChars vs ++ rest) = (toTrees vs, none, some rest) := by
  cases vs with
  | nil =>
    rw [itemChars, List.length_singleton] at hf
    obtain ⟨fuel, rfl⟩ : ∃ n, fuel = n + 1 := ⟨fuel - 1, by omega⟩
    rfl
  | cons v vs =>
    obtain ⟨hv, hvs⟩ := hvs
    rw [itemChars, List.length_cons, List.length_append] at hf
    obtain ⟨fuel, rfl⟩ : ∃ n, fuel = n + 2 := ⟨fuel - 2, by omega⟩
    have hfirst := readTree_chars v hv fuel (itemChars vs ++ rest) (by omega)
      (stops_itemChars vs rest)
    have hrest := readItems_itemChars vs hvs fuel rest (by omega)
    rw [itemChars, List.cons_append, List.append_assoc, readItems, skipBlanks_cons _ (by decide)]
    exact readItem_of hfirst hrest

/-- The members after the first are read up to the closing brace. -/
theorem readMembers_memberChars (ms : List (String × Json)) (hms : ExactMembers ms) (fuel : Nat)
    (rest : List Char) (hf : 3 * (memberChars ms).length ≤ fuel) :
    readMembers fuel false (memberChars ms ++ rest) = (toTreeMembers ms, none, some rest) := by
  rcases ms with _ | ⟨⟨key, v⟩, ms⟩
  · rw [memberChars, List.length_singleton] at hf
    obtain ⟨fuel, rfl⟩ : ∃ n, fuel = n + 1 := ⟨fuel - 1, by omega⟩
    rfl
  · obtain ⟨hv, hms⟩ := hms
    rw [memberChars, List.length_cons, List.length_append, List.length_cons,
      List.length_append] at hf
    obtain ⟨fuel, rfl⟩ : ∃ n, fuel = n + 2 := ⟨fuel - 2, by omega⟩
    have hfirst := readTree_chars v hv fuel (memberChars ms ++ rest) (by omega)
      (stops_memberChars ms rest)
    have hrest := readMembers_memberChars ms hms fuel rest (by omega)
    have hmember := readMember_of key hfirst hrest
    rw [memberChars, List.cons_append, List.append_assoc, List.cons_append, List.append_assoc,
      readMembers, skipBlanks_cons _ (by decide)]
    simp only [Char.reduceEq, if_false, if_true]
    -- a key begins with its quote
    have hblank : skipBlanks (textChars key ++ ':' :: (v.chars ++ (memberChars ms ++ rest))) =
        textChars key ++ ':' :: (v.chars ++ (memberChars ms ++ rest)) :=
      skipBlanks_cons _ (by decide)
    rw [hblank, if_neg Bool.false_ne_true, hmember]

end

/-- **The text of a value is a sound document**, and its tree is the tree of the value. -/
theorem Document.ofText_render {v : Json} (hv : v.Exact) :
    Document.ofText v.render = ⟨v.toTree, false⟩ := by
  have hread := readTree_chars v hv (3 * v.chars.length + 3) [] (by omega) stops_nil
  rw [List.append_nil] at hread
  unfold Document.ofText render
  simp only [String.toList_ofList, hread]
  rfl

/-! ## One text, one value -/

mutual

/-- Values with the same tree are the same. -/
theorem toTree_inj : ∀ v w : Json, v.toTree = w.toTree → v = w
  | .null, w, h => by
    cases w with
    | null => rfl
    | _ => exact nomatch h
  | .bool _, w, h => by
    cases w with
    | bool => cases h; rfl
    | _ => exact nomatch h
  | .number _, w, h => by
    cases w with
    | number => cases h; rfl
    | _ => exact nomatch h
  | .text _, w, h => by
    cases w with
    | text => cases h; rfl
    | _ => exact nomatch h
  | .list items, w, h => by
    cases w with
    | list others => rw [toTrees_inj items others (Tree.list.inj h).1]
    | _ => exact nomatch h
  | .object members, w, h => by
    cases w with
    | object others => rw [toTreeMembers_inj members others (Tree.object.inj h).1]
    | _ => exact nomatch h

/-- Items with the same trees are the same. -/
theorem toTrees_inj : ∀ vs ws : List Json, toTrees vs = toTrees ws → vs = ws
  | [], ws, h => by
    cases ws with
    | nil => rfl
    | cons => exact nomatch h
  | v :: vs, ws, h => by
    cases ws with
    | nil => exact nomatch h
    | cons w ws =>
      obtain ⟨hv, hvs⟩ := List.cons.inj h
      rw [toTree_inj v w hv, toTrees_inj vs ws hvs]

/-- Members with the same trees are the same. -/
theorem toTreeMembers_inj :
    ∀ ms ns : List (String × Json), toTreeMembers ms = toTreeMembers ns → ms = ns
  | [], ns, h => by
    cases ns with
    | nil => rfl
    | cons => exact nomatch h
  | (k, v) :: ms, ns, h => by
    rcases ns with _ | ⟨⟨k', v'⟩, ns⟩
    · exact nomatch h
    · obtain ⟨hmember, hms⟩ := List.cons.inj h
      obtain ⟨hk, hv⟩ := Prod.mk.inj hmember
      rw [Option.some.inj hk, toTree_inj v v' hv, toTreeMembers_inj ms ns hms]

end

/-- **A printed value ends in one place only.** Texts that begin with a value are the same value,
    followed by the same rest. -/
theorem chars_append_inj {v w : Json} (hv : v.Exact) (hw : w.Exact) {rest rest' : List Char}
    (hr : Stops rest) (hr' : Stops rest') (h : v.chars ++ rest = w.chars ++ rest') :
    v = w ∧ rest = rest' := by
  have hread := readTree_chars v hv (3 * v.chars.length + 3 * w.chars.length) rest (by omega) hr
  have hread' := readTree_chars w hw (3 * v.chars.length + 3 * w.chars.length) rest' (by omega) hr'
  rw [h, hread'] at hread
  obtain ⟨htree, hrest⟩ := Prod.mk.inj hread
  exact ⟨(toTree_inj w v htree).symm, (Option.some.inj hrest).symm⟩

/-- **Values without doubles that are printed alike are the same.** -/
theorem render_inj {v w : Json} (hv : v.Exact) (hw : w.Exact) (h : v.render = w.render) : v = w := by
  have hchars : v.chars ++ [] = w.chars ++ [] := by rw [String.ofList_injective h]
  exact (chars_append_inj hv hw stops_nil stops_nil hchars).1

end Tether.Json
