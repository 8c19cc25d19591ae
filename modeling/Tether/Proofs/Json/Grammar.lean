import Tether.Proofs.Json.Ordered

/-!
# `Tether.Proofs.Json.Grammar` — the texts that spell a value

The grammar of RFC 8259, apart from the reader. Each part of it relates a text to what stands at its
front and to the text that is left behind. A value has many spellings: blanks may stand between tokens,
every character of a text may be escaped in one way or another, and a number may be given by any numeral
that stands for it.

Tokens come first: what the reader takes for a numeral or a text is what is spelled, and the other way
round. A numeral ends only where the text does not go on with it (`Stops`).

* `Spells` — a text spells a value, with its members in the order of the text;
* `Grammar.readNumeral_number`, `Grammar.number_of_readNumeral` — numerals, in both directions;
* `Grammar.readText_eq_iff` — texts.
-/

namespace Tether.Json

/-! ## The grammar -/

namespace Grammar

/-- Between `cs` and `rest` there is nothing but blanks. -/
def Gap (cs rest : List Char) : Prop :=
  ∃ blanks : List Char, (∀ c ∈ blanks, isBlank c = true) ∧ cs = blanks ++ rest

/-- One digit or more. -/
def Digits (ds : List Char) : Prop := ds ≠ [] ∧ ∀ c ∈ ds, c.isDigit = true

/-- The digits before the point: none but a zero alone starts with zero. -/
def Whole (ds : List Char) : Prop := Digits ds ∧ ∀ ds', ds = '0' :: ds' → ds' = []

/-- The digits behind the point, if there is one. -/
inductive Fraction : List Char → List Char → List Char → Prop
  | none (cs : List Char) : Fraction cs [] cs
  | some {ds : List Char} (rest : List Char) (hds : Digits ds) : Fraction ('.' :: (ds ++ rest)) ds rest

/-- The sign of an exponent; no sign counts as plus. -/
inductive Sign : List Char → Bool → List Char → Prop
  | none (cs : List Char) : Sign cs false cs
  | plus (cs : List Char) : Sign ('+' :: cs) false cs
  | minus (cs : List Char) : Sign ('-' :: cs) true cs

/-- The exponent, if there is one. -/
inductive Exponent : List Char → Option (Bool × List Char) → List Char → Prop
  | none (cs : List Char) : Exponent cs none cs
  | some {e : Char} {cs ds : List Char} {negative : Bool} (rest : List Char) (he : e = 'e' ∨ e = 'E')
      (hsign : Sign cs negative (ds ++ rest)) (hds : Digits ds) :
      Exponent (e :: cs) (some (negative, ds)) rest

/-- A numeral. -/
inductive Number : List Char → Numeral → List Char → Prop
  | mk {whole fraction cs cs' rest : List Char} {exponent : Option (Bool × List Char)}
      (negative : Bool) (hwhole : Whole whole) (hfraction : Fraction cs fraction cs')
      (hexponent : Exponent cs' exponent rest) :
      Number ((if negative then ['-'] else []) ++ (whole ++ cs))
        ⟨negative, whole, fraction, exponent⟩ rest

/-- The characters of a text, up to and including the quote that closes it. -/
inductive Text : List Char → List Char → List Char → Prop
  | close (rest : List Char) : Text ('"' :: rest) [] rest
  | plain {c : Char} {cs s rest : List Char} (hctrl : ¬ c.val < 0x20) (hquote : c ≠ '"')
      (hslash : c ≠ '\\') (h : Text cs s rest) : Text (c :: cs) (c :: s) rest
  /-- An escape of one letter. -/
  | letter {e c : Char} {cs s rest : List Char} (he : unescape? e = some c) (h : Text cs s rest) :
      Text ('\\' :: e :: cs) (c :: s) rest
  /-- An escape by number. -/
  | unit {x y z w : Char} {n : Nat} {cs s rest : List Char} (hn : hexUnit? x y z w = some n)
      (hlead : isLead n = false) (htrail : isTrail n = false) (h : Text cs s rest) :
      Text ('\\' :: 'u' :: x :: y :: z :: w :: cs) (Char.ofNat n :: s) rest
  /-- A pair of escapes by number, for a character that needs two units. -/
  | pair {x y z w x' y' z' w' : Char} {n m : Nat} {cs s rest : List Char}
      (hn : hexUnit? x y z w = some n) (hlead : isLead n = true)
      (hm : hexUnit? x' y' z' w' = some m) (htrail : isTrail m = true) (h : Text cs s rest) :
      Text ('\\' :: 'u' :: x :: y :: z :: w :: '\\' :: 'u' :: x' :: y' :: z' :: w' :: cs)
        (Char.ofNat (0x10000 + (n - 0xD800) * 0x400 + (m - 0xDC00)) :: s) rest

mutual

/-- A value. -/
inductive Value : List Char → Json → List Char → Prop
  | null (rest : List Char) : Value ('n' :: 'u' :: 'l' :: 'l' :: rest) .null rest
  | bool (b : Bool) (rest : List Char) :
      Value ((if b then ['t', 'r', 'u', 'e'] else ['f', 'a', 'l', 's', 'e']) ++ rest) (.bool b) rest
  | number {cs rest : List Char} {n : Numeral} {x : Tether.Number} (h : Number cs n rest)
      (hx : n.value? = some x) : Value cs (.number x) rest
  | text {cs rest : List Char} {s : String} (h : Text cs s.toList rest) :
      Value ('"' :: cs) (.text s) rest
  | emptyList {cs rest : List Char} (h : Gap cs (']' :: rest)) : Value ('[' :: cs) (.list []) rest
  | list {cs rest : List Char} {vs : List Json} (h : Items cs vs rest) :
      Value ('[' :: cs) (.list vs) rest
  | emptyObject {cs rest : List Char} (h : Gap cs ('\x7d' :: rest)) :
      Value ('\x7b' :: cs) (.object []) rest
  | object {cs rest : List Char} {ms : List (String × Json)} (h : Members cs ms rest) :
      Value ('\x7b' :: cs) (.object ms) rest

/-- Items, up to and including the closing bracket. -/
inductive Items : List Char → List Json → List Char → Prop
  | last {cs cs₁ cs₂ rest : List Char} {v : Json} (hgap : Gap cs cs₁) (hv : Value cs₁ v cs₂)
      (hclose : Gap cs₂ (']' :: rest)) : Items cs [v] rest
  | next {cs cs₁ cs₂ cs₃ rest : List Char} {v : Json} {vs : List Json} (hgap : Gap cs cs₁)
      (hv : Value cs₁ v cs₂) (hcomma : Gap cs₂ (',' :: cs₃)) (hvs : Items cs₃ vs rest) :
      Items cs (v :: vs) rest

/-- Members, up to and including the closing brace. -/
inductive Members : List Char → List (String × Json) → List Char → Prop
  | last {cs cs₁ rest : List Char} {key : String} {v : Json} (hmember : Member cs key v cs₁)
      (hclose : Gap cs₁ ('\x7d' :: rest)) : Members cs [(key, v)] rest
  | next {cs cs₁ cs₂ rest : List Char} {key : String} {v : Json} {ms : List (String × Json)}
      (hmember : Member cs key v cs₁) (hcomma : Gap cs₁ (',' :: cs₂)) (hms : Members cs₂ ms rest) :
      Members cs ((key, v) :: ms) rest

/-- A member. -/
inductive Member : List Char → String → Json → List Char → Prop
  | mk {cs cs₁ cs₂ cs₃ cs₄ rest : List Char} {key : String} {v : Json} (hgap : Gap cs ('"' :: cs₁))
      (hkey : Text cs₁ key.toList cs₂) (hcolon : Gap cs₂ (':' :: cs₃)) (hvalue : Gap cs₃ cs₄)
      (hv : Value cs₄ v rest) : Member cs key v rest

end

end Grammar

/-- The text spells the value, with the members of objects in the order of the text. -/
def Spells (s : String) (v : Json) : Prop :=
  ∃ cs rest, Grammar.Gap s.toList cs ∧ Grammar.Value cs v rest ∧ Grammar.Gap rest []

/-! ## Blanks -/

namespace Grammar

/-- No blank at all is a gap. -/
theorem Gap.refl (cs : List Char) : Gap cs cs := ⟨[], by simp, rfl⟩

/-- What is skipped before a token is a gap. -/
theorem gap_skipBlanks (cs : List Char) : Gap cs (skipBlanks cs) :=
  ⟨cs.takeWhile isBlank, List.all_eq_true.mp List.all_takeWhile, List.takeWhile_append_dropWhile.symm⟩

/-- Skipping the blanks leaves what stands behind them. -/
theorem Gap.skipBlanks_eq {cs rest : List Char} (h : Gap cs rest) (hrest : skipBlanks rest = rest) :
    skipBlanks cs = rest := by
  obtain ⟨blanks, hblanks, rfl⟩ := h
  rw [skipBlanks, List.dropWhile_append_of_pos hblanks]
  exact hrest

theorem Gap.length_le {cs rest : List Char} (h : Gap cs rest) : rest.length ≤ cs.length := by
  obtain ⟨blanks, -, rfl⟩ := h
  rw [List.length_append]
  omega

/-- A blank continues no numeral. -/
theorem Gap.stops {cs rest : List Char} (h : Gap cs rest) (hrest : Stops rest) : Stops cs := by
  obtain ⟨blanks, hblanks, rfl⟩ := h
  cases blanks with
  | nil => exact hrest
  | cons c blanks =>
    have hc : isBlank c = true := hblanks c List.mem_cons_self
    unfold isBlank at hc
    simp only [Bool.or_eq_true, decide_eq_true_eq] at hc
    rcases hc with ((rfl | rfl) | rfl) | rfl <;> exact ⟨by decide, by decide, by decide, by decide⟩

/-! ## Numerals -/

/-- The text does not go on with a digit. -/
def Undigited (cs : List Char) : Prop := ∀ c ∈ cs.head?, c.isDigit = false

/-- What ends a number does not begin with a digit. -/
theorem undigited_of_stops {rest : List Char} (h : Stops rest) : Undigited rest := by
  cases rest with
  | nil => exact fun _ hc => nomatch hc
  | cons d rest =>
    intro c hc
    obtain rfl : d = c := Option.some.inj hc
    exact h.1

theorem Exponent.undigited {cs rest : List Char} {exponent : Option (Bool × List Char)}
    (h : Exponent cs exponent rest) (hrest : Stops rest) : Undigited cs := by
  cases h with
  | none => exact undigited_of_stops hrest
  | some _ he _ _ =>
    intro c hc
    obtain rfl := Option.some.inj hc
    rcases he with rfl | rfl <;> decide

theorem Fraction.undigited {cs cs' fraction rest : List Char} {exponent : Option (Bool × List Char)}
    (h : Fraction cs fraction cs') (hexponent : Exponent cs' exponent rest) (hrest : Stops rest) :
    Undigited cs := by
  cases h with
  | none => exact hexponent.undigited hrest
  | some _ _ =>
    intro c hc
    obtain rfl := Option.some.inj hc
    decide

/-- Digits begin with a digit. -/
theorem Digits.head {ds rest cs : List Char} {c : Char} (h : Digits ds) (heq : ds ++ rest = c :: cs) :
    c.isDigit = true := by
  cases ds with
  | nil => exact absurd rfl h.1
  | cons d ds => exact (List.cons.inj heq).1 ▸ h.2 d List.mem_cons_self

/-- Digits end where the text does not go on with one. -/
theorem Digits.span {ds rest : List Char} (hds : Digits ds) (hrest : Undigited rest) :
    (ds ++ rest).takeWhile Char.isDigit = ds ∧ (ds ++ rest).dropWhile Char.isDigit = rest := by
  have hnone : rest.takeWhile Char.isDigit = [] ∧ rest.dropWhile Char.isDigit = rest := by
    cases rest with
    | nil => exact ⟨rfl, rfl⟩
    | cons c cs =>
      have hc : c.isDigit = false := hrest c rfl
      simp [hc]
  rw [List.takeWhile_append_of_pos hds.2, List.dropWhile_append_of_pos hds.2, hnone.1, hnone.2,
    List.append_nil]
  exact ⟨rfl, rfl⟩

/-- What is taken off the front as digits is digits, if there are any. -/
theorem digits_takeWhile {cs : List Char} (h : cs.takeWhile Char.isDigit ≠ []) :
    Digits (cs.takeWhile Char.isDigit) :=
  ⟨h, List.all_eq_true.mp List.all_takeWhile⟩

theorem isEmpty_of_digits {ds : List Char} (h : Digits ds) : ds.isEmpty = false :=
  List.isEmpty_eq_false_iff.mpr h.1

/-- Digits of a whole part are read as they are spelled, -/
theorem readWhole_whole {ds rest : List Char} (h : Whole ds) (hrest : Undigited rest) :
    readWhole (ds ++ rest) = .ok (ds, rest) := by
  obtain ⟨hds, hzero⟩ := h
  obtain ⟨htake, hdrop⟩ := hds.span hrest
  unfold readWhole
  rw [htake, hdrop]
  dsimp only
  split
  · exact absurd rfl hds.1
  · exact nomatch hzero _ rfl
  · rfl

/-- and so are those of a fraction -/
theorem readFraction_fraction {cs ds rest : List Char} (h : Fraction cs ds rest)
    (hrest : Undigited rest) (hpoint : ∀ cs', rest ≠ '.' :: cs') :
    readFraction cs = .ok (ds, rest) := by
  cases h with
  | none =>
    unfold readFraction
    split
    · exact absurd rfl (hpoint _)
    · rfl
  | some rest hds =>
    obtain ⟨htake, hdrop⟩ := hds.span hrest
    rw [readFraction, htake, hdrop, isEmpty_of_digits hds]
    rfl

/-- and those of an exponent. -/
theorem readExponent_exponent {cs rest : List Char} {exponent : Option (Bool × List Char)}
    (h : Exponent cs exponent rest) (hrest : Stops rest) :
    readExponent cs = .ok (exponent, rest) := by
  cases h with
  | none => exact readExponent_of_stops hrest
  | @some e cs ds negative _ he hsign hds =>
    obtain ⟨htake, hdrop⟩ := hds.span (undigited_of_stops hrest)
    have hempty := isEmpty_of_digits hds
    unfold readExponent
    dsimp only
    rw [if_pos he]
    cases hsign with
    | plus | minus => simp only [htake, hdrop, hempty, Bool.false_eq_true, if_false]
    | none =>
      split
      · exact absurd (hds.head ‹_›) (by decide)
      · exact absurd (hds.head ‹_›) (by decide)
      · simp only [htake, hdrop, hempty, Bool.false_eq_true, if_false]

/-- **A numeral is read as it is spelled**, if the text behind it does not go on with it. -/
theorem readNumeral_number {cs rest : List Char} {n : Numeral} (h : Number cs n rest)
    (hrest : Stops rest) : readNumeral cs = .ok (n, rest) := by
  obtain ⟨negative, hwhole, hfraction, hexponent⟩ := h
  rename_i whole fraction cs cs' exponent
  have hpoint : ∀ cs'', cs' ≠ '.' :: cs'' := by
    intro cs'' heq
    subst heq
    cases hexponent with
    | none => exact hrest.2.1 rfl
    | some _ he _ _ => rcases he with he | he <;> exact absurd he (by decide)
  have hread := readWhole_whole hwhole (hfraction.undigited hexponent hrest)
  have hfractionRead := readFraction_fraction hfraction (hexponent.undigited hrest) hpoint
  have hexponentRead := readExponent_exponent hexponent hrest
  unfold readNumeral
  cases negative with
  | true => simp only [if_true, List.singleton_append, hread, hfractionRead, hexponentRead]
  | false =>
    rw [if_neg Bool.false_ne_true, List.nil_append]
    split
    rename_i hmatch
    split at hmatch
    · exact absurd (hwhole.1.head ‹_›) (by decide)
    · cases hmatch
      simp only [hread, hfractionRead, hexponentRead]

/-- What is read as a whole part spells one, -/
theorem whole_of_readWhole {cs ds rest : List Char} (h : readWhole cs = .ok (ds, rest)) :
    Whole ds ∧ cs = ds ++ rest := by
  unfold readWhole at h
  dsimp only at h
  split at h
  · cases h
  · cases h
  · rename_i hne hzero
    cases h
    refine ⟨⟨digits_takeWhile hne, fun ds' heq => ?_⟩, List.takeWhile_append_dropWhile.symm⟩
    cases ds' with
    | nil => rfl
    | cons d ds' => exact absurd heq (hzero d ds')

/-- what is read as a fraction spells one, -/
theorem fraction_of_readFraction {cs ds rest : List Char} (h : readFraction cs = .ok (ds, rest)) :
    Fraction cs ds rest := by
  unfold readFraction at h
  split at h
  · rename_i cs
    dsimp only at h
    split at h
    · cases h
    · rename_i hempty
      cases h
      have hfraction := Fraction.some (cs.dropWhile Char.isDigit)
        (digits_takeWhile (List.isEmpty_iff.not.mp hempty))
      rwa [List.takeWhile_append_dropWhile] at hfraction
  · cases h
    exact .none cs

/-- and what is read as an exponent spells one. -/
theorem exponent_of_readExponent {cs rest : List Char} {exponent : Option (Bool × List Char)}
    (h : readExponent cs = .ok (exponent, rest)) : Exponent cs exponent rest := by
  unfold readExponent at h
  split at h
  · rename_i c cs
    split at h
    · rename_i he
      split at h
      rename_i negative digits hmatch
      dsimp only at h
      split at h
      · cases h
      · rename_i hempty
        cases h
        have hsign : Sign cs negative digits := by
          split at hmatch <;> cases hmatch
          · exact .minus _
          · exact .plus _
          · exact .none _
        refine .some _ he ?_ (digits_takeWhile (List.isEmpty_iff.not.mp hempty))
        rwa [List.takeWhile_append_dropWhile]
    · cases h
      exact .none _
  · cases h
    exact .none _

/-- What is read as a numeral is spelled as one. -/
theorem number_of_readNumeral {cs rest : List Char} {n : Numeral}
    (h : readNumeral cs = .ok (n, rest)) : Number cs n rest := by
  unfold readNumeral at h
  split at h
  rename_i negative digits hmatch
  have hsign : cs = (if negative then ['-'] else []) ++ digits := by
    split at hmatch <;> (cases hmatch; rfl)
  split at h
  · cases h
  rename_i hwhole
  split at h
  · cases h
  rename_i hfraction
  split at h
  · cases h
  rename_i hexponent
  cases h
  obtain ⟨hdigits, rfl⟩ := whole_of_readWhole hwhole
  rw [hsign]
  exact .mk negative hdigits (fraction_of_readFraction hfraction) (exponent_of_readExponent hexponent)

/-! ## Texts -/

/-- Characters that need no escape spell themselves. -/
theorem text_of_plain {s : List Char} (h : s.all fun c => ¬ c.val < 0x20 ∧ c ≠ '"' ∧ c ≠ '\\')
    (rest : List Char) : Text (s ++ '"' :: rest) s rest := by
  induction s with
  | nil => exact .close rest
  | cons c s ih =>
    rw [List.all_cons, Bool.and_eq_true, decide_eq_true_eq] at h
    obtain ⟨⟨hctrl, hquote, hslash⟩, hs⟩ := h
    exact .plain hctrl hquote hslash (ih hs)

/-- A text is read piece by piece, and its pieces join. -/
theorem pieces_text {cs s rest : List Char} (h : Text cs s rest) :
    ∃ ps, pieces cs = (ps, .ok rest) ∧ joined? ps = some s := by
  induction h with
  | close rest => exact ⟨[], rfl, rfl⟩
  | @plain c cs s rest hctrl hquote hslash _ ih =>
    obtain ⟨ps, hps, hjoined⟩ := ih
    refine ⟨.char c :: ps, ?_, by rw [joined?, hjoined]; rfl⟩
    rw [pieces.eq_def]
    split <;> simp_all
  | @letter e c cs s rest he _ ih =>
    obtain ⟨ps, hps, hjoined⟩ := ih
    refine ⟨.char c :: ps, ?_, by rw [joined?, hjoined]; rfl⟩
    -- no escape of one letter is an escape by number
    have hu : e ≠ 'u' := by
      rintro rfl
      exact nomatch (show unescape? 'u' = none from rfl).symm.trans he
    rw [pieces, he]
    · dsimp only
      rw [hps]
    · exact fun _ _ _ _ _ heq _ => hu heq
    · exact hu
  | @unit x y z w n cs s rest hn hlead htrail _ ih =>
    obtain ⟨ps, hps, hjoined⟩ := ih
    refine ⟨.unit n :: ps, by rw [pieces, hn]; dsimp only; rw [hps], ?_⟩
    rw [joined?_unit hlead htrail, hjoined]
    rfl
  | @pair x y z w x' y' z' w' n m cs s rest hn hlead hm htrail _ ih =>
    obtain ⟨ps, hps, hjoined⟩ := ih
    refine ⟨.unit n :: .unit m :: ps, ?_, ?_⟩
    · rw [pieces, hn]
      dsimp only
      rw [pieces, hm]
      dsimp only
      rw [hps]
    · rw [joined?, if_pos hlead, if_pos htrail, hjoined]
      rfl

theorem eq_of_pieces_nil {cs rest : List Char} (h : pieces cs = ([], .ok rest)) : cs = '"' :: rest := by
  unfold pieces at h
  split at h
  · cases h
  · cases h; rfl
  · split at h <;> cases h
  · cases h
  · split at h <;> cases h
  · cases h
  · split at h <;> cases h

/-- Where the first piece comes from. -/
theorem pieces_cons {cs : List Char} {p : Piece} {ps : List Piece} {e : Except Fault (List Char)}
    (h : pieces cs = (p :: ps, e)) : ∃ cs', pieces cs' = (ps, e) ∧ match p with
      | .char c => (cs = c :: cs' ∧ ¬ c.val < 0x20 ∧ c ≠ '"' ∧ c ≠ '\\') ∨
          ∃ l, cs = '\\' :: l :: cs' ∧ unescape? l = some c
      | .unit n =>
        ∃ x y z w, cs = '\\' :: 'u' :: x :: y :: z :: w :: cs' ∧ hexUnit? x y z w = some n := by
  unfold pieces at h
  split at h
  · cases h
  · cases h
  · split at h
    · cases h
    · cases h
      exact ⟨_, rfl, _, _, _, _, rfl, ‹_›⟩
  · cases h
  · split at h
    · cases h
    · cases h
      exact ⟨_, rfl, Or.inr ⟨_, rfl, ‹_›⟩⟩
  · cases h
  · rename_i c rest hquote _ _ hescape hend _
    split at h
    · cases h
    · rename_i hctrl
      cases h
      refine ⟨_, rfl, Or.inl ⟨rfl, hctrl, hquote, fun hslash => ?_⟩⟩
      -- a backslash is followed by its escape
      cases rest with
      | nil => exact hend hslash rfl
      | cons d rest => exact hescape d rest hslash rfl

/-- Pieces that join spell a text. -/
theorem text_of_joined {ps : List Piece} : ∀ {cs s rest : List Char}, pieces cs = (ps, .ok rest) →
    joined? ps = some s → Text cs s rest := by
  fun_induction joined? ps with
  | case1 =>
    intro cs s rest h hs
    cases hs
    rw [eq_of_pieces_nil h]
    exact .close rest
  | case2 c ps ih =>
    intro cs s rest h hs
    obtain ⟨s', hs', rfl⟩ := Option.map_eq_some_iff.mp hs
    obtain ⟨cs', hps, ⟨rfl, hctrl, hquote, hslash⟩ | ⟨l, rfl, hl⟩⟩ := pieces_cons h
    · exact .plain hctrl hquote hslash (ih hps hs')
    · exact .letter hl (ih hps hs')
  | case3 n m ps hlead htrail ih =>
    intro cs s rest h hs
    obtain ⟨s', hs', rfl⟩ := Option.map_eq_some_iff.mp hs
    obtain ⟨cs', hps, x, y, z, w, rfl, hn⟩ := pieces_cons h
    obtain ⟨cs'', hps', x', y', z', w', rfl, hm⟩ := pieces_cons hps
    exact .pair hn hlead hm htrail (ih hps' hs')
  | case4 | case5 | case7 => 
    intro cs s rest h hs
    cases hs
  | case6 n m ps hlead htrail ih =>
    intro cs s rest h hs
    obtain ⟨s', hs', rfl⟩ := Option.map_eq_some_iff.mp hs
    obtain ⟨cs', hps, x, y, z, w, rfl, hn⟩ := pieces_cons h
    exact .unit hn (eq_false_of_ne_true hlead) (eq_false_of_ne_true htrail) (ih hps hs')
  | case8 n ps hnext hsolo ih =>
    intro cs s rest h hs
    obtain ⟨s', hs', rfl⟩ := Option.map_eq_some_iff.mp hs
    obtain ⟨cs', hps, x, y, z, w, rfl, hn⟩ := pieces_cons h
    obtain ⟨hlead, htrail⟩ := not_or.mp (Bool.or_eq_true _ _ ▸ hsolo)
    exact .unit hn (eq_false_of_ne_true hlead) (eq_false_of_ne_true htrail) (ih hps hs')

/-- **A text is read just as it is spelled**, up to its closing quote. -/
theorem readText_eq_iff {cs rest : List Char} {s : String} :
    readText cs = .ok (some s, rest) ↔ Text cs s.toList rest := by
  constructor
  · intro h
    unfold readText at h
    split at h
    rename_i ps e hps
    split at h
    · obtain ⟨hs, rfl⟩ := Prod.mk.inj (Except.ok.inj h)
      obtain ⟨chars, hchars, rfl⟩ := Option.map_eq_some_iff.mp hs
      rw [String.toList_ofList]
      exact text_of_joined hps hchars
    · cases h
  · intro h
    obtain ⟨ps, hps, hjoined⟩ := pieces_text h
    unfold readText
    rw [hps]
    dsimp only
    rw [hjoined, Option.map_some, String.ofList_toList]

end Grammar
end Tether.Json
