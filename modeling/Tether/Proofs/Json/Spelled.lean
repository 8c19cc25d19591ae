import Tether.Proofs.Json.Grammar

/-!
# `Tether.Proofs.Json.Spelled` — the reader keeps to the grammar

The reader is measured against the grammar in both directions. What spells a value is read as the tree
of the value, by induction on the value; what is read as the tree of a value spells it, by induction on
the steps that the reader takes, with one lemma for each of its five functions.

* `Document.ofText_eq_iff` — **the reader takes a text for a value just when the text spells it**;
* `parse_eq_ok_iff` — a text has a value just when it spells one that nests no deeper than it may; its
  value is the spelled one put in order;
* `Spells.unique` — a text spells one value at most.
-/

namespace Tether.Json

namespace Grammar

/-! ## From the grammar to the tree -/

/-- A number begins with a sign or a digit. -/
theorem Number.head {cs rest : List Char} {n : Numeral} (h : Number cs n rest) :
    ∃ c cs', cs = c :: cs' ∧ (c = '-' ∨ c.isDigit = true) := by
  obtain ⟨negative, hwhole, -, -⟩ := h
  rename_i whole _ _ _ _
  cases negative with
  | true => exact ⟨_, _, rfl, Or.inl rfl⟩
  | false =>
    cases whole with
    | nil => exact absurd rfl hwhole.1.1
    | cons d ds => exact ⟨_, _, rfl, Or.inr (hwhole.1.2 d List.mem_cons_self)⟩

theorem isBlank_of_numeric {c : Char} (h : c = '-' ∨ c.isDigit = true) :
    isBlank c = false ∧ c ≠ ']' := by
  have hne : ∀ d : Char, d ≠ '-' → d.isDigit = false → c ≠ d := by
    rintro d hd hdigit rfl
    exact h.elim hd fun h => absurd (h.symm.trans hdigit) (by simp)
  refine ⟨eq_false_of_ne_true fun hb => ?_, hne _ (by decide) (by decide)⟩
  unfold isBlank at hb
  simp only [Bool.or_eq_true, decide_eq_true_eq] at hb
  rcases hb with ((rfl | rfl) | rfl) | rfl <;> exact absurd rfl (hne _ (by decide) (by decide))

/-- How a value begins: neither with a blank nor with a closing bracket. -/
theorem Value.head {cs rest : List Char} {v : Json} (h : Value cs v rest) :
    ∃ c cs', cs = c :: cs' ∧ isBlank c = false ∧ c ≠ ']' := by
  cases h with
  | number h _ =>
    obtain ⟨c, cs', rfl, hc⟩ := h.head
    exact ⟨c, cs', rfl, isBlank_of_numeric hc⟩
  | bool b _ => cases b <;> exact ⟨_, _, rfl, by decide, by decide⟩
  | _ => exact ⟨_, _, rfl, by decide, by decide⟩

/-- No blank stands before a value that is spelled. -/
theorem Value.skipBlanks_eq {cs rest : List Char} {v : Json} (h : Value cs v rest) :
    skipBlanks cs = cs := by
  obtain ⟨c, cs', rfl, hblank, -⟩ := h.head
  exact skipBlanks_cons cs' hblank

theorem Fraction.length_le {cs ds rest : List Char} (h : Fraction cs ds rest) :
    rest.length ≤ cs.length := by
  cases h with
  | none => exact le_rfl
  | some _ _ => rw [List.length_cons, List.length_append]; omega

theorem Exponent.length_le {cs rest : List Char} {exponent : Option (Bool × List Char)}
    (h : Exponent cs exponent rest) : rest.length ≤ cs.length := by
  cases h with
  | none => exact le_rfl
  | some rest _ hsign _ =>
    cases hsign <;> simp only [List.length_cons, List.length_append] <;> omega

/-- A number takes up some room. -/
theorem Number.length_lt {cs rest : List Char} {n : Numeral} (h : Number cs n rest) :
    rest.length < cs.length := by
  obtain ⟨negative, hwhole, hfraction, hexponent⟩ := h
  have hpos := List.length_pos_iff.mpr hwhole.1.1
  have hfirst := hfraction.length_le
  have hlast := hexponent.length_le
  simp only [List.length_append]
  omega

/-- So does a text. -/
theorem Text.length_lt {cs s rest : List Char} (h : Text cs s rest) : rest.length < cs.length := by
  induction h with
  | close => exact Nat.lt_succ_self _
  | _ => simp only [List.length_cons]; omega

mutual

/-- So does any value. -/
theorem Value.length_lt {cs rest : List Char} : ∀ {v : Json}, Value cs v rest → rest.length < cs.length
  | .null, .null _ => by simp only [List.length_cons]; omega
  | .bool b, .bool _ _ => by cases b <;> (simp; omega)
  | .number _, .number h _ => h.length_lt
  | .text _, .text h => Nat.lt_succ_of_lt h.length_lt
  | .list _, .emptyList h => h.length_le.trans (Nat.le_succ _)
  | .list _, .list h => Nat.lt_succ_of_lt h.length_lt
  | .object _, .emptyObject h => h.length_le.trans (Nat.le_succ _)
  | .object _, .object h => Nat.lt_succ_of_lt h.length_lt

theorem Items.length_lt {cs rest : List Char} :
    ∀ {vs : List Json}, Items cs vs rest → rest.length < cs.length
  | _, .last hgap hv hclose => by
    have hspace := hgap.length_le
    have hvalue := hv.length_lt
    have hlast := hclose.length_le
    rw [List.length_cons] at hlast
    omega
  | _, .next hgap hv hcomma hvs => by
    have hspace := hgap.length_le
    have hvalue := hv.length_lt
    have hnext := hcomma.length_le
    have hlast := hvs.length_lt
    rw [List.length_cons] at hnext
    omega

theorem Members.length_lt {cs rest : List Char} :
    ∀ {ms : List (String × Json)}, Members cs ms rest → rest.length < cs.length
  | _, .last hmember hclose => by
    have hvalue := hmember.length_lt
    have hlast := hclose.length_le
    rw [List.length_cons] at hlast
    omega
  | _, .next hmember hcomma hms => by
    have hvalue := hmember.length_lt
    have hnext := hcomma.length_le
    have hlast := hms.length_lt
    rw [List.length_cons] at hnext
    omega

theorem Member.length_lt {cs rest : List Char} {key : String} :
    ∀ {v : Json}, Member cs key v rest → rest.length < cs.length
  | _, .mk hgap hkey hcolon hvalue hv => by
    have hquote := hgap.length_le
    have htext := hkey.length_lt
    have hnext := hcolon.length_le
    have hspace := hvalue.length_le
    have hlast := hv.length_lt
    rw [List.length_cons] at hquote hnext
    omega

end

/-! Blanks at the front make no difference to a reading step. -/

/-- Blanks before a value make no difference. -/
theorem readTree_gap {cs cs' : List Char} (h : Gap cs cs') (hcs : skipBlanks cs' = cs') (fuel : Nat) :
    readTree fuel cs = readTree fuel cs' := by
  cases fuel with
  | zero => rfl
  | succ fuel => rw [readTree, readTree, h.skipBlanks_eq hcs, hcs]

/-- The bracket closes the list. -/
theorem readItems_close {cs rest : List Char} (h : Gap cs (']' :: rest)) (fuel : Nat) (first : Bool) :
    readItems (fuel + 1) first cs = ([], none, some rest) := by
  rw [readItems, h.skipBlanks_eq (skipBlanks_cons _ (by decide))]
  exact if_pos rfl

/-- A comma goes on to the next item. -/
theorem readItems_comma {cs rest : List Char} (h : Gap cs (',' :: rest)) (fuel : Nat) :
    readItems (fuel + 1) false cs = readItem fuel rest := by
  rw [readItems, h.skipBlanks_eq (skipBlanks_cons _ (by decide))]
  rfl

/-- The brace closes the object. -/
theorem readMembers_close {cs rest : List Char} (h : Gap cs ('\x7d' :: rest)) (fuel : Nat)
    (first : Bool) : readMembers (fuel + 1) first cs = ([], none, some rest) := by
  rw [readMembers, h.skipBlanks_eq (skipBlanks_cons _ (by decide))]
  exact if_pos rfl

/-- A comma goes on to the next member. -/
theorem readMembers_comma {cs rest : List Char} (h : Gap cs (',' :: rest)) (fuel : Nat) :
    readMembers (fuel + 1) false cs = readMember fuel (skipBlanks rest) := by
  rw [readMembers, h.skipBlanks_eq (skipBlanks_cons _ (by decide))]
  rfl

/-- A list that is not empty begins with its first item. -/
theorem readItems_first {cs rest : List Char} {vs : List Json} (h : Items cs vs rest) (fuel : Nat) :
    readItems (fuel + 1) true cs = readItem fuel (skipBlanks cs) ∧ Items (skipBlanks cs) vs rest := by
  have hfirst : ∀ {cs₁ cs₂ v}, Gap cs cs₁ → Value cs₁ v cs₂ →
      skipBlanks cs = cs₁ ∧ readItems (fuel + 1) true cs = readItem fuel cs₁ := by
    intro cs₁ cs₂ v hgap hv
    obtain ⟨c, cs', rfl, hblank, hne⟩ := hv.head
    have hskip := hgap.skipBlanks_eq hv.skipBlanks_eq
    refine ⟨hskip, ?_⟩
    rw [readItems, hskip]
    dsimp only
    rw [if_neg hne, if_pos rfl]
  cases h with
  | last hgap hv hclose =>
    obtain ⟨hskip, hread⟩ := hfirst hgap hv
    rw [hskip]
    exact ⟨hread, .last (.refl _) hv hclose⟩
  | next hgap hv hcomma hvs =>
    obtain ⟨hskip, hread⟩ := hfirst hgap hv
    rw [hskip]
    exact ⟨hread, .next (.refl _) hv hcomma hvs⟩

/-- An object that is not empty begins with the quote of its first key. -/
theorem readMembers_first {cs rest : List Char} {ms : List (String × Json)} (h : Members cs ms rest)
    (fuel : Nat) : readMembers (fuel + 1) true cs = readMember fuel (skipBlanks cs) := by
  have hquote : ∃ cs', skipBlanks cs = '"' :: cs' := by
    cases h with
    | last hmember _ | next hmember _ _ =>
      obtain ⟨hgap, -, -, -, -⟩ := hmember
      exact ⟨_, hgap.skipBlanks_eq (skipBlanks_cons _ (by decide))⟩
  obtain ⟨cs', hcs'⟩ := hquote
  rw [readMembers, hcs']
  rfl

/-- What begins like a number is read as one. -/
theorem readTree_numeral {c : Char} {cs : List Char} (hc : c = '-' ∨ c.isDigit = true) (fuel : Nat) :
    readTree (fuel + 1) (c :: cs) = readNumber (c :: cs) := by
  have hne : ∀ d : Char, d ≠ '-' → d.isDigit = false → c ≠ d := by
    rintro d hd hdigit rfl
    exact hc.elim hd fun h => absurd (h.symm.trans hdigit) (by simp)
  rw [readTree, skipBlanks_cons _ (isBlank_of_numeric hc).1]
  dsimp only
  rw [if_neg (hne 'n' (by decide) (by decide)), if_neg (hne 't' (by decide) (by decide)),
    if_neg (hne 'f' (by decide) (by decide)), if_neg (hne '"' (by decide) (by decide)),
    if_neg (hne '[' (by decide) (by decide)), if_neg (hne '\x7b' (by decide) (by decide)), if_pos hc]

/-- An item, and those after it, are read if each is read by itself. -/
theorem readItem_cons {fuel : Nat} {cs cs' rest : List Char} {v : Json} {vs : List Json}
    (hv : readTree fuel cs = (v.toTree, some cs'))
    (hvs : readItems fuel false cs' = (toTrees vs, none, some rest)) :
    readItem (fuel + 1) cs = (toTrees (v :: vs), none, some rest) := by
  rw [readItem, hv]
  dsimp only
  rw [hvs, toTrees]

/-- A member, and those after it, are read if each value is read by itself. -/
theorem readMember_cons {fuel : Nat} {cs cs₁ cs₂ cs₃ cs₄ rest : List Char} {key : String} {v : Json}
    {ms : List (String × Json)} (hgap : Gap cs ('"' :: cs₁)) (hkey : Text cs₁ key.toList cs₂)
    (hcolon : Gap cs₂ (':' :: cs₃)) (hv : readTree fuel cs₃ = (v.toTree, some cs₄))
    (hms : readMembers fuel false cs₄ = (toTreeMembers ms, none, some rest)) :
    readMember (fuel + 1) (skipBlanks cs) = (toTreeMembers ((key, v) :: ms), none, some rest) := by
  rw [hgap.skipBlanks_eq (skipBlanks_cons _ (by decide)), readMember, readText_eq_iff.mpr hkey]
  dsimp only
  rw [hcolon.skipBlanks_eq (skipBlanks_cons _ (by decide))]
  simp only [hv, hms, toTreeMembers]

mutual

/-- **What spells a value is read as its tree.** Reading takes at most three steps for every
    character. -/
theorem readTree_value {cs rest : List Char} (fuel : Nat) (hf : 3 * cs.length ≤ fuel)
    (hr : Stops rest) : ∀ {v : Json}, Value cs v rest → readTree fuel cs = (v.toTree, some rest)
  | .null, .null _ => by
    rw [List.length_cons] at hf
    obtain ⟨fuel, rfl⟩ : ∃ n, fuel = n + 1 := ⟨fuel - 1, by omega⟩
    rfl
  | .bool b, .bool _ _ => by
    obtain ⟨fuel, rfl⟩ : ∃ n, fuel = n + 1 := ⟨fuel - 1, by cases b <;> (simp at hf; omega)⟩
    cases b <;> rfl
  | .number x, .number h hx => by
    have hlength := h.length_lt
    obtain ⟨c, cs', rfl, hc⟩ := h.head
    obtain ⟨fuel, rfl⟩ : ∃ n, fuel = n + 1 := ⟨fuel - 1, by omega⟩
    rw [readTree_numeral hc, readNumber, readNumeral_number h hr]
    dsimp only
    rw [hx, toTree]
  | .text s, .text h => by
    rw [List.length_cons] at hf
    obtain ⟨fuel, rfl⟩ : ∃ n, fuel = n + 1 := ⟨fuel - 1, by omega⟩
    rw [readTree, skipBlanks_cons _ (by decide)]
    simp only [Char.reduceEq, if_false, if_true, readTextTree, readText_eq_iff.mpr h, toTree]
  | .list _, .emptyList h => by
    rw [List.length_cons] at hf
    obtain ⟨fuel, rfl⟩ : ∃ n, fuel = n + 2 := ⟨fuel - 2, by omega⟩
    rw [readTree, skipBlanks_cons _ (by decide)]
    simp only [Char.reduceEq, if_false, if_true, readItems_close h, toTree, toTrees]
  | .list vs, .list h => by
    rename_i cs'
    rw [List.length_cons] at hf
    obtain ⟨fuel, rfl⟩ : ∃ n, fuel = n + 2 := ⟨fuel - 2, by omega⟩
    obtain ⟨hfirst, hitems⟩ := readItems_first h fuel
    have hskip := (gap_skipBlanks cs').length_le
    have hread := readItem_items fuel (by omega) hitems
    rw [readTree, skipBlanks_cons _ (by decide)]
    simp only [Char.reduceEq, if_false, if_true, hfirst, hread, toTree]
  | .object _, .emptyObject h => by
    rw [List.length_cons] at hf
    obtain ⟨fuel, rfl⟩ : ∃ n, fuel = n + 2 := ⟨fuel - 2, by omega⟩
    rw [readTree, skipBlanks_cons _ (by decide)]
    simp only [Char.reduceEq, if_false, if_true, readMembers_close h, toTree, toTreeMembers]
  | .object ms, .object h => by
    rw [List.length_cons] at hf
    obtain ⟨fuel, rfl⟩ : ∃ n, fuel = n + 2 := ⟨fuel - 2, by omega⟩
    have hread := readMember_members fuel (by omega) h
    rw [readTree, skipBlanks_cons _ (by decide)]
    simp only [Char.reduceEq, if_false, if_true, readMembers_first h, hread, toTree]

/-- Items are read up to the closing bracket. -/
theorem readItem_items {cs rest : List Char} (fuel : Nat) (hf : 3 * cs.length + 1 ≤ fuel) :
    ∀ {vs : List Json}, Items cs vs rest → readItem fuel cs = (toTrees vs, none, some rest)
  | _, .last hgap hv hclose => by
    have hspace := hgap.length_le
    have hvalue := hv.length_lt
    obtain ⟨fuel, rfl⟩ : ∃ n, fuel = n + 2 := ⟨fuel - 2, by omega⟩
    have hread := readTree_value (fuel + 1) (by omega) (hclose.stops (stops_cons _ (by simp))) hv
    rw [← readTree_gap hgap hv.skipBlanks_eq] at hread
    exact readItem_cons hread (readItems_close hclose fuel false)
  | _, .next hgap hv hcomma hvs => by
    have hspace := hgap.length_le
    have hvalue := hv.length_lt
    have hnext := hcomma.length_le
    rw [List.length_cons] at hnext
    obtain ⟨fuel, rfl⟩ : ∃ n, fuel = n + 2 := ⟨fuel - 2, by omega⟩
    have hread := readTree_value (fuel + 1) (by omega) (hcomma.stops (stops_cons _ (by simp))) hv
    rw [← readTree_gap hgap hv.skipBlanks_eq] at hread
    exact readItem_cons hread ((readItems_comma hcomma fuel).trans (readItem_items fuel (by omega) hvs))

/-- Members are read up to the closing brace. -/
theorem readMember_members {cs rest : List Char} (fuel : Nat) (hf : 3 * cs.length + 1 ≤ fuel) :
    ∀ {ms : List (String × Json)}, Members cs ms rest →
      readMember fuel (skipBlanks cs) = (toTreeMembers ms, none, some rest)
  | _, .last (.mk hgap hkey hcolon hspace hv) hclose => by
    have hquote := hgap.length_le
    have htext := hkey.length_lt
    have hvalue := hcolon.length_le
    have hblank := hspace.length_le
    rw [List.length_cons] at hquote hvalue
    obtain ⟨fuel, rfl⟩ : ∃ n, fuel = n + 2 := ⟨fuel - 2, by omega⟩
    have hread := readTree_value (fuel + 1) (by omega) (hclose.stops (stops_cons _ (by simp))) hv
    rw [← readTree_gap hspace hv.skipBlanks_eq] at hread
    exact readMember_cons hgap hkey hcolon hread (readMembers_close hclose fuel false)
  | _, .next (.mk hgap hkey hcolon hspace hv) hcomma hms => by
    have hquote := hgap.length_le
    have htext := hkey.length_lt
    have hvalue := hcolon.length_le
    have hblank := hspace.length_le
    have hlast := hv.length_lt
    have hnext := hcomma.length_le
    rw [List.length_cons] at hquote hvalue hnext
    obtain ⟨fuel, rfl⟩ : ∃ n, fuel = n + 2 := ⟨fuel - 2, by omega⟩
    have hread := readTree_value (fuel + 1) (by omega) (hcomma.stops (stops_cons _ (by simp))) hv
    rw [← readTree_gap hspace hv.skipBlanks_eq] at hread
    exact readMember_cons hgap hkey hcolon hread
      ((readMembers_comma hcomma fuel).trans (readMember_members fuel (by omega) hms))

end

/-! ## From the tree to the grammar -/

/-- A gap after a gap is a gap. -/
theorem Gap.trans {cs cs' rest : List Char} (h : Gap cs cs') (h' : Gap cs' rest) : Gap cs rest := by
  obtain ⟨blanks, hblanks, rfl⟩ := h
  obtain ⟨blanks', hblanks', rfl⟩ := h'
  refine ⟨blanks ++ blanks', ?_, (List.append_assoc _ _ _).symm⟩
  exact List.forall_mem_append.mpr ⟨hblanks, hblanks'⟩

/-- Blanks may stand before the items of a list. -/
theorem Items.gap {cs cs' rest : List Char} {vs : List Json} (hgap : Gap cs cs')
    (h : Items cs' vs rest) : Items cs vs rest := by
  cases h with
  | last hspace hv hclose => exact .last (hgap.trans hspace) hv hclose
  | next hspace hv hcomma hvs => exact .next (hgap.trans hspace) hv hcomma hvs

theorem Member.gap {cs cs' rest : List Char} {key : String} {v : Json} (hgap : Gap cs cs')
    (h : Member cs' key v rest) : Member cs key v rest := by
  obtain ⟨hquote, hkey, hcolon, hspace, hv⟩ := h
  exact .mk (hgap.trans hquote) hkey hcolon hspace hv

/-- Blanks may stand before the members of an object. -/
theorem Members.gap {cs cs' rest : List Char} {ms : List (String × Json)} (hgap : Gap cs cs')
    (h : Members cs' ms rest) : Members cs ms rest := by
  cases h with
  | last hmember hclose => exact .last (hmember.gap hgap) hclose
  | next hmember hcomma hms => exact .next (hmember.gap hgap) hcomma hms

/-- The tree of a value is not broken. -/
theorem toTree_ne_broken (v : Json) (b : Break) : v.toTree ≠ .broken b := by
  cases v <;> exact Tree.noConfusion

/-- Trees of items come from items, one by one. -/
theorem eq_cons_of_toTrees {t : Tree} {ts : List Tree} {vs : List Json} (h : t :: ts = toTrees vs) :
    ∃ v vs', vs = v :: vs' ∧ t = v.toTree ∧ ts = toTrees vs' := by
  cases vs with
  | nil => cases h
  | cons v vs => exact ⟨v, vs, rfl, (List.cons.inj h).1, (List.cons.inj h).2⟩

/-- Trees of members come from members, one by one. -/
theorem eq_cons_of_toTreeMembers {key : Option String} {t : Tree} {ts : List (Option String × Tree)}
    {ms : List (String × Json)} (h : (key, t) :: ts = toTreeMembers ms) :
    ∃ k v ms', ms = (k, v) :: ms' ∧ key = some k ∧ t = v.toTree ∧ ts = toTreeMembers ms' := by
  rcases ms with _ | ⟨⟨k, v⟩, ms⟩
  · cases h
  · obtain ⟨hmember, hms⟩ := List.cons.inj h
    obtain ⟨hkey, hv⟩ := Prod.mk.inj hmember
    exact ⟨k, v, ms, rfl, hkey, hv, hms⟩

/-- A keyword that is read to its end stands there, for its value. -/
theorem readKeyword_eq {opening : Opening} {v w : Json} {word cs : List Char} {r : Option (List Char)}
    (h : readKeyword opening w.toTree word cs = (v.toTree, r)) :
    v = w ∧ ∃ rest, r = some rest ∧ cs = word ++ rest := by
  induction word generalizing cs with
  | nil =>
    obtain ⟨hv, hr⟩ := Prod.mk.inj h
    exact ⟨toTree_inj v w hv.symm, cs, hr.symm, rfl⟩
  | cons x word ih =>
    cases cs with
    | nil => exact absurd (Prod.mk.inj h).1.symm (toTree_ne_broken v _)
    | cons c cs =>
      rw [readKeyword] at h
      split at h
      · subst c
        obtain ⟨hvalue, rest, hr, rfl⟩ := ih h
        exact ⟨hvalue, rest, hr, rfl⟩
      · exact absurd (Prod.mk.inj h).1.symm (toTree_ne_broken v _)

/-- What is read as a text is one, and spelled. -/
theorem text_of_readTextTree {cs : List Char} {v : Json} {r : Option (List Char)}
    (h : readTextTree cs = (v.toTree, r)) :
    ∃ s rest, v = .text s ∧ r = some rest ∧ Text cs s.toList rest := by
  rw [readTextTree] at h
  split at h
  · exact absurd (Prod.mk.inj h).1.symm (toTree_ne_broken v _)
  · rename_i s rest htext
    obtain ⟨hv, hr⟩ := Prod.mk.inj h
    cases v with
    | text s' =>
      rw [Tree.text.inj hv] at htext
      exact ⟨s', rest, rfl, hr.symm, readText_eq_iff.mp htext⟩
    | _ => cases hv

/-- What is read as a number is one, and spelled. -/
theorem number_of_readNumber {cs : List Char} {v : Json} {r : Option (List Char)}
    (h : readNumber cs = (v.toTree, r)) :
    ∃ n x rest, v = .number x ∧ r = some rest ∧ Number cs n rest ∧ n.value? = some x := by
  rw [readNumber] at h
  split at h
  · exact absurd (Prod.mk.inj h).1.symm (toTree_ne_broken v _)
  · rename_i n rest hn
    obtain ⟨hv, hr⟩ := Prod.mk.inj h
    cases v with
    | number x => exact ⟨n, x, rest, rfl, hr.symm, number_of_readNumeral hn, Tree.number.inj hv⟩
    | _ => cases hv

/-- The text goes on with what stands at the front of `cs'`, behind a comma unless it is the first. -/
def Onward (first : Bool) (cs cs' : List Char) : Prop := Gap cs (if first then cs' else ',' :: cs')

/-- With so much fuel, what is read as a value is spelled as one. -/
structure Sound (fuel : Nat) : Prop where
  tree : ∀ {cs v r}, readTree fuel cs = (Json.toTree v, r) →
    ∃ cs' rest, r = some rest ∧ Gap cs cs' ∧ Value cs' v rest
  items : ∀ {first cs vs r}, readItems fuel first cs = (toTrees vs, none, r) → ∃ rest, r = some rest ∧
    (vs = [] ∧ Gap cs (']' :: rest) ∨ ∃ cs', Onward first cs cs' ∧ Items cs' vs rest)
  item : ∀ {cs vs r}, readItem fuel cs = (toTrees vs, none, r) →
    ∃ rest, r = some rest ∧ Items cs vs rest
  members : ∀ {first cs ms r}, readMembers fuel first cs = (toTreeMembers ms, none, r) →
    ∃ rest, r = some rest ∧
      (ms = [] ∧ Gap cs ('\x7d' :: rest) ∨ ∃ cs', Onward first cs cs' ∧ Members cs' ms rest)
  member : ∀ {cs ms r}, readMember fuel cs = (toTreeMembers ms, none, r) →
    ∃ rest, r = some rest ∧ Members cs ms rest

variable {fuel : Nat} {cs : List Char} {r : Option (List Char)}

/-- Items that are read without a fault are spelled, up to the bracket that closes them. -/
theorem Sound.items_succ (h : Sound fuel) {first : Bool} {vs : List Json}
    (hread : readItems (fuel + 1) first cs = (toTrees vs, none, r)) : ∃ rest, r = some rest ∧
      (vs = [] ∧ Gap cs (']' :: rest) ∨ ∃ cs', Onward first cs cs' ∧ Items cs' vs rest) := by
  have hgap := gap_skipBlanks cs
  rw [readItems] at hread
  split at hread
  · cases (Prod.mk.inj (Prod.mk.inj hread).2).1
  · rename_i c cs' hskip
    rw [hskip] at hgap
    split at hread
    · subst c
      obtain ⟨hvs, hr⟩ := Prod.mk.inj hread
      obtain rfl : vs = [] := toTrees_inj vs [] hvs.symm
      exact ⟨cs', (Prod.mk.inj hr).2.symm, Or.inl ⟨rfl, hgap⟩⟩
    split at hread
    · rename_i hfirst
      obtain ⟨rest, hr, hitems⟩ := h.item hread
      exact ⟨rest, hr, Or.inr ⟨_, by rw [Onward, if_pos hfirst]; exact hgap, hitems⟩⟩
    split at hread
    · rename_i hfirst hcomma
      subst c
      obtain ⟨rest, hr, hitems⟩ := h.item hread
      exact ⟨rest, hr, Or.inr ⟨_, by rw [Onward, if_neg hfirst]; exact hgap, hitems⟩⟩
    · cases (Prod.mk.inj (Prod.mk.inj hread).2).1

/-- Members that are read without a fault are spelled, up to the brace that closes them. -/
theorem Sound.members_succ (h : Sound fuel) {first : Bool} {ms : List (String × Json)}
    (hread : readMembers (fuel + 1) first cs = (toTreeMembers ms, none, r)) : ∃ rest, r = some rest ∧
      (ms = [] ∧ Gap cs ('\x7d' :: rest) ∨ ∃ cs', Onward first cs cs' ∧ Members cs' ms rest) := by
  have hgap := gap_skipBlanks cs
  rw [readMembers] at hread
  split at hread
  · cases (Prod.mk.inj (Prod.mk.inj hread).2).1
  · rename_i c cs' hskip
    rw [hskip] at hgap
    split at hread
    · subst c
      obtain ⟨hms, hr⟩ := Prod.mk.inj hread
      obtain rfl : ms = [] := toTreeMembers_inj ms [] hms.symm
      exact ⟨cs', (Prod.mk.inj hr).2.symm, Or.inl ⟨rfl, hgap⟩⟩
    split at hread
    · rename_i hfirst
      obtain ⟨rest, hr, hmembers⟩ := h.member hread
      exact ⟨rest, hr, Or.inr ⟨_, by rw [Onward, if_pos hfirst]; exact hgap, hmembers⟩⟩
    split at hread
    · rename_i hfirst hcomma
      subst c
      obtain ⟨rest, hr, hmembers⟩ := h.member hread
      exact ⟨rest, hr, Or.inr ⟨cs', by rw [Onward, if_neg hfirst]; exact hgap,
        hmembers.gap (gap_skipBlanks cs')⟩⟩
    · cases (Prod.mk.inj (Prod.mk.inj hread).2).1

/-- An item is spelled, and so is what follows its comma. -/
theorem Sound.item_succ (h : Sound fuel) {vs : List Json}
    (hread : readItem (fuel + 1) cs = (toTrees vs, none, r)) :
    ∃ rest, r = some rest ∧ Items cs vs rest := by
  rw [readItem] at hread
  split at hread
  · rename_i t ht
    obtain ⟨v, _, -, rfl, -⟩ := eq_cons_of_toTrees (Prod.mk.inj hread).1
    obtain ⟨_, _, hr, -⟩ := h.tree ht
    cases hr
  · rename_i t cs₁ ht
    obtain ⟨hcons, hrest⟩ := Prod.mk.inj hread
    obtain ⟨v, vs, rfl, rfl, hvs⟩ := eq_cons_of_toTrees hcons
    obtain ⟨cs', cs₂, hcs₂, hgap, hv⟩ := h.tree ht
    obtain rfl := Option.some.inj hcs₂
    obtain ⟨rest, hr, ⟨rfl, hclose⟩ | ⟨cs₃, hcomma, hitems⟩⟩ := h.items (Prod.ext hvs hrest)
    · exact ⟨rest, hr, .last hgap hv hclose⟩
    · exact ⟨rest, hr, .next hgap hv hcomma hitems⟩

/-- A member is spelled, and so is what follows its comma. -/
theorem Sound.member_succ (h : Sound fuel) {ms : List (String × Json)}
    (hread : readMember (fuel + 1) cs = (toTreeMembers ms, none, r)) :
    ∃ rest, r = some rest ∧ Members cs ms rest := by
  rw [readMember.eq_def] at hread
  dsimp only at hread
  split at hread
  · cases (Prod.mk.inj (Prod.mk.inj hread).2).1
  · rename_i cs₁
    split at hread
    · cases (Prod.mk.inj (Prod.mk.inj hread).2).1
    · rename_i key cs₂ hkey
      have hcolon := gap_skipBlanks cs₂
      split at hread
      · obtain ⟨_, v, _, -, -, hbroken, -⟩ := eq_cons_of_toTreeMembers (Prod.mk.inj hread).1
        exact absurd hbroken.symm (toTree_ne_broken v _)
      · rename_i cs₃ hskip
        rw [hskip] at hcolon
        split at hread
        · rename_i t ht
          obtain ⟨_, v, _, -, -, rfl, -⟩ := eq_cons_of_toTreeMembers (Prod.mk.inj hread).1
          obtain ⟨_, _, hr, -⟩ := h.tree ht
          cases hr
        · rename_i t cs₄ ht
          obtain ⟨hcons, hrest⟩ := Prod.mk.inj hread
          obtain ⟨key, v, ms, rfl, rfl, rfl, hms⟩ := eq_cons_of_toTreeMembers hcons
          obtain ⟨cs', cs₅, hcs₅, hspace, hv⟩ := h.tree ht
          obtain rfl := Option.some.inj hcs₅
          have hmember : Member ('"' :: cs₁) key v cs₄ :=
            .mk (.refl _) (readText_eq_iff.mp hkey) hcolon hspace hv
          obtain ⟨rest, hr, ⟨rfl, hclose⟩ | ⟨cs₆, hcomma, hmembers⟩⟩ :=
            h.members (Prod.ext hms hrest)
          · exact ⟨rest, hr, .last hmember hclose⟩
          · exact ⟨rest, hr, .next hmember hcomma hmembers⟩
      · obtain ⟨_, v, _, -, -, hbroken, -⟩ := eq_cons_of_toTreeMembers (Prod.mk.inj hread).1
        exact absurd hbroken.symm (toTree_ne_broken v _)
  · cases (Prod.mk.inj (Prod.mk.inj hread).2).1

/-- A value that is read without a fault is spelled, behind blanks perhaps. -/
theorem Sound.tree_succ (h : Sound fuel) {v : Json} (hread : readTree (fuel + 1) cs = (v.toTree, r)) :
    ∃ cs' rest, r = some rest ∧ Gap cs cs' ∧ Value cs' v rest := by
  have hgap := gap_skipBlanks cs
  rw [readTree] at hread
  split at hread
  · exact absurd (Prod.mk.inj hread).1.symm (toTree_ne_broken v _)
  rename_i c cs' hskip
  rw [hskip] at hgap
  split at hread
  · subst c
    obtain ⟨rfl, rest, hr, rfl⟩ := readKeyword_eq (w := .null) hread
    exact ⟨_, rest, hr, hgap, .null rest⟩
  split at hread
  · subst c
    obtain ⟨rfl, rest, hr, rfl⟩ := readKeyword_eq (w := .bool true) hread
    exact ⟨_, rest, hr, hgap, .bool true rest⟩
  split at hread
  · subst c
    obtain ⟨rfl, rest, hr, rfl⟩ := readKeyword_eq (w := .bool false) hread
    exact ⟨_, rest, hr, hgap, .bool false rest⟩
  split at hread
  · subst c
    obtain ⟨s, rest, rfl, hr, htext⟩ := text_of_readTextTree hread
    exact ⟨_, rest, hr, hgap, .text htext⟩
  split at hread
  · subst c
    obtain ⟨hv, hr⟩ := Prod.mk.inj hread
    cases v with
    | list vs =>
      obtain ⟨hitems, hcut⟩ := Tree.list.inj hv
      obtain ⟨rest, hr', ⟨rfl, hclose⟩ | ⟨cs₁, honward, hvs⟩⟩ :=
        h.items (Prod.ext hitems (Prod.ext hcut hr))
      · exact ⟨_, rest, hr', hgap, .emptyList hclose⟩
      · exact ⟨_, rest, hr', hgap, .list (hvs.gap honward)⟩
    | _ => cases hv
  split at hread
  · subst c
    obtain ⟨hv, hr⟩ := Prod.mk.inj hread
    cases v with
    | object ms =>
      obtain ⟨hmembers, hstray⟩ := Tree.object.inj hv
      obtain ⟨rest, hr', ⟨rfl, hclose⟩ | ⟨cs₁, honward, hms⟩⟩ :=
        h.members (Prod.ext hmembers (Prod.ext hstray hr))
      · exact ⟨_, rest, hr', hgap, .emptyObject hclose⟩
      · exact ⟨_, rest, hr', hgap, .object (hms.gap honward)⟩
    | _ => cases hv
  split at hread
  · obtain ⟨n, x, rest, rfl, hr, hnumber, hx⟩ := number_of_readNumber hread
    exact ⟨_, rest, hr, hgap, .number hnumber hx⟩
  · exact absurd (Prod.mk.inj hread).1.symm (toTree_ne_broken v _)

/-- Whatever is read without a fault is spelled, whatever the fuel. -/
theorem sound (fuel : Nat) : Sound fuel := by
  induction fuel with
  | zero =>
    refine ⟨fun h => ?_, fun h => ?_, fun h => ?_, fun h => ?_, fun h => ?_⟩
    · exact absurd (Prod.mk.inj h).1.symm (toTree_ne_broken _ _)
    all_goals cases (Prod.mk.inj (Prod.mk.inj h).2).1
  | succ fuel ih => exact ⟨ih.tree_succ, ih.items_succ, ih.item_succ, ih.members_succ, ih.member_succ⟩

end Grammar

/-! ## Whole texts -/

/-- **The reader takes a text for a value just when the text spells it.** -/
theorem Document.ofText_eq_iff {s : String} {v : Json} :
    Document.ofText s = ⟨v.toTree, false⟩ ↔ Spells s v := by
  unfold Document.ofText
  dsimp only
  constructor
  · intro h
    split at h
    · rename_i t ht
      rw [(Document.mk.inj h).1] at ht
      obtain ⟨_, _, hr, -⟩ := (Grammar.sound _).tree ht
      cases hr
    · rename_i t rest ht
      obtain ⟨htree, htrailing⟩ := Document.mk.inj h
      rw [htree] at ht
      obtain ⟨cs, rest', hr, hgap, hv⟩ := (Grammar.sound _).tree ht
      obtain rfl := Option.some.inj hr
      have hempty : skipBlanks rest = [] := by simpa using htrailing
      exact ⟨cs, rest, hgap, hv, hempty ▸ Grammar.gap_skipBlanks rest⟩
  · rintro ⟨cs, rest, hgap, hv, hend⟩
    have hlength := hgap.length_le
    have hread := Grammar.readTree_value (3 * s.toList.length + 3) (by omega) (hend.stops stops_nil) hv
    rw [← Grammar.readTree_gap hgap hv.skipBlanks_eq] at hread
    rw [hread]
    dsimp only
    rw [hend.skipBlanks_eq rfl]
    rfl

mutual

/-- A tree that has a value is the tree of one, no deeper than there is room. -/
theorem Tree.exists_toTree (room : Nat) : ∀ (t : Tree) (v : Json), t.toJson room = .ok v →
    ∃ w : Json, t = w.toTree ∧ w.depth ≤ room
  | .null, _, _ => ⟨.null, rfl, Nat.zero_le _⟩
  | .bool b, _, _ => ⟨.bool b, rfl, Nat.zero_le _⟩
  | .number (some n), _, _ => ⟨.number n, rfl, Nat.zero_le _⟩
  | .number none, _, h => nomatch h
  | .text (some s), _, _ => ⟨.text s, rfl, Nat.zero_le _⟩
  | .text none, _, h => nomatch h
  | .broken _, _, h => nomatch h
  | .list items cut, v, h => by
    cases room with
    | zero => cases h
    | succ room =>
      rw [Tree.toJson] at h
      split at h
      · cases h
      · rename_i vs hvs
        split at h
        · cases h
        · obtain ⟨ws, rfl, hdepth⟩ := Tree.exists_toTrees room items vs hvs
          exact ⟨.list ws, rfl, Nat.succ_le_succ hdepth⟩
  | .object members stray, v, h => by
    cases room with
    | zero => cases h
    | succ room =>
      rw [Tree.toJson] at h
      split at h
      · cases h
      · rename_i ms hms
        split at h
        · cases h
        · obtain ⟨ns, rfl, hdepth⟩ := Tree.exists_toTreeMembers room members [] ms hms
          exact ⟨.object ns, rfl, Nat.succ_le_succ hdepth⟩

/-- Items that have values come from values. -/
theorem Tree.exists_toTrees (room : Nat) : ∀ (ts : List Tree) (vs : List Json),
    Tree.toItems room ts = .ok vs → ∃ ws, ts = toTrees ws ∧ depthItems ws ≤ room
  | [], _, _ => ⟨[], rfl, Nat.zero_le _⟩
  | t :: ts, vs, h => by
    rw [Tree.toItems] at h
    split at h
    · cases h
    · rename_i v hv
      split at h
      · cases h
      · rename_i vs' hvs
        obtain ⟨w, rfl, hw⟩ := Tree.exists_toTree room t v hv
        obtain ⟨ws, rfl, hws⟩ := Tree.exists_toTrees room ts vs' hvs
        exact ⟨w :: ws, rfl, Nat.max_le.mpr ⟨hw, hws⟩⟩

/-- Members that have values come from members. -/
theorem Tree.exists_toTreeMembers (room : Nat) : ∀ (ts : List (Option String × Tree))
    (acc ms : List (String × Json)), Tree.toMembers room acc ts = .ok ms →
    ∃ ns, ts = toTreeMembers ns ∧ depthMembers ns ≤ room
  | [], _, _, _ => ⟨[], rfl, Nat.zero_le _⟩
  | (none, _) :: _, _, _, h => nomatch h
  | (some k, t) :: ts, acc, ms, h => by
    rw [Tree.toMembers] at h
    split at h
    · cases h
    · rename_i v hv
      obtain ⟨w, rfl, hw⟩ := Tree.exists_toTree room t v hv
      obtain ⟨ns, rfl, hns⟩ := Tree.exists_toTreeMembers room ts _ ms h
      exact ⟨(k, w) :: ns, rfl, Nat.max_le.mpr ⟨hw, hns⟩⟩

end

/-- **A text has a value just when it spells one** that nests no deeper than it may. Its value is the
    spelled one put in order, the last of equal keys winning. -/
theorem parse_eq_ok_iff {s : String} {v : Json} :
    parse s = .ok v ↔ ∃ w, Spells s w ∧ w.depth ≤ maxDepth ∧ v = w.sorted := by
  unfold parse Document.read
  constructor
  · intro h
    split at h
    · cases h
    · rename_i v' hv
      split at h
      · cases h
      · rename_i htrailing
        cases h
        obtain ⟨w, hw, hdepth⟩ := Tree.exists_toTree maxDepth _ v hv
        rw [hw, toJson_toTree maxDepth w hdepth] at hv
        refine ⟨w, Document.ofText_eq_iff.mp ?_, hdepth, (Except.ok.inj hv).symm⟩
        rw [← hw, ← eq_false_of_ne_true htrailing]
  · rintro ⟨w, hw, hdepth, rfl⟩
    rw [Document.ofText_eq_iff.mpr hw, toJson_toTree maxDepth w hdepth]
    rfl

/-- A text spells one value at most. -/
theorem Spells.unique {s : String} {v w : Json} (hv : Spells s v) (hw : Spells s w) : v = w := by
  have htree := (Document.ofText_eq_iff.mpr hv).symm.trans (Document.ofText_eq_iff.mpr hw)
  exact toTree_inj v w (Document.mk.inj htree).1

/-- What is printed spells the value. -/
theorem spells_render {v : Json} (h : v.Exact) : Spells v.render v :=
  Document.ofText_eq_iff.mp (Document.ofText_render h)

end Tether.Json
