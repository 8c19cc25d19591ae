import Tether.Json.Reader

/-!
# `Tether.Proofs.Json.Faults` — a text that is not JSON is refused for its syntax

Whatever stops the reader of a text is a fault of syntax: a character out of place, or the end of the
text. So a text without a value is refused with such a fault, and never for a content that does not fit.

* `Tree.Syntactic` — every place where the text stops is there for a fault of syntax;
* `stopsForSyntax` — the reader leaves no other places;
* `syntactic_of_parse` — **a text without a value is refused for its syntax**.
-/

namespace Tether.Json

/-- A fault of the text itself. -/
def Fault.Syntactic (f : Fault) : Prop := f = .malformed ∨ f = .truncated

/-- The text stops there for a fault of syntax. -/
def Break.Syntactic (b : Break) : Prop := b.full.Syntactic

mutual

/-- Every place where the text stops is there for a fault of syntax. -/
def Tree.Syntactic : Tree → Prop
  | .broken b => b.Syntactic
  | .list items cut => SyntacticItems items ∧ ∀ f ∈ cut, f.Syntactic
  | .object members stray => SyntacticMembers members ∧ ∀ b ∈ stray, b.Syntactic
  | _ => True

/-- So it is in every item. -/
def Tree.SyntacticItems : List Tree → Prop
  | [] => True
  | t :: ts => Syntactic t ∧ SyntacticItems ts

/-- So it is in every member. -/
def Tree.SyntacticMembers : List (Option String × Tree) → Prop
  | [] => True
  | (_, t) :: ts => Syntactic t ∧ SyntacticMembers ts

end

/-! ## From the tree to its value -/

mutual

/-- A tree that stops for its syntax has a value, or a fault of syntax. -/
theorem Tree.syntactic_of_toJson (room : Nat) :
    ∀ t : Tree, t.Syntactic → ∀ f, t.toJson room = .error f → f.Syntactic
  | .null, _, _, h => nomatch h
  | .bool _, _, _, h => nomatch h
  | .number (some _), _, _, h => nomatch h
  | .number none, _, _, h => Or.inl (Except.error.inj h).symm
  | .text (some _), _, _, h => nomatch h
  | .text none, _, _, h => Or.inl (Except.error.inj h).symm
  | .broken _, ht, _, h => Except.error.inj h ▸ ht
  | .list items cut, ht, f, h => by
    cases room with
    | zero => exact Or.inl (Except.error.inj h).symm
    | succ room =>
      rw [Tree.toJson] at h
      split at h
      · rename_i hitems
        obtain rfl := Except.error.inj h
        exact Tree.syntactic_of_toItems room items ht.1 _ hitems
      · split at h
        · rename_i hcut
          obtain rfl := Except.error.inj h
          exact ht.2 _ rfl
        · cases h
  | .object members stray, ht, f, h => by
    cases room with
    | zero => exact Or.inl (Except.error.inj h).symm
    | succ room =>
      rw [Tree.toJson] at h
      split at h
      · rename_i hmembers
        obtain rfl := Except.error.inj h
        exact Tree.syntactic_of_toMembers room members ht.1 _ _ hmembers
      · split at h
        · obtain rfl := Except.error.inj h
          exact ht.2 _ rfl
        · cases h

theorem Tree.syntactic_of_toItems (room : Nat) :
    ∀ ts : List Tree, Tree.SyntacticItems ts → ∀ f, Tree.toItems room ts = .error f → f.Syntactic
  | [], _, _, h => nomatch h
  | t :: ts, ht, f, h => by
    rw [Tree.toItems] at h
    split at h
    · rename_i hfirst
      obtain rfl := Except.error.inj h
      exact Tree.syntactic_of_toJson room t ht.1 _ hfirst
    · split at h
      · rename_i hrest
        obtain rfl := Except.error.inj h
        exact Tree.syntactic_of_toItems room ts ht.2 _ hrest
      · cases h

theorem Tree.syntactic_of_toMembers (room : Nat) : ∀ ts : List (Option String × Tree),
    Tree.SyntacticMembers ts → ∀ sofar f, Tree.toMembers room sofar ts = .error f → f.Syntactic
  | [], _, _, _, h => nomatch h
  | (none, _) :: _, _, _, _, h => Or.inl (Except.error.inj h).symm
  | (some k, t) :: ts, ht, sofar, f, h => by
    rw [Tree.toMembers] at h
    split at h
    · rename_i hfirst
      obtain rfl := Except.error.inj h
      exact Tree.syntactic_of_toJson room t ht.1 _ hfirst
    · exact Tree.syntactic_of_toMembers room ts ht.2 _ f h

end

/-! ## From the text to the tree -/

/-- A text that does not end is a fault of syntax. -/
theorem syntactic_of_pieces {cs : List Char} {f : Fault} (h : (pieces cs).2 = .error f) :
    f.Syntactic := by
  fun_induction pieces cs with
  | case1 => exact Or.inr (Except.error.inj h).symm
  | case2 => cases h
  | case3 | case6 | case9 => exact Or.inl (Except.error.inj h).symm
  | case5 rest =>
    obtain rfl := Except.error.inj h
    split
    · exact Or.inr rfl
    · exact Or.inl rfl
  | case8 => exact Or.inr (Except.error.inj h).symm
  | case4 | case7 | case10 =>
    rename_i hrest ih
    rw [hrest] at ih
    exact ih h

theorem syntactic_of_readText {cs : List Char} {b : Break} (h : readText cs = .error b) :
    b.Syntactic := by
  unfold readText at h
  split at h
  rename_i ps e hpieces
  split at h
  · cases h
  · rename_i f
    obtain rfl := Except.error.inj h
    have hf : f.Syntactic := syntactic_of_pieces (congrArg Prod.snd hpieces)
    show (if (joined? (settled ps)).isSome then f else .malformed).Syntactic
    split
    · exact hf
    · exact Or.inl rfl

theorem syntactic_lacksDigit (cs : List Char) : (lacksDigit cs).Syntactic := by
  cases cs with
  | nil => exact Or.inr rfl
  | cons => exact Or.inl rfl

/-- So is a number that does not go on as it has to. -/
theorem syntactic_of_readNumeral {cs : List Char} {b : Break} (h : readNumeral cs = .error b) :
    b.Syntactic := by
  unfold readNumeral at h
  split at h
  split at h
  · rename_i hwhole
    obtain rfl := Except.error.inj h
    unfold readWhole at hwhole
    dsimp only at hwhole
    split at hwhole
    · exact Except.error.inj hwhole ▸ syntactic_lacksDigit _
    · exact Or.inl (congrArg Break.full (Except.error.inj hwhole)).symm
    · cases hwhole
  split at h
  · rename_i hfraction
    obtain rfl := Except.error.inj h
    unfold readFraction at hfraction
    split at hfraction
    · dsimp only at hfraction
      split at hfraction
      · exact Except.error.inj hfraction ▸ syntactic_lacksDigit _
      · cases hfraction
    · cases hfraction
  split at h
  · rename_i hexponent
    obtain rfl := Except.error.inj h
    unfold readExponent at hexponent
    split at hexponent
    · split at hexponent
      · split at hexponent
        dsimp only at hexponent
        split at hexponent
        · exact Except.error.inj hexponent ▸ syntactic_lacksDigit _
        · cases hexponent
      · cases hexponent
    · cases hexponent
  · cases h

/-- A word that is misspelled is a fault of syntax. -/
theorem syntactic_readKeyword (opening : Opening) (value : Tree) (hvalue : value.Syntactic)
    (word cs : List Char) : (readKeyword opening value word cs).1.Syntactic := by
  induction word generalizing cs with
  | nil => exact hvalue
  | cons w word ih =>
    cases cs with
    | nil => exact Or.inr rfl
    | cons c cs =>
      rw [readKeyword]
      split
      · exact ih cs
      · exact Or.inl rfl

/-- With so much fuel, the reader stops for faults of syntax only. -/
structure StopsForSyntax (fuel : Nat) : Prop where
  tree : ∀ cs, (readTree fuel cs).1.Syntactic
  items : ∀ first cs, Tree.SyntacticItems (readItems fuel first cs).1 ∧
    ∀ f ∈ (readItems fuel first cs).2.1, f.Syntactic
  item : ∀ cs, Tree.SyntacticItems (readItem fuel cs).1 ∧ ∀ f ∈ (readItem fuel cs).2.1, f.Syntactic
  members : ∀ first cs, Tree.SyntacticMembers (readMembers fuel first cs).1 ∧
    ∀ b ∈ (readMembers fuel first cs).2.1, b.Syntactic
  member : ∀ cs, Tree.SyntacticMembers (readMember fuel cs).1 ∧
    ∀ b ∈ (readMember fuel cs).2.1, b.Syntactic

variable {fuel : Nat}

theorem StopsForSyntax.tree_succ (h : StopsForSyntax fuel) (cs : List Char) :
    (readTree (fuel + 1) cs).1.Syntactic := by
  rw [readTree]
  split
  · exact Or.inr rfl
  rename_i c cs' _
  split
  · exact syntactic_readKeyword _ .null trivial _ _
  split
  · exact syntactic_readKeyword _ (.bool true) trivial _ _
  split
  · exact syntactic_readKeyword _ (.bool false) trivial _ _
  split
  · unfold readTextTree
    split
    · exact syntactic_of_readText ‹_›
    · trivial
  split
  · exact h.items true cs'
  split
  · exact h.members true cs'
  split
  · unfold readNumber
    split
    · exact syntactic_of_readNumeral ‹_›
    · trivial
  · exact Or.inl rfl

theorem StopsForSyntax.items_succ (h : StopsForSyntax fuel) (first : Bool) (cs : List Char) :
    Tree.SyntacticItems (readItems (fuel + 1) first cs).1 ∧
      ∀ f ∈ (readItems (fuel + 1) first cs).2.1, f.Syntactic := by
  rw [readItems]
  split
  · exact ⟨trivial, fun f hf => Or.inr (Option.some.inj hf).symm⟩
  split
  · exact ⟨trivial, fun f hf => (by cases hf)⟩
  split
  · exact h.item _
  split
  · exact h.item _
  · exact ⟨trivial, fun f hf => Or.inl (Option.some.inj hf).symm⟩

theorem StopsForSyntax.item_succ (h : StopsForSyntax fuel) (cs : List Char) :
    Tree.SyntacticItems (readItem (fuel + 1) cs).1 ∧
      ∀ f ∈ (readItem (fuel + 1) cs).2.1, f.Syntactic := by
  have htree := h.tree cs
  rw [readItem]
  split
  · rename_i t ht
    rw [ht] at htree
    exact ⟨⟨htree, trivial⟩, fun f hf => (by cases hf)⟩
  · rename_i t rest ht
    rw [ht] at htree
    obtain ⟨hitems, hcut⟩ := h.items false rest
    exact ⟨⟨htree, hitems⟩, hcut⟩

theorem StopsForSyntax.members_succ (h : StopsForSyntax fuel) (first : Bool) (cs : List Char) :
    Tree.SyntacticMembers (readMembers (fuel + 1) first cs).1 ∧
      ∀ b ∈ (readMembers (fuel + 1) first cs).2.1, b.Syntactic := by
  rw [readMembers]
  split
  · exact ⟨trivial, fun b hb => Or.inr (congrArg Break.full (Option.some.inj hb)).symm⟩
  split
  · exact ⟨trivial, fun b hb => (by cases hb)⟩
  split
  · exact h.member _
  split
  · exact h.member _
  · exact ⟨trivial, fun b hb => Or.inl (congrArg Break.full (Option.some.inj hb)).symm⟩

theorem StopsForSyntax.member_succ (h : StopsForSyntax fuel) (cs : List Char) :
    Tree.SyntacticMembers (readMember (fuel + 1) cs).1 ∧
      ∀ b ∈ (readMember (fuel + 1) cs).2.1, b.Syntactic := by
  rw [readMember.eq_def]
  dsimp only
  split
  · exact ⟨trivial, fun b hb => Or.inr (congrArg Break.full (Option.some.inj hb)).symm⟩
  · split
    · rename_i b hkey
      refine ⟨trivial, fun b' hb => ?_⟩
      obtain rfl := Option.some.inj hb
      exact syntactic_of_readText hkey
    · split
      · exact ⟨⟨Or.inr rfl, trivial⟩, fun b hb => (by cases hb)⟩
      · rename_i cs₂ _
        have htree := h.tree cs₂
        split
        · rename_i t ht
          rw [ht] at htree
          exact ⟨⟨htree, trivial⟩, fun b hb => (by cases hb)⟩
        · rename_i t rest ht
          rw [ht] at htree
          obtain ⟨hmembers, hstray⟩ := h.members false rest
          exact ⟨⟨htree, hmembers⟩, hstray⟩
      · exact ⟨⟨Or.inl rfl, trivial⟩, fun b hb => (by cases hb)⟩
  · exact ⟨trivial, fun b hb => Or.inl (congrArg Break.full (Option.some.inj hb)).symm⟩

/-- Wherever the reader stops, it stops for syntax. -/
theorem stopsForSyntax (fuel : Nat) : StopsForSyntax fuel := by
  induction fuel with
  | zero =>
    refine ⟨fun _ => Or.inl rfl, fun _ _ => ⟨trivial, ?_⟩, fun _ => ⟨trivial, ?_⟩,
      fun _ _ => ⟨trivial, ?_⟩, fun _ => ⟨trivial, ?_⟩⟩
    · exact fun f hf => Or.inl (Option.some.inj hf).symm
    · exact fun f hf => Or.inl (Option.some.inj hf).symm
    · exact fun b hb => Or.inl (congrArg Break.full (Option.some.inj hb)).symm
    · exact fun b hb => Or.inl (congrArg Break.full (Option.some.inj hb)).symm
  | succ fuel ih => exact ⟨ih.tree_succ, ih.items_succ, ih.item_succ, ih.members_succ, ih.member_succ⟩

/-! ## Whole texts -/

/-- So the tree of any text stops for its syntax, if it stops at all. -/
theorem Document.syntactic_ofText (s : String) : (Document.ofText s).tree.Syntactic := by
  have htree := (stopsForSyntax (3 * s.toList.length + 3)).tree s.toList
  unfold Document.ofText
  dsimp only
  split
  · rename_i t ht
    rw [ht] at htree
    exact htree
  · rename_i t rest ht
    rw [ht] at htree
    exact htree

/-- **A text without a value is refused for its syntax.** -/
theorem syntactic_of_parse {s : String} {f : Fault} (h : parse s = .error f) : f.Syntactic := by
  unfold parse Document.read at h
  split at h
  · rename_i hvalue
    obtain rfl := Except.error.inj h
    exact Tree.syntactic_of_toJson maxDepth _ (Document.syntactic_ofText s) _ hvalue
  · split at h
    · exact Or.inl (Except.error.inj h).symm
    · cases h

end Tether.Json
