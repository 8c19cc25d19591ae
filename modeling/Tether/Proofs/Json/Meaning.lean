import Tether.Proofs.Json.Finite
import Tether.Proofs.Json.Records

/-!
# `Tether.Proofs.Json.Meaning` — what a reader makes of any value

`Reader.Means` describes a reader completely: a function on values in order says of every value that a
text may spell (`Regular`) whether it is read, and as what. The order of members plays no part in it, and
neither does the source, so a record that is read off a text and one that is read off the value of that
text come out the same. Each way to build a reader or a schema has its own lemma.

A text may be refused as malformed by a reader that wants something else. Anywhere else a refusal can
only be a misfit, and never for want of a bound: the numbers of a text are finite (`Complaint`).

* `Regular` — what a reader may rely on;
* `View` — what is made of the members of an object, which are seen by their keys;
* `View.Confined` — a view that looks at some keys only;
* `Schema.Means.reader`, `Schema.Means.openReader` — records;
* `Union.reader_eq` — a tagged record is read by the variant of its tag.
-/

namespace Tether.Json

variable {α β : Type}

/-! ## Values -/

/-- A value that a text without repeated keys may spell: every number inside is finite, and lists and
    objects nest at most `room` deep. -/
structure Regular (room : Nat) (v : Json) : Prop where
  distinct : v.Distinct
  finite : v.Finite
  depth : v.depth ≤ room

/-- The items of a list are regular if the list is. -/
theorem regular_of_items {room : Nat} {vs : List Json} (hdistinct : DistinctItems vs)
    (hfinite : FiniteItems vs) (hdepth : depthItems vs ≤ room) : ∀ v ∈ vs, Regular room v := by
  induction vs with
  | nil => exact fun _ hv => nomatch hv
  | cons v vs ih =>
    obtain ⟨hfirst, hrest⟩ := Nat.max_le.mp hdepth
    exact List.forall_mem_cons.mpr ⟨⟨hdistinct.1, hfinite.1, hfirst⟩, ih hdistinct.2 hfinite.2 hrest⟩

/-- So are the values of the members of an object. -/
theorem regular_of_members {room : Nat} {ms : List (String × Json)} (hdistinct : DistinctMembers ms)
    (hfinite : FiniteMembers ms) (hdepth : depthMembers ms ≤ room) : ∀ m ∈ ms, Regular room m.2 :=
  fun m hm => ⟨distinctMembers_iff.mp hdistinct m hm, finiteMembers_iff.mp hfinite m hm,
    depthMembers_le_iff.mp hdepth m hm⟩

/-- The items of a list are regular one level inside. -/
theorem Regular.items {p : Place} {vs : List Json} (h : Regular p.room (.list vs)) :
    p.room ≠ 0 ∧ ∀ v ∈ vs, Regular p.inside.room v := by
  have hroom : depthItems vs + 1 ≤ p.room := h.depth
  exact ⟨by omega, regular_of_items h.distinct h.finite (Nat.le_sub_of_add_le hroom)⟩

/-- The members of an object have different keys, and are regular one level inside. -/
theorem Regular.members {p : Place} {ms : List (String × Json)} (h : Regular p.room (.object ms)) :
    p.room ≠ 0 ∧ (ms.map Prod.fst).Nodup ∧ ∀ m ∈ ms, Regular p.inside.room m.2 := by
  have hroom : depthMembers ms + 1 ≤ p.room := h.depth
  exact ⟨by omega, h.distinct.1,
    regular_of_members h.distinct.2 h.finite (Nat.le_sub_of_add_le hroom)⟩

/-- An object that leaves out some members is regular as well. -/
theorem Regular.filter {room : Nat} {ms : List (String × Json)} (h : Regular room (.object ms))
    (p : String × Json → Bool) : Regular room (.object (ms.filter p)) := by
  refine ⟨⟨nodup_filter h.distinct.1 p, distinctMembers_iff.mpr fun m hm => ?_⟩,
    finiteMembers_iff.mpr fun m hm => ?_, ?_⟩
  · exact distinctMembers_iff.mp h.distinct.2 m (List.mem_of_mem_filter hm)
  · exact finiteMembers_iff.mp h.finite m (List.mem_of_mem_filter hm)
  · have hinside : depthMembers (ms.filter p) ≤ depthMembers ms :=
      depthMembers_le_iff.mpr fun m hm => depthMembers_le_iff.mp le_rfl m (List.mem_of_mem_filter hm)
    exact (Nat.add_le_add_right hinside 1).trans h.depth

/-- A value in order is regular if its numbers are finite. -/
theorem regular_of_fits {room : Nat} {v : Json} (hfits : v.Fits room) (hfinite : v.Finite) :
    Regular room v :=
  ⟨distinct_of_ordered v hfits.1, hfinite, hfits.2⟩

/-! ## Outcomes -/

/-- Is the misfit a number that is not finite? -/
def Misfit.isInfinite : Misfit → Bool
  | .infinite _ _ => true
  | _ => false

/-- A fault that a reader may find in a regular value. -/
def Complaint (p : Place) (f : Fault) : Prop :=
  p.source = .text ∧ f = .malformed ∨ ∃ m : Misfit, f = .misfit m ∧ m.isInfinite = false

/-- A value is read as what `o` holds, and refused if `o` holds nothing. -/
def Outcome (p : Place) (o : Option α) (x : Except Fault α) : Prop :=
  match o with
  | some a => x = .ok a
  | none => ∃ f, x = .error f ∧ Complaint p f

variable {p : Place}

theorem outcome_some (a : α) : Outcome p (some a) (.ok a) := rfl

theorem outcome_none {f : Fault} (h : Complaint p f) : Outcome p (none : Option α) (.error f) :=
  ⟨f, rfl, h⟩

/-- A value that holds nothing is refused for its content. -/
theorem outcome_misfit {m : Misfit} (h : m.isInfinite = false) :
    Outcome p (none : Option α) (.error (.misfit m)) :=
  outcome_none (Or.inr ⟨m, rfl, h⟩)

/-- A value is read exactly if it holds something. -/
theorem Outcome.ok_iff {o : Option α} {x : Except Fault α} (h : Outcome p o x) {a : α} :
    x = .ok a ↔ o = some a := by
  cases o with
  | none =>
    obtain ⟨f, rfl, -⟩ := h
    exact ⟨fun h => (by cases h), fun h => (by cases h)⟩
  | some b =>
    obtain rfl : x = .ok b := h
    exact ⟨fun h => congrArg some (Except.ok.inj h), fun h => congrArg Except.ok (Option.some.inj h)⟩

/-- A value is refused only if it holds nothing. -/
theorem Outcome.error {o : Option α} {x : Except Fault α} (h : Outcome p o x) {f : Fault}
    (hf : x = .error f) : o = none ∧ Complaint p f := by
  cases o with
  | none =>
    obtain ⟨f', rfl, hcomplaint⟩ := h
    obtain rfl := Except.error.inj hf
    exact ⟨rfl, hcomplaint⟩
  | some a =>
    obtain rfl : x = .ok a := h
    cases hf

/-- What is a complaint away from a text is one anywhere. -/
theorem Outcome.anywhere {q : Place} {o : Option α} {x : Except Fault α} (h : Outcome q o x)
    (hq : q.source ≠ .text) : Outcome p o x := by
  cases o with
  | some a => exact h
  | none =>
    obtain ⟨f, hf, hcomplaint⟩ := h
    exact ⟨f, hf, Or.inr (hcomplaint.resolve_left fun h => hq h.1)⟩

/-- What is made of a value is made of what it holds. -/
theorem Outcome.map {o : Option α} {x : Except Fault α} (h : Outcome p o x) (g : α → β) :
    Outcome p (o.map g) (x.map g) := by
  cases o with
  | some a =>
    obtain rfl : x = .ok a := h
    exact outcome_some (g a)
  | none =>
    obtain ⟨f, rfl, hcomplaint⟩ := h
    exact outcome_none hcomplaint

/-- Two parts that are read one after the other. -/
theorem Outcome.seq {γ : Type} {o : Option α} {o' : Option β} {x : Except Fault α} {y : Except Fault β}
    (h : Outcome p o x) (h' : Outcome p o' y) (g : α → β → γ) :
    Outcome p (o.bind fun a => o'.map (g a)) (x.bind fun a => y.map (g a)) := by
  cases o with
  | some a =>
    obtain rfl : x = .ok a := h
    cases o' with
    | some b =>
      obtain rfl : y = .ok b := h'
      exact outcome_some (g a b)
    | none =>
      obtain ⟨f, rfl, hcomplaint⟩ := h'
      exact outcome_none hcomplaint
  | none =>
    obtain ⟨f, rfl, hcomplaint⟩ := h
    exact outcome_none hcomplaint

/-! ## Readers -/

namespace Reader

variable {r : Reader α} {f : Json → Option α}

/-- The reader makes of every regular value what `f` makes of the value put in order. -/
def Means (r : Reader α) (p : Place) (f : Json → Option α) : Prop :=
  ∀ v : Json, v.Regular p.room → Outcome p (f v.sorted) (r p v.toTree)

/-- Texts are read as texts, and nothing else is. -/
theorem means_text : Means text p Json.text? := by
  intro v _
  cases v with
  | text s => exact outcome_some s
  | _ => exact outcome_misfit rfl

/-- The truth value, if the value is one. -/
def flag? : Json → Option Bool
  | .bool b => some b
  | _ => none

/-- Truth values are read as truth values, and nothing else is. -/
theorem means_flag : Means flag p flag? := by
  intro v _
  cases v with
  | bool b => exact outcome_some b
  | _ => exact outcome_misfit rfl

/-- The number, if the value is one. -/
def number? : Json → Option Number
  | .number n => some n
  | _ => none

/-- Numbers are read as numbers, and nothing else is. -/
theorem means_number : Means number p number? := by
  intro v _
  cases v with
  | number n => exact outcome_some n
  | _ => exact outcome_misfit rfl

/-- What `fit?` makes of a whole number. -/
def whole? (fit? : Int → Option α) : Json → Option α
  | .number (.whole n) => fit? n.val
  | _ => none

/-- Whole numbers that fit are read, and nothing else is. -/
theorem means_natural (fit? : Int → Option α) (wanted : Wanted) :
    Means (natural fit? wanted) p (whole? fit?) := by
  intro v _
  cases v with
  | number n =>
    cases n with
    | whole n =>
      show Outcome p (fit? n.val) (natural fit? wanted p (.number (some (.whole n))))
      unfold natural
      dsimp only
      cases fit? n.val with
      | some a => exact outcome_some a
      | none => exact outcome_misfit rfl
    | real x => exact outcome_misfit rfl
  | _ => exact outcome_misfit rfl

/-- Every value is read as itself, put in order. -/
theorem means_json : Means json p some := by
  intro v hv
  exact toJson_toTree p.room v hv.depth

/-- Null as none. -/
def nullable (f : Json → Option α) : Json → Option (Option α)
  | .null => some none
  | v => (f v).map some

theorem map_apply (r : Reader α) (g : α → β) (p : Place) (t : Tree) : r.map g p t = (r p t).map g := by
  unfold Reader.map
  cases r p t <;> rfl

/-- A reader through a function means what the reader means, through the function. -/
theorem Means.map (h : r.Means p f) (g : α → β) : (r.map g).Means p fun v => (f v).map g := by
  intro v hv
  rw [map_apply]
  exact (h v hv).map g

/-- What is not null is read as itself. -/
theorem optional_of_ne_null {v : Json} (hv : v ≠ .null) :
    r.optional p v.toTree = r.map some p v.toTree := by
  unfold Reader.optional
  split
  · cases v <;> first | exact absurd rfl hv | cases ‹toTree _ = _›
  · cases v <;> first | exact absurd rfl hv | cases ‹toTree _ = _›
  · cases v <;> first | exact absurd rfl hv | cases ‹toTree _ = _›
  · cases v <;> cases ‹toTree _ = _›
  · rfl

/-- An optional reader takes null for nothing. -/
theorem Means.optional (h : r.Means p f) (hp : p.source ≠ .table) :
    r.optional.Means p (nullable f) := by
  intro v hv
  by_cases hnull : v = .null
  · subst hnull
    exact reads_optional_null hp .null (Reordered.refl trivial) hv.depth
  · have hsorted : nullable f v.sorted = (f v.sorted).map some := by
      cases v <;> first | exact absurd rfl hnull | rfl
    rw [hsorted, optional_of_ne_null hnull]
    exact h.map some v hv

/-- What `f` makes of items, if it makes something of each. -/
def each (f : Json → Option α) : List Json → Option (List α)
  | [] => some []
  | v :: vs => (f v).bind fun a => (each f vs).map (a :: ·)

/-- What `f` makes of the items of a list. -/
def list? (f : Json → Option α) : Json → Option (List α)
  | .list vs => each f vs
  | _ => none

/-- All items hold something if each of them does. -/
theorem isSome_each {vs : List Json} : (each f vs).isSome ↔ ∀ v ∈ vs, (f v).isSome := by
  induction vs with
  | nil => simp [each]
  | cons v vs ih =>
    rw [each, List.forall_mem_cons, ← ih]
    cases f v <;> simp

/-- Items are read from first to last. -/
theorem items_cons (r : Reader α) (p : Place) (t : Tree) (ts : List Tree) :
    items r p (t :: ts) = (r p t).bind fun a => (items r p ts).map (a :: ·) := by
  rw [items]
  cases r p t with
  | error f => rfl
  | ok a => cases items r p ts <;> rfl

/-- Items are read if each of them is, and the first that is refused refuses the list. -/
theorem Means.items (h : r.Means p f) {vs : List Json} (hvs : ∀ v ∈ vs, v.Regular p.room) :
    Outcome p (each f (sortedItems vs)) (items r p (toTrees vs)) := by
  induction vs with
  | nil => exact outcome_some []
  | cons v vs ih =>
    obtain ⟨hfirst, hrest⟩ := List.forall_mem_cons.mp hvs
    rw [toTrees, items_cons]
    exact (h v hfirst).seq (ih hrest) List.cons

/-- Lists of what a reader takes are read, and nothing else is. -/
theorem Means.list (h : r.Means p.inside f) : r.list.Means p (list? f) := by
  intro v hv
  cases v with
  | list vs =>
    obtain ⟨hroom, hvs⟩ := hv.items
    have hread : r.list p (Json.list vs).toTree = Reader.items r p.inside (toTrees vs) := by
      rw [toTree, Reader.list]
      dsimp only
      rw [if_neg hroom]
      cases Reader.items r p.inside (toTrees vs) <;> rfl
    rw [hread]
    exact Means.items h hvs
  | _ => exact outcome_misfit rfl

/-- The meaning of a name, given as a text or as the only key of an object, with null inside. -/
def chosen? (known : List (String × α)) : Json → Option α
  | .text s => known.lookup s
  | .object [(key, .null)] => known.lookup key
  | _ => none

/-- A name is known, or refused as an unknown variant. -/
theorem outcome_lookup (known : List (String × α)) (name : String) :
    Outcome p (known.lookup name) (lookup known name) := by
  unfold lookup
  cases known.lookup name with
  | some a => exact outcome_some a
  | none => exact outcome_misfit rfl

/-- More members than one are no choice. -/
theorem chosen?_of_cons_cons (known : List (String × α)) {m m' : String × Json}
    {ms : List (String × Json)} (h : ((m :: m' :: ms).map Prod.fst).Nodup) :
    chosen? known (Json.object (m :: m' :: ms)).sorted = none := by
  have hfind : ∀ key ∈ [m.1, m'.1],
      find? key (ordered (sortedMembers (m :: m' :: ms))) ≠ none := by
    intro key hkey
    rw [find?_ordered key (by rw [keys_sortedMembers]; exact h), Ne, find?_eq_none, keys_sortedMembers]
    rcases List.mem_pair.mp hkey with rfl | rfl <;> simp
  rw [sorted]
  unfold chosen?
  split
  · cases ‹Json.object _ = _›
  · -- the only key of one member would be both keys
    rename_i key heq
    rw [Json.object.inj heq] at hfind
    have hkeys : ∀ k ∈ [m.1, m'.1], key = k := by
      intro k hk
      by_contra hne
      exact hfind k hk (by rw [find?, if_neg hne, find?])
    have hsame : m.1 = m'.1 := (hkeys m.1 (by simp)).symm.trans (hkeys m'.1 (by simp))
    rw [List.map_cons, List.map_cons, hsame] at h
    exact absurd h (by simp)
  · rfl

/-- A single member is a choice if there is null inside. -/
theorem outcome_only (known : List (String × α)) (key : String) (w : Json) :
    Outcome p (chosen? known (Json.object [(key, w)]).sorted)
      ((lookup known key).bind fun a => (empty w.toTree).map fun _ => a) := by
  have hlookup : Outcome p (known.lookup key) (lookup known key) := outcome_lookup known key
  by_cases hw : w = .null
  · subst hw
    have hread := hlookup.map id
    rw [Option.map_id] at hread
    cases hx : lookup known key <;> rw [hx] at hread <;> exact hread
  · have hchosen : chosen? known (Json.object [(key, w)]).sorted = none := by
      cases w <;> first | exact absurd rfl hw | rfl
    rw [hchosen]
    cases hx : lookup known key with
    | error f => exact outcome_none (hlookup.error hx).2
    | ok a => cases w <;> first | exact absurd rfl hw | exact outcome_misfit rfl

/-- A choice is read by name, given as a text or as the only key of an object. -/
theorem means_choice (known : List (String × α)) (hp : p.source ≠ .table) :
    Means (choice known) p (chosen? known) := by
  intro v hv
  have honly : ∀ {x : Except Fault α} (key : String) (w : Json), v = .object [(key, w)] →
      x = ((lookup known key).bind fun a => (empty w.toTree).map fun _ => a) →
      Outcome p (chosen? known v.sorted) x := by
    rintro x key w rfl rfl
    exact outcome_only known key w
  unfold choice
  cases hsource : p.source with
  | table => exact absurd hsource hp
  | text =>
    have hmalformed : Outcome p (none : Option α) (.error .malformed) := outcome_none (Or.inl ⟨hsource, rfl⟩)
    cases v with
    | text s => exact outcome_lookup known s
    | object ms =>
      obtain ⟨hroom, hnodup, -⟩ := hv.members
      rcases ms with _ | ⟨⟨key, w⟩, _ | ⟨m, ms⟩⟩
      · exact hmalformed
      · refine honly key w rfl ?_
        show choiceInText known p (.object [(some key, w.toTree)] none) = _
        rw [choiceInText, if_neg hroom]
        cases lookup known key with
        | error f => rfl
        | ok a => cases empty w.toTree <;> rfl
      · rw [chosen?_of_cons_cons known hnodup]
        show Outcome p none (choiceInText known p (.object ((some key, w.toTree) :: _) none))
        rw [choiceInText, if_neg hroom]
        have hlookup : Outcome p (known.lookup key) (lookup known key) := outcome_lookup known key
        cases hx : lookup known key with
        | error f => exact outcome_none (hlookup.error hx).2
        | ok a => cases w <;> first | exact hmalformed | exact outcome_misfit rfl
    | _ => exact hmalformed
  | value | gathered =>
    cases v with
    | text s => exact outcome_lookup known s
    | object ms =>
      rcases ms with _ | ⟨⟨key, w⟩, _ | ⟨m, ms⟩⟩
      · exact outcome_misfit rfl
      · refine honly key w rfl ?_
        show choiceInValue known (.object [(some key, w.toTree)] none) = _
        rw [choiceInValue]
        cases lookup known key with
        | error f => rfl
        | ok a => cases empty w.toTree <;> rfl
      · rw [chosen?_of_cons_cons known hv.members.2.1]
        exact outcome_misfit rfl
    | _ => exact outcome_misfit rfl

end Reader

/-! ## Members -/

/-- What is made of the members of an object, which are seen by their keys. -/
abbrev View (α : Type) := (String → Option Json) → Option α

namespace View

/-- What is made of one member, and what stands for it if it is absent. -/
def field (name : String) (f : Json → Option α) (absence : Option α) : View α := fun look =>
  match look name with
  | some v => f v
  | none => absence

/-- The view seen through a function. -/
def map (g : View α) (f : α → β) : View β := fun look => (g look).map f

/-- One view, then another. -/
def and (g : View (α → β)) (h : View α) : View β := fun look => (g look).bind fun f => (h look).map f

/-- The view looks at no other keys. -/
def Confined (g : View α) (keys : List String) : Prop :=
  ∀ look look' : String → Option Json, (∀ key ∈ keys, look key = look' key) → g look = g look'

/-- A field looks at its own key only. -/
theorem confined_field (name : String) (f : Json → Option α) (absence : Option α) :
    (field name f absence).Confined [name] := by
  intro look look' h
  unfold field
  rw [h name List.mem_cons_self]

theorem Confined.map {g : View α} {keys : List String} (h : g.Confined keys) (f : α → β) :
    (g.map f).Confined keys := by
  intro look look' hsame
  unfold View.map
  rw [h look look' hsame]

/-- Two parts of a record look at the keys of both. -/
theorem Confined.and {g : View (α → β)} {g' : View α} {keys keys' : List String}
    (h : g.Confined keys) (h' : g'.Confined keys') : (g.and g').Confined (keys ++ keys') := by
  intro look look' hsame
  unfold View.and
  obtain ⟨hkeys, hkeys'⟩ := List.forall_mem_append.mp hsame
  rw [h look look' hkeys, h' look look' hkeys']

end View

/-- The members put in order, seen by their keys. -/
def seen (ms : List (String × Json)) (key : String) : Option Json := (find? key ms).map sorted

/-- Members in order are seen as they are in the text, if no key is repeated. -/
theorem find?_ordered_sortedMembers {ms : List (String × Json)} (h : (ms.map Prod.fst).Nodup) :
    (fun key => find? key (ordered (sortedMembers ms))) = seen ms := by
  funext key
  rw [find?_ordered key (by rw [keys_sortedMembers]; exact h), find?_sortedMembers]
  rfl

/-- Members may be put in order before some are taken out, or afterwards. -/
theorem ordered_filter {ms : List (String × Json)} (h : (ms.map Prod.fst).Nodup) (q : String → Bool) :
    ordered (sortedMembers (ms.filter fun m => q m.1)) =
      (ordered (sortedMembers ms)).filter fun m => q m.1 := by
  refine (ascending_ordered _).ext ?_ fun key => ?_
  · exact ascending_iff.mpr ((ascending_iff.mp (ascending_ordered _)).filter _)
  · have hleft := congrFun (find?_ordered_sortedMembers (nodup_filter h fun m => q m.1)) key
    have hright := congrFun (find?_ordered_sortedMembers h) key
    rw [find?_filter q, hright]
    refine hleft.trans ?_
    unfold seen
    rw [find?_filter q]
    split <;> rfl

/-- Members in order are seen as they stand. -/
theorem seen_of_ordered {ms : List (String × Json)} (h : OrderedMembers ms) :
    seen ms = fun key => find? key ms := by
  funext key
  unfold seen
  rw [← find?_sortedMembers, sortedMembers_of_ordered ms h]

namespace Schema

variable {s : Schema α} {g : View α}

/-- The fields make of the members of every object what `g` makes of them, and a reader of one field
    finds in a regular value what it may find. -/
structure Means (s : Schema α) (p : Place) (g : View α) : Prop where
  members : ∀ ms : List (String × Json), (ms.map Prod.fst).Nodup → (∀ m ∈ ms, m.2.Regular p.room) →
    Outcome p (g (seen ms)) (s.ofMembers p (toTreeMembers ms))
  content : ∀ field ∈ s.fields, ∀ v : Json, v.Regular p.room →
    ∀ f, field.2 p v.toTree = .error f → Complaint p f

/-- A field is read as its value, or as what stands for its absence. -/
theorem means_field {r : Reader α} {f : Json → Option α} (h : r.Means p f) (name : String)
    (absence : Absence α) : (field name r absence).Means p (View.field name f absence.value?) := by
  constructor
  · intro ms _ hms
    unfold View.field seen field
    dsimp only
    rw [find?_toTreeMembers]
    cases hfind : Json.find? name ms with
    | some v => exact h v (hms _ (Json.mem_of_find? hfind))
    | none => cases absence <;> first | exact outcome_misfit rfl | exact outcome_some _
  · intro field hfield v hv f hf
    obtain rfl := List.mem_singleton.mp hfield
    have hf : (r p v.toTree).map (fun _ => ()) = .error f := hf
    cases hread : r p v.toTree with
    | error f' =>
      rw [hread] at hf
      obtain rfl := Except.error.inj hf
      exact ((h v hv).error hread).2
    | ok a =>
      rw [hread] at hf
      cases hf

/-- A record through a function means what the record means, through the function. -/
theorem Means.map (h : s.Means p g) (f : α → β) : (s.map f).Means p (g.map f) := by
  refine ⟨fun ms hnodup hms => ?_, h.content⟩
  have hread : (s.map f).ofMembers p (toTreeMembers ms) = (s.ofMembers p (toTreeMembers ms)).map f := by
    unfold Schema.map
    dsimp only
    cases s.ofMembers p (toTreeMembers ms) <;> rfl
  rw [hread]
  exact (h.members ms hnodup hms).map f

/-- A record is read if each of its parts is. -/
theorem Means.and {s : Schema (α → β)} {t : Schema α} {g : View (α → β)} {g' : View α}
    (hs : s.Means p g) (ht : t.Means p g') : (s.and t).Means p (g.and g') := by
  refine ⟨fun ms hnodup hms => ?_, ?_⟩
  · have hread : (s.and t).ofMembers p (toTreeMembers ms) =
        (s.ofMembers p (toTreeMembers ms)).bind fun f => (t.ofMembers p (toTreeMembers ms)).map f := by
      unfold Schema.and
      dsimp only
      cases s.ofMembers p (toTreeMembers ms) with
      | error e => rfl
      | ok f => cases t.ofMembers p (toTreeMembers ms) <;> rfl
    rw [hread]
    exact (hs.members ms hnodup hms).seq (ht.members ms hnodup hms) id
  · intro field hfield
    rcases List.mem_append.mp hfield with hfield | hfield
    · exact hs.content field hfield
    · exact ht.content field hfield

/-- What the checks of an object find in regular members is a complaint. -/
theorem complaint_of_check {fields : List (String × (Place → Tree → Except Fault Unit))}
    {other : Tree → Option Fault} {ms : List (String × Json)}
    (hcontent : ∀ field ∈ fields, ∀ m ∈ ms, ∀ f, field.2 p m.2.toTree = .error f → Complaint p f)
    (hother : ∀ m ∈ ms, other m.2.toTree = none) {f : Fault} :
    ∀ seen, check fields other p seen (toTreeMembers ms) = .error f → Complaint p f := by
  induction ms with
  | nil =>
    intro seen hcheck
    cases hcheck
  | cons m ms ih =>
    intro seen hcheck
    have ih := ih (fun field hfield m' hm' => hcontent field hfield m' (List.mem_cons_of_mem m hm'))
      fun m' hm' => hother m' (List.mem_cons_of_mem m hm')
    rw [toTreeMembers, check] at hcheck
    split at hcheck
    · rename_i content hlookup
      split at hcheck
      · obtain rfl := Except.error.inj hcheck
        exact Or.inr ⟨_, rfl, rfl⟩
      · split at hcheck
        · rename_i f' hf'
          obtain rfl := Except.error.inj hcheck
          obtain ⟨before, after, heq, -⟩ := List.lookup_eq_some_iff.mp hlookup
          exact hcontent (m.1, content) (by rw [heq]; simp) m List.mem_cons_self _ hf'
        · exact ih _ hcheck
    · rw [hother m List.mem_cons_self] at hcheck
      exact ih seen hcheck

/-- The checks of an object find what they may find, or nothing. -/
theorem Means.check (h : s.Means p g) (other : Tree → Option Fault) {ms : List (String × Json)}
    (hms : ∀ m ∈ ms, m.2.Regular p.room) (hother : ∀ m ∈ ms, other m.2.toTree = none) {f : Fault}
    (hcheck : Schema.check s.fields other p [] (toTreeMembers ms) = .error f) : Complaint p f :=
  complaint_of_check (fun field hfield m hm => h.content field hfield m.2 (hms m hm)) hother [] hcheck

/-- **A record means what its fields mean**, if it is given as an object. -/
theorem Means.reader (h : s.Means p.inside g) (hs : s.Lawful) (name : String)
    {ms : List (String × Json)} (hregular : (Json.object ms).Regular p.room) :
    Outcome p (g (seen ms)) (s.reader name p (Json.object ms).toTree) := by
  obtain ⟨hroom, hnodup, hms⟩ := hregular.members
  have hmembers := h.members ms hnodup hms
  cases hg : g (seen ms) with
  | some a => exact reader_of_ofMembers hs hnodup hroom (hmembers.ok_iff.mpr hg)
  | none =>
    rw [hg] at hmembers
    obtain ⟨f, hf, hcomplaint⟩ := hmembers
    rw [toTree, Schema.reader, if_neg hroom, readMembers]
    cases hcheck : Schema.check s.fields Tree.skim p.inside [] (toTreeMembers ms) with
    | error f' =>
      exact outcome_none (h.check Tree.skim hms (fun m _ => skim_toTree m.2) hcheck)
    | ok _ =>
      dsimp only [Option.map_none]
      rw [hf]
      exact outcome_none hcomplaint

/-- What a record that keeps further members makes of a value. -/
def kept (s : Schema (List (String × Json) → α)) (g : View (List (String × Json) → α)) :
    Json → Option α
  | .object ms =>
    (g fun key => Json.find? key ms).map fun make =>
      make (ms.filter fun m => (s.fields.lookup m.1).isNone)
  | _ => none

/-- **A record that keeps further members** means what its fields mean, with the others in order. -/
theorem Means.openReader {s : Schema (List (String × Json) → α)} {g : View (List (String × Json) → α)}
    (h : s.Means p.inside g) (hs : s.Lawful) (name : String) :
    (s.openReader name).Means p (kept s g) := by
  intro v hv
  cases v with
  | object ms =>
    obtain ⟨hroom, hnodup, hms⟩ := hv.members
    have hmembers := h.members ms hnodup hms
    have hfault : ∀ m ∈ ms, valueFault p.inside.room m.2.toTree = none := fun m hm =>
      valueFault_toTree (hms m hm).depth
    rw [toTree, Schema.openReader, if_neg hroom, sorted, kept, find?_ordered_sortedMembers hnodup]
    dsimp only
    cases hg : g (seen ms) with
    | some make =>
      have hmake := hmembers.ok_iff.mpr hg
      have hdepthMore :
          depthMembers (ms.filter fun m => (s.fields.lookup m.1).isNone) ≤ p.inside.room :=
        depthMembers_le_iff.mpr fun m hm => (hms m (List.mem_of_mem_filter hm)).depth
      rw [hs.check _ hnodup hmake hfault, further_toTreeMembers]
      dsimp only [Option.map_none]
      rw [hmake, toMembers_toTreeMembers p.inside.room _ [] hdepthMore]
      exact congrArg (fun more => Except.ok (make more))
        (ordered_filter hnodup fun key => (s.fields.lookup key).isNone)
    | none =>
      rw [hg] at hmembers
      obtain ⟨f, hf, hcomplaint⟩ := hmembers
      cases hcheck : Schema.check s.fields (valueFault p.inside.room) p.inside []
          (toTreeMembers ms) with
      | error f' => exact outcome_none (h.check _ hms hfault hcheck)
      | ok _ =>
        dsimp only [Option.map_none]
        rw [hf]
        exact outcome_none hcomplaint
  | _ => exact outcome_misfit rfl

end Schema

/-! ## Tagged records -/

/-- **A tagged record is read by the variant of its tag**, from the members beside the tag. -/
theorem Union.reader_eq {variants : List (String × Reader α)} {title tag name : String} {r : Reader α}
    (hr : variants.lookup name = some r) {ms : List (String × Json)}
    (hnodup : (ms.map Prod.fst).Nodup) (hdepth : (Json.object ms).depth ≤ p.room)
    (htag : find? tag ms = some (.text name)) :
    Union.reader title tag variants p (Json.object ms).toTree =
      r { p with source := .gathered } (Json.object (ms.filter fun m => m.1 ≠ tag)).toTree := by
  have hroom : depthMembers ms + 1 ≤ p.room := hdepth
  rw [toTree, Union.reader, if_neg (by omega),
    Union.gather_of_tagged hr hnodup (Nat.le_sub_of_add_le hroom) htag]
  rfl

end Tether.Json
