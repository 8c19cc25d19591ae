import Mathlib.Data.List.Forall2
import Tether.Proofs.Json.Ordered

/-!
# `Tether.Proofs.Json.Reordered` — values up to the order of members

The order of the members of an object carries no meaning, and a reader of records has to do with any.
`Reordered v w` says that `w` is the value `v` with the members of its objects in another order, inside
as well; `Rearranged` says the same of the members of one object. A value is one of its own orders, and
so is the value put in order.

* `Reordered.text` and its like — what a value looks like in another order;
* `Rearranged.find?_some`, `Rearranged.find?_none` — every order has the same members.
-/

namespace Tether.Json

/-! ## Objects without repeated keys -/

mutual

/-- No object inside the value repeats a key. -/
def Distinct : Json → Prop
  | .list items => DistinctItems items
  | .object members => (members.map Prod.fst).Nodup ∧ DistinctMembers members
  | _ => True

/-- No item repeats a key. -/
def DistinctItems : List Json → Prop
  | [] => True
  | v :: rest => Distinct v ∧ DistinctItems rest

/-- The value of no member repeats a key. -/
def DistinctMembers : List (String × Json) → Prop
  | [] => True
  | (_, v) :: rest => Distinct v ∧ DistinctMembers rest

end

theorem distinctMembers_iff {ms : List (String × Json)} :
    DistinctMembers ms ↔ ∀ m ∈ ms, m.2.Distinct := by
  induction ms with
  | nil => simp [DistinctMembers]
  | cons m ms ih => rw [DistinctMembers, ih, List.forall_mem_cons]

mutual

/-- A value in order repeats no key. -/
theorem distinct_of_ordered : ∀ v : Json, v.Ordered → v.Distinct
  | .null, _ => trivial
  | .bool _, _ => trivial
  | .number _, _ => trivial
  | .text _, _ => trivial
  | .list items, h => distinctItems_of_ordered items h
  | .object members, h => ⟨h.1.nodup, distinctMembers_of_ordered members h.2⟩

theorem distinctItems_of_ordered : ∀ vs : List Json, OrderedItems vs → DistinctItems vs
  | [], _ => trivial
  | v :: vs, h => ⟨distinct_of_ordered v h.1, distinctItems_of_ordered vs h.2⟩

theorem distinctMembers_of_ordered :
    ∀ ms : List (String × Json), OrderedMembers ms → DistinctMembers ms
  | [], _ => trivial
  | (_, v) :: ms, h => ⟨distinct_of_ordered v h.1, distinctMembers_of_ordered ms h.2⟩

end

/-! ## Another order -/

/-- `w` is `v` with the members of its objects in another order. -/
structure Reordered (v w : Json) : Prop where
  distinct : w.Distinct
  same : w.sorted = v.sorted

/-- `ns` are the members `ms` in another order, inside as well. -/
structure Rearranged (ms ns : List (String × Json)) : Prop where
  nodup : (ns.map Prod.fst).Nodup
  distinct : DistinctMembers ns
  same : ∀ key, (find? key ns).map sorted = (find? key ms).map sorted

/-- A value is one of its own orders. -/
theorem Reordered.refl {v : Json} (h : v.Distinct) : Reordered v v := ⟨h, rfl⟩

/-- The value put in order is one of its orders. -/
theorem reordered_sorted (v : Json) : Reordered v v.sorted :=
  ⟨distinct_of_ordered _ (ordered_sorted v), sorted_of_ordered _ (ordered_sorted v)⟩

theorem Reordered.null {w : Json} (h : Reordered .null w) : w = .null := by
  cases w <;> cases h.same; rfl

theorem Reordered.ne_null {v w : Json} (h : Reordered v w) (hv : v ≠ .null) : w ≠ .null := by
  rintro rfl
  cases v <;> first | exact hv rfl | cases h.same

theorem Reordered.bool {b : Bool} {w : Json} (h : Reordered (.bool b) w) : w = .bool b := by
  cases w <;> cases h.same; rfl

theorem Reordered.number {n : Number} {w : Json} (h : Reordered (.number n) w) : w = .number n := by
  cases w <;> cases h.same; rfl

theorem Reordered.text {s : String} {w : Json} (h : Reordered (.text s) w) : w = .text s := by
  cases w <;> cases h.same; rfl

/-- Items that agree once they are in order are orders of each other. -/
theorem forall₂_reordered {vs : List Json} : ∀ {ws : List Json}, DistinctItems ws →
    sortedItems ws = sortedItems vs → List.Forall₂ Reordered vs ws := by
  induction vs with
  | nil =>
    intro ws _ hsame
    cases ws with
    | nil => exact .nil
    | cons w ws => exact nomatch hsame
  | cons v vs ih =>
    intro ws hdistinct hsame
    cases ws with
    | nil => exact nomatch hsame
    | cons w ws =>
      obtain ⟨hv, hvs⟩ := List.cons.inj hsame
      exact .cons ⟨hdistinct.1, hv⟩ (ih hdistinct.2 hvs)

/-- A list in another order has the same items in the same places, each in another order. -/
theorem Reordered.list {vs : List Json} {w : Json} (h : Reordered (.list vs) w) :
    ∃ ws, w = .list ws ∧ List.Forall₂ Reordered vs ws := by
  obtain ⟨hdistinct, hsame⟩ := h
  cases w with
  | list ws => exact ⟨ws, rfl, forall₂_reordered hdistinct (Json.list.inj hsame)⟩
  | _ => exact nomatch hsame

/-- An object in another order has its members rearranged. -/
theorem Reordered.object {ms : List (String × Json)} (hms : (ms.map Prod.fst).Nodup) {w : Json}
    (h : Reordered (.object ms) w) : ∃ ns, w = .object ns ∧ Rearranged ms ns := by
  obtain ⟨hdistinct, hsame⟩ := h
  cases w with
  | object ns =>
    refine ⟨ns, rfl, hdistinct.1, hdistinct.2, fun key => ?_⟩
    have hfind := congrArg (find? key) (Json.object.inj hsame)
    rwa [find?_ordered key (by rw [keys_sortedMembers]; exact hdistinct.1),
      find?_ordered key (by rw [keys_sortedMembers]; exact hms), find?_sortedMembers,
      find?_sortedMembers] at hfind
  | _ => exact nomatch hsame

/-- Rearranging the members of an object gives it another order. -/
theorem Rearranged.reordered {ms ns : List (String × Json)} (hms : (ms.map Prod.fst).Nodup)
    (h : Rearranged ms ns) : Reordered (.object ms) (.object ns) := by
  refine ⟨⟨h.nodup, h.distinct⟩, congrArg Json.object ?_⟩
  refine (ascending_ordered _).ext (ascending_ordered _) fun key => ?_
  rw [find?_ordered key (by rw [keys_sortedMembers]; exact h.nodup),
    find?_ordered key (by rw [keys_sortedMembers]; exact hms), find?_sortedMembers,
    find?_sortedMembers, h.same]

/-- What is found among the members is found in every order, in another order. -/
theorem Rearranged.find?_some {ms ns : List (String × Json)} (h : Rearranged ms ns) {key : String}
    {v : Json} (hv : find? key ms = some v) : ∃ w, find? key ns = some w ∧ Reordered v w := by
  have hsame := h.same key
  rw [hv, Option.map_some] at hsame
  obtain ⟨w, hw, hsorted⟩ := Option.map_eq_some_iff.mp hsame
  exact ⟨w, hw, distinctMembers_iff.mp h.distinct _ (mem_of_find? hw), hsorted⟩

/-- A key that is missing is missing in every order. -/
theorem Rearranged.find?_none {ms ns : List (String × Json)} (h : Rearranged ms ns) {key : String}
    (hv : find? key ms = none) : find? key ns = none := by
  have hsame := h.same key
  rw [hv, Option.map_none] at hsame
  exact Option.map_eq_none_iff.mp hsame

end Tether.Json
