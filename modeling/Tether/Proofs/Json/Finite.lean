import Tether.Proofs.Decimal
import Tether.Proofs.Json.Spelled

/-!
# `Tether.Proofs.Json.Finite` — the numbers of a text are finite

A numeral that would be infinite has no value, and every other one is a finite double or a whole number.
So every number inside a value that a text spells is finite, and stays so when the value is put in order.

* `Numeral.isFinite_of_value?` — a numeral stands for a finite number, or for none;
* `Spells.finite`, `finite_of_parse` — **the value of a text holds finite numbers only**.
-/

namespace Tether.Json

mutual

/-- Every number inside the value is finite. -/
def Finite : Json → Prop
  | .number n => n.isFinite = true
  | .list items => FiniteItems items
  | .object members => FiniteMembers members
  | _ => True

/-- Every number inside the items is finite. -/
def FiniteItems : List Json → Prop
  | [] => True
  | v :: rest => Finite v ∧ FiniteItems rest

/-- Every number inside the members is finite. -/
def FiniteMembers : List (String × Json) → Prop
  | [] => True
  | (_, v) :: rest => Finite v ∧ FiniteMembers rest

end

theorem finiteMembers_iff {ms : List (String × Json)} :
    FiniteMembers ms ↔ ∀ m ∈ ms, m.2.Finite := by
  induction ms with
  | nil => simp [FiniteMembers]
  | cons m ms ih => rw [FiniteMembers, ih, List.forall_mem_cons]

mutual

/-- Putting a value in order brings in no other number. -/
theorem finite_sorted : ∀ v : Json, v.Finite → v.sorted.Finite
  | .null, _ => trivial
  | .bool _, _ => trivial
  | .number _, h => h
  | .text _, _ => trivial
  | .list items, h => finiteItems_sortedItems items h
  | .object members, h => finiteMembers_iff.mpr fun m hm =>
    finiteMembers_iff.mp (finiteMembers_sortedMembers members h) m (mem_of_mem_ordered hm)

theorem finiteItems_sortedItems : ∀ vs : List Json, FiniteItems vs → FiniteItems (sortedItems vs)
  | [], _ => trivial
  | v :: vs, h => ⟨finite_sorted v h.1, finiteItems_sortedItems vs h.2⟩

theorem finiteMembers_sortedMembers :
    ∀ ms : List (String × Json), FiniteMembers ms → FiniteMembers (sortedMembers ms)
  | [], _ => trivial
  | (_, v) :: ms, h => ⟨finite_sorted v h.1, finiteMembers_sortedMembers ms h.2⟩

end

/-! ## From numerals to texts -/

theorem Numeral.isFinite_of_real? {n : Numeral} {x : Binary64} (h : n.real? = some x) :
    x.isFinite = true := by
  unfold real? at h
  dsimp only at h
  split at h
  · exact Binary64.isFinite_of_scale10 h
  · -- an exponent beyond all bounds leaves zero or nothing
    split at h
    · cases h
    · cases h
      exact Binary64.isFinite_zero _

/-- **A numeral stands for a finite number**, or for none. -/
theorem Numeral.isFinite_of_value? {n : Numeral} {x : Number} (h : n.value? = some x) :
    x.isFinite = true := by
  unfold value? at h
  split at h
  · cases h
    rfl
  · obtain ⟨y, hy, rfl⟩ := Option.map_eq_some_iff.mp h
    exact isFinite_of_real? hy

namespace Grammar

mutual

theorem Value.finite {cs rest : List Char} : ∀ {v : Json}, Value cs v rest → v.Finite
  | .null, _ => trivial
  | .bool _, _ => trivial
  | .number _, .number _ hx => Numeral.isFinite_of_value? hx
  | .text _, _ => trivial
  | .list _, .emptyList _ => trivial
  | .list _, .list h => h.finite
  | .object _, .emptyObject _ => trivial
  | .object _, .object h => h.finite

theorem Items.finite {cs rest : List Char} : ∀ {vs : List Json}, Items cs vs rest → FiniteItems vs
  | _, .last _ hv _ => ⟨hv.finite, trivial⟩
  | _, .next _ hv _ hvs => ⟨hv.finite, hvs.finite⟩

theorem Members.finite {cs rest : List Char} :
    ∀ {ms : List (String × Json)}, Members cs ms rest → FiniteMembers ms
  | _, .last (.mk _ _ _ _ hv) _ => ⟨hv.finite, trivial⟩
  | _, .next (.mk _ _ _ _ hv) _ hms => ⟨hv.finite, hms.finite⟩

end

end Grammar

/-- **What a text spells holds finite numbers only.** -/
theorem Spells.finite {s : String} {v : Json} (h : Spells s v) : v.Finite := by
  obtain ⟨_, _, -, hv, -⟩ := h
  exact hv.finite

/-- The value of a text holds finite numbers only. -/
theorem finite_of_parse {s : String} {v : Json} (h : parse s = .ok v) : v.Finite := by
  obtain ⟨w, hw, -, rfl⟩ := parse_eq_ok_iff.mp h
  exact finite_sorted w hw.finite

end Tether.Json
