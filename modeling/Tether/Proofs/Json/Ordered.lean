import Mathlib.Data.List.Nodup
import Tether.Proofs.Json.Printed

/-!
# `Tether.Proofs.Json.Ordered` — objects in order

An ordered object is known from its lookups, and putting members in order keeps what is found. So the
value of a text is the value that was printed, with every object put in order: the order in which
members were written is the only thing that reading forgets.

* `find?_insert`, `find?_ordered` — what is found in an object that was put in order;
* `Ascending.ext` — ordered objects with the same lookups are the same;
* `ordered_sorted`, `sorted_of_ordered`, `depth_sorted_le` — the value put in order;
* `toJson_toTree`, `Tree.fits_of_toJson` — every value that is read is in order, and no deeper than it
  may be;
* `parse_render` — **the value of a printed text** is the value that was printed, put in order.
-/

namespace Tether.Json

/-! ## Items and members by membership -/

theorem sortedMembers_eq_map (ms : List (String × Json)) :
    sortedMembers ms = ms.map fun m => (m.1, m.2.sorted) := by
  induction ms with
  | nil => rfl
  | cons m ms ih => rw [sortedMembers, ih]; rfl

theorem toTreeMembers_eq_map (ms : List (String × Json)) :
    toTreeMembers ms = ms.map fun m => (some m.1, m.2.toTree) := by
  induction ms with
  | nil => rfl
  | cons m ms ih => rw [toTreeMembers, ih]; rfl

theorem orderedMembers_iff {ms : List (String × Json)} :
    OrderedMembers ms ↔ ∀ m ∈ ms, m.2.Ordered := by
  induction ms with
  | nil => simp [OrderedMembers]
  | cons m ms ih => rw [OrderedMembers, ih, List.forall_mem_cons]

theorem exactMembers_iff {ms : List (String × Json)} : ExactMembers ms ↔ ∀ m ∈ ms, m.2.Exact := by
  induction ms with
  | nil => simp [ExactMembers]
  | cons m ms ih => rw [ExactMembers, ih, List.forall_mem_cons]

theorem depthMembers_le_iff {ms : List (String × Json)} {n : Nat} :
    depthMembers ms ≤ n ↔ ∀ m ∈ ms, m.2.depth ≤ n := by
  induction ms with
  | nil => simp [depthMembers]
  | cons m ms ih => rw [depthMembers, Nat.max_le, ih, List.forall_mem_cons]

/-- Ascending keys ascend between any two members, not just between neighbours. -/
theorem ascending_iff {ms : List (String × Json)} :
    Ascending ms ↔ ms.Pairwise fun a b => a.1 < b.1 := by
  induction ms with
  | nil => exact iff_of_true trivial List.Pairwise.nil
  | cons m ms ih =>
    rw [List.pairwise_cons, ← ih]
    cases ms with
    | nil => exact iff_of_true trivial ⟨fun _ h => absurd h List.not_mem_nil, trivial⟩
    | cons m' ms =>
      refine ⟨fun ⟨hlt, hrest⟩ => ⟨?_, hrest⟩, fun ⟨hlt, hrest⟩ => ⟨hlt _ List.mem_cons_self, hrest⟩⟩
      -- what is above the second key is above the first
      have hall := List.pairwise_cons.mp (ih.mp hrest)
      exact List.forall_mem_cons.mpr ⟨hlt, fun m hm => String.lt_trans hlt (hall.1 m hm)⟩

/-- Ascending keys are different. -/
theorem Ascending.nodup {ms : List (String × Json)} (h : Ascending ms) : (ms.map Prod.fst).Nodup := by
  rw [List.Nodup, List.pairwise_map]
  refine (ascending_iff.mp h).imp ?_
  intro a b hlt heq
  rw [heq] at hlt
  exact String.lt_irrefl _ hlt

/-! ## Lookups -/

/-- What is found is a member. -/
theorem mem_of_find? {key : String} {v : Json} {ms : List (String × Json)}
    (h : find? key ms = some v) : (key, v) ∈ ms := by
  induction ms with
  | nil => exact nomatch h
  | cons m ms ih =>
    rw [find?] at h
    split at h
    · obtain rfl := Option.some.inj h
      subst key
      exact List.mem_cons_self
    · exact List.mem_cons_of_mem _ (ih h)

/-- Every member is found, if keys are different. -/
theorem find?_of_mem {key : String} {v : Json} {ms : List (String × Json)}
    (hnodup : (ms.map Prod.fst).Nodup) (h : (key, v) ∈ ms) : find? key ms = some v := by
  induction ms with
  | nil => exact absurd h List.not_mem_nil
  | cons m ms ih =>
    obtain ⟨hnotin, hrest⟩ := List.nodup_cons.mp hnodup
    rw [find?]
    rcases List.mem_cons.mp h with rfl | h
    · exact if_pos rfl
    · rw [if_neg fun heq => hnotin (List.mem_map.mpr ⟨_, h, heq.symm⟩), ih hrest h]

/-- Nothing is found for a key that is no key of a member. -/
theorem find?_eq_none {key : String} {ms : List (String × Json)} :
    find? key ms = none ↔ key ∉ ms.map Prod.fst := by
  induction ms with
  | nil => exact iff_of_true rfl List.not_mem_nil
  | cons m ms ih =>
    rw [find?, List.map_cons, List.mem_cons, not_or, ← ih]
    split
    · exact iff_of_false (Option.some_ne_none _) fun h => h.1 (by simp [*])
    · exact ⟨fun h => ⟨fun heq => ‹¬_› heq.symm, h⟩, fun h => h.2⟩

/-- The first of two lists of members is searched first. -/
@[simp] theorem find?_append (key : String) (ms ns : List (String × Json)) :
    find? key (ms ++ ns) = (find? key ms).or (find? key ns) := by
  induction ms with
  | nil => rfl
  | cons m ms ih =>
    rw [List.cons_append, find?, find?, ih]
    split <;> rfl

/-- What is done to all values is done to the one that is found. -/
theorem find?_map (f : Json → Json) (key : String) (ms : List (String × Json)) :
    find? key (ms.map fun m => (m.1, f m.2)) = (find? key ms).map f := by
  induction ms with
  | nil => rfl
  | cons m ms ih =>
    rw [List.map_cons, find?, find?, ih]
    split <;> rfl

/-- Members that are left out by their keys are not found, and the others are. -/
theorem find?_filter (q : String → Bool) (key : String) (ms : List (String × Json)) :
    find? key (ms.filter fun m => q m.1) = if q key then find? key ms else none := by
  induction ms with
  | nil => rw [List.filter_nil, find?, ite_self]
  | cons m ms ih =>
    rw [List.filter_cons]
    by_cases heq : m.1 = key
    · subst key
      by_cases hq : q m.1 = true
      · rw [if_pos hq, if_pos hq, find?, find?, if_pos rfl, if_pos rfl]
      · rw [if_neg hq, ih, if_neg hq, if_neg hq]
    · split
      · rw [find?, if_neg heq, ih, find?, if_neg heq]
      · rw [ih, find?, if_neg heq]

/-- Leaving out members repeats no key. -/
theorem nodup_filter {ms : List (String × Json)} (h : (ms.map Prod.fst).Nodup)
    (q : String × Json → Bool) : ((ms.filter q).map Prod.fst).Nodup :=
  h.sublist (List.filter_sublist.map Prod.fst)

/-- The value that is found is put in order like the others. -/
theorem find?_sortedMembers (key : String) (ms : List (String × Json)) :
    find? key (sortedMembers ms) = (find? key ms).map sorted := by
  rw [sortedMembers_eq_map, find?_map]

theorem keys_sortedMembers (ms : List (String × Json)) :
    (sortedMembers ms).map Prod.fst = ms.map Prod.fst := by
  rw [sortedMembers_eq_map, List.map_map]; rfl

/-- A member that is put in is found, and the others are as before. -/
theorem find?_insert (key k : String) (v : Json) (ms : List (String × Json)) :
    find? key (insert k v ms) = if k = key then some v else find? key ms := by
  induction ms with
  | nil => rfl
  | cons m ms ih =>
    rw [insert]
    split
    · rfl
    split
    · subst k
      rw [find?, find?]
      split <;> rfl
    · rename_i hne
      rw [find?, ih, find?]
      split
      · rw [if_neg fun h => hne (h.trans (Eq.symm ‹_›))]
      · rfl

/-- Putting distinct members in order keeps what is found. -/
theorem find?_foldl_insert (key : String) {ms : List (String × Json)}
    (h : (ms.map Prod.fst).Nodup) (acc : List (String × Json)) :
    find? key (ms.foldl (fun acc m => insert m.1 m.2 acc) acc) =
      (find? key ms).or (find? key acc) := by
  induction ms generalizing acc with
  | nil => rfl
  | cons m ms ih =>
    obtain ⟨hnotin, hrest⟩ := List.nodup_cons.mp h
    rw [List.foldl_cons, ih hrest, find?_insert, find?]
    split
    · subst key
      rw [find?_eq_none.mpr hnotin]; rfl
    · rfl

/-- Members in order are found as before. -/
theorem find?_ordered (key : String) {ms : List (String × Json)} (h : (ms.map Prod.fst).Nodup) :
    find? key (ordered ms) = find? key ms := by
  rw [ordered, find?_foldl_insert key h, find?, Option.or_none]

/-! ## Order -/

theorem mem_insert {k : String} {v : Json} {m : String × Json} {ms : List (String × Json)}
    (h : m ∈ insert k v ms) : m = (k, v) ∨ m ∈ ms := by
  induction ms with
  | nil => exact Or.inl (List.mem_singleton.mp h)
  | cons m' ms ih =>
    rw [insert] at h
    split at h
    · exact List.mem_cons.mp h
    split at h
    · exact (List.mem_cons.mp h).imp_right (List.mem_cons_of_mem _)
    · rcases List.mem_cons.mp h with rfl | h
      · exact Or.inr List.mem_cons_self
      · exact (ih h).imp_right (List.mem_cons_of_mem _)

/-- A member goes in where its key belongs. -/
theorem Ascending.insert {ms : List (String × Json)} (h : Ascending ms) (k : String) (v : Json) :
    Ascending (insert k v ms) := by
  rw [ascending_iff] at h ⊢
  induction ms with
  | nil => exact List.pairwise_singleton _ _
  | cons m ms ih =>
    obtain ⟨hlt, hrest⟩ := List.pairwise_cons.mp h
    rw [Json.insert]
    split
    · rename_i hk
      exact h.cons (List.forall_mem_cons.mpr ⟨hk, fun m hm => String.lt_trans hk (hlt m hm)⟩)
    split
    · subst k
      exact hrest.cons hlt
    · rename_i hnlt hne
      have hk : m.1 < k := by
        rcases String.le_total m.1 k with hle | hle
        · exact String.not_le.mp fun hge => hne (String.le_antisymm hge hle)
        · exact absurd (String.not_le.mp fun hge => hne (String.le_antisymm hle hge)) hnlt
      exact (ih hrest).cons fun m' hm' => (mem_insert hm').elim (fun heq => heq ▸ hk) (hlt m')

theorem Ascending.foldl_insert {ms : List (String × Json)} (h : Ascending ms)
    (ns : List (String × Json)) : Ascending (ns.foldl (fun acc m => Json.insert m.1 m.2 acc) ms) := by
  induction ns generalizing ms with
  | nil => exact h
  | cons n ns ih => exact ih (h.insert n.1 n.2)

/-- Members in order ascend by their keys. -/
theorem ascending_ordered (ms : List (String × Json)) : Ascending (ordered ms) :=
  Ascending.foldl_insert (show Ascending [] from trivial) ms

/-- **An ordered object is known from its lookups.** -/
theorem Ascending.ext {ms ns : List (String × Json)} (hms : Ascending ms) (hns : Ascending ns)
    (h : ∀ key, find? key ms = find? key ns) : ms = ns := by
  have hmem : ∀ m, m ∈ ms ↔ m ∈ ns := fun m =>
    ⟨fun hm => mem_of_find? ((h m.1).symm.trans (find?_of_mem hms.nodup hm)),
      fun hm => mem_of_find? ((h m.1).trans (find?_of_mem hns.nodup hm))⟩
  have hperm : ms.Perm ns := (List.perm_ext_iff_of_nodup
    hms.nodup.of_map hns.nodup.of_map).mpr hmem
  exact hperm.eq_of_pairwise (fun a b _ _ hab hba => absurd hba (String.lt_asymm hab))
    (ascending_iff.mp hms) (ascending_iff.mp hns)

/-- Members that ascend are in order already. -/
theorem ordered_of_ascending {ms : List (String × Json)} (h : Ascending ms) : ordered ms = ms :=
  (ascending_ordered ms).ext h fun key => find?_ordered key h.nodup

theorem mem_foldl_insert {m : String × Json} {ms acc : List (String × Json)}
    (h : m ∈ ms.foldl (fun acc m => insert m.1 m.2 acc) acc) : m ∈ acc ∨ m ∈ ms := by
  induction ms generalizing acc with
  | nil => exact Or.inl h
  | cons n ms ih =>
    rcases ih h with h | h
    · exact (mem_insert h).elim (fun heq => Or.inr (heq ▸ List.mem_cons_self)) Or.inl
    · exact Or.inr (List.mem_cons_of_mem _ h)

/-- Nothing is put in that was not there. -/
theorem mem_of_mem_ordered {m : String × Json} {ms : List (String × Json)} (h : m ∈ ordered ms) :
    m ∈ ms :=
  (mem_foldl_insert h).resolve_left List.not_mem_nil

/-! ## Values put in order -/

mutual

/-- A value that was put in order is in order. -/
theorem ordered_sorted : ∀ v : Json, v.sorted.Ordered
  | .null => trivial
  | .bool _ => trivial
  | .number _ => trivial
  | .text _ => trivial
  | .list items => orderedItems_sortedItems items
  | .object members =>
    ⟨ascending_ordered _, orderedMembers_iff.mpr fun m hm =>
      orderedMembers_iff.mp (orderedMembers_sortedMembers members) m (mem_of_mem_ordered hm)⟩

theorem orderedItems_sortedItems : ∀ vs : List Json, OrderedItems (sortedItems vs)
  | [] => trivial
  | v :: vs => ⟨ordered_sorted v, orderedItems_sortedItems vs⟩

theorem orderedMembers_sortedMembers :
    ∀ ms : List (String × Json), OrderedMembers (sortedMembers ms)
  | [] => trivial
  | (_, v) :: ms => ⟨ordered_sorted v, orderedMembers_sortedMembers ms⟩

end

mutual

/-- A value in order stays as it is. -/
theorem sorted_of_ordered : ∀ v : Json, v.Ordered → v.sorted = v
  | .null, _ => rfl
  | .bool _, _ => rfl
  | .number _, _ => rfl
  | .text _, _ => rfl
  | .list items, h => by rw [sorted, sortedItems_of_ordered items h]
  | .object members, h => by
    rw [sorted, sortedMembers_of_ordered members h.2, ordered_of_ascending h.1]

theorem sortedItems_of_ordered : ∀ vs : List Json, OrderedItems vs → sortedItems vs = vs
  | [], _ => rfl
  | v :: vs, h => by rw [sortedItems, sorted_of_ordered v h.1, sortedItems_of_ordered vs h.2]

theorem sortedMembers_of_ordered :
    ∀ ms : List (String × Json), OrderedMembers ms → sortedMembers ms = ms
  | [], _ => rfl
  | (_, v) :: ms, h => by
    rw [sortedMembers, sorted_of_ordered v h.1, sortedMembers_of_ordered ms h.2]

end

mutual

/-- Putting a value in order makes it no deeper. -/
theorem depth_sorted_le : ∀ v : Json, v.sorted.depth ≤ v.depth
  | .null => le_rfl
  | .bool _ => le_rfl
  | .number _ => le_rfl
  | .text _ => le_rfl
  | .list items => Nat.succ_le_succ (depthItems_sortedItems_le items)
  | .object members => by
    refine Nat.succ_le_succ (le_trans ?_ (depthMembers_sortedMembers_le members))
    exact depthMembers_le_iff.mpr fun m hm =>
      depthMembers_le_iff.mp le_rfl m (mem_of_mem_ordered hm)

theorem depthItems_sortedItems_le : ∀ vs : List Json, depthItems (sortedItems vs) ≤ depthItems vs
  | [] => le_rfl
  | v :: vs => max_le_max (depth_sorted_le v) (depthItems_sortedItems_le vs)

theorem depthMembers_sortedMembers_le :
    ∀ ms : List (String × Json), depthMembers (sortedMembers ms) ≤ depthMembers ms
  | [] => le_rfl
  | (_, v) :: ms => max_le_max (depth_sorted_le v) (depthMembers_sortedMembers_le ms)

end

mutual

/-- Putting a value in order brings in no double. -/
theorem exact_sorted : ∀ v : Json, v.Exact → v.sorted.Exact
  | .null, _ => trivial
  | .bool _, _ => trivial
  | .number _, h => h
  | .text _, _ => trivial
  | .list items, h => exactItems_sortedItems items h
  | .object members, h => exactMembers_iff.mpr fun m hm =>
    exactMembers_iff.mp (exactMembers_sortedMembers members h) m (mem_of_mem_ordered hm)

theorem exactItems_sortedItems : ∀ vs : List Json, ExactItems vs → ExactItems (sortedItems vs)
  | [], _ => trivial
  | v :: vs, h => ⟨exact_sorted v h.1, exactItems_sortedItems vs h.2⟩

theorem exactMembers_sortedMembers :
    ∀ ms : List (String × Json), ExactMembers ms → ExactMembers (sortedMembers ms)
  | [], _ => trivial
  | (_, v) :: ms, h => ⟨exact_sorted v h.1, exactMembers_sortedMembers ms h.2⟩

end

/-! ## Trees and values -/

mutual

/-- The value of a value's tree is the value put in order. -/
theorem toJson_toTree (room : Nat) : ∀ v : Json, v.depth ≤ room → v.toTree.toJson room = .ok v.sorted
  | .null, _ => rfl
  | .bool _, _ => rfl
  | .number _, _ => rfl
  | .text _, _ => rfl
  | .list items, h => by
    obtain ⟨room, rfl⟩ := Nat.exists_eq_add_of_le' (le_trans (Nat.le_add_left 1 _) h)
    rw [toTree, Tree.toJson, toItems_toTrees room items (Nat.le_of_succ_le_succ h), sorted]
  | .object members, h => by
    obtain ⟨room, rfl⟩ := Nat.exists_eq_add_of_le' (le_trans (Nat.le_add_left 1 _) h)
    rw [toTree, Tree.toJson, toMembers_toTreeMembers room members [] (Nat.le_of_succ_le_succ h),
      sorted]
    rfl

theorem toItems_toTrees (room : Nat) : ∀ vs : List Json, depthItems vs ≤ room →
    Tree.toItems room (toTrees vs) = .ok (sortedItems vs)
  | [], _ => rfl
  | v :: vs, h => by
    obtain ⟨hv, hvs⟩ := Nat.max_le.mp h
    rw [toTrees, Tree.toItems, toJson_toTree room v hv]
    dsimp only
    rw [toItems_toTrees room vs hvs, sortedItems]

theorem toMembers_toTreeMembers (room : Nat) : ∀ (ms acc : List (String × Json)),
    depthMembers ms ≤ room → Tree.toMembers room acc (toTreeMembers ms) =
      .ok ((sortedMembers ms).foldl (fun acc m => insert m.1 m.2 acc) acc)
  | [], _, _ => rfl
  | (k, v) :: ms, acc, h => by
    obtain ⟨hv, hms⟩ := Nat.max_le.mp h
    rw [toTreeMembers, Tree.toMembers, toJson_toTree room v hv]
    exact toMembers_toTreeMembers room ms (insert k v.sorted acc) hms

end

/-- A value in order, no deeper than `room`. -/
def Fits (room : Nat) (v : Json) : Prop := v.Ordered ∧ v.depth ≤ room

/-- An object fits if its keys ascend and its members fit one level inside. -/
theorem fits_object_iff {room : Nat} {ms : List (String × Json)} :
    (Json.object ms).Fits (room + 1) ↔ Ascending ms ∧ ∀ m ∈ ms, m.2.Fits room := by
  constructor
  · rintro ⟨⟨hascending, hordered⟩, hdepth⟩
    have hdepth : depthMembers ms ≤ room := Nat.le_of_succ_le_succ hdepth
    exact ⟨hascending, fun m hm =>
      ⟨orderedMembers_iff.mp hordered m hm, depthMembers_le_iff.mp hdepth m hm⟩⟩
  · rintro ⟨hascending, hfits⟩
    exact ⟨⟨hascending, orderedMembers_iff.mpr fun m hm => (hfits m hm).1⟩,
      Nat.succ_le_succ (depthMembers_le_iff.mpr fun m hm => (hfits m hm).2)⟩

/-- A member that fits leaves an object that fits. -/
theorem Fits.insert {room : Nat} {ms : List (String × Json)}
    (hms : Ascending ms ∧ ∀ m ∈ ms, m.2.Fits room) (k : String) {v : Json} (hv : v.Fits room) :
    Ascending (Json.insert k v ms) ∧ ∀ m ∈ Json.insert k v ms, m.2.Fits room :=
  ⟨hms.1.insert k v, fun m hm => (mem_insert hm).elim (fun heq => heq ▸ hv) (hms.2 m)⟩

mutual

/-- **Every value that is read is in order**, and nests no deeper than it may. -/
theorem Tree.fits_of_toJson (room : Nat) :
    ∀ (t : Tree) (v : Json), t.toJson room = .ok v → v.Fits room
  | .null, v, h => by cases h; exact ⟨trivial, Nat.zero_le _⟩
  | .bool _, v, h => by cases h; exact ⟨trivial, Nat.zero_le _⟩
  | .number (some _), v, h => by cases h; exact ⟨trivial, Nat.zero_le _⟩
  | .number none, v, h => nomatch h
  | .text (some _), v, h => by cases h; exact ⟨trivial, Nat.zero_le _⟩
  | .text none, v, h => nomatch h
  | .broken _, v, h => nomatch h
  | .list items cut, v, h => by
    cases room with
    | zero => exact nomatch h
    | succ room =>
      rw [Tree.toJson] at h
      split at h
      · exact nomatch h
      · rename_i vs hvs
        split at h
        · exact nomatch h
        · cases h
          obtain ⟨hordered, hdepth⟩ := Tree.fits_of_toItems room items vs hvs
          exact ⟨hordered, Nat.succ_le_succ hdepth⟩
  | .object members stray, v, h => by
    cases room with
    | zero => exact nomatch h
    | succ room =>
      rw [Tree.toJson] at h
      split at h
      · exact nomatch h
      · rename_i ms hms
        split at h
        · exact nomatch h
        · cases h
          exact fits_object_iff.mpr (Tree.fits_of_toMembers room members [] ms
            ⟨trivial, fun _ hm => absurd hm List.not_mem_nil⟩ hms)

theorem Tree.fits_of_toItems (room : Nat) : ∀ (ts : List Tree) (vs : List Json),
    Tree.toItems room ts = .ok vs → OrderedItems vs ∧ depthItems vs ≤ room
  | [], vs, h => by cases h; exact ⟨trivial, Nat.zero_le _⟩
  | t :: ts, vs, h => by
    rw [Tree.toItems] at h
    split at h
    · exact nomatch h
    · rename_i v hv
      split at h
      · exact nomatch h
      · rename_i vs' hvs
        cases h
        obtain ⟨hordered, hdepth⟩ := Tree.fits_of_toJson room t v hv
        obtain ⟨hordereds, hdepths⟩ := Tree.fits_of_toItems room ts vs' hvs
        exact ⟨⟨hordered, hordereds⟩, Nat.max_le.mpr ⟨hdepth, hdepths⟩⟩

theorem Tree.fits_of_toMembers (room : Nat) : ∀ (ts : List (Option String × Tree))
    (acc ms : List (String × Json)), Ascending acc ∧ (∀ m ∈ acc, m.2.Fits room) →
    Tree.toMembers room acc ts = .ok ms → Ascending ms ∧ ∀ m ∈ ms, m.2.Fits room
  | [], acc, ms, hacc, h => by cases h; exact hacc
  | (none, _) :: _, acc, ms, hacc, h => nomatch h
  | (some k, t) :: ts, acc, ms, hacc, h => by
    rw [Tree.toMembers] at h
    split at h
    · exact nomatch h
    · rename_i v hv
      exact Tree.fits_of_toMembers room ts _ ms
        (Fits.insert hacc k (Tree.fits_of_toJson room t v hv)) h

end

/-- A fitting value is read as it is. -/
theorem Fits.toJson_eq {room : Nat} {v : Json} (h : v.Fits room) : v.toTree.toJson room = .ok v := by
  rw [toJson_toTree room v h.2, sorted_of_ordered v h.1]

/-! ## Printed and parsed -/

/-- **The value of a printed text is the value that was printed, put in order.** -/
theorem parse_render {v : Json} (hv : v.Exact) (hdepth : v.depth ≤ maxDepth) :
    parse v.render = .ok v.sorted := by
  rw [parse, Document.ofText_render hv, Document.read, toJson_toTree maxDepth v hdepth]
  rfl

/-- The value of a text is in order and nests no deeper than it may. -/
theorem fits_of_parse {s : String} {v : Json} (h : parse s = .ok v) : v.Fits maxDepth := by
  unfold parse Document.read at h
  split at h
  · exact nomatch h
  · rename_i w hw
    split at h
    · exact nomatch h
    · cases h
      exact Tree.fits_of_toJson maxDepth _ _ hw

end Tether.Json
