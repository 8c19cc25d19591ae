import Tether.Proofs.Json.Records

/-!
# `Tether.Proofs.Json.Abridged` — records with some members left out and others added

A record is written with all its fields. It may be given with fewer, where what is left out is what it
is by default, and with members that nobody knows. `Abridges d v w` says so of any value: `d` is what
stands there by default. It goes on inside the members that are kept, so that one relation serves for a
record and its sections.

* `Abridges.of_filter` — members may be taken out and others added;
* `Reader.Recovers`, `Schema.Recovers` — what is read is not affected; one lemma for each kind of field;
* `Schema.Recovers.reader` — **a record is read off every abridged form of what was written**.
-/

namespace Tether.Json

/-- `w` is `v` with some members left out that are what they are in `d`, and members added with keys that
    `v` does not have; inside the members of `d` as well. -/
inductive Abridges : (d : Option Json) → (v w : Json) → Prop
  /-- Nothing is left out. -/
  | whole (d : Option Json) (v : Json) : Abridges d v v
  /-- The members come in any order. What is left of `fs` is not repeated, and abridged inside; what is
      missing is what it is by default. -/
  | object {ds fs ms : List (String × Json)}
    (once : ((ms.filter fun m => m.1 ∈ fs.map Prod.fst).map Prod.fst).Nodup)
    (kept : ∀ m ∈ fs, ∀ n ∈ ms, m.1 = n.1 → Abridges (find? m.1 ds) m.2 n.2)
    (left : ∀ m ∈ fs, m.1 ∉ ms.map Prod.fst → find? m.1 ds = some m.2) :
    Abridges (some (.object ds)) (.object fs) (.object ms)

/-- The members `ms` are what is left of `fs`, with others. -/
structure AbridgesMembers (ds fs ms : List (String × Json)) : Prop where
  once : ((ms.filter fun m => m.1 ∈ fs.map Prod.fst).map Prod.fst).Nodup
  kept : ∀ m ∈ fs, ∀ n ∈ ms, m.1 = n.1 → Abridges (find? m.1 ds) m.2 n.2
  left : ∀ m ∈ fs, m.1 ∉ ms.map Prod.fst → find? m.1 ds = some m.2

variable {d : Option Json} {v w : Json} {ds fs ms : List (String × Json)}

/-- The value of a key that is not repeated. -/
theorem eq_of_mem_of_nodup (hfs : (fs.map Prod.fst).Nodup) {m n : String × Json} (hm : m ∈ fs)
    (hn : n ∈ fs) (hkey : m.1 = n.1) : m = n := by
  have hvalue : some m.2 = some n.2 := by
    rw [← find?_of_mem hfs (show (m.1, m.2) ∈ fs from hm), hkey]
    exact find?_of_mem hfs (show (n.1, n.2) ∈ fs from hn)
  exact Prod.ext hkey (Option.some.inj hvalue)

theorem abridgesMembers_self (hfs : (fs.map Prod.fst).Nodup) : AbridgesMembers ds fs fs := by
  refine ⟨nodup_filter hfs _, fun m hm n hn hkey => ?_, fun m hm hkey => ?_⟩
  · rw [eq_of_mem_of_nodup hfs hm hn hkey]
    exact .whole ..
  · exact absurd (List.mem_map_of_mem hm) hkey

theorem Abridges.members (h : Abridges (some (.object ds)) (.object fs) w)
    (hfs : (fs.map Prod.fst).Nodup) : ∃ ms, w = .object ms ∧ AbridgesMembers ds fs ms := by
  cases h with
  | whole => exact ⟨fs, rfl, abridgesMembers_self hfs⟩
  | object once kept left => exact ⟨_, rfl, once, kept, left⟩

/-- What is no object by default is not abridged. -/
theorem Abridges.eq_of_not_object (h : Abridges d v w) (hd : ∀ ds, d ≠ some (.object ds)) : w = v := by
  cases h with
  | whole => rfl
  | object => exact absurd rfl (hd _)

/-- **Any members may be taken out that are what they are by default, and any added with new keys**, which
    may be repeated. What is kept may be abridged in turn. -/
theorem Abridges.of_filter (q : String → Bool) (f : String × Json → Json)
    (more : List (String × Json)) (hfs : (fs.map Prod.fst).Nodup)
    (hq : ∀ m ∈ fs, q m.1 = false → find? m.1 ds = some m.2)
    (hf : ∀ m ∈ fs, Abridges (find? m.1 ds) m.2 (f m)) (hmore : ∀ m ∈ more, m.1 ∉ fs.map Prod.fst)
    (hms : ms.Perm (((fs.filter fun m => q m.1).map fun m => (m.1, f m)) ++ more)) :
    Abridges (some (.object ds)) (.object fs) (.object ms) := by
  have hmem : ∀ n, n ∈ ms ↔ (∃ m ∈ fs, q m.1 = true ∧ (m.1, f m) = n) ∨ n ∈ more := by
    intro n
    rw [hms.mem_iff, List.mem_append, List.mem_map]
    simp only [List.mem_filter, and_assoc]
  refine .object ?_ (fun m hm n hn hkey => ?_) fun m hm hkey => ?_
  · have hnew : more.filter (fun m => decide (m.1 ∈ fs.map Prod.fst)) = [] :=
      List.filter_eq_nil_iff.mpr fun m hm => by simpa using hmore m hm
    have hperm := (hms.filter fun m => decide (m.1 ∈ fs.map Prod.fst)).map Prod.fst
    rw [List.filter_append, hnew, List.append_nil] at hperm
    refine hperm.nodup_iff.mpr (nodup_filter ?_ _)
    rw [List.map_map]
    exact nodup_filter hfs _
  · rcases (hmem n).mp hn with ⟨m', hm', -, rfl⟩ | hn
    · rw [eq_of_mem_of_nodup hfs hm hm' hkey]
      exact hf m' hm'
    · exact absurd (hkey ▸ List.mem_map_of_mem hm) (hmore n hn)
  · refine hq m hm (eq_false_of_ne_true fun hkeep => hkey ?_)
    exact List.mem_map.mpr ⟨(m.1, f m), (hmem _).mpr (Or.inl ⟨m, hm, hkeep, rfl⟩), rfl⟩

/-- A field is kept, perhaps abridged, or what it is by default. -/
theorem AbridgesMembers.find? (h : AbridgesMembers ds fs ms) {key : String}
    (hv : Json.find? key fs = some v) :
    (∃ w, Json.find? key ms = some w ∧ Abridges (Json.find? key ds) v w) ∨
      Json.find? key ms = none ∧ Json.find? key ds = some v := by
  cases hfind : Json.find? key ms with
  | some w =>
    exact Or.inl ⟨w, rfl, h.kept (key, v) (mem_of_find? hv) (key, w) (mem_of_find? hfind) rfl⟩
  | none => exact Or.inr ⟨rfl, h.left (key, v) (mem_of_find? hv) (find?_eq_none.mp hfind)⟩

variable {α β : Type} {p : Place}

/-! ## Readers -/

namespace Reader

variable {r : Reader α} {a : α}

/-- The reader makes `a` of every abridged form of the value. -/
def Recovers (r : Reader α) (p : Place) (d : Option Json) (v : Json) (a : α) : Prop :=
  ∀ w, Abridges d v w → r p w.toTree = .ok a

theorem Recovers.self (h : r.Recovers p d v a) : r p v.toTree = .ok a := h v (.whole d v)

theorem recovers_of_not_object (h : r p v.toTree = .ok a) (hd : ∀ ds, d ≠ some (.object ds)) :
    r.Recovers p d v a := by
  intro w hw
  rw [hw.eq_of_not_object hd]
  exact h

/-- What is read in any order is read as it stands. -/
theorem Reads.self (h : r.Reads p v a) (hv : v.Distinct) (hdepth : v.depth ≤ p.room) :
    r p v.toTree = .ok a :=
  h v (.refl hv) hdepth

theorem read_ofText? (hp : p.source ≠ .table) (o : Option String) :
    text.optional p (Json.ofText? o).toTree = .ok o := by
  have hshape : (Json.ofText? o).Distinct ∧ (Json.ofText? o).depth = 0 := by
    cases o <;> exact ⟨trivial, rfl⟩
  exact (reads_ofText? hp o).self hshape.1 (by omega)

theorem read_texts (hroom : p.room ≠ 0) (ss : List String) :
    text.list p (Json.list (ss.map .text)).toTree = .ok ss := by
  have hordered : OrderedItems (ss.map .text) ∧ depthItems (ss.map .text) = 0 := by
    induction ss with
    | nil => exact ⟨trivial, rfl⟩
    | cons s ss ih => exact ⟨⟨trivial, ih.1⟩, by simpa [depthItems, depth] using ih.2⟩
  have hdepth : (Json.list (ss.map .text)).depth = 1 := by rw [depth, hordered.2]
  exact (reads_texts p ss).self (distinct_of_ordered _ hordered.1) (by omega)

end Reader

/-! ## Fields -/

namespace Schema

variable {name : String} {r : Reader α} {a a' : α}

/-- The fields make `a` of what is left of the members `fs`, with others. -/
def Recovers (s : Schema α) (p : Place) (ds fs : List (String × Json)) (a : α) : Prop :=
  ∀ ms, AbridgesMembers ds fs ms → s.ofMembers p (toTreeMembers ms) = .ok a

theorem Recovers.map {s : Schema α} (h : s.Recovers p ds fs a) (f : α → β) :
    (s.map f).Recovers p ds fs (f a) :=
  fun ms hms => ofMembers_map.mpr ⟨a, h ms hms, rfl⟩

theorem Recovers.and {s : Schema (α → β)} {t : Schema α} {f : α → β} (hs : s.Recovers p ds fs f)
    (ht : t.Recovers p ds fs a) : (s.and t).Recovers p ds fs (f a) :=
  fun ms hms => ofMembers_and.mpr ⟨f, a, hs ms hms, ht ms hms, rfl⟩

/-- A field without a default is there, as it was written. -/
theorem recovers_required (hfs : Json.find? name fs = some v) (hds : Json.find? name ds = none)
    (h : r p v.toTree = .ok a) : (required name r).Recovers p ds fs a := by
  intro ms hms
  rcases hms.find? hfs with ⟨w, hfind, hw⟩ | ⟨-, hdefault⟩
  · obtain rfl := hw.eq_of_not_object (by simp [hds])
    refine ofMembers_field.mpr (Or.inl ⟨w.toTree, ?_, h⟩)
    rw [find?_toTreeMembers, hfind, Option.map_some]
  · rw [hds] at hdefault
    cases hdefault

/-- A field with a default may be left out where it is written like its default, since it then is its
    default. -/
theorem recovers_withDefault (hfs : Json.find? name fs = some v) (hds : Json.find? name ds = some w)
    (h : r.Recovers p (some w) v a) (hdefault : r p w.toTree = .ok a') :
    (withDefault name r a').Recovers p ds fs a := by
  intro ms hms
  rcases hms.find? hfs with ⟨w', hfind, hw'⟩ | ⟨hnone, hleft⟩
  · rw [hds] at hw'
    refine ofMembers_field.mpr (Or.inl ⟨w'.toTree, ?_, h w' hw'⟩)
    rw [find?_toTreeMembers, hfind, Option.map_some]
  · -- both are read off the same value
    obtain rfl : w = v := Option.some.inj (hds.symm.trans hleft)
    have hsame : a' = a := Except.ok.inj (hdefault.symm.trans h.self)
    refine ofMembers_field.mpr (Or.inr ⟨?_, congrArg some hsame⟩)
    rw [find?_toTreeMembers, hnone, Option.map_none]

/-- A field that is no section. -/
theorem recovers_leaf (hfs : Json.find? name fs = some v) (hds : Json.find? name ds = some w)
    (hleaf : ∀ ms, w ≠ .object ms) (h : r p v.toTree = .ok a) (hdefault : r p w.toTree = .ok a') :
    (withDefault name r a').Recovers p ds fs a := by
  refine recovers_withDefault hfs hds (Reader.recovers_of_not_object h fun ms heq => ?_) hdefault
  exact hleaf ms (Option.some.inj heq)

/-- **A record that is written with all its fields is read off every abridged form.** -/
theorem Recovers.reader {s : Schema α} (h : s.Recovers p.inside ds fs a) (hs : s.Lawful)
    (hfs : fs.map Prod.fst = s.fields.map Prod.fst) (hnodup : (s.fields.map Prod.fst).Nodup)
    (hroom : p.room ≠ 0) : (s.reader name).Recovers p (some (.object ds)) (.object fs) a := by
  intro w hw
  obtain ⟨ms, rfl, hms⟩ := hw.members (hfs ▸ hnodup)
  refine reader_of_once hs ?_ hroom (h ms hms)
  have hknown : ∀ m : String × Json, (s.fields.lookup m.1).isSome = true → m.1 ∈ fs.map Prod.fst := by
    intro m hm
    obtain ⟨content, hcontent⟩ := Option.isSome_iff_exists.mp hm
    obtain ⟨before, after, heq, -⟩ := List.lookup_eq_some_iff.mp hcontent
    rw [hfs, heq]
    simp
  -- the fields are among the members that were written
  have hsub : (ms.filter fun m => (s.fields.lookup m.1).isSome).Sublist
      (ms.filter fun m => m.1 ∈ fs.map Prod.fst) :=
    List.monotone_filter_right ms fun m hm => by simpa using hknown m hm
  exact hms.once.sublist (hsub.map Prod.fst)

end Schema

end Tether.Json
