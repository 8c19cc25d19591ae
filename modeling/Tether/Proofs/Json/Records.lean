import Tether.Json.Schema
import Tether.Proofs.Json.Reordered

/-!
# `Tether.Proofs.Json.Records` — records are read in any order of members

A record is written as an object, and read back from every object that has the same members, whatever
their order and whatever the order inside them: from the text as it was written, and from its value, of
which all objects are in order. `Reader.Reads` says so of a reader, `Schema.Reads` of the fields of a
record. Each way to build a reader or a schema has its own lemma, so that what a message needs is put
together like its schema.

* `Schema.Lawful` — what the fields of a record take has passed the checks of an object;
* `Schema.Reads.reader`, `Schema.Reads.openReader`, `Reader.Reads.union` — a record, a record that keeps
  further members, and a tagged record;
* `Schema.ofMembers_of_reader` and its like — what a record that was read was made from.
-/

namespace Tether.Json

variable {α β : Type}

/-! ## Readers -/

namespace Reader

variable {r : Reader α} {p : Place} {v : Json} {a : α}

/-- The reader makes `a` of the value, in whatever order its members come. -/
def Reads (r : Reader α) (p : Place) (v : Json) (a : α) : Prop :=
  ∀ w, Reordered v w → w.depth ≤ p.room → r p w.toTree = .ok a

theorem reads_text (s : String) : Reads text p (.text s) s := by
  intro w hw _
  rw [hw.text]; rfl

theorem reads_flag (b : Bool) : Reads flag p (.bool b) b := by
  intro w hw _
  rw [hw.bool]; rfl

theorem reads_number (n : Number) : Reads number p (.number n) n := by
  intro w hw _
  rw [hw.number]; rfl

/-- A whole number is read if it fits the type that is wanted. -/
theorem reads_natural {fit? : Int → Option α} {n : Whole} (h : fit? n.val = some a)
    (wanted : Wanted) : Reads (natural fit? wanted) p (.number (.whole n)) a := by
  intro w hw _
  rw [hw.number]
  simp only [toTree, natural, h]

theorem reads_natural64 (n : UInt64) :
    Reads natural64 p (.number (.whole (Whole.ofUInt64 n))) n := by
  refine reads_natural ?_ _
  have hval : (Whole.ofUInt64 n).val.toNat = n.toNat := Int.toNat_natCast _
  rw [if_pos ⟨Int.natCast_nonneg _, (Whole.ofUInt64 n).greatest⟩, hval, UInt64.ofNat_toNat]

theorem reads_natural32 (n : UInt32) :
    Reads natural32 p (.number (.whole (Whole.ofUInt32 n))) n := by
  refine reads_natural ?_ _
  have hval : (Whole.ofUInt32 n).val.toNat = n.toNat := Int.toNat_natCast _
  have hlt : (Whole.ofUInt32 n).val < 0x100000000 := Int.ofNat_lt.mpr n.toNat_lt
  rw [if_pos ⟨Int.natCast_nonneg _, hlt⟩, hval, UInt32.ofNat_toNat]

/-- Free-form JSON is read as it is, if it is in order. -/
theorem reads_json (hv : v.Ordered) : Reads json p v v := by
  intro w hw hdepth
  rw [json, toJson_toTree p.room w hdepth, hw.same, sorted_of_ordered v hv]

/-- A choice is read by the name of its alternative. -/
theorem reads_choice {known : List (String × α)} {name : String} (h : known.lookup name = some a) :
    Reads (choice known) p (.text name) a := by
  intro w hw _
  rw [hw.text]
  have hlookup : lookup known name = .ok a := by rw [lookup, h]
  unfold choice
  split <;> exact hlookup

/-- What is made of a value that is read is read as well. -/
theorem Reads.map (h : Reads r p v a) (f : α → β) : Reads (r.map f) p v (f a) := by
  intro w hw hdepth
  rw [Reader.map, h w hw hdepth]

/-- A value that is not null is read as if it were not optional. -/
theorem Reads.optional (h : Reads r p v a) (hv : v ≠ .null) :
    Reads r.optional p v (some a) := by
  intro w hw hdepth
  have hr := h w hw hdepth
  have hnull := hw.ne_null hv
  unfold Reader.optional
  split
  · cases w <;> first | exact absurd rfl hnull | cases ‹toTree _ = _›
  · cases w <;> first | exact absurd rfl hnull | cases ‹toTree _ = _›
  · cases w <;> first | exact absurd rfl hnull | cases ‹toTree _ = _›
  · cases w <;> cases ‹toTree _ = _›
  · rw [hr]

/-- Null is read as nothing. -/
theorem reads_optional_null (hp : p.source ≠ .table) :
    Reads r.optional p .null none := by
  intro w hw _
  rw [hw.null]
  obtain ⟨source, room⟩ := p
  cases source <;> first | rfl | exact absurd rfl hp

/-- Items are read one by one, each in any order of its members. -/
theorem items_of_forall₂ {p : Place} {vs : List Json} {as : List α}
    (h : List.Forall₂ (Reads r p) vs as) {ws : List Json} (hws : List.Forall₂ Reordered vs ws)
    (hdepth : depthItems ws ≤ p.room) : items r p (toTrees ws) = .ok as := by
  induction h generalizing ws with
  | nil => cases hws; rfl
  | cons hv hvs ih =>
    cases hws with
    | cons hw hws =>
      obtain ⟨hfirst, hrest⟩ := Nat.max_le.mp hdepth
      rw [toTrees, items, hv _ hw hfirst]
      dsimp only
      rw [ih hws hrest]

/-- A list of values that are read is read. -/
theorem Reads.list {vs : List Json} {as : List α} (h : List.Forall₂ (Reads r p.inside) vs as) :
    Reads r.list p (.list vs) as := by
  intro w hw hdepth
  obtain ⟨ws, rfl, hws⟩ := hw.list
  have hroom : depthItems ws + 1 ≤ p.room := hdepth
  have hitems := items_of_forall₂ h hws (Nat.le_sub_of_add_le hroom)
  rw [toTree, Reader.list]
  dsimp only
  rw [if_neg (by omega), hitems]

/-- A text, or null for none. -/
theorem reads_ofText? (hp : p.source ≠ .table) (o : Option String) :
    Reads text.optional p (Json.ofText? o) o := by
  cases o with
  | none => exact reads_optional_null hp
  | some s => exact (reads_text s).optional Json.noConfusion

theorem reads_texts (p : Place) (ss : List String) : Reads text.list p (.list (ss.map .text)) ss := by
  refine Reads.list ?_
  induction ss with
  | nil => exact .nil
  | cons s ss ih => exact .cons (reads_text s) ih

end Reader

/-! ## Fields -/

namespace Absence

/-- What stands for a field that is absent from an object. -/
def value? : Absence α → Option α
  | .refused => none
  | .default a => some a
  | .inObject a => some a

end Absence

namespace Schema

variable {p : Place} {ms : List (String × Json)}

/-- The member of a key is the same in the tree of a text. -/
theorem find?_toTreeMembers (key : String) (ms : List (String × Json)) :
    Schema.find? key (toTreeMembers ms) = (Json.find? key ms).map toTree := by
  induction ms with
  | nil => rfl
  | cons m ms ih =>
    rw [toTreeMembers, Schema.find?, Json.find?, ih]
    by_cases h : m.1 = key
    · rw [if_pos h, if_pos (congrArg some h)]; rfl
    · rw [if_neg h, if_neg fun heq => h (Option.some.inj heq)]

/-- A field is what its reader makes of the member, or what stands for it when there is none. -/
theorem ofMembers_field {name : String} {r : Reader α} {absence : Absence α}
    {members : List (Option String × Tree)} {a : α} :
    (field name r absence).ofMembers p members = .ok a ↔
      (∃ t, Schema.find? name members = some t ∧ r p t = .ok a) ∨
        Schema.find? name members = none ∧ absence.value? = some a := by
  unfold field
  dsimp only
  split
  · rename_i t ht
    simp only [ht, Option.some.injEq, exists_eq_left', reduceCtorEq, false_and, or_false]
  · rename_i hnone
    simp only [hnone, reduceCtorEq, false_and, exists_false, false_or, true_and]
    cases absence <;> simp [Absence.value?]

/-- A record is read through a function exactly if it is read. -/
theorem ofMembers_map {s : Schema α} {f : α → β} {members : List (Option String × Tree)} {b : β} :
    (s.map f).ofMembers p members = .ok b ↔ ∃ a, s.ofMembers p members = .ok a ∧ f a = b := by
  unfold map
  dsimp only
  cases s.ofMembers p members <;> simp

/-- Two parts of a record are read exactly if each of them is. -/
theorem ofMembers_and {s : Schema (α → β)} {t : Schema α} {members : List (Option String × Tree)}
    {b : β} : (s.and t).ofMembers p members = .ok b ↔
      ∃ f a, s.ofMembers p members = .ok f ∧ t.ofMembers p members = .ok a ∧ f a = b := by
  unfold Schema.and
  dsimp only
  cases s.ofMembers p members with
  | error e => simp
  | ok f => cases t.ofMembers p members <;> simp

/-- The fields are read off the members, in whatever order they come. -/
def Reads (s : Schema α) (p : Place) (ms : List (String × Json)) (a : α) : Prop :=
  ∀ ns, Rearranged ms ns → depthMembers ns ≤ p.room → s.ofMembers p (toTreeMembers ns) = .ok a

/-- What is made of a record that is read is read as well. -/
theorem Reads.map {s : Schema α} {a : α} (h : s.Reads p ms a) (f : α → β) :
    (s.map f).Reads p ms (f a) :=
  fun ns hns hdepth => ofMembers_map.mpr ⟨a, h ns hns hdepth, rfl⟩

/-- A record is read part by part. -/
theorem Reads.and {s : Schema (α → β)} {t : Schema α} {f : α → β} {a : α} (hs : s.Reads p ms f)
    (ht : t.Reads p ms a) : (s.and t).Reads p ms (f a) :=
  fun ns hns hdepth => ofMembers_and.mpr ⟨f, a, hs ns hns hdepth, ht ns hns hdepth, rfl⟩

section Field

variable {name : String} {r : Reader α} {absence : Absence α} {a : α}

/-- A field that is written is read. -/
theorem reads_present {v : Json} (hfind : Json.find? name ms = some v) (h : r.Reads p v a) :
    (field name r absence).Reads p ms a := by
  intro ns hns hdepth
  obtain ⟨w, hw, hreordered⟩ := hns.find?_some hfind
  refine ofMembers_field.mpr (Or.inl ⟨w.toTree, ?_, h w hreordered ?_⟩)
  · rw [find?_toTreeMembers, hw, Option.map_some]
  · exact depthMembers_le_iff.mp hdepth _ (mem_of_find? hw)

/-- A field that is left out has its default. -/
theorem reads_absent (hfind : Json.find? name ms = none) (h : absence.value? = some a) :
    (field name r absence).Reads p ms a := by
  intro ns hns _
  refine ofMembers_field.mpr (Or.inr ⟨?_, h⟩)
  rw [find?_toTreeMembers, hns.find?_none hfind, Option.map_none]

/-- An optional field is read whether it was written or left out. -/
theorem reads_optional_map {o : Option β} {write : β → Json} {f : β → α}
    (hfind : Json.find? name ms = o.map write)
    (h : ∀ b, o = some b → write b ≠ .null ∧ r.Reads p (write b) (f b)) :
    (Schema.optional name r).Reads p ms (o.map f) := by
  cases o with
  | none => exact reads_absent hfind rfl
  | some b =>
    obtain ⟨hnull, hr⟩ := h b rfl
    exact reads_present hfind (hr.optional hnull)

/-- An optional field is read if it is left out or written as a value other than null. -/
theorem reads_optional {o : Option α} {write : α → Json} (hfind : Json.find? name ms = o.map write)
    (h : ∀ a, write a ≠ .null ∧ r.Reads p (write a) a) : (Schema.optional name r).Reads p ms o := by
  have hread := reads_optional_map (f := id) hfind fun a _ => h a
  rwa [Option.map_id] at hread

theorem reads_optional_text {o : Option String} (hfind : Json.find? name ms = o.map .text) :
    (Schema.optional name Reader.text).Reads p ms o :=
  reads_optional hfind fun s => ⟨Json.noConfusion, Reader.reads_text s⟩

theorem reads_optional_json {o : Option Json} (hfind : Json.find? name ms = o)
    (h : ∀ v, o = some v → v ≠ .null ∧ v.Ordered) :
    (Schema.optional name Reader.json).Reads p ms o := by
  cases o with
  | none => exact reads_absent hfind rfl
  | some v =>
    obtain ⟨hnull, hordered⟩ := h v rfl
    exact reads_present hfind ((Reader.reads_json hordered).optional hnull)

end Field

/-! ## Checks -/

/-- What the fields take has passed their checks. -/
def Lawful (s : Schema α) : Prop :=
  ∀ p members a, s.ofMembers p members = .ok a → ∀ name content,
    s.fields.lookup name = some content → ∀ t, Schema.find? name members = some t →
      content p t = .ok ()

/-- A field checks what it takes by taking it. -/
theorem lawful_field (name : String) (r : Reader α) (absence : Absence α) :
    (field name r absence).Lawful := by
  intro p members a h key content hcontent t ht
  unfold field at hcontent
  rw [List.lookup_cons] at hcontent
  split at hcontent
  · rename_i heq
    obtain rfl := Option.some.inj hcontent
    obtain rfl := eq_of_beq heq
    rcases ofMembers_field.mp h with ⟨t', ht', hr⟩ | ⟨hnone, _⟩
    · obtain rfl := Option.some.inj (ht.symm.trans ht')
      dsimp only
      rw [hr]; rfl
    · exact nomatch ht.symm.trans hnone
  · exact nomatch hcontent

/-- A function of a record asks for no other check. -/
theorem Lawful.map {s : Schema α} (hs : s.Lawful) (f : α → β) : (s.map f).Lawful := by
  intro p members b h
  obtain ⟨a, ha, -⟩ := ofMembers_map.mp h
  exact hs p members a ha

/-- Parts that are lawful make a record that is. -/
theorem Lawful.and {s : Schema (α → β)} {t : Schema α} (hs : s.Lawful) (ht : t.Lawful) :
    (s.and t).Lawful := by
  intro p members b h name content hcontent
  obtain ⟨f, a, hf, ha, -⟩ := ofMembers_and.mp h
  have hsplit : (s.fields ++ t.fields).lookup name = some content := hcontent
  rw [List.lookup_append] at hsplit
  cases hlookup : s.fields.lookup name with
  | none =>
    rw [hlookup, Option.none_or] at hsplit
    exact ht p members a ha name content hsplit
  | some content' =>
    rw [hlookup, Option.some_or] at hsplit
    obtain rfl := Option.some.inj hsplit
    exact hs p members f hf name content' hlookup

/-- Members that pass one by one pass together, if no field is repeated. -/
theorem check_of_once {fields : List (String × (Place → Tree → Except Fault Unit))}
    {other : Tree → Option Fault}
    (honce : ((ms.filter fun m => (fields.lookup m.1).isSome).map Prod.fst).Nodup)
    (hfields : ∀ m ∈ ms, ∀ content, fields.lookup m.1 = some content →
      content p m.2.toTree = .ok ())
    (hother : ∀ m ∈ ms, other m.2.toTree = none) :
    ∀ seen : List String, (∀ m ∈ ms, (fields.lookup m.1).isSome = true → m.1 ∉ seen) →
      check fields other p seen (toTreeMembers ms) = .ok () := by
  induction ms with
  | nil => intro _ _; rfl
  | cons m ms ih =>
    intro seen hseen
    obtain ⟨hfield, hfields⟩ := List.forall_mem_cons.mp hfields
    obtain ⟨hfirst, hother⟩ := List.forall_mem_cons.mp hother
    obtain ⟨hnotseen, hseen⟩ := List.forall_mem_cons.mp hseen
    rw [List.filter_cons] at honce
    rw [toTreeMembers, check]
    split
    · rename_i content hcontent
      have hknown : (fields.lookup m.1).isSome = true := by rw [hcontent]; rfl
      rw [if_pos hknown] at honce
      obtain ⟨hnotin, hrest⟩ := List.nodup_cons.mp honce
      rw [if_neg (hnotseen hknown), hfield content hcontent]
      refine ih hrest hfields hother _ fun m' hm' hknown' hmem => ?_
      rcases List.mem_cons.mp hmem with heq | hmem
      · exact hnotin (heq ▸ List.mem_map_of_mem (List.mem_filter.mpr ⟨hm', hknown'⟩))
      · exact hseen m' hm' hknown' hmem
    · -- a member that is no field may come again
      rename_i hnone
      rw [if_neg (by rw [hnone]; decide)] at honce
      rw [hfirst]
      exact ih honce hfields hother seen hseen

/-- Members whose fields are taken pass the checks of an object, if no field is repeated. -/
theorem Lawful.check_of_once {s : Schema α} (hs : s.Lawful) (other : Tree → Option Fault) {a : α}
    (honce : ((ms.filter fun m => (s.fields.lookup m.1).isSome).map Prod.fst).Nodup)
    (h : s.ofMembers p (toTreeMembers ms) = .ok a) (hother : ∀ m ∈ ms, other m.2.toTree = none) :
    Schema.check s.fields other p [] (toTreeMembers ms) = .ok () := by
  refine Schema.check_of_once honce (fun m hm content hcontent => ?_) hother [] (by simp)
  have hknown : (s.fields.lookup m.1).isSome = true := by rw [hcontent]; rfl
  have hfind := find?_of_mem honce (List.mem_filter.mpr ⟨hm, hknown⟩)
  rw [find?_filter fun key => (s.fields.lookup key).isSome, if_pos hknown] at hfind
  refine hs p _ a h m.1 content hcontent _ ?_
  rw [find?_toTreeMembers, hfind, Option.map_some]

/-- No member of a record that is read is at fault. -/
theorem Lawful.check {s : Schema α} (hs : s.Lawful) (other : Tree → Option Fault) {a : α}
    (hnodup : (ms.map Prod.fst).Nodup) (h : s.ofMembers p (toTreeMembers ms) = .ok a)
    (hother : ∀ m ∈ ms, other m.2.toTree = none) :
    Schema.check s.fields other p [] (toTreeMembers ms) = .ok () :=
  hs.check_of_once other (nodup_filter hnodup _) h hother

end Schema

mutual

/-- There is nothing wrong with a value that is passed over. -/
theorem skim_toTree : ∀ v : Json, v.toTree.skim = none
  | .null => rfl
  | .bool _ => rfl
  | .number _ => rfl
  | .text _ => rfl
  | .list items => by rw [toTree, Tree.skim, skimItems_toTrees items]; rfl
  | .object members => by rw [toTree, Tree.skim, skimMembers_toTreeMembers members]; rfl

theorem skimItems_toTrees : ∀ vs : List Json, Tree.skimItems (toTrees vs) = none
  | [] => rfl
  | v :: vs => by rw [toTrees, Tree.skimItems, skim_toTree v, skimItems_toTrees vs]; rfl

theorem skimMembers_toTreeMembers :
    ∀ ms : List (String × Json), Tree.skimMembers (toTreeMembers ms) = none
  | [] => rfl
  | (_, v) :: ms => by
    rw [toTreeMembers, Tree.skimMembers, skim_toTree v, skimMembers_toTreeMembers ms]; rfl

end

/-! ## Records -/

namespace Schema

variable {p : Place} {ms : List (String × Json)} {name : String}

/-- A record that can be gathered from the members of an object is read from it, if none of its fields
    is repeated. -/
theorem reader_of_once {s : Schema α} {a : α} (hs : s.Lawful)
    (honce : ((ms.filter fun m => (s.fields.lookup m.1).isSome).map Prod.fst).Nodup)
    (hroom : p.room ≠ 0) (h : s.ofMembers p.inside (toTreeMembers ms) = .ok a) :
    s.reader name p (Json.object ms).toTree = .ok a := by
  have hcheck := hs.check_of_once Tree.skim honce h fun m _ => skim_toTree m.2
  rw [toTree, Schema.reader, if_neg hroom, readMembers, hcheck]
  exact h

/-- A record without repeated keys is read as its members are. -/
theorem reader_of_ofMembers {s : Schema α} {a : α} (hs : s.Lawful) (hms : (ms.map Prod.fst).Nodup)
    (hroom : p.room ≠ 0) (h : s.ofMembers p.inside (toTreeMembers ms) = .ok a) :
    s.reader name p (Json.object ms).toTree = .ok a :=
  reader_of_once hs (nodup_filter hms _) hroom h

/-- **A record is read in any order of members.** -/
theorem Reads.reader {s : Schema α} {a : α} (h : s.Reads p.inside ms a) (hs : s.Lawful)
    (hms : (ms.map Prod.fst).Nodup) : (s.reader name).Reads p (.object ms) a := by
  intro w hw hdepth
  obtain ⟨ns, rfl, hns⟩ := hw.object hms
  have hroom : depthMembers ns + 1 ≤ p.room := hdepth
  exact reader_of_ofMembers hs hns.nodup (by omega) (h ns hns (Nat.le_sub_of_add_le hroom))

/-- What is left for an open record is the members that are no field of it. -/
theorem further_toTreeMembers (s : Schema α) (ms : List (String × Json)) :
    s.further (toTreeMembers ms) =
      toTreeMembers (ms.filter fun m => (s.fields.lookup m.1).isNone) := by
  unfold further
  induction ms with
  | nil => rfl
  | cons m ms ih =>
    rw [toTreeMembers, List.filter_cons, List.filter_cons, ih]
    dsimp only [Option.all_some]
    split <;> rfl

theorem valueFault_toTree {room : Nat} {v : Json} (h : v.depth ≤ room) :
    valueFault room v.toTree = none := by
  rw [valueFault, toJson_toTree room v h]

/-- **A record that keeps further members** keeps those that are no field, in order. -/
theorem Reads.openReader {s : Schema (List (String × Json) → α)} {make : List (String × Json) → α}
    (h : s.Reads p.inside ms make) (hs : s.Lawful) (hms : (ms.map Prod.fst).Nodup)
    {extra : List (String × Json)} (hextra : Ascending extra ∧ OrderedMembers extra)
    (hfind : ∀ key, Json.find? key extra =
      if (s.fields.lookup key).isNone then Json.find? key ms else none) :
    (s.openReader name).Reads p (.object ms) (make extra) := by
  intro w hw hdepth
  obtain ⟨ns, rfl, hns⟩ := hw.object hms
  have hroom : depthMembers ns + 1 ≤ p.room := hdepth
  have hinside : depthMembers ns ≤ p.inside.room := Nat.le_sub_of_add_le hroom
  have hmembers := h ns hns hinside
  have hcheck := hs.check (valueFault p.inside.room) hns.nodup hmembers fun m hm =>
    valueFault_toTree (depthMembers_le_iff.mp hinside m hm)
  -- the members that are no field are the further ones, once they are in order
  let more := ns.filter fun m => (s.fields.lookup m.1).isNone
  have hmore : ordered (sortedMembers more) = extra := by
    refine (ascending_ordered _).ext hextra.1 fun key => ?_
    rw [find?_ordered key (by rw [keys_sortedMembers]; exact nodup_filter hns.nodup _),
      find?_sortedMembers, find?_filter (fun key => (s.fields.lookup key).isNone), hfind]
    split
    · have hkey := hfind key
      rw [if_pos ‹_›] at hkey
      rw [hns.same, ← hkey, ← find?_sortedMembers, sortedMembers_of_ordered _ hextra.2]
    · rfl
  have hdepthMore : depthMembers more ≤ p.inside.room :=
    depthMembers_le_iff.mpr fun m hm => depthMembers_le_iff.mp hinside m (List.mem_of_mem_filter hm)
  rw [toTree, Schema.openReader]
  dsimp only
  rw [if_neg (by omega), hcheck, further_toTreeMembers]
  dsimp only [Option.map_none]
  rw [hmembers, toMembers_toTreeMembers p.inside.room more [] hdepthMore]
  exact congrArg (fun more => Except.ok (make more)) hmore

end Schema

/-! ## Tagged records -/

namespace Union

variable {variants : List (String × Reader α)} {tag : String} {room : Nat}

/-- Members without the tag are gathered as they are. -/
theorem gather_of_absent (found : Option (Reader α)) {ms : List (String × Json)}
    (htag : tag ∉ ms.map Prod.fst) (hdepth : depthMembers ms ≤ room) :
    gather tag variants room found (toTreeMembers ms) = .ok (found, toTreeMembers ms) := by
  induction ms with
  | nil => rfl
  | cons m ms ih =>
    obtain ⟨hne, hrest⟩ := not_or.mp (List.mem_cons.not.mp htag)
    obtain ⟨hfirst, hdepths⟩ := Nat.max_le.mp hdepth
    rw [toTreeMembers, gather, if_neg fun heq => hne heq.symm, Schema.valueFault_toTree hfirst]
    dsimp only
    rw [ih hrest hdepths]

/-- The tag is found wherever it stands, and the other members are gathered. -/
theorem gather_of_tagged {name : String} {r : Reader α} (hr : variants.lookup name = some r)
    {ms : List (String × Json)} (hms : (ms.map Prod.fst).Nodup) (hdepth : depthMembers ms ≤ room)
    (htag : find? tag ms = some (.text name)) :
    gather tag variants room none (toTreeMembers ms) =
      .ok (some r, toTreeMembers (ms.filter fun m => m.1 ≠ tag)) := by
  induction ms with
  | nil => exact nomatch htag
  | cons m ms ih =>
    obtain ⟨hnotin, hrest⟩ := List.nodup_cons.mp hms
    obtain ⟨hfirst, hdepths⟩ := Nat.max_le.mp hdepth
    rw [find?] at htag
    rw [toTreeMembers, gather, List.filter_cons]
    by_cases heq : m.1 = tag
    · rw [if_pos heq] at htag ⊢
      have hvariant : variant variants m.2.toTree = .ok r := by
        rw [Option.some.inj htag, toTree, variant, Reader.lookup, hr]
      have hothers : ms.filter (fun m => m.1 ≠ tag) = ms :=
        List.filter_eq_self.mpr fun m' hm' => decide_eq_true fun h' =>
          hnotin (List.mem_map.mpr ⟨m', hm', h'.trans heq.symm⟩)
      rw [if_neg (by simp), hvariant, if_neg (by simpa using heq), hothers]
      exact gather_of_absent _ (heq ▸ hnotin) hdepths
    · rw [if_neg heq] at htag ⊢
      rw [Schema.valueFault_toTree hfirst, if_pos (by simpa using heq)]
      dsimp only
      rw [ih hrest hdepths htag]
      rfl

end Union

/-- **A tagged record is read in any order of members**, the tag among them. -/
theorem Reader.Reads.union {p : Place} {variants : List (String × Reader α)} {title tag name : String}
    {r : Reader α} {ms : List (String × Json)} {a : α}
    (h : r.Reads { p with source := .gathered } (.object ms) a)
    (hr : variants.lookup name = some r)
    (hms : (((tag, Json.text name) :: ms).map Prod.fst).Nodup) :
    (Union.reader title tag variants).Reads p (.object ((tag, .text name) :: ms)) a := by
  intro w hw hdepth
  obtain ⟨ns, rfl, hns⟩ := hw.object hms
  obtain ⟨hnotin, hrest⟩ := List.nodup_cons.mp hms
  have hroom : depthMembers ns + 1 ≤ p.room := hdepth
  have hinside : depthMembers ns ≤ p.room - 1 := Nat.le_sub_of_add_le hroom
  have hfirst : find? tag ((tag, .text name) :: ms) = some (.text name) := if_pos rfl
  obtain ⟨tagged, htagged, hname⟩ := hns.find?_some hfirst
  rw [hname.text] at htagged
  -- the other members are those of the record beside its tag
  have hothers : Rearranged ms (ns.filter fun m => m.1 ≠ tag) := by
    refine ⟨nodup_filter hns.nodup _, ?_, fun key => ?_⟩
    · exact distinctMembers_iff.mpr fun m hm =>
        distinctMembers_iff.mp hns.distinct m (List.mem_of_mem_filter hm)
    · rw [find?_filter (fun key => decide (key ≠ tag))]
      by_cases heq : key = tag
      · rw [if_neg (by simpa using heq), heq, find?_eq_none.mpr hnotin]
      · rw [if_pos (by simpa using heq), hns.same, find?, if_neg fun h' => heq h'.symm]
  have hdepthOthers : depthMembers (ns.filter fun m => m.1 ≠ tag) ≤ p.room - 1 :=
    depthMembers_le_iff.mpr fun m hm => depthMembers_le_iff.mp hinside m (List.mem_of_mem_filter hm)
  have hread := h _ (hothers.reordered hrest)
    (show depthMembers (ns.filter fun m => m.1 ≠ tag) + 1 ≤ p.room by omega)
  rw [toTree, Union.reader, if_neg (by omega), Union.gather_of_tagged hr hns.nodup hinside htagged]
  exact hread

/-! ## What was read -/

/-- A member that is found in a tree is one of its members. -/
theorem Schema.mem_of_find? {key : String} {t : Tree} {members : List (Option String × Tree)}
    (h : Schema.find? key members = some t) : (some key, t) ∈ members := by
  induction members with
  | nil => exact nomatch h
  | cons m members ih =>
    rw [Schema.find?] at h
    split at h
    · rename_i heq
      rw [← heq, ← Option.some.inj h]
      exact List.mem_cons_self
    · exact List.mem_cons_of_mem _ (ih h)

theorem mem_toTreeMembers {ms : List (String × Json)} {key : String} {t : Tree}
    (h : (some key, t) ∈ toTreeMembers ms) : ∃ v, (key, v) ∈ ms ∧ t = v.toTree := by
  rw [toTreeMembers_eq_map] at h
  obtain ⟨m, hm, heq⟩ := List.mem_map.mp h
  obtain ⟨hkey, rfl⟩ := Prod.mk.inj heq
  exact ⟨m.2, Option.some.inj hkey ▸ hm, rfl⟩

/-- What an optional reader has read is not null, and its reader has read it. -/
theorem Reader.of_optional {r : Reader α} {p : Place} (hp : p.source ≠ .table) {t : Tree} {a : α}
    (h : r.optional p t = .ok (some a)) : t ≠ .null ∧ r p t = .ok a := by
  unfold Reader.optional at h
  split at h
  · exact nomatch h
  · exact nomatch h
  · exact nomatch h
  · exact nomatch h
  · rename_i hnottext hnotvalue hnotgathered
    refine ⟨?_, ?_⟩
    · rintro rfl
      cases hsource : p.source with
      | text => exact hnottext rfl hsource
      | value => exact hnotvalue rfl hsource
      | gathered => exact hnotgathered rfl hsource
      | table => exact hp hsource
    · split at h
      · obtain rfl := Option.some.inj (Except.ok.inj h)
        assumption
      · exact nomatch h

theorem Reader.of_map {r : Reader α} {f : α → β} {p : Place} {t : Tree} {b : β}
    (h : r.map f p t = .ok b) : ∃ a, r p t = .ok a ∧ f a = b := by
  unfold Reader.map at h
  split at h
  · exact ⟨_, ‹_›, Except.ok.inj h⟩
  · exact nomatch h

/-- Nothing but a text is read as a text. -/
theorem Reader.of_text {p : Place} {v : Json} {s : String} (h : Reader.text p v.toTree = .ok s) :
    v = .text s := by
  cases v with
  | text s' => rw [← Except.ok.inj h]
  | _ => exact nomatch h

theorem Tree.eq_null_of_toJson {room : Nat} {t : Tree} (h : t.toJson room = .ok .null) :
    t = .null := by
  cases t with
  | null => rfl
  | bool | broken => cases h
  | number n => cases n <;> cases h
  | text s => cases s <;> cases h
  | list items cut =>
    cases room with
    | zero => cases h
    | succ room =>
      rw [Tree.toJson] at h
      split at h
      · cases h
      · split at h <;> cases h
  | object members stray =>
    cases room with
    | zero => cases h
    | succ room =>
      rw [Tree.toJson] at h
      split at h
      · cases h
      · split at h <;> cases h

/-- What is read as free-form JSON from a member stands there as it is. -/
theorem find?_of_toJson {room : Nat} {ms : List (String × Json)}
    (hms : (Json.object ms).Fits (room + 1)) {key : String} {t : Tree} {v : Json}
    (ht : (some key, t) ∈ toTreeMembers ms) (hv : t.toJson room = .ok v) :
    find? key ms = some v ∧ v.Fits room := by
  obtain ⟨w, hw, rfl⟩ := mem_toTreeMembers ht
  obtain ⟨hascending, hfits⟩ := fits_object_iff.mp hms
  rw [(hfits _ hw).toJson_eq] at hv
  obtain rfl := Except.ok.inj hv
  exact ⟨find?_of_mem hascending.nodup hw, hfits _ hw⟩

/-- An optional value that was read is not null, and stands among the members. -/
theorem Schema.ofMembers_optional_json {name : String} {p : Place} (hp : p.source ≠ .table)
    {members : List (Option String × Tree)} {v : Json}
    (h : (Schema.optional name Reader.json).ofMembers p members = .ok (some v)) :
    v ≠ .null ∧ ∃ t, (some name, t) ∈ members ∧ t.toJson p.room = .ok v := by
  rcases ofMembers_field.mp h with ⟨t, ht, hread⟩ | ⟨_, hdefault⟩
  · obtain ⟨hnull, hvalue⟩ := Reader.of_optional hp hread
    refine ⟨?_, t, Schema.mem_of_find? ht, hvalue⟩
    rintro rfl
    exact hnull (Tree.eq_null_of_toJson hvalue)
  · exact nomatch hdefault

/-- A record that was read from an object was made from its members. -/
theorem Schema.ofMembers_of_reader {s : Schema α} {name : String} {p : Place}
    {members : List (Option String × Tree)} {stray : Option Break} {a : α}
    (h : s.reader name p (.object members stray) = .ok a) : s.ofMembers p.inside members = .ok a := by
  unfold Schema.reader Schema.readMembers at h
  dsimp only at h
  split at h
  · exact nomatch h
  split at h
  · exact nomatch h
  split at h
  · exact nomatch h
  · exact h

/-- So was a record that keeps further members; from a value in order it keeps those that are no field,
    as they stand. -/
theorem Schema.ofMembers_of_openReader {s : Schema (List (String × Json) → α)} {name : String}
    {p : Place} {room : Nat} (hroom : p.inside.room = room) {ms : List (String × Json)}
    (hms : (Json.object ms).Fits (room + 1)) {a : α}
    (h : s.openReader name p (Json.object ms).toTree = .ok a) :
    ∃ make, s.ofMembers p.inside (toTreeMembers ms) = .ok make ∧
      a = make (ms.filter fun m => (s.fields.lookup m.1).isNone) := by
  rw [toTree] at h
  unfold Schema.openReader at h
  dsimp only at h
  split at h
  · exact nomatch h
  split at h
  · exact nomatch h
  split at h
  · exact nomatch h
  split at h
  · rename_i make more hmake hmore
    refine ⟨make, hmake, (Except.ok.inj h).symm.trans (congrArg make ?_)⟩
    obtain ⟨hascending, hfits⟩ := fits_object_iff.mp hms
    have hascending' := (ascending_iff.mp hascending).filter fun m => (s.fields.lookup m.1).isNone
    have hfits' : ∀ m ∈ ms.filter fun m => (s.fields.lookup m.1).isNone, m.2.Fits room :=
      fun m hm => hfits m (List.mem_of_mem_filter hm)
    -- members in order are read as they stand
    rw [Schema.further_toTreeMembers, hroom, toMembers_toTreeMembers room _ []
      (depthMembers_le_iff.mpr fun m hm => (hfits' m hm).2), sortedMembers_of_ordered _
      (orderedMembers_iff.mpr fun m hm => (hfits' m hm).1)] at hmore
    exact (Except.ok.inj hmore).symm.trans (ordered_of_ascending (ascending_iff.mpr hascending'))
  · exact nomatch h
  · exact nomatch h

namespace Union

variable {variants : List (String × Reader α)} {tag : String} {room : Nat}

/-- A tag that is accepted names one of the variants. -/
theorem lookup_of_variant {t : Tree} {r : Reader α} (h : variant variants t = .ok r) :
    ∃ name, t = .text (some name) ∧ variants.lookup name = some r := by
  unfold variant at h
  split at h
  · rename_i name
    refine ⟨name, rfl, ?_⟩
    unfold Reader.lookup at h
    split at h
    · rw [← Except.ok.inj h]; assumption
    · exact nomatch h
  · unfold Tree.misfit at h
    split at h <;> exact nomatch h

/-- Gathering adds no member, and finds the variant that the tag names. -/
theorem gather_spec {found found' : Option (Reader α)} {members gathered : List (Option String × Tree)}
    (h : gather tag variants room found members = .ok (found', gathered)) :
    (∀ m ∈ gathered, m ∈ members) ∧ ∀ r, found' = some r → found = some r ∨
      ∃ name, (some tag, .text (some name)) ∈ members ∧ variants.lookup name = some r := by
  induction members generalizing found gathered with
  | nil =>
    cases h
    exact ⟨fun _ hm => hm, fun _ hr => Or.inl hr⟩
  | cons m members ih =>
    obtain ⟨_ | key, t⟩ := m
    · exact nomatch h
    · rw [gather] at h
      split at h
      · subst key
        split at h
        · exact nomatch h
        split at h
        · exact nomatch h
        · rename_i r hr
          obtain ⟨hmem, hfound⟩ := ih h
          refine ⟨fun m hm => List.mem_cons_of_mem _ (hmem m hm), fun r' hr' => Or.inr ?_⟩
          rcases hfound r' hr' with heq | ⟨name, hname, hlookup⟩
          · obtain ⟨name, rfl, hlookup⟩ := lookup_of_variant hr
            exact ⟨name, List.mem_cons_self, Option.some.inj heq ▸ hlookup⟩
          · exact ⟨name, List.mem_cons_of_mem _ hname, hlookup⟩
      · split at h
        · exact nomatch h
        split at h
        · exact nomatch h
        · rename_i found'' gathered' hrest
          obtain ⟨rfl, rfl⟩ := Prod.mk.inj (Except.ok.inj h)
          obtain ⟨hmem, hfound⟩ := ih hrest
          refine ⟨List.forall_mem_cons.mpr ⟨List.mem_cons_self, fun m hm =>
            List.mem_cons_of_mem _ (hmem m hm)⟩, fun r hr => (hfound r hr).imp_right ?_⟩
          rintro ⟨name, hname, hlookup⟩
          exact ⟨name, List.mem_cons_of_mem _ hname, hlookup⟩

/-- A tagged record that was read from an object was read by the variant that its tag names, from
    members of the object. -/
theorem variant_of_reader {title : String} {p : Place} {members : List (Option String × Tree)}
    {stray : Option Break} {a : α}
    (h : Union.reader title tag variants p (.object members stray) = .ok a) :
    ∃ name r gathered, (some tag, .text (some name)) ∈ members ∧ variants.lookup name = some r ∧
      (∀ m ∈ gathered, m ∈ members) ∧
      r { p with source := .gathered } (.object gathered none) = .ok a := by
  unfold Union.reader at h
  dsimp only at h
  split at h
  · exact nomatch h
  split at h
  · exact nomatch h
  · rename_i found gathered hgather
    obtain ⟨hmem, hfound⟩ := gather_spec hgather
    split at h
    · exact nomatch h
    · exact nomatch h
    · rename_i r _
      obtain ⟨name, hname, hlookup⟩ := (hfound r rfl).resolve_left (by simp)
      exact ⟨name, r, gathered, hname, hlookup, hmem, h⟩

end Union

end Tether.Json
