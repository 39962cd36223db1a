import Blockbook.Component.Wire
import Blockbook.Proofs.Json.Form
import Mathlib.Data.List.Forall2

/-!
# Records

A record is written as an object of its fields, without those that have no value, and may keep more
members that are no field of it. Read from an object written that way, every field has the value it
was written with, and the other members are found again.

* `given`: the members that are written for fields.
* `field?_given`, `fields?_given`: the fields are read as they were written.
* `OtherFields.Kept`: what holds of other members that were read, so that they are read again.
-/

namespace Blockbook.Json

/-- The members that are written for fields. -/
def given (fields : List (String × Option Json)) : List (Text × Json) :=
  fields.flatMap fun (name, value) => member? name value

theorem mem_given {fields : List (String × Option Json)} {member : Text × Json} :
    member ∈ given fields ↔
      ∃ field ∈ fields, field.1.toList = member.1 ∧ member.2 ∈ field.2 := by
  have hmember : ∀ name value,
      member ∈ member? name value ↔ name.toList = member.1 ∧ member.2 ∈ value := by
    intro name value
    obtain ⟨k, v⟩ := member
    cases value <;> simp [member?, eq_comm]
  simp only [given, List.mem_flatMap, hmember]

/-- A field that is in no member has no value. -/
theorem field?_of_filter {members : List (Text × Json)} {name : String} {value : Option Json}
    (h : members.filter (·.1 = name.toList) = member? name value) :
    field? members name.toList = some value := by
  rw [field?, h]
  cases value <;> rfl

theorem filter_given {fields : List (String × Option Json)} {name : String} {value : Option Json}
    (hnames : (fields.map Prod.fst).Nodup) (hmem : (name, value) ∈ fields) :
    (given fields).filter (·.1 = name.toList) = member? name value := by
  induction fields with
  | nil => cases hmem
  | cons field fields ih =>
    obtain ⟨k, v⟩ := field
    rw [List.map_cons, List.nodup_cons] at hnames
    have hhead : (member? k v).filter (·.1 = name.toList) =
        if k = name then member? k v else [] := by
      cases v <;> simp [member?, List.filter_cons, String.toList_inj]
    rw [given, List.flatMap_cons, List.filter_append, hhead]
    obtain heq | hmem := List.mem_cons.1 hmem
    · cases heq
      have hrest : (given fields).filter (·.1 = name.toList) = [] := by
        rw [List.filter_eq_nil_iff]
        intro m hm hname
        obtain ⟨field, hfield, hkey, -⟩ := mem_given.1 hm
        rw [← hkey, decide_eq_true_iff, String.toList_inj] at hname
        exact hnames.1 (List.mem_map.2 ⟨field, hfield, hname⟩)
      rw [if_pos rfl]
      exact (congrArg _ hrest).trans (List.append_nil _)
    · have hk : k ≠ name := fun h => hnames.1 (List.mem_map.2 ⟨_, hmem, h.symm⟩)
      rw [if_neg hk]
      exact ih hnames.2 hmem

/-- A field is read as it was written, whatever members with other keys follow. -/
theorem field?_given {fields : List (String × Option Json)} {name : String} {value : Option Json}
    {rest : List (Text × Json)} (hnames : (fields.map Prod.fst).Nodup)
    (hmem : (name, value) ∈ fields) (hrest : ∀ member ∈ rest, member.1 ≠ name.toList) :
    field? (given fields ++ rest) name.toList = some value := by
  apply field?_of_filter
  rw [List.filter_append, filter_given hnames hmem,
    List.filter_eq_nil_iff.2 fun m hm => by simpa using hrest m hm, List.append_nil]

theorem fields?_given {fields : List (String × Option Json)}
    (hnames : (fields.map Prod.fst).Nodup) :
    fields? (fields.map fun field => field.1.toList) (.object (given fields)) =
      some (fields.map Prod.snd) := by
  have hall : ∀ part ∈ fields, field? (given fields) part.1.toList = some part.2 := by
    intro part hpart
    rw [← List.append_nil (given fields)]
    exact field?_given hnames hpart (List.forall_mem_nil _)
  have hsub : ∀ parts : List (String × Option Json), parts ⊆ fields →
      (parts.map fun field => field.1.toList).mapM (field? (given fields)) =
        some (parts.map Prod.snd) := by
    intro parts hparts
    induction parts with
    | nil => rfl
    | cons part parts ih =>
      obtain ⟨hpart, hparts⟩ := List.cons_subset.1 hparts
      rw [List.map_cons, List.mapM_cons, hall part hpart, ih hparts]
      rfl
  exact hsub fields fun _ h => h

theorem allMembers?_eq_some {j : Json} {members : List (Text × Json)}
    (h : j.allMembers? = some members) : j = .object members := by
  cases j <;> cases h
  rfl

section Fits

variable {depth : Nat} {j : Json} {members : List (Text × Json)} {value : Option Json}

theorem fits_of_field? {name : Text} (hfits : ∀ member ∈ members, Fits depth member.2)
    (h : field? members name = some value) : ∀ v ∈ value, Fits depth v := by
  intro v hv
  rw [field?] at h
  split at h
  · cases h
    cases hv
  · next key found hfilter =>
    cases h
    cases hv
    have hmem : (key, v) ∈ members.filter (·.1 = name) := hfilter ▸ List.mem_singleton.2 rfl
    exact hfits _ (List.mem_of_mem_filter hmem)
  · cases h

/-- The fields of a record that fits fit one level further in. -/
theorem fits_of_fields? {names : List Text} {values : List (Option Json)} (hfits : Fits depth j)
    (h : fields? names j = some values) :
    depth + 1 ≤ depthLimit ∧ ∀ value ∈ values, ∀ v ∈ value, Fits (depth + 1) v := by
  cases j with
  | object members =>
    obtain ⟨hdepth, hmembers⟩ := fits_object_iff.1 hfits
    refine ⟨hdepth, fun value hvalue => ?_⟩
    obtain ⟨name, -, hname⟩ := exists_of_mem_mapM h value hvalue
    exact fits_of_field? hmembers hname
  | array items =>
    obtain ⟨hdepth, hitems⟩ := fits_array_iff.1 hfits
    refine ⟨hdepth, fun value hvalue v hv => ?_⟩
    rw [fields?] at h
    split at h
    · cases h
      obtain hmem | hmem := List.mem_append.1 hvalue
      · obtain ⟨item, hitem, rfl⟩ := List.mem_map.1 hmem
        cases hv
        exact hitems v hitem
      · rw [(List.mem_replicate.1 hmem).2] at hv
        cases hv
    · cases h
  | _ => cases h

theorem reread_given {fields : List (String × Option Json)} {rest : List (Text × Json)}
    (hdepth : depth + 1 ≤ depthLimit)
    (hfields : ∀ field ∈ fields, ∀ v ∈ field.2, reread (depth + 1) v = v)
    (hrest : ∀ member ∈ rest, reread (depth + 1) member.2 = member.2) :
    reread depth (.object (given fields ++ rest)) = .object (given fields ++ rest) := by
  refine reread_object hdepth fun member hmember => ?_
  obtain hmem | hmem := List.mem_append.1 hmember
  · obtain ⟨field, hfield, -, hv⟩ := mem_given.1 hmem
    exact hfields field hfield member.2 hv
  · exact hrest member hmem

end Fits

end Blockbook.Json

/-! ## Members that are no field -/

namespace Blockbook.OtherFields

open Json

variable {declared : List Text} {depth : Nat} {members o : List (Text × Json)}

/-- What holds of other members that were read: they are no declared field, sorted and in canonical
form, and come back from their text. -/
structure Kept (declared : List Text) (depth : Nat) (o : OtherFields) : Prop where
  undeclared : ∀ member ∈ o, member.1 ∉ declared
  sorted : SortedKeys o
  canonical : ∀ member ∈ o, canonical? member.2 = some member.2
  back : ∀ member ∈ o, reread depth member.2 = member.2

theorem map_fst_of_canonicalMembers? {found : List (Text × Json)}
    (h : canonicalMembers? members = some found) : found.map Prod.fst = members.map Prod.fst := by
  induction members generalizing found with
  | nil => cases h; rfl
  | cons member members ih =>
    obtain ⟨first, rest, -, hrest, rfl⟩ := canonicalMembers?_cons_iff.1 h
    rw [List.map_cons, List.map_cons, ih hrest]

/-- Other members have keys that were given. -/
theorem mem_keys_of_ofMembers? (h : ofMembers? declared members = some o) :
    ∀ member ∈ o, member.1 ∈ (others declared members).map Prod.fst := by
  intro member hmember
  obtain ⟨found, hfound, rfl⟩ := Option.map_eq_some_iff.1 h
  rw [← map_fst_of_canonicalMembers? hfound]
  exact List.mem_map_of_mem (mem_of_mem_sortMembers hmember)

theorem kept_of_ofMembers? (hfits : ∀ member ∈ members, Fits depth member.2)
    (h : ofMembers? declared members = some o) : Kept declared depth o := by
  have hkeys := mem_keys_of_ofMembers? h
  obtain ⟨found, hfound, rfl⟩ := Option.map_eq_some_iff.1 h
  have hcanonical := canonicalMembers?_canonical _ hfound
  have hothers : ∀ member ∈ others declared members, Fits depth member.2 :=
    fun member hmember => hfits member (List.mem_of_mem_filter hmember)
  have hback := rereadMembers_canonical _ (fitsMembers_iff.2 hothers) hfound
  refine ⟨fun member hmember hdeclared => ?_, sorted_sortMembers found,
    fun m hm => hcanonical m (mem_of_mem_sortMembers hm),
    fun m hm => hback m (mem_of_mem_sortMembers hm)⟩
  obtain ⟨m, hm, hkey⟩ := List.mem_map.1 (hkeys member hmember)
  have hnot := List.of_mem_filter hm
  rw [← hkey] at hdeclared
  simp [hdeclared] at hnot

/-- Other members are found again after fields that are declared. -/
theorem Kept.ofMembers?_given {fields : List (String × Option Json)} (h : Kept declared depth o)
    (hfields : ∀ field ∈ fields, field.1.toList ∈ declared) :
    ofMembers? declared (given fields ++ o) = some o := by
  have hothers : others declared (given fields ++ o) = o := by
    have hgiven : others declared (given fields) = [] := by
      refine List.filter_eq_nil_iff.2 fun m hm => ?_
      obtain ⟨field, hfield, hkey, -⟩ := mem_given.1 hm
      simp [← hkey, hfields field hfield]
    have ho : others declared o = o :=
      List.filter_eq_self.2 fun m hm => by simpa using h.undeclared m hm
    rw [others, List.filter_append]
    exact congrArg₂ _ hgiven ho
  rw [ofMembers?, hothers, canonicalMembers?_of_forall h.canonical, Option.map_some,
    sortMembers_of_sorted h.sorted]

end Blockbook.OtherFields

/-! ## Records from their parts -/

namespace Blockbook.Json

/-- A part of a record: the name of a field, how the field is written for a record, and when a value
is read as the field of a record. -/
structure RecordPart (ρ : Type) where
  name : String
  toJson? : ρ → Option Json
  Reads : Option Json → ρ → Prop

namespace RecordPart

variable {ρ α : Type} {depth : Nat}

/-- The part of a record that is a field of its own. -/
def of (name : String) (get : ρ → α) (field : Field α) : RecordPart ρ :=
  ⟨name, fun r => field.toJson? (get r), fun value r => field.ofJson? value = some (get r)⟩

/-- A part that was read is read as it is written, and comes back from its text. -/
def Keeps (p : RecordPart ρ) (depth : Nat) : Prop :=
  ∀ value r, (∀ v ∈ value, Fits depth v) → p.Reads value r →
    p.Reads (p.toJson? r) r ∧ ∀ v ∈ p.toJson? r, reread depth v = v

theorem keeps_of {field : Field α} (h : field.Keeps depth) (name : String) (get : ρ → α) :
    (of name get field).Keeps depth := by
  intro value r hfits hread
  have hkept := h value (get r) hfits hread
  exact ⟨hkept.read, hkept.back⟩

/-- The fields of a record as they are written. -/
def written (parts : List (RecordPart ρ)) (r : ρ) : List (String × Option Json) :=
  parts.map fun p => (p.name, p.toJson? r)

theorem given_written_nil (r : ρ) : given (written [] r) = [] := rfl

theorem given_written_cons (p : RecordPart ρ) (parts : List (RecordPart ρ)) (r : ρ) :
    given (written (p :: parts) r) = member? p.name (p.toJson? r) ++ given (written parts r) := rfl

/-- The names of the fields. -/
def names (parts : List (RecordPart ρ)) : List Text := parts.map fun p => p.name.toList

/-- A value is read as a record without other members, by name or in order. -/
def ReadFields (parts : List (RecordPart ρ)) (j : Json) (r : ρ) : Prop :=
  ∃ values, fields? (names parts) j = some values ∧
    List.Forall₂ (fun p value => p.Reads value r) parts values

/-- Members are read as a record with other members. -/
def ReadMembers (parts : List (RecordPart ρ)) (members : List (Text × Json)) (r : ρ)
    (others : OtherFields) : Prop :=
  (∀ p ∈ parts, ∃ value, field? members p.name.toList = some value ∧ p.Reads value r) ∧
    OtherFields.ofMembers? (names parts) members = some others

/-- A record of two required fields is read exactly if both are read as its own. -/
theorem readFields_pair_iff {β : Type} (name name' : String) (f : Form α) (g : Form β)
    {get : ρ → α} {get' : ρ → β} (make : α → β → ρ)
    (hmake : ∀ a b r, make a b = r ↔ a = get r ∧ b = get' r) (j : Json) (r : ρ) :
    (match fields? [name.toList, name'.toList] j with
      | some [first, second] => do
        let a ← Json.required f.ofJson? first
        let b ← Json.required g.ofJson? second
        return make a b
      | _ => none) = some r ↔
      ReadFields [of name get (.required f), of name' get' (.required g)] j r := by
  constructor
  · intro h
    split at h
    · next hfields =>
      simp only [Option.bind_eq_bind, Option.bind_eq_some_iff] at h
      obtain ⟨a, hfirst, b, hsecond, hread⟩ := h
      obtain ⟨rfl, rfl⟩ := (hmake a b r).1 (Option.some.inj hread)
      exact ⟨_, hfields, .cons hfirst (.cons hsecond .nil)⟩
    · cases h
  · rintro ⟨values, hfields, hall⟩
    match values, hall with
    | _, .cons hfirst (.cons hsecond .nil) =>
      change fields? [name.toList, name'.toList] j = _ at hfields
      simp only [hfields, Option.bind_eq_bind, Option.bind_eq_some_iff]
      exact ⟨_, hfirst, _, hsecond, congrArg some ((hmake _ _ r).2 ⟨rfl, rfl⟩)⟩

end RecordPart

section Parts

variable {ρ : Type} {depth : Nat} {f : Form ρ}

theorem exists_of_forall₂ {parts : List (RecordPart ρ)} {values : List (Option Json)} {r : ρ}
    (h : List.Forall₂ (fun p value => p.Reads value r) parts values) :
    ∀ p ∈ parts, ∃ value ∈ values, p.Reads value r := by
  induction h with
  | nil => exact List.forall_mem_nil _
  | cons hreads _ ih =>
    refine List.forall_mem_cons.2 ⟨⟨_, List.mem_cons_self, hreads⟩, fun p hp => ?_⟩
    obtain ⟨value, hvalue, hreads⟩ := ih p hp
    exact ⟨value, List.mem_cons_of_mem _ hvalue, hreads⟩

theorem map_fst_written (parts : List (RecordPart ρ)) (r : ρ) :
    (RecordPart.written parts r).map Prod.fst = parts.map RecordPart.name := by
  rw [RecordPart.written, List.map_map]
  rfl

/-- A record is kept if its parts are. -/
theorem Form.keeps_of_parts (parts : List (RecordPart ρ))
    (hnames : (parts.map RecordPart.name).Nodup)
    (hto : ∀ r, f.toJson r = .object (given (RecordPart.written parts r)))
    (hof : ∀ j r, f.ofJson? j = some r ↔ RecordPart.ReadFields parts j r)
    (hparts : ∀ p ∈ parts, p.Keeps (depth + 1)) : f.Keeps depth := by
  intro j r hfits hread
  obtain ⟨values, hvalues, hall⟩ := (hof j r).1 hread
  obtain ⟨hdepth, hfits⟩ := fits_of_fields? hfits hvalues
  have hkept : ∀ p ∈ parts,
      p.Reads (p.toJson? r) r ∧ ∀ v ∈ p.toJson? r, reread (depth + 1) v = v := by
    intro p hp
    obtain ⟨value, hvalue, hreads⟩ := exists_of_forall₂ hall p hp
    exact hparts p hp value r (hfits value hvalue) hreads
  constructor
  · rw [hto, hof]
    have hfields := fields?_given (map_fst_written parts r ▸ hnames)
    rw [RecordPart.written, List.map_map, List.map_map] at hfields
    exact ⟨_, hfields, List.forall₂_map_right_iff.2
      (List.forall₂_same.2 fun p hp => (hkept p hp).1)⟩
  · rw [hto, ← List.append_nil (given _)]
    exact reread_given hdepth (List.forall_mem_map.2 fun p hp => (hkept p hp).2)
      (List.forall_mem_nil _)

/-- A record that keeps other members is kept if its parts are. -/
theorem Form.keeps_of_parts_others (parts : List (RecordPart ρ)) (others : ρ → OtherFields)
    (hnames : (parts.map RecordPart.name).Nodup)
    (hto : ∀ r, f.toJson r = .object (given (RecordPart.written parts r) ++ others r))
    (hof : ∀ j r, f.ofJson? j = some r ↔
      ∃ members, j.allMembers? = some members ∧ RecordPart.ReadMembers parts members r (others r))
    (hparts : ∀ p ∈ parts, p.Keeps (depth + 1)) : f.Keeps depth := by
  intro j r hfits hread
  obtain ⟨members, hmembers, hall, hothers⟩ := (hof j r).1 hread
  cases allMembers?_eq_some hmembers
  obtain ⟨hdepth, hfits⟩ := fits_object_iff.1 hfits
  have ho := OtherFields.kept_of_ofMembers? hfits hothers
  have hkept : ∀ p ∈ parts,
      p.Reads (p.toJson? r) r ∧ ∀ v ∈ p.toJson? r, reread (depth + 1) v = v := by
    intro p hp
    obtain ⟨value, hvalue, hreads⟩ := hall p hp
    exact hparts p hp value r (fits_of_field? hfits hvalue) hreads
  have hname : ∀ p ∈ parts, p.name.toList ∈ RecordPart.names parts :=
    fun p hp => List.mem_map_of_mem hp
  constructor
  · rw [hto, hof]
    refine ⟨_, rfl, fun p hp => ⟨p.toJson? r, ?_, (hkept p hp).1⟩,
      ho.ofMembers?_given (List.forall_mem_map.2 hname)⟩
    refine field?_given (map_fst_written parts r ▸ hnames) (List.mem_map_of_mem hp) ?_
    exact fun m hm hkey => ho.undeclared m hm (hkey ▸ hname p hp)
  · rw [hto]
    exact reread_given hdepth (List.forall_mem_map.2 fun p hp => (hkept p hp).2) ho.back

end Parts

end Blockbook.Json
