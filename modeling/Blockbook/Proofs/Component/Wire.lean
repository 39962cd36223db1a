import Blockbook.Proofs.Json.Record

/-!
# Components survive being written and read

Each form of `Component.Wire` keeps the values it reads. A record is given by its parts, so all
there is to show for it is that its reader reads exactly those parts (`ofJson?_eq_some_iff`).
-/

namespace Blockbook

open Json

variable {depth : Nat}

namespace Fragment

def form : Form Fragment := ⟨toJson, ofJson?⟩

def parts : List (RecordPart Fragment) :=
  [.of "name" name (.required textForm), .of "code" code (.required textForm)]

theorem ofJson?_eq_some_iff (j : Json) (f : Fragment) :
    ofJson? j = some f ↔ RecordPart.ReadFields parts j f := by
  refine RecordPart.readFields_pair_iff "name" "code" textForm textForm mk (fun a b r => ?_) j f
  cases r
  rw [mk.injEq]

theorem keeps : form.Keeps depth := by
  refine Form.keeps_of_parts parts (by decide) (fun _ => rfl) ofJson?_eq_some_iff ?_
  simp [parts, RecordPart.keeps_of, keeps_text.required]

end Fragment

namespace Slot

def form : Form Slot := ⟨toJson, ofJson?⟩

def parts : List (RecordPart Slot) :=
  [.of "name" name (.required textForm), .of "isDefault" isDefault (.required boolForm),
    .of "isScopedSlot" isScoped (.required boolForm),
    .of "variables" scope (.required textForm.list)]

theorem ofJson?_eq_some_iff (j : Json) (s : Slot) :
    ofJson? j = some s ↔ RecordPart.ReadFields parts j s := by
  constructor
  · intro h
    rw [ofJson?] at h
    split at h
    · next hfields =>
      simp only [Option.bind_eq_bind, Option.bind_eq_some_iff] at h
      obtain ⟨_, hname, _, hdefault, _, hscoped, _, hscope, ⟨⟩⟩ := h
      exact ⟨_, hfields, .cons hname (.cons hdefault (.cons hscoped (.cons hscope .nil)))⟩
    · cases h
  · rintro ⟨values, hfields, hall⟩
    match values, hall with
    | _, .cons hname (.cons hdefault (.cons hscoped (.cons hscope .nil))) =>
      change fields? ["name", "isDefault", "isScopedSlot", "variables"] j = _ at hfields
      simp only [ofJson?, hfields, Option.bind_eq_bind, Option.bind_eq_some_iff]
      exact ⟨_, hname, _, hdefault, _, hscoped, _, hscope, rfl⟩

theorem keeps : form.Keeps depth := by
  refine Form.keeps_of_parts parts (by decide) (fun _ => rfl) ofJson?_eq_some_iff ?_
  simp [parts, RecordPart.keeps_of, keeps_text.required, keeps_bool.required,
    keeps_text.list.required]

end Slot

namespace TemplateFile

def form : Form TemplateFile := ⟨toJson, ofJson?⟩

def parts : List (RecordPart TemplateFile) :=
  [.of "path" path (.required textForm), .of "content" content (.required textForm)]

theorem ofJson?_eq_some_iff (j : Json) (f : TemplateFile) :
    ofJson? j = some f ↔ RecordPart.ReadFields parts j f := by
  refine RecordPart.readFields_pair_iff "path" "content" textForm textForm mk (fun a b r => ?_) j f
  cases r
  rw [mk.injEq]

theorem keeps : form.Keeps depth := by
  refine Form.keeps_of_parts parts (by decide) (fun _ => rfl) ofJson?_eq_some_iff ?_
  simp [parts, RecordPart.keeps_of, keeps_text.required]

end TemplateFile

/-! ## Descriptors -/

namespace TagEntry

def form : Form TagEntry := ⟨toJson, ofJson?⟩

def parts : List (RecordPart TagEntry) := [.of "title" title (.optional textForm)]

theorem ofJson?_eq_some_iff (j : Json) (e : TagEntry) :
    ofJson? j = some e ↔ ∃ members, j.allMembers? = some members ∧
      RecordPart.ReadMembers parts members e e.others := by
  simp only [ofJson?, Option.bind_eq_bind, Option.bind_eq_some_iff]
  constructor
  · rintro ⟨members, hmembers, _, hfield, _, htitle, _, hothers, ⟨⟩⟩
    exact ⟨members, hmembers, List.forall_mem_singleton.2 ⟨_, hfield, htitle⟩, hothers⟩
  · rintro ⟨members, hmembers, hparts, hothers⟩
    obtain ⟨_, hfield, htitle⟩ := List.forall_mem_singleton.1 hparts
    exact ⟨members, hmembers, _, hfield, _, htitle, _, hothers, rfl⟩

theorem keeps : form.Keeps depth := by
  refine Form.keeps_of_parts_others parts others (by decide) (fun e => ?_) ofJson?_eq_some_iff ?_
  · simp only [parts, RecordPart.given_written_cons, RecordPart.given_written_nil, List.append_nil]
    rfl
  · simp [parts, RecordPart.keeps_of, keeps_optional_text]

end TagEntry

namespace Tags

def form : Form Tags := ⟨toJson, ofJson?⟩

theorem keeps : form.Keeps depth := by
  intro j tags hfits h
  cases j with
  | array items =>
    obtain ⟨entries, hentries, rfl⟩ := Option.map_eq_some_iff.1 h
    exact (TagEntry.keeps.list _ entries hfits hentries).map rfl rfl
  | object members =>
    obtain ⟨found, hfound, rfl⟩ := Option.map_eq_some_iff.1 h
    have hkept := keeps_value.merged _ (mergeMembers found) hfits
      (Option.map_eq_some_iff.2 ⟨found, hfound, rfl⟩)
    exact hkept.map (Form.toJson_table_value _ _).symm (Option.map_map _ _ _).symm
  | _ => cases h

theorem toJson_ne_null (tags : Tags) : tags.toJson ≠ .null := by
  cases tags <;> exact Json.noConfusion

end Tags

namespace Descriptor

def form : Form Descriptor := ⟨toJson, ofJson?⟩

def parts : List (RecordPart Descriptor) :=
  [.of "name" name (.optional textForm), .of "tags" tags (.optional Tags.form)]

theorem ofJson?_eq_some_iff (j : Json) (d : Descriptor) :
    ofJson? j = some d ↔ ∃ members, j.allMembers? = some members ∧
      RecordPart.ReadMembers parts members d d.others := by
  simp only [ofJson?, Option.bind_eq_bind, Option.bind_eq_some_iff]
  constructor
  · rintro ⟨members, hmembers, _, hfield, _, hfield', _, hname, _, htags, _, hothers, ⟨⟩⟩
    refine ⟨members, hmembers, List.forall_mem_cons.2 ⟨⟨_, hfield, hname⟩, ?_⟩, hothers⟩
    exact List.forall_mem_singleton.2 ⟨_, hfield', htags⟩
  · rintro ⟨members, hmembers, hparts, hothers⟩
    obtain ⟨⟨_, hfield, hname⟩, hparts⟩ := List.forall_mem_cons.1 hparts
    obtain ⟨_, hfield', htags⟩ := List.forall_mem_singleton.1 hparts
    exact ⟨members, hmembers, _, hfield, _, hfield', _, hname, _, htags, _, hothers, rfl⟩

theorem keeps : form.Keeps depth := by
  refine Form.keeps_of_parts_others parts others (by decide) (fun d => ?_) ofJson?_eq_some_iff ?_
  · simp only [parts, RecordPart.given_written_cons, RecordPart.given_written_nil, List.append_nil]
    rfl
  · simp [parts, RecordPart.keeps_of, keeps_optional_text, Tags.keeps.optional Tags.toJson_ne_null]

end Descriptor

namespace DescriptorSet

def form : Form DescriptorSet := ⟨toJson, ofJson?⟩

theorem keeps : form.Keeps depth := by
  intro j set hfits h
  cases j with
  | array items =>
    obtain ⟨found, hfound, rfl⟩ := Option.map_eq_some_iff.1 h
    exact (Descriptor.keeps.list _ found hfits hfound).map rfl rfl
  | object members =>
    obtain ⟨found, hfound, rfl⟩ := Option.map_eq_some_iff.1 h
    have hkept := Descriptor.keeps.merged _ (mergeMembers found) hfits
      (Option.map_eq_some_iff.2 ⟨found, hfound, rfl⟩)
    exact hkept.map rfl (Option.map_map _ _ _).symm
  | _ => cases h

theorem toJson_ne_null (set : DescriptorSet) : set.toJson ≠ .null := by
  cases set <;> exact Json.noConfusion

end DescriptorSet

/-! ## Components -/

namespace ComponentDoc

def form : Form ComponentDoc := ⟨toJson, ofJson?⟩

def parts : List (RecordPart ComponentDoc) :=
  [.of "displayName" displayName (.optional textForm),
    .of "exportName" exportName (.optional textForm),
    .of "description" description (.optional textForm),
    .of "props" props (.optional DescriptorSet.form),
    .of "events" events (.optional DescriptorSet.form),
    .of "slots" slots (.optional DescriptorSet.form)]

theorem toMembers_eq (c : ComponentDoc) :
    c.toMembers = given (RecordPart.written parts c) ++ c.others := by
  simp only [parts, RecordPart.given_written_cons, RecordPart.given_written_nil, List.append_nil,
    toMembers, List.append_assoc]
  rfl

theorem ofMembers?_eq_some_iff (members : List (Text × Json)) (c : ComponentDoc) :
    ofMembers? members = some c ↔ RecordPart.ReadMembers parts members c c.others := by
  simp only [ofMembers?, ofMembers?.optional, Option.bind_eq_bind, Option.bind_eq_some_iff,
    RecordPart.ReadMembers, parts, List.forall_mem_cons]
  constructor
  · rintro ⟨_, hdisplay, _, hexport, _, hdescription, _, hprops, _, hevents, _, hslots, _,
      hothers, ⟨⟩⟩
    exact ⟨⟨hdisplay, hexport, hdescription, hprops, hevents, hslots, List.forall_mem_nil _⟩,
      hothers⟩
  · rintro ⟨⟨hdisplay, hexport, hdescription, hprops, hevents, hslots, -⟩, hothers⟩
    exact ⟨_, hdisplay, _, hexport, _, hdescription, _, hprops, _, hevents, _, hslots, _,
      hothers, rfl⟩

theorem keeps : form.Keeps depth := by
  refine Form.keeps_of_parts_others parts others (by decide)
    (fun c => congrArg Json.object c.toMembers_eq) (fun j c => ?_) ?_
  · simp only [form, ofJson?, Option.bind_eq_some_iff, ofMembers?_eq_some_iff]
  · simp [parts, RecordPart.keeps_of, keeps_optional_text,
      DescriptorSet.keeps.optional DescriptorSet.toJson_ne_null]

/-- The members of a component that was read are declared or were given. -/
theorem mem_keys_of_ofMembers? {members : List (Text × Json)} {c : ComponentDoc}
    (h : ofMembers? members = some c) :
    ∀ member ∈ c.toMembers,
      member.1 ∈ RecordPart.names parts ∨ member.1 ∈ members.map Prod.fst := by
  intro member hmember
  rw [toMembers_eq] at hmember
  obtain hmem | hmem := List.mem_append.1 hmember
  · obtain ⟨field, hfield, hkey, -⟩ := mem_given.1 hmem
    obtain ⟨p, hp, rfl⟩ := List.mem_map.1 hfield
    exact .inl (hkey ▸ List.mem_map_of_mem hp)
  · have hothers := ((ofMembers?_eq_some_iff members c).1 h).2
    have hkey := OtherFields.mem_keys_of_ofMembers? hothers member hmem
    obtain ⟨m, hm, hkey⟩ := List.mem_map.1 hkey
    exact .inr (List.mem_map.2 ⟨m, List.mem_of_mem_filter hm, hkey⟩)

end ComponentDoc

namespace DocumentedComponent

def form : Form DocumentedComponent := ⟨toJson, ofJson?⟩

/-- Blocks that follow other members are read as they were written. -/
theorem field?_blocksKey {members : List (Text × Json)} (value : Json)
    (h : ∀ member ∈ members, member.1 ≠ blocksKey) :
    field? (members ++ [(blocksKey, value)]) blocksKey = some (some value) := by
  have hmembers : members.filter (·.1 = blocksKey) = [] :=
    List.filter_eq_nil_iff.2 fun m hm => by simpa using h m hm
  rw [field?, List.filter_append, hmembers]
  rfl

theorem others_blocksKey {members : List (Text × Json)} (value : Json)
    (h : ∀ member ∈ members, member.1 ≠ blocksKey) :
    Json.others [blocksKey] (members ++ [(blocksKey, value)]) = members := by
  have hmembers : Json.others [blocksKey] members = members :=
    List.filter_eq_self.2 fun m hm => by simpa using h m hm
  have hlast : Json.others [blocksKey] [(blocksKey, value)] = [] := by simp [Json.others]
  rw [Json.others, List.filter_append]
  exact (congrArg₂ _ hmembers hlast).trans (List.append_nil _)

theorem keeps (hdepth : depth + 2 ≤ depthLimit) : form.Keeps depth := by
  intro j c hfits h
  simp only [form, ofJson?, Option.bind_eq_bind, Option.bind_eq_some_iff] at h
  obtain ⟨members, hmembers, given, hgiven, blocks, hblocks, doc, hdoc, ⟨⟩⟩ := h
  cases allMembers?_eq_some hmembers
  obtain ⟨-, hmembers⟩ := fits_object_iff.1 hfits
  have hblocks := Fragment.keeps.list.withDefault (Form.kept_list_nil hdepth) given blocks
    (fits_of_field? hmembers hgiven) hblocks
  have hothers : Fits depth (.object (Json.others [blocksKey] members)) :=
    fits_object_iff.2 ⟨by omega, fun m hm => hmembers m (List.mem_of_mem_filter hm)⟩
  have hkept := ComponentDoc.keeps _ doc hothers hdoc
  -- the component was read from members without blocks, so it has none of its own
  have hkeys : ∀ member ∈ doc.toMembers, member.1 ≠ blocksKey := by
    intro member hmember hkey
    obtain hmem | hmem := ComponentDoc.mem_keys_of_ofMembers? hdoc member hmember
    · rw [hkey] at hmem
      exact absurd hmem (by decide)
    · obtain ⟨m, hm, heq⟩ := List.mem_map.1 hmem
      have hnot := List.of_mem_filter hm
      simp [heq, hkey] at hnot
  constructor
  · simp only [form, ofJson?, toJson, Option.bind_eq_bind, Option.bind_eq_some_iff]
    refine ⟨_, rfl, _, field?_blocksKey _ hkeys, blocks, hblocks.read, doc, ?_, rfl⟩
    rw [others_blocksKey _ hkeys]
    exact hkept.read
  · have hdoc : rereadMembers (depth + 1) doc.toMembers = doc.toMembers := by
      have hback : reread depth (.object doc.toMembers) = .object doc.toMembers := hkept.back
      rw [reread, if_pos (by omega)] at hback
      exact Json.object.inj hback
    have hlast := hblocks.back _ rfl
    show reread depth (.object (doc.toMembers ++ [(blocksKey, Fragment.form.list.toJson blocks)])) =
      .object (doc.toMembers ++ [(blocksKey, Fragment.form.list.toJson blocks)])
    rw [reread, if_pos (by omega), rereadMembers_append, hdoc, rereadMembers, hlast, rereadMembers]

end DocumentedComponent

end Blockbook
