import Blockbook.Module.Inject
import Blockbook.Panel.Table
import Blockbook.Proofs.Component.Merge
import Blockbook.Proofs.Component.Wire
import Blockbook.Proofs.Split

/-!
# The panel shows what is injected

Documentation is injected as the text of a component, and the panel finds its blocks in what that
text is read as. The blocks come last in the text, so they win over a field of the same name that
the component has kept.
-/

namespace Blockbook

namespace Json

/-- Of an object's canonical form, the last member is found under its key. -/
theorem step?_canonical {front : List (Text × Json)} {key : Text} {value found v : Json}
    (hvalue : canonical? value = some found)
    (h : canonical? (.object (front ++ [(key, value)])) = some v) : step? key v = some found := by
  obtain ⟨members, hmembers, rfl⟩ := Option.map_eq_some_iff.1 h
  obtain ⟨x, y, -, hy, rfl⟩ := canonicalMembers?_append_iff.1 hmembers
  obtain ⟨first, rest, hfirst, hrest, rfl⟩ := canonicalMembers?_cons_iff.1 hy
  cases hrest
  cases hvalue.symm.trans hfirst
  rw [step?, sortMembers, List.foldl_append, List.foldl_cons, List.foldl_nil, find?_insertMember]
  rfl

end Json

open Json Blockbook.Module

/-! ## Where the panel looks -/

namespace Panel

/-- The data of a story of a component whose documentation is assigned to a property. -/
def storyOf (property : Text) (documentation : Json) : Json :=
  .object [("parameters".toList,
    .object [("component".toList, .object [(property, documentation)])])]

theorem step?_singleton (key : Text) (value : Json) :
    step? key (.object [(key, value)]) = some value := by
  simp [step?]

theorem undoTilde_of_not_mem (code meaning : Char) {s : Text} (h : '~' ∉ s) :
    undoTilde code meaning s = s := by
  fun_induction undoTilde code meaning s with
  | case1 | case2 => simp at h
  | case3 c s _ ih => rw [ih fun hmem => h (List.mem_cons_of_mem _ hmem)]
  | case4 => rfl

theorem unescapeStep_of_not_mem {step : Text} (h : '~' ∉ step) : unescapeStep step = step := by
  rw [unescapeStep, undoTilde_of_not_mem _ _ h, undoTilde_of_not_mem _ _ h]

/-- The name of a property has no character that means something in a pointer. -/
theorem not_mem_of_isProperty {property : Text} (h : isProperty property = true) :
    '/' ∉ property ∧ '~' ∉ property := by
  have hall : ∀ c ∈ property, (isNameStart c || ('0' ≤ c && c ≤ '9')) = true := by
    cases property with
    | nil => exact List.forall_mem_nil _
    | cons c cs =>
      rw [isProperty, Bool.and_eq_true, List.all_eq_true] at h
      exact List.forall_mem_cons.2 ⟨by rw [h.1, Bool.true_or], h.2⟩
  exact ⟨fun hmem => absurd (hall _ hmem) (by decide),
    fun hmem => absurd (hall _ hmem) (by decide)⟩

/-- The panel's pointer leads to the blocks of the documentation. -/
theorem pointer?_storyOf {property : Text} (h : isProperty property = true) (v : Json) :
    pointer? ("/parameters/component/" ++ property ++ "/twigBlocks") (storyOf property v) =
      step? DocumentedComponent.blocksKey v := by
  obtain ⟨hslash, htilde⟩ := not_mem_of_isProperty h
  have hpointer : ("/parameters/component/" ++ property ++ "/twigBlocks" : Text) =
      '/' :: ("parameters" ++ '/' :: ("component" ++ '/' ::
        (property ++ '/' :: "twigBlocks"))) := by simp
  rw [hpointer, pointer?, Text.splitOn_append (by decide), Text.splitOn_append (by decide),
    Text.splitOn_append hslash, Text.splitOn_of_not_mem (by decide)]
  rw [List.map_cons, List.map_cons, List.map_cons, List.map_cons, List.map_nil,
    unescapeStep_of_not_mem htilde, unescapeStep_of_not_mem (by decide),
    unescapeStep_of_not_mem (by decide), unescapeStep_of_not_mem (by decide)]
  simp only [follow?, storyOf, List.foldl_cons, List.foldl_nil, Option.bind_some, step?_singleton]
  rfl

/-! ## What the text is read as -/

/-- The canonical form of a block. -/
def canonicalBlock (f : Fragment) : Json :=
  .object [("code".toList, .string f.code), ("name".toList, .string f.name)]

theorem canonical?_block (f : Fragment) : canonical? f.toJson = some (canonicalBlock f) := by
  have hne : "code".toList ≠ "name".toList := by decide
  have hlt : "code".toList < "name".toList := by decide
  simp only [Fragment.toJson, canonical?, canonicalMembers?, Option.map_some, sortMembers,
    List.foldl_cons, List.foldl_nil, insertMember, if_neg hne, if_pos hlt, canonicalBlock]

theorem canonical?_blocks (fragments : List Fragment) :
    canonical? (.array (fragments.map Fragment.toJson)) =
      some (.array (fragments.map canonicalBlock)) := by
  have hitems : canonicalItems? (fragments.map Fragment.toJson) =
      some (fragments.map canonicalBlock) := by
    induction fragments with
    | nil => rfl
    | cons f fragments ih =>
      rw [List.map_cons, List.map_cons]
      exact canonicalItems?_cons_iff.2 ⟨_, _, canonical?_block f, ih, rfl⟩
  rw [canonical?, hitems, Option.map_some]

theorem reread_blocks (fragments : List Fragment) :
    reread 1 (.array (fragments.map Fragment.toJson)) =
      .array (fragments.map Fragment.toJson) := by
  refine reread_array (by decide) (List.forall_mem_map.2 fun f _ => reread_object (by decide) ?_)
  exact List.forall_mem_cons.2 ⟨rfl, List.forall_mem_singleton.2 rfl⟩

theorem fragmentOf_canonicalBlock (f : Fragment) : fragmentOf (canonicalBlock f) = f := rfl

theorem fragments_of_pointer? {property : Text} {story : Json} {items : List Json}
    (h : pointer? ("/parameters/component/" ++ property ++ "/twigBlocks") story =
      some (.array items)) : fragments property story = items.map fragmentOf := by
  unfold fragments
  rw [h]

/-- Whatever the text of a component is read as, the panel finds the blocks in it. -/
theorem fragments_storyOf {property : Text} (hproperty : isProperty property = true)
    {c : DocumentedComponent} {v : Json} (h : canonical? (reread 0 c.toJson) = some v) :
    fragments property (storyOf property v) = c.blocks := by
  have hobject : reread 0 c.toJson = .object (rereadMembers 1 c.doc.toMembers ++
      [(DocumentedComponent.blocksKey, .array (c.blocks.map Fragment.toJson))]) := by
    rw [DocumentedComponent.toJson, reread, if_pos (by decide : 0 + 1 ≤ depthLimit),
      rereadMembers_append, rereadMembers, reread_blocks, rereadMembers]
  rw [hobject] at h
  have hstep := step?_canonical (canonical?_blocks c.blocks) h
  rw [fragments_of_pointer? ((pointer?_storyOf hproperty v).trans hstep), List.map_map]
  exact (List.map_congr_left fun f _ => fragmentOf_canonicalBlock f).trans (List.map_id _)

end Panel

/-! ## When the text has a value -/

theorem forall_mem_member? {P : Json → Prop} {name : String} {value : Option Json} :
    (∀ member ∈ member? name value, P member.2) ↔ ∀ v ∈ value, P v := by
  cases value <;> simp [member?]

variable {depth : Nat}

theorem DescriptorSet.readable_toJson_iff {set : DescriptorSet} :
    Readable depth set.toJson ↔
      depth + 1 ≤ depthLimit ∧ ∀ d ∈ set.toList, Readable (depth + 1) d.toJson := by
  cases set with
  | list items => rw [toJson, readable_array_iff, List.forall_mem_map]; rfl
  | map entries =>
    rw [toJson, readable_object_iff, List.forall_mem_map, toList, List.forall_mem_map]

theorem Slot.readable_descriptor (slot : Slot) (hdepth : depth + 1 ≤ depthLimit) :
    Readable depth slot.descriptor.toJson := by
  refine readable_object_iff.2 ⟨hdepth, List.forall_mem_cons.2 ⟨rfl, ?_⟩⟩
  exact List.forall_mem_singleton.2 rfl

namespace ComponentDoc

theorem readable_toMembers_iff {c : ComponentDoc} :
    (∀ member ∈ c.toMembers, Readable depth member.2) ↔
      (∀ set ∈ c.props, Readable depth set.toJson) ∧
      (∀ set ∈ c.events, Readable depth set.toJson) ∧
      (∀ set ∈ c.slots, Readable depth set.toJson) ∧
      ∀ member ∈ c.others, Readable depth member.2 := by
  have htext : ∀ t : Option Text, ∀ v ∈ t.map Json.string, Readable depth v := by
    intro t v hv
    obtain ⟨t, -, rfl⟩ := Option.mem_map.1 hv
    rfl
  have hset : ∀ set : Option DescriptorSet, (∀ v ∈ set.map DescriptorSet.toJson, Readable depth v) ↔
      ∀ s ∈ set, Readable depth s.toJson := by
    intro set
    cases set <;> simp
  simp only [toMembers, List.forall_mem_append, forall_mem_member?, hset, and_assoc]
  exact ⟨fun h => h.2.2.2, fun h => ⟨htext _, htext _, htext _, h⟩⟩

/-- Merging adds nothing that cannot be read. -/
theorem readable_merge {c : ComponentDoc} (h : ∀ member ∈ c.toMembers, Readable 1 member.2)
    (fragments : List Fragment) (slots : List Slot) :
    ∀ member ∈ (c.merge fragments slots).doc.toMembers, Readable 1 member.2 := by
  have hvisible : ∀ set : DescriptorSet, Readable 1 set.toJson → Readable 1 set.visible.toJson := by
    intro set hset
    obtain ⟨hdepth, hall⟩ := DescriptorSet.readable_toJson_iff.1 hset
    refine DescriptorSet.readable_toJson_iff.2 ⟨hdepth, fun d hd => hall d ?_⟩
    rw [DescriptorSet.toList_visible] at hd
    exact List.mem_of_mem_filter hd
  have hsieved : ∀ known : Option DescriptorSet, (∀ set ∈ known, Readable 1 set.toJson) →
      ∀ set ∈ known.map DescriptorSet.visible, Readable 1 set.toJson := by
    intro known hknown _ hset
    obtain ⟨set, hmem, rfl⟩ := Option.mem_map.1 hset
    exact hvisible set (hknown set hmem)
  obtain ⟨hprops, hevents, hslots, hothers⟩ := readable_toMembers_iff.1 h
  refine readable_toMembers_iff.2
    ⟨hsieved c.props hprops, hsieved c.events hevents, ?_, hothers⟩
  rintro _ ⟨⟩
  refine hvisible _ (DescriptorSet.readable_toJson_iff.2 ⟨by decide, fun d hd => ?_⟩)
  obtain hd | ⟨slot, -, rfl⟩ := DescriptorSet.mem_toList_pushAll hd
  · cases hknown : c.slots with
    | none =>
      rw [hknown] at hd
      exact absurd hd List.not_mem_nil
    | some known =>
      rw [hknown] at hd
      exact (DescriptorSet.readable_toJson_iff.1 (hslots known hknown)).2 d hd
  · exact slot.readable_descriptor (by decide)

end ComponentDoc

theorem read?_write (j : Json) : valueForm.read? j.write = canonical? (reread 0 j) := by
  rw [Form.read?, parse_write]
  rfl

/-- The text that is injected for a component is read as a value in which the panel finds exactly
the blocks of the template, in order. There is such a value if the component alone has one. -/
theorem panel_shows_injected (c : ComponentDoc) (fragments : List Fragment) (slots : List Slot)
    (property : Text) (hproperty : isProperty property = true) :
    (∀ v, valueForm.read? (c.merge fragments slots).toJson.write = some v →
      Panel.fragments property (Panel.storyOf property v) = fragments) ∧
    ∀ w, valueForm.read? c.toJson.write = some w →
      ∃ v, valueForm.read? (c.merge fragments slots).toJson.write = some v := by
  simp only [read?_write]
  refine ⟨fun v hv => Panel.fragments_storyOf hproperty hv, fun w hw => ?_⟩
  have hreadable : Readable 0 c.toJson := Option.isSome_iff_exists.2 ⟨w, hw⟩
  obtain ⟨hdepth, hmembers⟩ := readable_object_iff.1 hreadable
  refine Option.isSome_iff_exists.1 (readable_object_iff.2 ⟨hdepth, List.forall_mem_append.2
    ⟨c.readable_merge hmembers fragments slots, List.forall_mem_singleton.2 ?_⟩⟩)
  show (canonical? (reread 1 (.array (fragments.map Fragment.toJson)))).isSome = true
  rw [Panel.reread_blocks, Panel.canonical?_blocks, Option.isSome_some]

/-- A component that keeps a field under the key of the blocks. -/
def blockedDoc : ComponentDoc :=
  { ComponentDoc.bare "sw-card" with others := [(DocumentedComponent.blocksKey, .array [.null])] }

theorem panel_shows_injected_blockedDoc :
    isProperty "__docgenInfo" = true ∧
      ∃ v, valueForm.read? (blockedDoc.merge [⟨"a", "<b>"⟩, ⟨"a", []⟩] [.default]).toJson.write =
          some v ∧
        Panel.fragments "__docgenInfo" (Panel.storyOf "__docgenInfo" v) =
          [⟨"a", "<b>"⟩, ⟨"a", []⟩] := by
  have hproperty : isProperty "__docgenInfo" = true := by decide
  have hdoc : (valueForm.read? blockedDoc.toJson.write).isSome = true := by decide +kernel
  obtain ⟨w, hw⟩ := Option.isSome_iff_exists.1 hdoc
  obtain ⟨hshown, hread⟩ :=
    panel_shows_injected blockedDoc [⟨"a", "<b>"⟩, ⟨"a", []⟩] [.default] "__docgenInfo" hproperty
  obtain ⟨v, hv⟩ := hread w hw
  exact ⟨hproperty, v, hv, hshown v hv⟩

end Blockbook
