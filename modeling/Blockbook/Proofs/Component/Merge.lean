import Blockbook.Component.Doc
import Blockbook.Proofs.Json.Members

/-!
# What merging keeps

Merging files the slots of a template after those that are known already and drops what is tagged to
be ignored. A list takes every slot at its end. A table files a slot under its name, and a name that
is a key already takes the place of what stood there, so a table loses descriptors exactly if a name
is used twice.

* `toList_pushAll`: the slots follow what is there, if no name is used twice.
* `size_visible_pushAll_iff`: nothing is lost exactly if no name is used twice.
* `ComponentDoc.merge_keeps`: what merging keeps of a component.
-/

namespace Blockbook

open Json

namespace DescriptorSet

/-- Whether descriptors are filed under keys. -/
def isTable : DescriptorSet → Bool
  | .list _ => false
  | .map _ => true

/-- The keys of a table. A list has none. -/
def keys : DescriptorSet → List Text
  | .list _ => []
  | .map entries => entries.map Prod.fst

/-- No slot would be filed where a descriptor stands already: a list has no such place, and in a
table the names of the slots differ from each other and from the keys. -/
def NewNames (set : DescriptorSet) (slots : List Slot) : Prop :=
  set.isTable = true → (slots.map Slot.name).Nodup ∧ ∀ slot ∈ slots, slot.name ∉ set.keys

/-- The slots of a template filed in a set, one after the other. -/
def pushAll (set : DescriptorSet) (slots : List Slot) : DescriptorSet :=
  slots.foldl (fun set slot => set.push slot.descriptor) set

theorem isTable_visible (set : DescriptorSet) : set.visible.isTable = set.isTable := by
  cases set <;> rfl

theorem toList_visible (set : DescriptorSet) :
    set.visible.toList = set.toList.filter fun d => !d.isIgnored :=
  toList_filter _ set

theorem isTable_push (set : DescriptorSet) (d : Descriptor) :
    (set.push d).isTable = set.isTable := by
  cases set <;> rfl

theorem isTable_pushAll (set : DescriptorSet) (slots : List Slot) :
    (set.pushAll slots).isTable = set.isTable := by
  induction slots generalizing set with
  | nil => rfl
  | cons slot slots ih =>
    rw [pushAll, List.foldl_cons, ← pushAll, ih, isTable_push]

theorem mem_toList_push {set : DescriptorSet} {d e : Descriptor} (h : e ∈ (set.push d).toList) :
    e = d ∨ e ∈ set.toList := by
  cases set with
  | list items =>
    obtain h | h := List.mem_append.1 h
    · exact .inr h
    · exact .inl (List.mem_singleton.1 h)
  | map entries =>
    obtain ⟨entry, hentry, rfl⟩ := List.mem_map.1 h
    obtain rfl | hentry := mem_of_mem_putMember hentry
    · exact .inl rfl
    · exact .inr (List.mem_map_of_mem hentry)

theorem mem_toList_pushAll {set : DescriptorSet} {slots : List Slot} {d : Descriptor}
    (h : d ∈ (set.pushAll slots).toList) :
    d ∈ set.toList ∨ ∃ slot ∈ slots, d = slot.descriptor := by
  induction slots generalizing set with
  | nil => exact .inl h
  | cons slot slots ih =>
    obtain h | ⟨other, hother, rfl⟩ := ih h
    · obtain rfl | h := mem_toList_push h
      · exact .inr ⟨slot, List.mem_cons_self, rfl⟩
      · exact .inl h
    · exact .inr ⟨other, List.mem_cons_of_mem _ hother, rfl⟩

/-! ## Slots at the end -/

theorem toList_push_of_not_mem {set : DescriptorSet} {slot : Slot}
    (h : set.isTable = true → slot.name ∉ set.keys) :
    (set.push slot.descriptor).toList = set.toList ++ [slot.descriptor] ∧
      (set.push slot.descriptor).keys = set.keys ++ if set.isTable then [slot.name] else [] := by
  cases set with
  | list items => exact ⟨rfl, rfl⟩
  | map entries =>
    have hput : putMember slot.name slot.descriptor entries =
        entries ++ [(slot.name, slot.descriptor)] := putMember_of_not_mem (h rfl) _
    have hpush : push slot.descriptor (.map entries) =
        .map (entries ++ [(slot.name, slot.descriptor)]) := congrArg _ hput
    simp [hpush, toList, keys, isTable]

/-- Slots with new names follow what is there. -/
theorem toList_pushAll {set : DescriptorSet} {slots : List Slot} (h : set.NewNames slots) :
    (set.pushAll slots).toList = set.toList ++ slots.map Slot.descriptor := by
  induction slots generalizing set with
  | nil => exact (List.append_nil _).symm
  | cons slot slots ih =>
    have hslot : set.isTable = true → slot.name ∉ set.keys :=
      fun htable => (h htable).2 slot List.mem_cons_self
    obtain ⟨hlist, hkeys⟩ := toList_push_of_not_mem hslot
    have hrest : (set.push slot.descriptor).NewNames slots := by
      intro ht
      rw [isTable_push] at ht
      obtain ⟨hnodup, hnew⟩ := h ht
      obtain ⟨hname, hnodup⟩ := List.nodup_cons.1 hnodup
      refine ⟨hnodup, fun other hother hmem => ?_⟩
      rw [hkeys, ht] at hmem
      obtain hmem | hmem := List.mem_append.1 hmem
      · exact hnew other (List.mem_cons_of_mem _ hother) hmem
      · exact hname (List.mem_singleton.1 hmem ▸ List.mem_map_of_mem hother)
    rw [pushAll, List.foldl_cons, ← pushAll, ih hrest, hlist, List.map_cons, List.append_assoc,
      List.singleton_append]

/-- Slots with new names follow what is shown. -/
theorem toList_visible_pushAll {set : DescriptorSet} {slots : List Slot} (h : set.NewNames slots) :
    (set.pushAll slots).visible.toList = set.visible.toList ++ slots.map Slot.descriptor := by
  have hslots : (slots.map Slot.descriptor).filter (fun d => !d.isIgnored) =
      slots.map Slot.descriptor :=
    List.filter_eq_self.2 (List.forall_mem_map.2 fun _ _ => rfl)
  rw [toList_visible, toList_visible, toList_pushAll h, List.filter_append, hslots]

/-! ## Descriptors that are lost -/

/-- The keys of the members whose value passes a test. -/
def keptKeys {α : Type} (keep : α → Bool) (members : List (Text × α)) : List Text :=
  (members.filter fun (_, value) => keep value).map Prod.fst

theorem keptKeys_cons {α : Type} (keep : α → Bool) (key : Text) (value : α)
    (members : List (Text × α)) :
    keptKeys keep ((key, value) :: members) =
      if keep value then key :: keptKeys keep members else keptKeys keep members := by
  cases h : keep value <;> simp [keptKeys, h]

/-- A member whose value passes the test is kept under its key, next to the members that are kept
already. -/
theorem keptKeys_putMember {α : Type} {keep : α → Bool} {value : α} (hkeep : keep value = true)
    (key : Text) {members : List (Text × α)} (hkeys : (members.map Prod.fst).Nodup) :
    (∀ k, k ∈ keptKeys keep (putMember key value members) ↔ k = key ∨ k ∈ keptKeys keep members) ∧
      (keptKeys keep (putMember key value members)).length =
        (keptKeys keep members).length + if key ∈ keptKeys keep members then 0 else 1 := by
  induction members with
  | nil => simp [putMember, keptKeys, hkeep]
  | cons member members ih =>
    obtain ⟨k, v⟩ := member
    rw [List.map_cons, List.nodup_cons] at hkeys
    have hnot : k ∉ keptKeys keep members := fun hmem => by
      obtain ⟨m, hm, hk⟩ := List.mem_map.1 hmem
      exact hkeys.1 (List.mem_map.2 ⟨m, List.mem_of_mem_filter hm, hk⟩)
    rw [putMember, keptKeys_cons]
    split
    · next hkey =>
      subst hkey
      rw [keptKeys_cons, if_pos hkeep]
      by_cases hv : keep v = true <;> simp [hv, hnot]
    · next hkey =>
      obtain ⟨hmem, hlength⟩ := ih hkeys.2
      rw [keptKeys_cons]
      by_cases hv : keep v = true
      · simp only [hv, if_true, List.mem_cons, hmem, List.length_cons, hlength, hkey, false_or]
        exact ⟨fun _ => or_left_comm, by omega⟩
      · simp only [hv]
        exact ⟨hmem, hlength⟩

/-- Filing slots in a table keeps all that is shown and shows every slot exactly if the names of the
slots differ from each other and from the keys of what is shown. -/
theorem length_keptKeys_pushAll (keep : Descriptor → Bool)
    (hkeep : ∀ slot : Slot, keep slot.descriptor = true) {entries : List (Text × Descriptor)}
    (hkeys : (entries.map Prod.fst).Nodup) (slots : List Slot) :
    ∃ found, pushAll (.map entries) slots = .map found ∧
      (keptKeys keep found).length ≤ (keptKeys keep entries).length + slots.length ∧
      ((keptKeys keep found).length = (keptKeys keep entries).length + slots.length ↔
        (slots.map Slot.name).Nodup ∧ ∀ slot ∈ slots, slot.name ∉ keptKeys keep entries) := by
  induction slots generalizing entries with
  | nil => exact ⟨entries, rfl, by simp, by simp⟩
  | cons slot slots ih =>
    obtain ⟨hmem, hlength⟩ := keptKeys_putMember (hkeep slot) slot.name hkeys
    have hput : ((putMember slot.name slot.descriptor entries).map Prod.fst).Nodup :=
      nodup_putMember hkeys
    obtain ⟨found, hfound, hle, hiff⟩ := ih hput
    simp only [hmem, not_or] at hiff
    refine ⟨found, hfound, ?_⟩
    rw [List.length_cons, List.map_cons, List.nodup_cons, List.forall_mem_cons]
    split at hlength
    · next hused =>
      refine ⟨by omega, fun h => absurd h (by omega), fun h => absurd hused h.2.1⟩
    · next hnew =>
      have hsum : (keptKeys keep entries).length + (slots.length + 1) =
          (keptKeys keep (putMember slot.name slot.descriptor entries)).length + slots.length := by
        omega
      rw [hsum, hiff]
      refine ⟨hle, fun ⟨hnodup, h⟩ => ⟨⟨fun hname => ?_, hnodup⟩, hnew, fun s hs => (h s hs).2⟩,
        fun ⟨⟨hname, hnodup⟩, _, h⟩ => ⟨hnodup, fun s hs => ⟨fun heq => ?_, h s hs⟩⟩⟩
      · obtain ⟨other, hother, heq⟩ := List.mem_map.1 hname
        exact (h other hother).1 heq
      · exact hname (heq ▸ List.mem_map_of_mem hs)

/-- A set loses nothing to slots exactly if their names are new among what it shows. -/
theorem size_visible_pushAll_iff {set : DescriptorSet} (hkeys : set.keys.Nodup)
    (slots : List Slot) :
    (set.pushAll slots).visible.size = set.visible.size + slots.length ↔
      set.visible.NewNames slots := by
  cases set with
  | list items =>
    have hnew : NewNames (.list items) slots := fun h => nomatch h
    rw [← length_toList, ← length_toList, toList_visible_pushAll hnew, List.length_append,
      List.length_map]
    exact iff_of_true rfl hnew
  | map entries =>
    obtain ⟨found, hfound, -, hiff⟩ :=
      length_keptKeys_pushAll (fun d => !d.isIgnored) (fun _ => rfl) hkeys slots
    rw [hfound]
    simp only [keptKeys, List.length_map] at hiff
    simpa [NewNames, visible, filter, size, keys, isTable] using hiff

end DescriptorSet

namespace ComponentDoc

/-- What is left of a set without what is tagged to be ignored: a set of the same form, in the same
order, and none if there was none. -/
def Sieved : Option DescriptorSet → Option DescriptorSet → Prop
  | none, found => found = none
  | some (.list items), found => found = some (.list (items.filter fun d => !d.isIgnored))
  | some (.map entries), found => found = some (.map (entries.filter fun (_, d) => !d.isIgnored))

theorem sieved_visible (set : Option DescriptorSet) : Sieved set (set.map .visible) := by
  rcases set with _ | _ | _ <;> rfl

/-- Merging changes the props, the events and the slots of a component only. Of each it drops what
is tagged to be ignored and keeps the form. The slots of the template follow those that were known,
if their names are new; and none of all those is lost exactly if the names are new among the slots
that are shown. -/
theorem merge_keeps (c : ComponentDoc) (fragments : List Fragment) (slots : List Slot)
    (hkeys : ∀ known ∈ c.slots, known.keys.Nodup) :
    ∃ props events found, c.merge fragments slots =
        ⟨{ c with props := props, events := events, slots := some found }, fragments⟩ ∧
      Sieved c.props props ∧ Sieved c.events events ∧
      (∀ d ∈ found.toList, d.isIgnored = false) ∧
      found.isTable = (c.slots.getD .empty).isTable ∧
      ((c.slots.getD .empty).NewNames slots →
        found.toList = (c.slots.getD .empty).toList.filter (fun d => !d.isIgnored) ++
          slots.map Slot.descriptor) ∧
      (found.size = (c.slots.getD .empty).visible.size + slots.length ↔
        (c.slots.getD .empty).visible.NewNames slots) := by
  have hkeys : (c.slots.getD .empty).keys.Nodup := by
    cases hslots : c.slots with
    | none => exact List.nodup_nil
    | some known => exact hkeys known hslots
  refine ⟨_, _, ((c.slots.getD .empty).pushAll slots).visible, rfl, sieved_visible c.props,
    sieved_visible c.events, fun d hd => ?_, ?_, fun hnew => ?_,
    DescriptorSet.size_visible_pushAll_iff hkeys slots⟩
  · rw [DescriptorSet.toList_visible] at hd
    simpa using List.of_mem_filter hd
  · rw [DescriptorSet.isTable_visible, DescriptorSet.isTable_pushAll]
  · rw [DescriptorSet.toList_visible_pushAll hnew, DescriptorSet.toList_visible]

/-- A component that files its default slot under a key. -/
def keyedDoc : ComponentDoc where
  displayName := none
  exportName := none
  description := none
  props := none
  events := none
  slots := some (.map [("default".toList,
    ⟨some "default", none, [("description".toList, .ofString "The body")]⟩)])
  others := []

theorem merge_keeps_keyedDoc :
    (∀ known ∈ keyedDoc.slots, known.keys.Nodup) ∧
      ∃ found, (keyedDoc.merge [] [.of "footer" []]).doc.slots = some found ∧
        found.toList = [⟨some "default", none, [("description".toList, .ofString "The body")]⟩,
          ⟨some "footer", none, [("default".toList, .bool false)]⟩] := by
  have hkeys : ∀ known ∈ keyedDoc.slots, known.keys.Nodup := by
    rintro known ⟨⟩
    decide
  obtain ⟨props, events, found, hmerge, -, -, -, -, hlist, -⟩ :=
    merge_keeps keyedDoc [] [.of "footer" []] hkeys
  exact ⟨hkeys, found, by rw [hmerge], hlist fun _ => by decide⟩

/-- The default slot of a template takes the place of the one that was known. -/
theorem merge_replaces_keyedDoc :
    ∃ known found, keyedDoc.slots = some known ∧
      (keyedDoc.merge [] [.default]).doc.slots = some found ∧
      ∃ d ∈ known.toList, d.isIgnored = false ∧ d ∉ found.toList := by
  refine ⟨_, _, rfl, rfl, _, List.mem_singleton.2 rfl, rfl, fun h => ?_⟩
  have hothers := congrArg Descriptor.others (List.mem_singleton.1 h)
  simp [Slot.descriptor] at hothers

end ComponentDoc

end Blockbook
