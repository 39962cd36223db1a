import Blockbook.Json.Basic
import Mathlib.Data.Char
import Mathlib.Data.List.Lex

/-!
# Members of objects

Members are put into a list either at the end or by the order of their keys; a key that is there
already gets the new value. A list built that way has each key once, and building it again from
itself changes nothing.

* `nodup_mergeMembers`, `mergeMembers_of_nodup`: members in order of first occurrence.
* `sorted_sortMembers`, `sortMembers_of_sorted`: members sorted by key.
-/

namespace Blockbook.Json

variable {α : Type} {key : Text} {value : α} {member : Text × α} {members seen : List (Text × α)}

/-- A fold that adds each member, or leaves it out, ends with members it was given. -/
theorem mem_of_mem_foldl {add : List (Text × α) → Text × α → List (Text × α)}
    (hadd : ∀ seen added, member ∈ add seen added → member = added ∨ member ∈ seen)
    (h : member ∈ members.foldl add seen) : member ∈ seen ∨ member ∈ members := by
  induction members generalizing seen with
  | nil => exact .inl h
  | cons head members ih =>
    obtain h | h := ih h
    · exact (hadd seen head h).elim (fun h => .inr (h ▸ List.mem_cons_self)) .inl
    · exact .inr (List.mem_cons_of_mem _ h)

/-! ## Members put in place -/

theorem putMember_of_not_mem {members : List (Text × α)} (h : key ∉ members.map Prod.fst)
    (value : α) : putMember key value members = members ++ [(key, value)] := by
  induction members with
  | nil => rfl
  | cons member members ih =>
    obtain ⟨k, v⟩ := member
    rw [List.map_cons, List.mem_cons, not_or] at h
    rw [putMember, if_neg h.1, ih h.2, List.cons_append]

/-- A member that is put again keeps its place. -/
theorem putMember_append {front : List (Text × α)} (h : key ∉ front.map Prod.fst)
    (value old : α) (rest : List (Text × α)) :
    putMember key value (front ++ (key, old) :: rest) = front ++ (key, value) :: rest := by
  induction front with
  | nil => exact if_pos rfl
  | cons member front ih =>
    obtain ⟨k, v⟩ := member
    rw [List.map_cons, List.mem_cons, not_or] at h
    rw [List.cons_append, putMember, if_neg h.1, ih h.2, List.cons_append]

/-- A member whose key is in use takes the place of the first one with that key. -/
theorem exists_putMember_of_mem (h : key ∈ members.map Prod.fst) (value : α) :
    ∃ front old rest, members = front ++ (key, old) :: rest ∧
      putMember key value members = front ++ (key, value) :: rest := by
  obtain ⟨fronts, rests, hkeys, hfront⟩ := List.eq_append_cons_of_mem h
  obtain ⟨front, tail, rfl, rfl, htail⟩ := List.map_eq_append_iff.1 hkeys
  obtain ⟨⟨k, old⟩, rest, rfl, rfl, -⟩ := List.map_eq_cons_iff.1 htail
  exact ⟨front, old, rest, rfl, putMember_append hfront value old rest⟩

theorem mem_of_mem_putMember (h : member ∈ putMember key value members) :
    member = (key, value) ∨ member ∈ members := by
  induction members with
  | nil => exact .inl (List.mem_singleton.1 h)
  | cons head members ih =>
    obtain ⟨k, v⟩ := head
    rw [putMember] at h
    split at h
    · exact (List.mem_cons.1 h).imp_right (List.mem_cons_of_mem _)
    · obtain rfl | h := List.mem_cons.1 h
      · exact .inr List.mem_cons_self
      · exact (ih h).imp_right (List.mem_cons_of_mem _)

theorem map_fst_putMember (key : Text) (value : α) (members : List (Text × α)) :
    (putMember key value members).map Prod.fst =
      if key ∈ members.map Prod.fst then members.map Prod.fst
      else members.map Prod.fst ++ [key] := by
  induction members with
  | nil => rfl
  | cons head members ih =>
    obtain ⟨k, v⟩ := head
    rw [putMember]
    split
    · next h => simp [h]
    · next h =>
      rw [List.map_cons, ih]
      by_cases hmem : key ∈ members.map Prod.fst <;> simp [h, hmem]

theorem nodup_putMember (h : (members.map Prod.fst).Nodup) :
    ((putMember key value members).map Prod.fst).Nodup := by
  rw [map_fst_putMember]
  split
  · exact h
  · next hkey =>
    refine List.nodup_append.2 ⟨h, List.pairwise_singleton .., fun k hk k' hk' => ?_⟩
    rintro rfl
    exact hkey (List.mem_singleton.1 hk' ▸ hk)

theorem foldl_putMember_of_nodup (h : ((seen ++ members).map Prod.fst).Nodup) :
    members.foldl (fun merged (key, value) => putMember key value merged) seen =
      seen ++ members := by
  induction members generalizing seen with
  | nil => rw [List.foldl_nil, List.append_nil]
  | cons member members ih =>
    obtain ⟨k, v⟩ := member
    have hkey : k ∉ seen.map Prod.fst := by
      rw [List.map_append, List.map_cons] at h
      exact fun hmem => (List.nodup_append.1 h).2.2 k hmem k List.mem_cons_self rfl
    rw [List.foldl_cons]
    dsimp only
    rw [putMember_of_not_mem hkey, ih (by simpa using h), List.append_assoc, List.singleton_append]

/-- Members with distinct keys stay as they are. -/
theorem mergeMembers_of_nodup (h : (members.map Prod.fst).Nodup) :
    mergeMembers members = members :=
  foldl_putMember_of_nodup h

theorem nodup_mergeMembers (members : List (Text × α)) :
    ((mergeMembers members).map Prod.fst).Nodup :=
  List.foldlRecOn (motive := fun s : List (Text × α) => (s.map Prod.fst).Nodup) members _
    List.nodup_nil fun _ h _ _ => nodup_putMember h

theorem mem_of_mem_mergeMembers (h : member ∈ mergeMembers members) : member ∈ members :=
  (mem_of_mem_foldl (fun _ _ h => mem_of_mem_putMember h) h).resolve_left List.not_mem_nil

/-! ## Members in order of their keys -/

/-- The keys of the members ascend, so that each is there once. -/
def SortedKeys (members : List (Text × α)) : Prop := (members.map Prod.fst).Pairwise (· < ·)

theorem mem_of_mem_insertMember (h : member ∈ insertMember key value members) :
    member = (key, value) ∨ member ∈ members := by
  induction members with
  | nil => exact .inl (List.mem_singleton.1 h)
  | cons head members ih =>
    obtain ⟨k, v⟩ := head
    rw [insertMember] at h
    split at h
    · exact (List.mem_cons.1 h).imp_right (List.mem_cons_of_mem _)
    split at h
    · exact List.mem_cons.1 h
    · obtain rfl | h := List.mem_cons.1 h
      · exact .inr List.mem_cons_self
      · exact (ih h).imp_right (List.mem_cons_of_mem _)

theorem sorted_insertMember (h : SortedKeys members) :
    SortedKeys (insertMember key value members) := by
  induction members with
  | nil => exact List.pairwise_singleton ..
  | cons head members ih =>
    obtain ⟨k, v⟩ := head
    obtain ⟨hhead, htail⟩ := List.pairwise_cons.1 h
    rw [insertMember]
    split
    · next hkey => exact hkey ▸ h
    split
    · next hlt =>
      refine List.pairwise_cons.2 ⟨fun k' hk' => ?_, h⟩
      obtain rfl | hk' := List.mem_cons.1 hk'
      · exact hlt
      · exact lt_trans hlt (hhead k' hk')
    · next hne hnlt =>
      refine List.pairwise_cons.2 ⟨fun k' hk' => ?_, ih htail⟩
      obtain ⟨m, hm, rfl⟩ := List.mem_map.1 hk'
      obtain rfl | hm := mem_of_mem_insertMember hm
      · exact lt_of_le_of_ne (not_lt.1 hnlt) (Ne.symm hne)
      · exact hhead m.1 (List.mem_map_of_mem hm)

/-- A member is found where it was put, whatever the other members are. -/
theorem find?_insertMember (key : Text) (value : α) (members : List (Text × α)) :
    (insertMember key value members).find? (·.1 = key) = some (key, value) := by
  induction members with
  | nil => simp [insertMember]
  | cons member members ih =>
    obtain ⟨k, v⟩ := member
    rw [insertMember]
    split
    · simp
    split
    · simp
    · next h _ => rw [List.find?_cons_of_neg (by simpa using Ne.symm h), ih]

theorem insertMember_of_lt {members : List (Text × α)} (h : ∀ k ∈ members.map Prod.fst, k < key)
    (value : α) : insertMember key value members = members ++ [(key, value)] := by
  induction members with
  | nil => rfl
  | cons head members ih =>
    obtain ⟨k, v⟩ := head
    have hk : k < key := h k List.mem_cons_self
    rw [insertMember, if_neg hk.ne', if_neg hk.not_gt,
      ih fun k' hk' => h k' (List.mem_cons_of_mem _ hk'), List.cons_append]

theorem foldl_insertMember_of_sorted (h : SortedKeys (seen ++ members)) :
    members.foldl (fun sorted (key, value) => insertMember key value sorted) seen =
      seen ++ members := by
  induction members generalizing seen with
  | nil => rw [List.foldl_nil, List.append_nil]
  | cons member members ih =>
    obtain ⟨k, v⟩ := member
    have hkey : ∀ k' ∈ seen.map Prod.fst, k' < k := by
      rw [SortedKeys, List.map_append, List.map_cons, List.pairwise_append] at h
      exact fun k' hk' => h.2.2 k' hk' k List.mem_cons_self
    rw [List.foldl_cons]
    dsimp only
    rw [insertMember_of_lt hkey, ih (by simpa using h), List.append_assoc, List.singleton_append]

/-- Members sorted by key stay as they are. -/
theorem sortMembers_of_sorted (h : SortedKeys members) : sortMembers members = members :=
  foldl_insertMember_of_sorted h

theorem sorted_sortMembers (members : List (Text × α)) : SortedKeys (sortMembers members) :=
  List.foldlRecOn members _ List.Pairwise.nil fun _ h _ _ => sorted_insertMember h

theorem mem_of_mem_sortMembers (h : member ∈ sortMembers members) : member ∈ members :=
  (mem_of_mem_foldl (fun _ _ h => mem_of_mem_insertMember h) h).resolve_left List.not_mem_nil

end Blockbook.Json
