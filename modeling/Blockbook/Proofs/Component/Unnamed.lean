import Blockbook.Proofs.Component.Merge
import Blockbook.Proofs.Json.Numeral

/-!
# Descriptors without a name

A list takes every descriptor at its end. A table files a descriptor without a name under the number
of its entries, and that number may be the key of another entry: one that was named so, or one that
kept its number while entries before it were dropped. The new descriptor then takes its place.

* `keyed_push_of_free`: under a key that is free, a descriptor follows all that is there.
* `exists_replaced`: under a key in use, it takes the place of an entry with that key.
* `numbered_run`: while nothing is dropped and no name is a number, the next number is free.
* `push_unnamed`: what becomes of a set after any edits.
-/

namespace Blockbook.DescriptorSet

open Json

/-- What is done to a set of descriptors. -/
inductive Edit where
  | push (d : Descriptor)
  | filter (keep : Descriptor → Bool)

/-- The set after an edit. -/
def edit (set : DescriptorSet) : Edit → DescriptorSet
  | .push d => set.push d
  | .filter keep => set.filter keep

/-- The set after some edits, one after the other. -/
def run (set : DescriptorSet) (edits : List Edit) : DescriptorSet := edits.foldl edit set

/-- An edit that adds a descriptor, and one that is not named by a number. -/
def Edit.Adds : Edit → Prop
  | .push d => ∀ n, d.name ≠ some (Text.ofNat n)
  | .filter _ => False

/-- Every key that is a number is less than the number of entries. -/
def Numbered (set : DescriptorSet) : Prop := ∀ n, Text.ofNat n ∈ set.keys → n < set.size

/-- Where a descriptor without a name is put. -/
def nextKey : DescriptorSet → Key
  | .list items => .index items.length
  | .map entries => .name (Text.ofNat entries.length)

variable {set : DescriptorSet} {d : Descriptor}

/-! ## One push -/

/-- Under a key that is free, a descriptor follows all that is there. -/
theorem keyed_push_of_free (hname : d.name = none) (hfree : Text.ofNat set.size ∉ set.keys) :
    (set.push d).keyed = set.keyed ++ [(set.nextKey, d)] := by
  cases set with
  | list items => simp [push, keyed, nextKey, List.zipIdx_append]
  | map entries =>
    have hput : putMember (Text.ofNat entries.length) d entries =
        entries ++ [(Text.ofNat entries.length, d)] := putMember_of_not_mem hfree d
    rw [push, hname, Option.getD_none, hput]
    simp [keyed, nextKey]

/-- Under a key in use, a descriptor takes the place of an entry with that key, and every other
entry stays as it is. -/
theorem exists_replaced (hname : d.name = none) (hused : Text.ofNat set.size ∈ set.keys) :
    ∃ before old after, set = .map (before ++ (Text.ofNat set.size, old) :: after) ∧
      set.push d = .map (before ++ (Text.ofNat set.size, d) :: after) := by
  cases set with
  | list items => cases hused
  | map entries =>
    obtain ⟨before, old, after, hentries, hput⟩ := exists_putMember_of_mem hused d
    refine ⟨before, old, after, congrArg _ hentries, ?_⟩
    rw [push, hname, Option.getD_none]
    exact congrArg _ hput

theorem length_keyed (set : DescriptorSet) : set.keyed.length = set.size := by
  cases set <;> simp [keyed, size]

/-- A descriptor without a name adds to what is there exactly if its key is free. -/
theorem size_push_iff (hname : d.name = none) :
    (set.push d).size = set.size + 1 ↔ Text.ofNat set.size ∉ set.keys := by
  constructor
  · intro hsize hused
    obtain ⟨before, old, after, hset, hpush⟩ := exists_replaced hname hused
    have hsame : (set.push d).size = set.size := by
      rw [hpush]
      nth_rewrite 2 [hset]
      simp [size]
    omega
  · intro hfree
    rw [← length_keyed, keyed_push_of_free hname hfree, List.length_append, length_keyed,
      List.length_singleton]

/-! ## A run of edits -/

theorem isTable_edit (set : DescriptorSet) (e : Edit) : (set.edit e).isTable = set.isTable := by
  cases e with
  | push d => exact isTable_push set d
  | filter keep => cases set <;> rfl

theorem isTable_run (set : DescriptorSet) (edits : List Edit) :
    (set.run edits).isTable = set.isTable := by
  induction edits generalizing set with
  | nil => rfl
  | cons e edits ih => rw [run, List.foldl_cons, ← run, ih, isTable_edit]

/-- A push leaves the keys of a table as they are, or adds one at their end. -/
theorem push_map_cases (d : Descriptor) (entries : List (Text × Descriptor)) :
    (push d (.map entries)).keys = keys (.map entries) ∧
        (push d (.map entries)).size = entries.length ∨
      (push d (.map entries)).keys =
          keys (.map entries) ++ [d.name.getD (Text.ofNat entries.length)] ∧
        (push d (.map entries)).size = entries.length + 1 := by
  have hkeys : (push d (.map entries)).keys = _ :=
    map_fst_putMember (d.name.getD (Text.ofNat entries.length)) d entries
  have hsize : (push d (.map entries)).size = (push d (.map entries)).keys.length :=
    (List.length_map _).symm
  rw [hsize, hkeys]
  split
  · exact .inl ⟨rfl, List.length_map _⟩
  · exact .inr ⟨rfl, by rw [List.length_append, List.length_map, List.length_singleton]⟩

theorem numbered_push (h : set.Numbered) (hname : ∀ n, d.name ≠ some (Text.ofNat n)) :
    (set.push d).Numbered := by
  cases set with
  | list items => exact fun _ hmem => nomatch hmem
  | map entries =>
    intro n hmem
    obtain ⟨hkeys, hsize⟩ | ⟨hkeys, hsize⟩ := push_map_cases d entries
    · rw [hkeys] at hmem
      rw [hsize]
      exact h n hmem
    · rw [hkeys, List.mem_append, List.mem_singleton] at hmem
      rw [hsize]
      obtain hmem | hmem := hmem
      · exact Nat.lt_succ_of_lt (h n hmem)
      · -- The new key is a number only if the descriptor has no name, and then it is the last one.
        cases hd : d.name with
        | none =>
          rw [hd, Option.getD_none] at hmem
          have hn : n = entries.length := by rw [← natValue_ofNat n, hmem, natValue_ofNat]
          exact hn ▸ Nat.lt_succ_self _
        | some name =>
          rw [hd, Option.getD_some] at hmem
          exact absurd (hmem ▸ hd) (hname n)

theorem numbered_run {edits : List Edit} (h : set.Numbered) (hadds : ∀ e ∈ edits, e.Adds) :
    (set.run edits).Numbered := by
  induction edits generalizing set with
  | nil => exact h
  | cons e edits ih =>
    obtain ⟨he, hrest⟩ := List.forall_mem_cons.1 hadds
    cases e with
    | push d => exact ih (numbered_push h he) hrest
    | filter keep => exact he.elim

theorem free_of_isTable (h : set.isTable = false) : Text.ofNat set.size ∉ set.keys := by
  cases set with
  | list items => exact List.not_mem_nil
  | map entries => cases h

theorem Numbered.free (h : set.Numbered) : Text.ofNat set.size ∉ set.keys :=
  fun hmem => Nat.lt_irrefl _ (h _ hmem)

/-- After any edits, a descriptor without a name adds one entry and leaves all others as they are
exactly if the number of entries is not a key of the set. A list has no keys, and in a table that
number is free as long as nothing was dropped and no name is a number. Otherwise the descriptor
takes the place of the entry with that key. -/
theorem push_unnamed {start set : DescriptorSet} {edits : List Edit} {d : Descriptor}
    (hset : start.run edits = set) (hname : d.name = none) :
    ((set.push d).size = set.size + 1 ∧ set.keyed <+: (set.push d).keyed ↔
        Text.ofNat set.size ∉ set.keys) ∧
      (Text.ofNat set.size ∉ set.keys → (set.push d).keyed = set.keyed ++ [(set.nextKey, d)]) ∧
      (Text.ofNat set.size ∈ set.keys →
        ∃ before old after, set = .map (before ++ (Text.ofNat set.size, old) :: after) ∧
          set.push d = .map (before ++ (Text.ofNat set.size, d) :: after)) ∧
      (start.isTable = false ∨ start.Numbered ∧ (∀ e ∈ edits, e.Adds) →
        Text.ofNat set.size ∉ set.keys) := by
  subst hset
  refine ⟨⟨fun h => (size_push_iff hname).1 h.1, fun hfree => ⟨(size_push_iff hname).2 hfree, ?_⟩⟩,
    keyed_push_of_free hname, exists_replaced hname, ?_⟩
  · rw [keyed_push_of_free hname hfree]
    exact List.prefix_append ..
  · rintro (hlist | ⟨hnumbered, hadds⟩)
    · exact free_of_isTable ((isTable_run start edits).trans hlist)
    · exact (numbered_run hnumbered hadds).free

/-- A descriptor without a name. -/
def unnamed (description : String) : Descriptor :=
  ⟨none, none, [("description".toList, .ofString description)]⟩

/-- A descriptor without a name that is not shown. -/
def hidden : Descriptor := ⟨none, some (.list [⟨some ignoreTag, []⟩]), []⟩

theorem push_unnamed_table :
    ∃ start set : DescriptorSet, start = .map [("size".toList, unnamed "a")] ∧
      start.run [.push (unnamed "b")] = set ∧ (unnamed "c").name = none ∧ start.Numbered ∧
      (∀ e ∈ [Edit.push (unnamed "b")], e.Adds) ∧
      (set.push (unnamed "c")).keyed =
        [(.name "size", unnamed "a"), (.name "1", unnamed "b"), (.name "2", unnamed "c")] := by
  have hnumbered : (DescriptorSet.map [("size".toList, unnamed "a")]).Numbered := by
    intro n hmem
    have hdigits := (isDigits_ofNat n).all
    rw [List.mem_singleton.1 hmem] at hdigits
    exact absurd (hdigits 's' (by decide)) (by decide)
  have hadds : ∀ e ∈ [Edit.push (unnamed "b")], e.Adds :=
    List.forall_mem_singleton.2 fun n => by simp [unnamed]
  obtain ⟨-, hkeyed, -, hfree⟩ := push_unnamed (d := unnamed "c")
    (Eq.refl ((DescriptorSet.map [("size".toList, unnamed "a")]).run [.push (unnamed "b")])) rfl
  exact ⟨_, _, rfl, rfl, rfl, hnumbered, hadds, hkeyed (hfree (.inr ⟨hnumbered, hadds⟩))⟩

/-- Of two descriptors the first is dropped, and the next one takes the place of the second. -/
theorem push_unnamed_replaces :
    ∃ set : DescriptorSet,
      (DescriptorSet.map []).run
        [.push hidden, .push (unnamed "a"), .filter fun d => !d.isIgnored] = set ∧
      (unnamed "b").name = none ∧ set.size = 1 ∧ (set.push (unnamed "b")).size = 1 ∧
      ¬set.keyed <+: (set.push (unnamed "b")).keyed := by
  refine ⟨_, rfl, rfl, rfl, rfl, fun hprefix => ?_⟩
  have hsame := congrArg Prod.snd (List.cons_prefix_cons.1 hprefix).1
  have hothers := congrArg Descriptor.others hsame
  simp [unnamed, Json.ofString] at hothers

end Blockbook.DescriptorSet
