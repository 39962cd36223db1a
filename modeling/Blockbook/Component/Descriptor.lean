import Blockbook.Json.Number
import Blockbook.Slot.Basic

/-!
# Descriptors

A descriptor tells about one prop, event or slot of a component. It may have a name and tags, and it
keeps every other field it was given. A descriptor that is tagged to be ignored is left out of the
documentation.

Descriptors come as a list or as a table with keys, and a set of them keeps the form it has.
-/

namespace Blockbook

/-- Fields kept as they were given, sorted by key. -/
abbrev OtherFields := List (Text × Json)

/-- A tag in a list of tags. -/
structure TagEntry where
  title : Option Text
  others : OtherFields
deriving Repr

/-- The tags of a descriptor, as a list or under keys. -/
inductive Tags where
  | list (entries : List TagEntry)
  | keyed (entries : List (Text × Json))
deriving Repr

/-- What is known about one prop, event or slot. -/
structure Descriptor where
  name : Option Text
  tags : Option Tags
  others : OtherFields
deriving Repr

/-- Whether a value counts as given: `null`, `false`, zero and the empty string do not. -/
def Json.isTruthy : Json → Bool
  | .null => false
  | .bool b => b
  | .number n => !n.isZero
  | .string t => !t.isEmpty
  | .array _ => true
  | .object _ => true
  | .unreadable => false

/-- The tag that hides a descriptor. -/
def ignoreTag : Text := "ignore"

/-- Whether the tags hide their descriptor. -/
def Tags.hide : Tags → Bool
  | .list entries => entries.any (·.title = some ignoreTag)
  | .keyed entries =>
    match entries.find? (·.1 = ignoreTag) with
    | some (_, value) => value.isTruthy
    | none => false

/-- Whether a descriptor is left out of the documentation. -/
def Descriptor.isIgnored (d : Descriptor) : Bool :=
  match d.tags with
  | some tags => tags.hide
  | none => false

/-- The descriptor of a slot that was found in a template. -/
def Slot.descriptor (s : Slot) : Descriptor :=
  ⟨some s.name, none, [("default".toList, .bool s.isDefault)]⟩

/-- Descriptors in a list, or under keys in the order of their definition. -/
inductive DescriptorSet where
  | list (items : List Descriptor)
  | map (entries : List (Text × Descriptor))
deriving Repr

namespace DescriptorSet

/-- No descriptors, as a list. -/
def empty : DescriptorSet := .list []

/-- The number of descriptors. -/
def size : DescriptorSet → Nat
  | .list items => items.length
  | .map entries => entries.length

/-- The descriptors in order. -/
def toList : DescriptorSet → List Descriptor
  | .list items => items
  | .map entries => entries.map (·.2)

/-- The descriptors that satisfy a test, in the same form and order. -/
def filter (keep : Descriptor → Bool) : DescriptorSet → DescriptorSet
  | .list items => .list (items.filter keep)
  | .map entries => .map (entries.filter fun (_, d) => keep d)

/-- Adds a descriptor at the end. A table files it under its name, and without one under the number
of entries so far; a key in use keeps its place and gets the new descriptor. -/
def push (d : Descriptor) : DescriptorSet → DescriptorSet
  | .list items => .list (items ++ [d])
  | .map entries =>
    .map (Json.putMember (d.name.getD (Text.ofNat entries.length)) d entries)

/-- The names of the descriptors in order: the keys of a table, and in a list the names that are
given. -/
def names : DescriptorSet → List Text
  | .list items => items.filterMap (·.name)
  | .map entries => entries.map (·.1)

/-- Where a descriptor stands in its set. -/
inductive Key where
  | index (i : Nat)
  | name (t : Text)
deriving DecidableEq, Repr

/-- The descriptors with their places. -/
def keyed : DescriptorSet → List (Key × Descriptor)
  | .list items => items.zipIdx.map fun (d, i) => (.index i, d)
  | .map entries => entries.map fun (key, d) => (.name key, d)

theorem length_toList (s : DescriptorSet) : s.toList.length = s.size := by
  cases s <;> simp [toList, size]

/-- Filtering a set filters its descriptors and keeps their order, whatever its form. -/
theorem toList_filter (keep : Descriptor → Bool) (s : DescriptorSet) :
    (s.filter keep).toList = s.toList.filter keep := by
  cases s with
  | list items => rfl
  | map entries => simp [filter, toList, List.filter_map, Function.comp_def]

/-- The descriptors that belong into the documentation. -/
def visible (s : DescriptorSet) : DescriptorSet := s.filter fun d => !d.isIgnored

end DescriptorSet

end Blockbook
