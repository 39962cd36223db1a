import Blockbook.Component.Doc
import Blockbook.File.Basic
import Blockbook.Json.Parser
import Blockbook.Json.Printer
import Blockbook.Json.Reader

/-!
# Components in JSON

How fragments, slots, template files, descriptors and components are written as JSON and read back.
Declared fields come first and in order, then every other field sorted by key. A field without a
value is not written, and `null` in its place is read as none.
-/

namespace Blockbook

namespace Fragment

def toJson (f : Fragment) : Json :=
  .object [("name".toList, .string f.name), ("code".toList, .string f.code)]

def ofJson? (j : Json) : Option Fragment :=
  match Json.fields? ["name", "code"] j with
  | some [name, code] => do
    let name ← Json.required Json.text? name
    let code ← Json.required Json.text? code
    return ⟨name, code⟩
  | _ => none

end Fragment

namespace Slot

def toJson (s : Slot) : Json :=
  .object [("name".toList, .string s.name), ("isDefault".toList, .bool s.isDefault),
    ("isScopedSlot".toList, .bool s.isScoped),
    ("variables".toList, .array (s.scope.map .string))]

def ofJson? (j : Json) : Option Slot :=
  match Json.fields? ["name", "isDefault", "isScopedSlot", "variables"] j with
  | some [name, isDefault, isScoped, scope] => do
    let name ← Json.required Json.text? name
    let isDefault ← Json.required Json.bool? isDefault
    let isScoped ← Json.required Json.bool? isScoped
    let scope ← Json.required (Json.list? Json.text?) scope
    return ⟨name, isDefault, isScoped, scope⟩
  | _ => none

end Slot

namespace TemplateFile

def toJson (f : TemplateFile) : Json :=
  .object [("path".toList, .string f.path), ("content".toList, .string f.content)]

def ofJson? (j : Json) : Option TemplateFile :=
  match Json.fields? ["path", "content"] j with
  | some [path, content] => do
    let path ← Json.required Json.text? path
    let content ← Json.required Json.text? content
    return ⟨path, content⟩
  | _ => none

end TemplateFile

/-- The members of an object, of which there may be any. -/
def Json.allMembers? : Json → Option (List (Text × Json))
  | .object members => some members
  | _ => none

/-- The fields that are not declared, each value in canonical form, sorted by key. -/
def OtherFields.ofMembers? (declared : List Text) (members : List (Text × Json)) :
    Option OtherFields :=
  (Json.canonicalMembers? (Json.others declared members)).map Json.sortMembers

namespace TagEntry

def toJson (e : TagEntry) : Json :=
  .object (Json.member? "title" (e.title.map .string) ++ e.others)

def ofJson? (j : Json) : Option TagEntry := do
  let members ← j.allMembers?
  let title ← Json.field? members "title"
  let title ← Json.withDefault none (Json.optional? Json.text?) title
  let others ← OtherFields.ofMembers? ["title"] members
  return ⟨title, others⟩

end TagEntry

namespace Tags

def toJson : Tags → Json
  | .list entries => .array (entries.map TagEntry.toJson)
  | .keyed entries => .object entries

def ofJson? : Json → Option Tags
  | .array items => (items.mapM TagEntry.ofJson?).map .list
  | j => (Json.members? Json.canonical? j).map fun entries => .keyed (Json.mergeMembers entries)

end Tags

namespace Descriptor

def toJson (d : Descriptor) : Json :=
  .object (Json.member? "name" (d.name.map .string) ++
    Json.member? "tags" (d.tags.map Tags.toJson) ++ d.others)

def ofJson? (j : Json) : Option Descriptor := do
  let members ← j.allMembers?
  let name ← Json.field? members "name"
  let tags ← Json.field? members "tags"
  let name ← Json.withDefault none (Json.optional? Json.text?) name
  let tags ← Json.withDefault none (Json.optional? Tags.ofJson?) tags
  let others ← OtherFields.ofMembers? ["name", "tags"] members
  return ⟨name, tags, others⟩

end Descriptor

namespace DescriptorSet

def toJson : DescriptorSet → Json
  | .list items => .array (items.map Descriptor.toJson)
  | .map entries => .object (entries.map fun (key, d) => (key, d.toJson))

def ofJson? : Json → Option DescriptorSet
  | .array items => (items.mapM Descriptor.ofJson?).map .list
  | j => (Json.members? Descriptor.ofJson? j).map fun entries => .map (Json.mergeMembers entries)

end DescriptorSet

namespace ComponentDoc

/-- The fields a component declares. -/
def declared : List Text :=
  ["displayName", "exportName", "description", "props", "events", "slots"]

/-- The members of a component's JSON form. -/
def toMembers (c : ComponentDoc) : List (Text × Json) :=
  Json.member? "displayName" (c.displayName.map .string) ++
    Json.member? "exportName" (c.exportName.map .string) ++
    Json.member? "description" (c.description.map .string) ++
    Json.member? "props" (c.props.map DescriptorSet.toJson) ++
    Json.member? "events" (c.events.map DescriptorSet.toJson) ++
    Json.member? "slots" (c.slots.map DescriptorSet.toJson) ++ c.others

def toJson (c : ComponentDoc) : Json := .object c.toMembers

/-- The component of a JSON object's members. -/
def ofMembers? (members : List (Text × Json)) : Option ComponentDoc := do
  let displayName ← optional Json.text? "displayName"
  let exportName ← optional Json.text? "exportName"
  let description ← optional Json.text? "description"
  let props ← optional DescriptorSet.ofJson? "props"
  let events ← optional DescriptorSet.ofJson? "events"
  let slots ← optional DescriptorSet.ofJson? "slots"
  let others ← OtherFields.ofMembers? declared members
  return { displayName, exportName, description, props, events, slots, others }
where
  /-- An optional field of the component. -/
  optional {α : Type} (read : Json → Option α) (name : String) : Option (Option α) :=
    (Json.field? members name.toList).bind (Json.withDefault none (Json.optional? read))

def ofJson? (j : Json) : Option ComponentDoc := j.allMembers?.bind ofMembers?

/-- The components of a JSON text, which holds one component or an array of them. The text is taken
as a canonical value first, so that of a repeated field the last one counts. -/
def listOfText? (s : Text) : Option (List ComponentDoc) := do
  let j ← (← Json.parse s).canonical?
  match j with
  | .array items => items.mapM ofJson?
  | j => return [← ofJson? j]

end ComponentDoc

namespace DocumentedComponent

/-- The key under which the blocks of a component are kept. -/
def blocksKey : Text := "twigBlocks"

def toJson (c : DocumentedComponent) : Json :=
  .object (c.doc.toMembers ++ [(blocksKey, .array (c.blocks.map Fragment.toJson))])

def ofJson? (j : Json) : Option DocumentedComponent := do
  let members ← j.allMembers?
  let blocks ← Json.field? members blocksKey
  let blocks ← Json.withDefault [] (Json.list? Fragment.ofJson?) blocks
  let doc ← ComponentDoc.ofMembers? (Json.others [blocksKey] members)
  return ⟨doc, blocks⟩

end DocumentedComponent

end Blockbook
