import Blockbook.Json.Reader
import Blockbook.Story.Basic

/-!
# Story options in JSON

How the options of stories are written as JSON and read back. A field that is not given has its
default.
-/

namespace Blockbook.Story

namespace Component

def toJson (c : Component) : Json :=
  .object (("name".toList, .string c.name) :: Json.member? "extends" (c.extends?.map .string) ++
    [("props".toList, .object c.props)])

def ofJson? (j : Json) : Option Component :=
  match Json.fields? ["name", "extends", "props"] j with
  | some [name, base, props] => do
    let name ← Json.withDefault [] Json.text? name
    let base ← Json.withDefault none (Json.optional? Json.text?) base
    let props ← Json.withDefault [] (Json.members? Json.canonical?) props
    return ⟨name, base, Json.mergeMembers props⟩
  | _ => none

end Component

namespace Options

/-- A text or `null`. -/
def textOrNull : Option Text → Json
  | some t => .string t
  | none => .null

def toJson (o : Options) : Json :=
  .object [("component".toList, o.component.toJson), ("title".toList, textOrNull o.title),
    ("additionalComponents".toList, .array (o.additional.map Component.toJson)),
    ("template".toList, textOrNull o.template), ("argTypes".toList, .object o.argTypes),
    ("figmaUrl".toList, textOrNull o.designUrl)]

def ofJson? (j : Json) : Option Options :=
  match Json.fields? ["component", "title", "additionalComponents", "template", "argTypes",
    "figmaUrl"] j with
  | some [component, title, additional, template, argTypes, designUrl] => do
    let component ← Json.withDefault (.named []) Component.ofJson? component
    let title ← Json.withDefault none (Json.optional? Json.text?) title
    let additional ← Json.withDefault [] (Json.list? Component.ofJson?) additional
    let template ← Json.withDefault none (Json.optional? Json.text?) template
    let argTypes ← Json.withDefault [] (Json.members? Json.canonical?) argTypes
    let designUrl ← Json.withDefault none (Json.optional? Json.text?) designUrl
    return ⟨component, title, additional, template, Json.sortMembers argTypes, designUrl⟩
  | _ => none

end Options

end Blockbook.Story
