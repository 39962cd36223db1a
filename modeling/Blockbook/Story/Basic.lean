import Blockbook.Json.Basic

/-!
# Stories

A story shows a component at work: a template that holds the component, the arguments it is shown
with, and controls for them. A prop that lists its valid values gets a control to choose one.
-/

namespace Blockbook.Story

/-- The parts of a component's definition that its stories need. -/
structure Component where
  name : Text
  extends? : Option Text
  /-- The definitions of the props, in order. -/
  props : List (Text × Json)
deriving Repr

namespace Component

/-- A component of which nothing is known but its name. -/
def named (name : Text) : Component := ⟨name, none, []⟩

/-- Adds the definition of a prop, or replaces it in its place. -/
def withProp (c : Component) (name : Text) (definition : Json) : Component :=
  { c with props := Json.putMember name definition c.props }

end Component

/-- What stories are built from. -/
structure Options where
  component : Component
  title : Option Text
  additional : List Component
  template : Option Text
  /-- Controls for arguments, sorted by name. -/
  argTypes : List (Text × Json)
  designUrl : Option Text
deriving Repr

/-- Why stories cannot be built: the component extends one that is not at hand. -/
structure MissingBase where
  component : Text
  base : Text
deriving DecidableEq, Repr

def MissingBase.message (e : MissingBase) : Text :=
  "Extended component " ++ e.base ++ " of " ++ e.component ++
    " not found in the additional components"

/-- Options with a template chosen. -/
structure Builder where
  options : Options
  template : Text

/-- The component that is extended, if one is named. -/
def Options.base? (o : Options) : Option Text := o.component.extends?.filter (! ·.isEmpty)

/-- The template of a component that is given none: the component with its props. -/
def defaultTemplate (name : Text) : Text :=
  "<" ++ name ++ " v-bind=\"$props\"></" ++ name ++ ">"

/-- The template that is given, unless it is empty. -/
def Options.chosenTemplate (o : Options) : Text :=
  (o.template.filter (! ·.isEmpty)).getD (defaultTemplate o.component.name)

namespace Builder

/-- Checks the options and chooses the template. -/
def build (o : Options) : Except MissingBase Builder :=
  match o.base? with
  | none => .ok ⟨o, o.chosenTemplate⟩
  | some base =>
    if o.additional.any (·.name = base) then .ok ⟨o, o.chosenTemplate⟩
    else .error ⟨o.component.name, base⟩

/-- The names of all components, the main one first. -/
def componentNames (b : Builder) : List Text :=
  b.options.component.name :: b.options.additional.map (·.name)

/-- The control to choose one of several values. -/
def radio (values : Json) : Json :=
  .object [("control".toList,
    .object [("options".toList, values), ("type".toList, .ofString "radio")])]

/-- The controls of the arguments, sorted by name. -/
def argTypes (b : Builder) : List (Text × Json) :=
  b.options.component.props.foldl
    (fun types (name, prop) =>
      match prop.get? "validValues" with
      | some values => Json.insertMember name (radio values) types
      | none => types)
    b.options.argTypes

/-- What holds for all stories of the component. -/
def defaultStory (b : Builder) : Json :=
  .object [("component".toList, .string b.options.component.name),
    ("title".toList, .string (b.options.title.getD b.options.component.name)),
    ("argTypes".toList, .object b.argTypes)]

/-- The parameters of a story: where its design is kept, if that is known. -/
def parameters (b : Builder) : Json :=
  match b.options.designUrl.filter (! ·.isEmpty) with
  | some url =>
    .object [("design".toList,
      .object [("type".toList, .ofString "figma"), ("url".toList, .string url)])]
  | none => .object []

/-- A story with its own template. -/
def storyWith (b : Builder) (args : Json) (template : Text) : Json :=
  .object [("args".toList, args), ("template".toList, .string template),
    ("parameters".toList, b.parameters)]

/-- A story with the template of the builder. -/
def story (b : Builder) (args : Json) : Json := b.storyWith args b.template

end Builder

end Blockbook.Story
