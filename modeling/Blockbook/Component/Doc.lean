import Blockbook.Component.Descriptor
import Blockbook.Fragment

/-!
# Documentation of components

What is known about a component from its script, and the same together with the blocks and slots of
its template. Merging keeps what it does not have to change: the form of each set, the order of the
descriptors and every other field.
-/

namespace Blockbook

/-- What is known about a component from its script. -/
structure ComponentDoc where
  displayName : Option Text
  exportName : Option Text
  description : Option Text
  props : Option DescriptorSet
  events : Option DescriptorSet
  slots : Option DescriptorSet
  others : OtherFields
deriving Repr

/-- What is known about a component, the blocks of its template included. -/
structure DocumentedComponent where
  doc : ComponentDoc
  blocks : List Fragment
deriving Repr

namespace ComponentDoc

/-- The name of a module's default export. -/
def defaultExport : Text := "default"

/-- Whether the component is the default export of its module, as it is when nothing else is
said. -/
def isDefaultExport (c : ComponentDoc) : Bool :=
  match c.exportName with
  | some name => name = defaultExport
  | none => true

/-- A default export of which only the name is known. -/
def bare (displayName : Text) : ComponentDoc where
  displayName := some displayName
  exportName := some defaultExport
  description := none
  props := some .empty
  events := some .empty
  slots := some .empty
  others := []

/-- Adds the blocks and slots of a template. Slots follow those that are known already, and what is
tagged to be ignored is dropped. -/
def merge (c : ComponentDoc) (fragments : List Fragment) (slots : List Slot) :
    DocumentedComponent where
  doc :=
    { c with
      props := c.props.map DescriptorSet.visible
      events := c.events.map DescriptorSet.visible
      slots := some <| DescriptorSet.visible <|
        slots.foldl (fun set slot => set.push slot.descriptor) (c.slots.getD .empty) }
  blocks := fragments

end ComponentDoc

end Blockbook
