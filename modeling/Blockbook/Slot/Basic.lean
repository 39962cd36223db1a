import Blockbook.Text.Basic

/-!
# Slots

A slot is a place in a component's template that its user fills. A slot without a name is the
default slot, and a slot that hands values to its content is scoped.
-/

namespace Blockbook

/-- A slot that a template declares. -/
structure Slot where
  name : Text
  isDefault : Bool
  isScoped : Bool
  /-- The names of the values that the slot hands to its content. -/
  scope : List Text
deriving DecidableEq, Repr

namespace Slot

/-- The name of a slot that is given none. -/
def defaultName : Text := "default"

/-- The slot with a name and the values it hands out. -/
def of (name : Text) (scope : List Text) : Slot :=
  ⟨name, name = defaultName, !scope.isEmpty, scope⟩

/-- The slot without a name that hands out nothing. -/
def default : Slot := of defaultName []

end Slot

end Blockbook
