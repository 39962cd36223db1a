import Blockbook.Template.Render
import Std.Data.HashMap

/-!
# Registered templates

A registry files templates under their names. A template that is registered under a name in use
takes the place of the one before it. What a registry holds is what `get?` finds, and each operation
has one lemma that says what it does to that.
-/

namespace Blockbook

/-- Templates filed under their names. -/
structure Registry where
  templates : Std.HashMap Template.Key Template

namespace Registry

def empty : Registry := ⟨∅⟩

/-- Files a template under its own name. -/
def register (r : Registry) (t : Template) : Registry := ⟨r.templates.insert t.key t⟩

/-- The template filed under a name. -/
def get? (r : Registry) (key : Template.Key) : Option Template := r.templates.get? key

def contains (r : Registry) (key : Template.Key) : Bool := r.templates.contains key

/-- Takes the template filed under a name out of the registry. -/
def erase (r : Registry) (key : Template.Key) : Registry := ⟨r.templates.erase key⟩

/-- The number of templates. -/
def size (r : Registry) : Nat := r.templates.size

def isEmpty (r : Registry) : Bool := r.size = 0

@[simp]
theorem get?_empty (key : Template.Key) : empty.get? key = none := by
  simp [empty, get?]

theorem get?_register (r : Registry) (t : Template) (key : Template.Key) :
    (r.register t).get? key = if t.key = key then some t else r.get? key := by
  simp [register, get?, Std.HashMap.getElem?_insert]

theorem get?_erase (r : Registry) (erased key : Template.Key) :
    (r.erase erased).get? key = if erased = key then none else r.get? key := by
  simp [erase, get?, Std.HashMap.getElem?_erase]

theorem contains_eq_isSome_get? (r : Registry) (key : Template.Key) :
    r.contains key = (r.get? key).isSome := by
  simp [contains, get?]

end Registry

end Blockbook
