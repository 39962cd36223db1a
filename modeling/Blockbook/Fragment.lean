import Blockbook.Markup.Layout
import Blockbook.Template.Registry

/-!
# Fragments

A fragment is a block of a template on its own: the name of the block and its text, laid out for
reading. Extracting the fragments of a template also files the template.
-/

namespace Blockbook

/-- A named block and its laid out text. -/
structure Fragment where
  name : Text
  code : Text
deriving DecidableEq, Repr

namespace Fragment

/-- Whether the block holds nothing to show. -/
def isEmpty (f : Fragment) : Bool := f.code.isEmpty

/-- The fragments of a template, outer blocks before inner ones. -/
def ofTemplate (t : Template) : List Fragment :=
  t.blocks.map fun (name, body) => ⟨name, Markup.layout body⟩

end Fragment

/-- The fragments of a template source. -/
def extract (g : Template.Grammar) (source : Text) :
    Except Template.ParseError (List Fragment) :=
  (Template.read g ⟨[]⟩ source).map Fragment.ofTemplate

/-- Extracts the fragments of a template source and files the template under a name. -/
def Registry.extract (r : Registry) (g : Template.Grammar) (key : Template.Key) (source : Text) :
    Except Template.ParseError (Registry × List Fragment) :=
  (Template.read g key source).map fun t => (r.register t, Fragment.ofTemplate t)

end Blockbook
