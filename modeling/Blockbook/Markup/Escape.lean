import Blockbook.Text.Basic

/-!
# Escaped markup

Five characters have a meaning in markup and are written as entities where they stand for
themselves. The ampersand, which starts every entity, is replaced first.
-/

namespace Blockbook.Markup

/-- The characters that are escaped, in the order of their replacement, with their entities. -/
def entities : List (Char × Text) :=
  [('&', "&amp;"), ('<', "&lt;"), ('>', "&gt;"), ('"', "&quot;"), ('\'', "&#39;")]

/-- Text escaped for the content of an element or the value of an attribute. -/
def escape (s : Text) : Text :=
  entities.foldl (fun t (c, entity) => Text.substitute c entity t) s

end Blockbook.Markup
