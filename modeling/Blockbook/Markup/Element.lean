import Blockbook.Text.Basic

/-!
# Elements of markup

How an element is laid out depends on its name alone: elements without content, elements that flow
with the text around them, and elements whose content is kept character for character.
-/

namespace Blockbook.Markup

/-- A list of names. -/
def words (names : List String) : List Text := names.map String.toList

/-- Elements that never have content. -/
def voidElements : List Text :=
  words ["area", "base", "br", "col", "embed", "hr", "img", "input", "link", "meta", "param",
    "source", "track", "wbr"]

/-- Elements laid out in the flow of the text around them. -/
def inlineElements : List Text :=
  words ["a", "abbr", "acronym", "b", "bdi", "bdo", "big", "br", "button", "cite", "code", "data",
    "del", "dfn", "em", "i", "img", "input", "ins", "kbd", "label", "mark", "q", "s", "samp",
    "select", "small", "span", "strike", "strong", "sub", "sup", "time", "tt", "u", "var", "wbr"]

/-- Elements whose content is kept character for character. -/
def rawTextElements : List Text := words ["pre", "script", "style", "textarea"]

def isVoid (name : Text) : Bool := voidElements.contains name

def isInlineElement (name : Text) : Bool := inlineElements.contains name

def isRawText (name : Text) : Bool := rawTextElements.contains name

end Blockbook.Markup
