import Blockbook.Json.Basic
import Blockbook.Template.Node

/-!
# Rendered templates

Rendering needs no data: text is copied, a call of the parent block leaves a placeholder and an
expression leaves nothing. A block stands in place in the text around it and, on its own, under its
name.
-/

namespace Blockbook.Template

/-- What a call of the parent block leaves in the text. -/
def parentPlaceholder : Text := "\x7b\x7b|PARENT|\x7d\x7d"

namespace Node

mutual

/-- The text of a node. -/
def render : Node → Text
  | .text content => content
  | .output _ _ => []
  | .parent _ => parentPlaceholder
  | .block _ body _ => renderAll body

/-- The text of a sequence of nodes. -/
def renderAll : List Node → Text
  | [] => []
  | node :: nodes => render node ++ renderAll nodes

end

mutual

/-- The text of a node, and the blocks seen so far with those in it. A block takes its place before
the blocks inside it, and its text once that is known. -/
def collect (seen : List (Text × Text)) : Node → Text × List (Text × Text)
  | .text content => (content, seen)
  | .output _ _ => ([], seen)
  | .parent _ => (parentPlaceholder, seen)
  | .block name body _ =>
    let (shown, inner) := collectAll (Json.putMember name [] seen) body
    (shown, Json.putMember name shown inner)

/-- The text of a sequence of nodes, and the blocks seen so far with those in it. -/
def collectAll (seen : List (Text × Text)) : List Node → Text × List (Text × Text)
  | [] => ([], seen)
  | node :: nodes =>
    let (shown, first) := collect seen node
    let (rest, all) := collectAll first nodes
    (shown ++ rest, all)

end

end Node

end Blockbook.Template

namespace Blockbook

/-- The name that a template is filed by. -/
structure Template.Key where
  text : Text
deriving DecidableEq, Repr

instance : Hashable Template.Key := ⟨fun key => hash (String.ofList key.text)⟩

/-- A template that has been read, under the name it is filed by. -/
structure Template where
  key : Template.Key
  nodes : List Template.Node

namespace Template

/-- Reads a template. -/
def read (g : Grammar) (key : Key) (source : Text) : Except ParseError Template :=
  (parse g source).map fun nodes => ⟨key, nodes⟩

/-- The whole template as text, its blocks in place. -/
def render (t : Template) : Text := Node.renderAll t.nodes

/-- The blocks of a template, outer ones before inner ones, each with its own text. -/
def blocks (t : Template) : List (Text × Text) := (Node.collectAll [] t.nodes).2

/-- The names of the blocks of a template, in the same order. -/
def blockNames (t : Template) : List Text := Node.allBlockNames t.nodes

end Template

end Blockbook
