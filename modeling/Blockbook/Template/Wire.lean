import Blockbook.Json.Number
import Blockbook.Json.Reader
import Blockbook.Template.Render

/-!
# Templates in JSON

How spans, kinds and nodes are written as JSON and read back. A node is an object with one member,
named for what the node is.
-/

namespace Blockbook

namespace Span

def toJson (s : Span) : Json :=
  .object [("start".toList, .ofNat s.start), ("end".toList, .ofNat s.stop),
    ("line".toList, .ofNat s.line.toNat), ("column".toList, .ofNat s.column.toNat)]

/-- Offsets fit into 64 bits, lines and columns into 32. -/
def ofJson? (j : Json) : Option Span :=
  match Json.fields? ["start", "end", "line", "column"] j with
  | some [start, stop, line, column] => do
    let start ← Json.required (Json.natBelow? Json.wordBound) start
    let stop ← Json.required (Json.natBelow? Json.wordBound) stop
    let line ← Json.required Json.uint32? line
    let column ← Json.required Json.uint32? column
    return ⟨start, stop, line, column⟩
  | _ => none

end Span

namespace Template

namespace TokenKind

def toJson (kind : TokenKind) : Json := .string kind.name

/-- The name of a kind, as a string or as the only key of an object without a value. -/
def ofJson? : Json → Option TokenKind
  | .string name => ofName? name
  | .object [(name, .null)] => ofName? name
  | _ => none

end TokenKind

namespace Node

mutual

def toJson : Node → Json
  | .text content => .object [("Text".toList, .string content)]
  | .output expression span =>
    .object [("Output".toList,
      .object [("expression".toList, .string expression), ("span".toList, span.toJson)])]
  | .block name body span =>
    .object [("Block".toList,
      .object [("name".toList, .string name), ("body".toList, .array (allToJson body)),
        ("span".toList, span.toJson)])]
  | .parent span => .object [("Parent".toList, span.toJson)]

def allToJson : List Node → List Json
  | [] => []
  | node :: nodes => toJson node :: allToJson nodes

end

/-- The node of a JSON value. The fuel bounds how deep blocks nest. -/
def ofJsonWithin? : Nat → Json → Option Node
  | 0, _ => none
  | fuel + 1, .object [(key, value)] =>
    if key = "Text" then (Json.text? value).map .text
    else if key = "Output" then
      match Json.fields? ["expression", "span"] value with
      | some [expression, span] => do
        let expression ← Json.required Json.text? expression
        let span ← Json.required Span.ofJson? span
        return .output expression span
      | _ => none
    else if key = "Block" then
      match Json.fields? ["name", "body", "span"] value with
      | some [name, body, span] => do
        let name ← Json.required Json.text? name
        let body ← Json.required (Json.list? (ofJsonWithin? fuel)) body
        let span ← Json.required Span.ofJson? span
        return .block name body span
      | _ => none
    else if key = "Parent" then (Span.ofJson? value).map .parent
    else none
  | _ + 1, _ => none

/-- The node of a JSON value. Values that are read nest no deeper than the limit of the text. -/
def ofJson? (j : Json) : Option Node := ofJsonWithin? 128 j

end Node

end Template

end Blockbook
