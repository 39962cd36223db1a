import Blockbook.Fragment
import Blockbook.Json.Pointer
import Blockbook.Markup.Highlight

/-!
# The panel of blocks

The panel shows the blocks of a component in a table, one row a block: its name and its highlighted
text. The blocks are looked up in the data of a story, below the property that documentation is
assigned to.
-/

namespace Blockbook.Panel

/-- The rules for the look of the table. -/
def style : Text :=
  "\n.sw-twig-args-table \x7b\n    font-size: 13px;\n    line-height: 20px;\n    padding: 0;\n" ++
  "    border-collapse: collapse;\n    width: 100%;\n    margin: 2em 0;\n" ++
  "    overflow: auto;\n\x7d\n" ++
  "\n.sw-twig-args-table tr \x7b\n    border-top: 1px solid #eee;\n    background-color: #fff;\n" ++
  "    margin: 0px;\n    padding: 0px;\n\x7d\n" ++
  "\n.sw-twig-args-table tr th \x7b\n    font-weight: bold;\n    border: 1px solid #ddd;\n" ++
  "    border-radius: 3px 3px 0 0;\n    text-align: left;\n    margin: 0;\n" ++
  "    padding: 0.5em 0.75em;\n\x7d\n" ++
  "\n.sw-twig-args-table tr td \x7b\n    border: 1px solid #ddd;\n    text-align: left;\n" ++
  "    margin: 0;\n    padding: 0.5em 1em;\n\x7d\n" ++
  "\n.sw-twig-args-table tr th:first-child,\n.sw-twig-args-table tr td:first-child \x7b\n" ++
  "    margin-top: 0;\n\x7d\n" ++
  "\n.sw-twig-args-table tr:nth-child(2n) \x7b\n    background-color: #f8f8f8;\n\x7d\n"

/-- A line of the panel, two spaces a level. -/
def line (depth : Nat) (content : Text) : Text := Markup.indent depth ++ content ++ ['\n']

/-- What the table shows of a block's text. -/
def cell (f : Fragment) : Text :=
  if f.isEmpty then "<em style=\"color: #6f6f6f\">(empty block)</em>"
  else "<pre><code class=\"language-html\">" ++ Markup.highlight f.code ++ "</code></pre>"

/-- The row of a block, which a key tells from the other rows. -/
def row (key : Text) (f : Fragment) : Text :=
  line 3 ("<tr data-key=\"" ++ Markup.escape key ++ "\">") ++
    line 4 ("<td><strong>" ++ Markup.escape f.name ++ "</strong></td>") ++
    line 4 ("<td>" ++ cell f ++ "</td>") ++
    line 3 "</tr>"

/-- What stands before the rows. -/
def opening : Text :=
  line 0 "<div style=\"margin: 1rem\">" ++
    line 1 ("<style>" ++ style ++ "</style>") ++
    line 1 "<table class=\"sw-twig-args-table\">" ++
    line 2 "<thead>" ++
    line 3 "<tr>" ++
    line 4 "<th>Name</th>" ++
    line 4 "<th>Content</th>" ++
    line 3 "</tr>" ++
    line 2 "</thead>" ++
    line 2 "<tbody>"

/-- What stands after the rows. -/
def closing : Text :=
  line 2 "</tbody>" ++ line 1 "</table>" ++ line 0 "</div>"

/-- The panel of a list of blocks. The key of a row depends on its number. -/
def render (key : Nat → Text) (fragments : List Fragment) : Text :=
  opening ++ (fragments.zipIdx.flatMap fun (f, i) => row (key i) f) ++ closing

/-- The property that the panel looks into when nothing else is said. -/
def defaultProperty : Text := "__docgenInfo"

/-- A field of a block in the data of a story; one that is missing counts as empty. -/
def fragmentField (j : Json) (name : Text) : Text :=
  match j.get? name with
  | some (.string t) => t
  | _ => []

/-- A block in the data of a story. -/
def fragmentOf (j : Json) : Fragment := ⟨fragmentField j "name", fragmentField j "code"⟩

/-- The blocks in the data of a story. The property is part of a pointer, in which a slash separates
steps. -/
def fragments (property : Text) (story : Json) : List Fragment :=
  match Json.pointer? ("/parameters/component/" ++ property ++ "/twigBlocks") story with
  | some (.array items) => items.map fragmentOf
  | _ => []

/-- The panel for the data of a story; without data there is nothing to show. -/
def renderStory (key : Nat → Text) (property : Text) : Option Json → Text
  | some story => render key (fragments property story)
  | none => []

/-- The data of a story around a component's documentation that stands alone. -/
def wrapStory (value : Json) : Json :=
  match value.get? "parameters" with
  | some _ => value
  | none =>
    .object [("parameters".toList,
      .object [("component".toList, .object [(defaultProperty, value)])])]

/-- How the panel makes itself known. -/
def registration : Json :=
  .object [("addonId".toList, .ofString "sw-twig-blocks"),
    ("panelId".toList, .ofString "sw-twig-blocks/panel"),
    ("title".toList, .ofString "Twig blocks")]

end Blockbook.Panel
