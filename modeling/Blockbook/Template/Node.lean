import Blockbook.Template.Token
import Blockbook.Text.Alphabetic
import Blockbook.Text.Numeric

/-!
# Nodes of a template

A template is a sequence of text, expressions, blocks and calls of the parent block, and a block
holds such a sequence again. `Node.ofTokens` builds the tree and reports the first statement that
does not fit. Block names are unique in a template.
-/

namespace Blockbook.Template

/-- A part of a template. -/
inductive Node where
  | text (content : Text)
  | output (expression : Text) (span : Span)
  | block (name : Text) (body : List Node) (span : Span)
  | parent (span : Span)
deriving Repr

/-- A character that may start an identifier. -/
def startsIdentifier (c : Char) : Bool := Text.isAlphabetic c || c = '_'

/-- A character that may follow in an identifier. -/
def continuesIdentifier (c : Char) : Bool :=
  Text.isAlphabetic c || Text.isNumeric c || c = '_'

/-- The identifier at the front of a text, and what follows it. -/
def identifier? : Text → Option (Text × Text)
  | [] => none
  | c :: cs =>
    if startsIdentifier c then
      some (c :: cs.takeWhile continuesIdentifier, cs.dropWhile continuesIdentifier)
    else none

/-- The blanks that may separate a statement's name from its argument. -/
def separatesArgument (c : Char) : Bool := c = ' ' || c = '\t' || c = '\r' || c = '\n'

/-- The name and the argument of a statement. -/
def call? (body : Text) : Option (Text × Text) :=
  (identifier? body).map fun (name, rest) =>
    (name, Text.trimEnd (rest.dropWhile separatesArgument))

/-- The name given to a statement, if its rule allows what was written. -/
def TagRule.argument? (rule : TagRule) (written : Text) : Except Fault (Option Text) :=
  if written = [] then
    match rule.argument with
    | .required => .error (.missingName rule.name)
    | .forbidden | .optional => .ok none
  else
    match rule.argument with
    | .forbidden => .error (.unexpectedArgument rule.name written)
    | .required | .optional =>
      match identifier? written with
      | some (name, []) => .ok (some name)
      | some (_, rest) => .error (.unexpectedArgument rule.name (Text.trim rest))
      | none => .error (.invalidName written)

namespace Node

/-- A block whose end has not been seen: its name and first tag, and the nodes before it, the last
one first. -/
structure Frame where
  name : Text
  span : Span
  before : List Node

/-- The nodes of the innermost open block so far, the last one first, the blocks around them from
the inside out, and the names of all blocks. -/
structure Builder where
  body : List Node
  frames : List Frame
  defined : List Text

namespace Builder

/-- Nothing read yet. -/
def empty : Builder := ⟨[], [], []⟩

/-- Adds text, joined to text that stands right before it. -/
def addText (content : Text) (b : Builder) : Builder :=
  match b.body with
  | .text previous :: nodes => { b with body := .text (previous ++ content) :: nodes }
  | nodes => { b with body := .text content :: nodes }

/-- Opens a block. -/
def openBlock (name : Option Text) (span : Span) (b : Builder) : Except Fault Builder :=
  match name with
  | none => .error (.missingName "block")
  | some name =>
    if b.defined.any (· = name) then .error (.duplicateBlock name)
    else .ok ⟨[], ⟨name, span, b.body⟩ :: b.frames, name :: b.defined⟩

/-- Closes the innermost block, whose span then reaches to the end of the closing tag. -/
def closeBlock (name : Option Text) (span : Span) (b : Builder) : Except Fault Builder :=
  match b.frames with
  | [] => .error .unmatchedEndBlock
  | frame :: frames =>
    let closed : Builder :=
      { b with
        body := .block frame.name b.body.reverse { frame.span with stop := span.stop } ::
          frame.before
        frames }
    match name with
    | none => .ok closed
    | some name =>
      if name = frame.name then .ok closed else .error (.mismatchedEndBlock frame.name name)

/-- Calls the parent's block, which is possible inside a block only. -/
def callParent (span : Span) (b : Builder) : Except Fault Builder :=
  if b.frames.isEmpty then .error .misplacedParent
  else .ok { b with body := .parent span :: b.body }

/-- Obeys a statement. -/
def obey (g : Grammar) (body : Text) (span : Span) (b : Builder) : Except Fault Builder :=
  if body = [] then .error .emptyTag
  else
    match call? body with
    | none => .error (.unknownTag body)
    | some (name, written) =>
      match g.tag? name with
      | none => .error (.unknownTag name)
      | some rule =>
        match rule.argument? written with
        | .error fault => .error fault
        | .ok argument =>
          match rule.role with
          | .opensBlock => b.openBlock argument span
          | .closesBlock => b.closeBlock argument span
          | .callsParent => b.callParent span

/-- Takes in one more token. -/
def step (g : Grammar) (b : Builder) : Token → Except ParseError Builder
  | .text content _ => .ok (b.addText content)
  | .output _ body span => .ok { b with body := .output body span :: b.body }
  | .logic _ body span => (b.obey g body span).mapError fun fault => ⟨fault, span⟩

/-- The nodes, once every block is closed. -/
def finish (b : Builder) : Except ParseError (List Node) :=
  match b.frames with
  | [] => .ok b.body.reverse
  | frame :: _ => .error ⟨.unclosedBlock frame.name, frame.span⟩

end Builder

/-- The nodes that a list of tokens builds. -/
def ofTokens (g : Grammar) (tokens : List Token) : Except ParseError (List Node) :=
  match tokens.foldlM (Builder.step g) .empty with
  | .ok b => b.finish
  | .error e => .error e

mutual

/-- The names of the blocks in a node, outer ones before inner ones. -/
def blockNames : Node → List Text
  | .block name body _ => name :: allBlockNames body
  | _ => []

/-- The names of the blocks in a sequence of nodes, outer ones before inner ones. -/
def allBlockNames : List Node → List Text
  | [] => []
  | node :: nodes => blockNames node ++ allBlockNames nodes

end

end Node

/-- The nodes of a template. -/
def parse (g : Grammar) (source : Text) : Except ParseError (List Node) :=
  match Token.scan g source with
  | .ok tokens => Node.ofTokens g tokens
  | .error e => .error e

end Blockbook.Template
