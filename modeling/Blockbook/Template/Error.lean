import Blockbook.Span
import Blockbook.Template.Kind
import Blockbook.Text.Quoted

/-!
# Faults in templates

What can be wrong with a template, and where. Every fault carries the span of the tag or section it
is about.
-/

namespace Blockbook.Template

/-- What is wrong with a template. -/
inductive Fault where
  | unclosedToken (kind : TokenKind)
  | unclosedSection (kind : TokenKind)
  | unknownTag (tag : Text)
  | emptyTag
  | unexpectedArgument (tag found : Text)
  | missingName (tag : Text)
  | invalidName (found : Text)
  | unclosedBlock (name : Text)
  | unmatchedEndBlock
  | mismatchedEndBlock (expected found : Text)
  | misplacedParent
  | duplicateBlock (name : Text)
deriving DecidableEq, Repr

/-- A fault and the place it is about. -/
structure ParseError where
  fault : Fault
  span : Span
deriving DecidableEq, Repr

/-- The wording of a fault at a place. -/
def ParseError.message (e : ParseError) : Text :=
  let place := e.span.message
  match e.fault with
  | .unclosedToken kind => "Unclosed " ++ kind.name ++ " token starting at " ++ place
  | .unclosedSection kind => "Unclosed " ++ kind.name ++ " section starting at " ++ place
  | .unknownTag tag => "Unable to parse '" ++ tag ++ "' at " ++ place ++ ": unknown tag"
  | .emptyTag => "Empty tag at " ++ place
  | .unexpectedArgument tag found =>
    "Unexpected argument " ++ found.quote ++ " for tag '" ++ tag ++ "' at " ++ place
  | .missingName tag => "Tag '" ++ tag ++ "' at " ++ place ++ " expects a name"
  | .invalidName found => "Invalid block name " ++ found.quote ++ " at " ++ place
  | .unclosedBlock name => "Block '" ++ name ++ "' opened at " ++ place ++ " is never closed"
  | .unmatchedEndBlock => "Unexpected endblock at " ++ place ++ ": no block is open"
  | .mismatchedEndBlock expected found =>
    "Mismatched endblock at " ++ place ++ ": expected '" ++ expected ++ "', found '" ++ found ++ "'"
  | .misplacedParent => "The parent tag at " ++ place ++ " is only allowed inside a block"
  | .duplicateBlock name => "Block '" ++ name ++ "' at " ++ place ++ " is already defined"

end Blockbook.Template
