import Blockbook.Text.Basic

/-!
# Kinds of template tokens

Templates hold statements, expressions and comments between braces, and sections whose content is
taken as it stands. A dash inside a brace asks for the blanks on that side to be dropped, and each
choice of dashes is a kind of its own.
-/

namespace Blockbook.Template

/-- On which sides a tag drops the blanks next to it. -/
structure Trim where
  before : Bool
  after : Bool
deriving DecidableEq, Repr

namespace Trim

/-- A tag without dashes keeps the blanks on both sides. -/
def keep : Trim := ⟨false, false⟩

/-- The word for a choice of sides, in the name of a kind. -/
def suffix : Trim → Text
  | ⟨false, false⟩ => ""
  | ⟨true, false⟩ => "_whitespace_pre"
  | ⟨false, true⟩ => "_whitespace_post"
  | ⟨true, true⟩ => "_whitespace_both"

end Trim

/-- What a grammar may recognise in a template. -/
inductive TokenKind where
  /-- A section of raw text. -/
  | raw
  /-- A section of verbatim text. -/
  | verbatim
  /-- An expression between double braces. -/
  | output (trim : Trim)
  /-- A statement between a brace and a percent sign. -/
  | logic (trim : Trim)
  /-- A comment between a brace and a hash. -/
  | comment
deriving DecidableEq, Repr

namespace TokenKind

/-- Every kind, in the order in which kinds are listed. -/
def all : List TokenKind :=
  [.raw, .verbatim,
   .output ⟨true, false⟩, .output ⟨false, true⟩, .output ⟨true, true⟩,
   .logic ⟨true, false⟩, .logic ⟨false, true⟩, .logic ⟨true, true⟩,
   .output .keep, .logic .keep, .comment]

/-- The name of a kind. -/
def name : TokenKind → Text
  | .raw => "raw"
  | .verbatim => "verbatim"
  | .output trim => "output" ++ trim.suffix
  | .logic trim => "logic" ++ trim.suffix
  | .comment => "comment"

/-- The kind of a name. -/
def ofName? (name : Text) : Option TokenKind := all.find? fun kind => kind.name = name

def isOutput : TokenKind → Bool
  | .output _ => true
  | _ => false

def isLogic : TokenKind → Bool
  | .logic _ => true
  | _ => false

/-- The sides on which a kind drops blanks. -/
def trim : TokenKind → Trim
  | .output trim => trim
  | .logic trim => trim
  | _ => .keep

/-- The kind with other dashes; a kind that has none stays as it is. -/
def withTrim (trim : Trim) : TokenKind → TokenKind
  | .output _ => .output trim
  | .logic _ => .logic trim
  | kind => kind

end TokenKind

end Blockbook.Template
