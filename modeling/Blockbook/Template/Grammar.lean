import Blockbook.Template.Kind

/-!
# Grammars

A grammar says which kinds of tokens a template may hold and which statements its tags may spell.
`Grammar.build` refuses a list of kinds and tags that could never be used as meant, and names the
first fault it meets.
-/

namespace Blockbook.Template

/-- What a statement does. -/
inductive Role where
  | opensBlock
  | closesBlock
  | callsParent
deriving DecidableEq, Repr

/-- The argument a statement takes. -/
inductive ArgumentRule where
  | forbidden
  | required
  | optional
deriving DecidableEq, Repr

/-- A statement that may stand in a logic tag. -/
structure TagRule where
  name : Text
  role : Role
  argument : ArgumentRule
deriving DecidableEq, Repr

/-- The kinds and statements a template is read with, each in the order of its definition. -/
structure Grammar where
  kinds : List TokenKind
  tags : List TagRule
deriving DecidableEq, Repr

/-- Why a list of kinds and tags is no grammar. -/
inductive GrammarError where
  | duplicateToken (kind : TokenKind)
  | duplicateTag (name : Text)
  | emptyTagName
  | missingLogicToken (tag : Text)
  | orphanTag (tag requires : Text)
deriving DecidableEq, Repr

/-- The wording of a fault in a grammar. -/
def GrammarError.message : GrammarError → Text
  | .duplicateToken kind => "Token kind " ++ kind.name ++ " is registered twice"
  | .duplicateTag name => "Tag '" ++ name ++ "' is registered twice"
  | .emptyTagName => "Tag names must not be empty"
  | .missingLogicToken tag =>
    "Tag '" ++ tag ++ "' needs a logic token, but the grammar recognizes none"
  | .orphanTag tag requires =>
    "Tag '" ++ tag ++ "' requires the '" ++ requires ++ "' tag to be registered"

namespace Grammar

/-- Whether the grammar recognises a kind of token. -/
def recognizes (g : Grammar) (kind : TokenKind) : Bool := g.kinds.contains kind

/-- Whether the grammar recognises some statement. -/
def recognizesLogic (g : Grammar) : Bool := g.kinds.any (·.isLogic)

/-- Whether the grammar recognises some expression. -/
def recognizesOutput (g : Grammar) : Bool := g.kinds.any (·.isOutput)

/-- The rule of the statement with a name. -/
def tag? (g : Grammar) (name : Text) : Option TagRule := g.tags.find? (·.name = name)

/-- The first member of a list that also stands further left. -/
def firstRepeated? {α : Type} [DecidableEq α] (seen : List α) : List α → Option α
  | [] => none
  | a :: as => if a ∈ seen then some a else firstRepeated? (a :: seen) as

/-- The first fault of a list of tags taken one by one. -/
def tagFault? (hasLogic : Bool) (seen : List Text) : List TagRule → Option GrammarError
  | [] => none
  | tag :: tags =>
    if tag.name = [] then some .emptyTagName
    else if hasLogic = false then some (.missingLogicToken tag.name)
    else if tag.name ∈ seen then some (.duplicateTag tag.name)
    else tagFault? hasLogic (tag.name :: seen) tags

/-- The statement that a tag cannot do without and that no tag of the list provides. -/
def missingPartner? (tags : List TagRule) (tag : TagRule) : Option GrammarError :=
  match tag.role with
  | .opensBlock =>
    if tags.any (·.role = .closesBlock) then none else some (.orphanTag tag.name "endblock")
  | .closesBlock | .callsParent =>
    if tags.any (·.role = .opensBlock) then none else some (.orphanTag tag.name "block")

/-- The grammar of a list of kinds and a list of tags. Kinds are checked first, then each tag on its
own, then whether blocks that are opened can be closed and the other way round. -/
def build (kinds : List TokenKind) (tags : List TagRule) : Except GrammarError Grammar :=
  match firstRepeated? [] kinds with
  | some kind => .error (.duplicateToken kind)
  | none =>
    match tagFault? (kinds.any (·.isLogic)) [] tags with
    | some fault => .error fault
    | none =>
      match tags.findSome? (missingPartner? tags) with
      | some fault => .error fault
      | none => .ok ⟨kinds, tags⟩

/-- The statements that open and close a block and that call the parent's block. -/
def blockTags : List TagRule :=
  [⟨"block", .opensBlock, .required⟩, ⟨"endblock", .closesBlock, .optional⟩,
   ⟨"parent", .callsParent, .forbidden⟩]

/-- The grammar for extracting blocks. It leaves expressions out, so that they stay text. -/
def structural : Grammar where
  kinds :=
    [.raw, .verbatim, .logic ⟨true, false⟩, .logic ⟨false, true⟩, .logic ⟨true, true⟩, .logic .keep,
     .comment]
  tags := blockTags

example : build structural.kinds structural.tags = .ok structural := rfl

/-- The grammar that recognises every kind. -/
def full : Grammar where
  kinds := TokenKind.all
  tags := blockTags

example : build full.kinds full.tags = .ok full := rfl

end Grammar

end Blockbook.Template
