import Blockbook.Template.Segment

/-!
# Tokens of a template

Tokens are what is left of the segments once comments are gone and the dashes have done their work.
A dash on the left of a tag drops the blanks at the end of the text before it, a dash on the right
drops those at the start of the text after it. A span keeps the place of the text as it was written,
blanks included.
-/

namespace Blockbook.Template

/-- A token of a template. -/
inductive Token where
  | text (content : Text) (span : Span)
  | logic (trim : Trim) (body : Text) (span : Span)
  | output (trim : Trim) (body : Text) (span : Span)
deriving DecidableEq, Repr

namespace Token

/-- The place of a token. -/
def span : Token → Span
  | .text _ span => span
  | .logic _ _ span => span
  | .output _ _ span => span

/-- Tokens so far, the last one first, with more text; empty text is no token. -/
def pushText (content : Text) (span : Span) (tokens : List Token) : List Token :=
  if content = [] then tokens else .text content span :: tokens

/-- Drops the blanks at the end of the text that was seen last. -/
def trimLast : List Token → List Token
  | .text content span :: tokens => pushText (Text.trimEnd content) span tokens
  | tokens => tokens

/-- The tokens so far, the last one first, and whether the next text loses its first blanks. -/
structure Progress where
  tokens : List Token
  trimNext : Bool

/-- Takes in one more segment. -/
def Progress.step (state : Progress) : Position × Segment → Progress
  | (p, .text source) =>
    let content := if state.trimNext then Text.trimStart source else source
    ⟨pushText content (.covering p source) state.tokens, false⟩
  | (_, .comment _) => ⟨state.tokens, false⟩
  | (p, .logic tag) =>
    let before := if tag.trim.before then trimLast state.tokens else state.tokens
    ⟨.logic tag.trim tag.body (.covering p tag.source) :: before, tag.trim.after⟩
  | (p, .output tag) =>
    let before := if tag.trim.before then trimLast state.tokens else state.tokens
    ⟨.output tag.trim tag.body (.covering p tag.source) :: before, tag.trim.after⟩
  | (p, .literal opening content closing) =>
    let before := if opening.trim.before then trimLast state.tokens else state.tokens
    let front := if opening.trim.after then Text.trimStart content else content
    let shown := if closing.trim.before then Text.trimEnd front else front
    ⟨pushText shown (.covering (p.advance opening.source) content) before, closing.trim.after⟩

/-- The tokens that segments come down to. -/
def ofSegments (segments : List (Position × Segment)) : List Token :=
  (segments.foldl Progress.step ⟨[], false⟩).tokens.reverse

/-- The tokens of a template. -/
def scan (g : Grammar) (source : Text) : Except ParseError (List Token) :=
  (segments g source).map ofSegments

end Token

end Blockbook.Template
