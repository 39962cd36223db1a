import Blockbook.Markup.Token

/-!
# Laid out markup

Elements of their own stand on lines of their own, indented by how many of them are open. Text, the
elements in its flow and expressions between double braces make up runs that stay on one line, and
an element that holds nothing but such a run stays on one line with it.
-/

namespace Blockbook.Markup

namespace Token

/-- Whether a token belongs to a run. -/
def isInline : Token → Bool
  | .text _ => true
  | .opening name _ _ => isInlineElement name
  | .closing name _ => isInlineElement name
  | .verbatim _ => false
  | .rawText _ => false

end Token

/-- Reduces each run of blanks to one space. -/
def collapse (pending : Bool) : Text → Text
  | [] => if pending then [' '] else []
  | c :: cs =>
    if Text.isBlank c then collapse true cs
    else if pending then ' ' :: c :: collapse false cs
    else c :: collapse false cs

/-- The expression between double braces at the front of a text; one that does not end takes the
whole text. -/
def expression? (s : Text) : Option (Text × Text) :=
  match s with
  | '{' :: '{' :: r =>
    match Text.breakOn? ['}', '}'] r with
    | some (inner, rest) => some (['{', '{'] ++ inner ++ ['}', '}'], rest)
    | none => some (s, [])
  | _ => none

theorem length_of_expression? {s expression rest : Text}
    (h : expression? s = some (expression, rest)) : rest.length < s.length := by
  unfold expression? at h
  split at h
  · split at h
    · next hb =>
      simp only [Option.some.injEq, Prod.mk.injEq] at h
      obtain ⟨-, rfl⟩ := h
      simp [Text.eq_of_breakOn? hb]
      omega
    · simp only [Option.some.injEq, Prod.mk.injEq] at h
      obtain ⟨-, rfl⟩ := h
      simp
  · simp at h

/-- Text with its runs of blanks reduced to single spaces outside expressions. The characters of
`pending`, the last one first, stand outside. -/
def reduce (pending s : Text) : Text :=
  match s with
  | [] => collapse false pending.reverse
  | c :: cs =>
    match _h : expression? (c :: cs) with
    | none => reduce (c :: pending) cs
    | some (expression, rest) => collapse false pending.reverse ++ expression ++ reduce [] rest
termination_by s.length
decreasing_by
  · simp
  · exact length_of_expression? ‹_›

/-- A token as part of a run. -/
def Token.inRun : Token → Text
  | .text content => reduce [] content
  | .opening _ tag _ => tag
  | .closing _ tag => tag
  | .verbatim source => source
  | .rawText content => content

/-- A run of tokens on one line. -/
def run (tokens : List Token) : Text := Text.trim (tokens.flatMap Token.inRun)

/-- The indentation of a depth, two spaces a level. -/
def indent (depth : Nat) : Text := List.replicate (2 * depth) ' '

/-- The content of a raw text element, where it follows. -/
def takeRawText : List Token → Text × List Token
  | .rawText content :: tokens => (content, tokens)
  | tokens => ([], tokens)

/-- The closing tag of an element, where it follows. -/
def takeClosing (name : Text) : List Token → Text × List Token
  | .closing closed tag :: tokens =>
    if closed = name then (tag, tokens) else ([], .closing closed tag :: tokens)
  | tokens => ([], tokens)

theorem length_takeRawText (tokens : List Token) :
    (takeRawText tokens).2.length ≤ tokens.length := by
  unfold takeRawText
  split <;> simp

theorem length_takeClosing (name : Text) (tokens : List Token) :
    (takeClosing name tokens).2.length ≤ tokens.length := by
  unfold takeClosing
  split
  · split <;> simp
  · simp

theorem length_dropWhile_le {α : Type} (p : α → Bool) (as : List α) :
    (as.dropWhile p).length ≤ as.length := (List.dropWhile_sublist p).length_le

/-- The lines of a list of tokens inside `depth` open elements. -/
def lines (depth : Nat) (tokens : List Token) : List Text :=
  match tokens with
  | [] => []
  | token :: tokens =>
    if token.isInline then
      let line := run (token :: tokens.takeWhile Token.isInline)
      let rest := lines depth (tokens.dropWhile Token.isInline)
      if line = [] then rest else (indent depth ++ line) :: rest
    else
      match token with
      | .opening name tag selfClosing =>
        if selfClosing || isVoid name then (indent depth ++ tag) :: lines depth tokens
        else if isRawText name then
          let content := takeRawText tokens
          let close := takeClosing name content.2
          (indent depth ++ tag ++ content.1 ++ close.1) :: lines depth close.2
        else
          match h : tokens.dropWhile Token.isInline with
          | .closing closed endTag :: rest =>
            if closed = name then
              (indent depth ++ tag ++ run (tokens.takeWhile Token.isInline) ++ endTag) ::
                lines depth rest
            else (indent depth ++ tag) :: lines (depth + 1) tokens
          | _ => (indent depth ++ tag) :: lines (depth + 1) tokens
      | .closing _ tag => (indent (depth - 1) ++ tag) :: lines (depth - 1) tokens
      | .verbatim source => (indent depth ++ source) :: lines depth tokens
      | .rawText content => (indent depth ++ content) :: lines depth tokens
      | .text content => (indent depth ++ content) :: lines depth tokens
termination_by tokens.length
decreasing_by
  all_goals simp only [List.length_cons]
  · have := length_dropWhile_le Token.isInline tokens
    omega
  · omega
  · have h₁ := length_takeRawText tokens
    have h₂ := length_takeClosing name (takeRawText tokens).2
    omega
  · have := length_dropWhile_le Token.isInline tokens
    rw [h] at this
    simp only [List.length_cons] at this
    omega
  all_goals omega

/-- Markup laid out in lines. -/
def layout (s : Text) : Text := Text.unlines (lines 0 (tokens s))

end Blockbook.Markup
