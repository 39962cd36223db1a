import Blockbook.Markup.Escape
import Blockbook.Markup.Token

/-!
# Highlighted markup

Markup is cut into stretches, each with a shade: comments, tags, attribute names and values, and
plain text for the rest. The stretches together are the markup. Shown in a page, each stretch is
escaped, and all but plain text stand in an element that names their shade.
-/

namespace Blockbook.Markup

/-- What a stretch of markup is shown as. -/
inductive Shade where
  | plain
  | comment
  | tag
  | attributeName
  | attributeValue
deriving DecidableEq, Repr

/-- A stretch of markup and its shade. -/
abbrev Stretch := Shade × Text

/-- A character of an attribute name. -/
def isAttributeNameChar (c : Char) : Bool := !(Text.isBlank c || c = '=' || c = '/' || c = '>')

/-- A character of an attribute value without quotes. -/
def isBareValueChar (c : Char) : Bool := !(Text.isBlank c || c = '"' || c = '\'' || c = '>')

/-- The attribute value at the front of a text: up to the next quote of the kind it starts with, or
without quotes. -/
def attributeValue? : Text → Option (Text × Text)
  | [] => none
  | c :: s =>
    if c = '"' || c = '\'' then
      (Text.breakOn? [c] s).map fun (inner, rest) => (c :: inner ++ [c], rest)
    else if isBareValueChar c then
      some (c :: s.takeWhile isBareValueChar, s.dropWhile isBareValueChar)
    else none

/-- The equals sign at the front of a text with the blanks around it, the value and what follows. -/
def assignedValue? (s : Text) : Option (Text × Text × Text) :=
  match s.dropWhile Text.isBlank with
  | '=' :: t =>
    (attributeValue? (t.dropWhile Text.isBlank)).map fun (value, rest) =>
      (s.takeWhile Text.isBlank ++ '=' :: t.takeWhile Text.isBlank, value, rest)
  | _ => none

/-- The stretches of the attribute part of a tag. The fuel bounds the steps, of which each takes a
character at least. -/
def attributeStretches : Nat → Text → List Stretch
  | 0, s => [(.plain, s)]
  | fuel + 1, s =>
    let gap := s.takeWhile (fun c => !isAttributeNameChar c)
    match s.dropWhile (fun c => !isAttributeNameChar c) with
    | [] => [(.plain, gap)]
    | t =>
      let name := t.takeWhile isAttributeNameChar
      let rest := t.dropWhile isAttributeNameChar
      match assignedValue? rest with
      | some (equals, value, rest) =>
        (.plain, gap) :: (.attributeName, name) :: (.plain, equals) :: (.attributeValue, value) ::
          attributeStretches fuel rest
      | none => (.plain, gap) :: (.attributeName, name) :: attributeStretches fuel rest

/-- The stretches of a tag, given without its first `<` and its last `>`. -/
def tagStretches (inner : Text) : List Stretch :=
  let (opening, body) : Text × Text := match inner with
    | '/' :: body => ("</", body)
    | body => ("<", body)
  let (body, closing) : Text × Text :=
    if body.getLast? = some '/' then (body.dropLast, "/>") else (body, ">")
  let name := body.takeWhile (fun c => !Text.isBlank c)
  let attributes := body.dropWhile (fun c => !Text.isBlank c)
  (.tag, opening ++ name) :: attributeStretches (attributes.length + 1) attributes ++
    [(.tag, closing)]

/-- Whether a text after a `<` starts a tag. -/
def startsTag : Text → Bool
  | '/' :: c :: _ => isAsciiLetter c
  | c :: _ => isAsciiLetter c
  | [] => false

/-- The stretches of the comment or tag at the front of a text, and what follows. A comment that
does not end takes the whole text. -/
def markedUp? (s : Text) : Option (List Stretch × Text) :=
  match s with
  | '<' :: '!' :: '-' :: '-' :: r =>
    match Text.breakOn? ['-', '-', '>'] ('-' :: '-' :: r) with
    | some (inner, rest) => some ([(.comment, '<' :: '!' :: inner ++ ['-', '-', '>'])], rest)
    | none => some ([(.comment, s)], [])
  | '<' :: r =>
    if startsTag r then
      (splitTag? none r).map fun (tag, rest) => (tagStretches tag.dropLast, rest)
    else none
  | _ => none

theorem length_of_markedUp? {s rest : Text} {stretches : List Stretch}
    (h : markedUp? s = some (stretches, rest)) : rest.length < s.length := by
  unfold markedUp? at h
  split at h
  · split at h
    · next hb =>
      simp only [Option.some.injEq, Prod.mk.injEq] at h
      obtain ⟨-, rfl⟩ := h
      have := congrArg List.length (Text.eq_of_breakOn? hb)
      simp only [List.length_append, List.length_cons, List.length_nil] at this ⊢
      omega
    · simp only [Option.some.injEq, Prod.mk.injEq] at h
      obtain ⟨-, rfl⟩ := h
      simp
  · split at h
    · obtain ⟨⟨tag, rest'⟩, hs, he⟩ := Option.map_eq_some_iff.1 h
      simp only [Prod.mk.injEq] at he
      obtain ⟨-, rfl⟩ := he
      have := length_of_splitTag? hs
      simp only [List.length_cons]
      omega
    · simp at h
  · simp at h

/-- The stretches of markup, after plain characters, the last one first. -/
def stretchesFrom (pending s : Text) : List Stretch :=
  match s with
  | [] => [(.plain, pending.reverse)]
  | c :: cs =>
    match _h : markedUp? (c :: cs) with
    | some (stretches, rest) =>
      (.plain, pending.reverse) :: stretches ++ stretchesFrom [] rest
    | none => stretchesFrom (c :: pending) cs
termination_by s.length
decreasing_by
  · exact length_of_markedUp? ‹_›
  · simp

/-- The stretches of markup. -/
def stretches (s : Text) : List Stretch := stretchesFrom [] s

/-- The word for a shade in a page; plain text has none. -/
def Shade.word? : Shade → Option Text
  | .plain => none
  | .comment => some "comment"
  | .tag => some "tag"
  | .attributeName => some "attr-name"
  | .attributeValue => some "attr-value"

/-- A stretch as it stands in a page. -/
def showStretch : Stretch → Text
  | (shade, t) =>
    match shade.word? with
    | some word => "<span class=\"token " ++ word ++ "\">" ++ escape t ++ "</span>"
    | none => escape t

/-- Markup as highlighted text for a page. -/
def highlight (s : Text) : Text := (stretches s).flatMap showStretch

end Blockbook.Markup
