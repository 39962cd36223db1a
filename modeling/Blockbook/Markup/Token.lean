import Blockbook.Markup.Element
import Blockbook.Text.Blank

/-!
# Tokens of markup

Markup is cut into tags, comments and declarations, the content of raw text elements, and the text
between them. There is no tree and no fault: a `<` that starts nothing is text. A tag is kept with
its blanks outside quotes reduced to single spaces.
-/

namespace Blockbook.Markup

/-- A piece of markup. Tags carry the name of their element in lower case. -/
inductive Token where
  | opening (name tag : Text) (selfClosing : Bool)
  | closing (name tag : Text)
  /-- A comment or a declaration. -/
  | verbatim (source : Text)
  /-- The content of a raw text element. -/
  | rawText (content : Text)
  | text (content : Text)
deriving DecidableEq, Repr

/-- The characters up to the first `>` outside quotes, that one included, and what follows. -/
def splitTag? (quote : Option Char) : Text → Option (Text × Text)
  | [] => none
  | c :: cs =>
    let next := match quote with
      | some q => if c = q then none else some q
      | none => if c = '"' || c = '\'' then some c else none
    if quote = none && c = '>' then some ([c], cs)
    else (splitTag? next cs).map fun (tag, rest) => (c :: tag, rest)

/-- Reduces each run of blanks outside quotes to one space. -/
def squeeze (quote : Option Char) (pending : Bool) : Text → Text
  | [] => []
  | c :: cs =>
    if quote = none && Text.isBlank c then squeeze quote true cs
    else
      let next := match quote with
        | some q => if c = q then none else some q
        | none => if c = '"' || c = '\'' then some c else none
      if pending then ' ' :: c :: squeeze next false cs else c :: squeeze next false cs

/-- Drops a space that stands before a final `>`. -/
def dropLastSpace (tag : Text) : Text :=
  match tag.reverse with
  | '>' :: ' ' :: front => ('>' :: front).reverse
  | _ => tag

/-- A tag with its blanks outside quotes reduced to single spaces, and none before its end. -/
def normalizeTag (tag : Text) : Text := dropLastSpace (squeeze none false tag)

/-- An upper case letter of ASCII in lower case, any other character as it is. -/
def lowerAscii (c : Char) : Char := if 'A' ≤ c ∧ c ≤ 'Z' then Char.ofNat (c.toNat + 32) else c

def isAsciiLetter (c : Char) : Bool := ('a' ≤ c && c ≤ 'z') || ('A' ≤ c && c ≤ 'Z')

/-- A character that may stand in the name of an element. -/
def isNameChar (c : Char) : Bool :=
  isAsciiLetter c || ('0' ≤ c && c ≤ '9') || c = '-' || c = ':' || c = '_' || c = '.'

/-- The name of an element at the front of a text, in lower case. -/
def elementName (s : Text) : Text := (s.takeWhile isNameChar).map lowerAscii

/-- The tag, comment or declaration at the front of a text. -/
def construct? : Text → Option (Token × Text)
  | '<' :: '!' :: '-' :: '-' :: r =>
    (Text.breakOn? ['-', '-', '>'] r).map fun (inner, rest) =>
      (.verbatim (['<', '!', '-', '-'] ++ inner ++ ['-', '-', '>']), rest)
  | '<' :: '!' :: r =>
    (splitTag? none ('!' :: r)).map fun (tag, rest) => (.verbatim (normalizeTag ('<' :: tag)), rest)
  | '<' :: '/' :: c :: r =>
    if isAsciiLetter c then
      (splitTag? none ('/' :: c :: r)).map fun (tag, rest) =>
        (.closing (elementName (c :: r)) (normalizeTag ('<' :: tag)), rest)
    else none
  | '<' :: c :: r =>
    if isAsciiLetter c then
      (splitTag? none (c :: r)).map fun (tag, rest) =>
        let shown := normalizeTag ('<' :: tag)
        (.opening (elementName (c :: r)) shown (['/', '>'].isSuffixOf shown), rest)
    else none
  | _ => none

/-- The closing tag of a raw text element at the front of a text. -/
def rawClose? (name s : Text) : Option (Token × Text) :=
  let mark : Text := '<' :: '/' :: name
  if (s.take mark.length).map lowerAscii = mark then
    match s.drop mark.length with
    | c :: _ => if c = '>' || c = '/' || Text.isBlank c then construct? s else none
    | [] => none
  else none

/-- The content of a raw text element, with the closing tag and what follows it, if there is one. -/
def rawContent (name s : Text) : Text × Option (Token × Text) :=
  match rawClose? name s with
  | some found => ([], some found)
  | none =>
    match s with
    | [] => ([], none)
    | c :: cs =>
      let (content, found) := rawContent name cs
      (c :: content, found)

theorem length_of_splitTag? {quote : Option Char} {s tag rest : Text}
    (h : splitTag? quote s = some (tag, rest)) : rest.length < s.length := by
  induction s generalizing quote tag with
  | nil => simp [splitTag?] at h
  | cons c cs ih =>
    simp only [splitTag?] at h
    split at h
    · simp only [Option.some.injEq, Prod.mk.injEq] at h
      obtain ⟨-, rfl⟩ := h
      simp
    · obtain ⟨⟨tag', rest'⟩, hs, he⟩ := Option.map_eq_some_iff.1 h
      simp only [Prod.mk.injEq] at he
      obtain ⟨-, rfl⟩ := he
      have := ih hs
      simp only [List.length_cons]
      omega

/-- What follows a construct is shorter than the text it is the front of. -/
theorem length_of_construct? {s rest : Text} {token : Token}
    (h : construct? s = some (token, rest)) : rest.length < s.length := by
  unfold construct? at h
  split at h
  · obtain ⟨⟨inner, rest'⟩, hb, he⟩ := Option.map_eq_some_iff.1 h
    simp only [Prod.mk.injEq] at he
    obtain ⟨-, rfl⟩ := he
    simp [Text.eq_of_breakOn? hb]
    omega
  · obtain ⟨⟨tag, rest'⟩, hs, he⟩ := Option.map_eq_some_iff.1 h
    simp only [Prod.mk.injEq] at he
    obtain ⟨-, rfl⟩ := he
    have := length_of_splitTag? hs
    simp only [List.length_cons] at this ⊢
    omega
  · split at h
    · obtain ⟨⟨tag, rest'⟩, hs, he⟩ := Option.map_eq_some_iff.1 h
      simp only [Prod.mk.injEq] at he
      obtain ⟨-, rfl⟩ := he
      have := length_of_splitTag? hs
      simp only [List.length_cons] at this ⊢
      omega
    · simp at h
  · split at h
    · obtain ⟨⟨tag, rest'⟩, hs, he⟩ := Option.map_eq_some_iff.1 h
      simp only [Prod.mk.injEq] at he
      obtain ⟨-, rfl⟩ := he
      have := length_of_splitTag? hs
      simp only [List.length_cons] at this ⊢
      omega
    · simp at h
  · simp at h

theorem length_of_rawClose? {name s rest : Text} {token : Token}
    (h : rawClose? name s = some (token, rest)) : rest.length < s.length := by
  simp only [rawClose?] at h
  split at h
  · split at h
    · split at h
      · exact length_of_construct? h
      · simp at h
    · simp at h
  · simp at h

/-- What follows a raw text element is shorter than its content and all that follows it. -/
theorem length_of_rawContent {name s content rest : Text} {token : Token}
    (h : rawContent name s = (content, some (token, rest))) : rest.length < s.length := by
  induction s generalizing content with
  | nil =>
    unfold rawContent at h
    split at h
    · next hf =>
      simp only [Prod.mk.injEq, Option.some.injEq] at h
      exact length_of_rawClose? (h.2 ▸ hf)
    · simp at h
  | cons c cs ih =>
    unfold rawContent at h
    split at h
    · next hf =>
      simp only [Prod.mk.injEq, Option.some.injEq] at h
      exact length_of_rawClose? (h.2 ▸ hf)
    · simp only [Prod.mk.injEq] at h
      have := ih (Prod.ext rfl h.2)
      simp only [List.length_cons]
      omega

/-- Text that is waiting to become a token, its last character first. -/
def flushText (pending : Text) : List Token :=
  if pending = [] then [] else [.text pending.reverse]

/-- The name of the raw text element that a token opens. -/
def Token.rawName? : Token → Option Text
  | .opening name _ false => if isRawText name then some name else none
  | _ => none

/-- The tokens of a text, after characters that belong to no tag, the last one first. -/
def scan (pending s : Text) : List Token :=
  match s with
  | [] => flushText pending
  | c :: cs =>
    match _hc : construct? (c :: cs) with
    | none => scan (c :: pending) cs
    | some (token, rest) =>
      match token.rawName? with
      | none => flushText pending ++ token :: scan [] rest
      | some name =>
        match _hr : rawContent name rest with
        | (content, none) => flushText pending ++ [token, .rawText content]
        | (content, some (close, rest')) =>
          flushText pending ++ token :: .rawText content :: close :: scan [] rest'
termination_by s.length
decreasing_by
  · simp
  · exact length_of_construct? ‹_›
  · exact Nat.lt_trans (length_of_rawContent ‹_›) (length_of_construct? ‹_›)

/-- The tokens of markup. -/
def tokens (s : Text) : List Token := scan [] s

end Blockbook.Markup
