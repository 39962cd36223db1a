import Blockbook.Span
import Blockbook.Template.Error
import Blockbook.Template.Grammar
import Blockbook.Text.Blank

/-!
# Segments of a template

A template is cut into plain text, comments, tags and literal sections. Each segment keeps its own
characters, and the characters of all segments together are the template. Braces that the grammar
does not recognise stay part of the text around them.

* `segment?_source`: a segment at the front of a text is the front of that text.
-/

namespace Blockbook.Template

/-- A tag: the sides on which it drops blanks, its content without dashes and outer blanks, and all
its characters. -/
structure Tag where
  trim : Trim
  body : Text
  source : Text
deriving DecidableEq, Repr

namespace Tag

/-- The content of a tag without a dash at its end, and whether there was one. -/
def splitDash (inner : Text) : Text × Bool :=
  if inner.getLast? = some '-' then (inner.dropLast, true) else (inner, false)

/-- The rest of a tag after its opening mark and dash, up to its closing mark. -/
def close? (opening closing : Text) (dash : Bool) (s : Text) : Option (Tag × Text) :=
  match Text.breakOn? closing s with
  | none => none
  | some (inner, rest) =>
    let (content, dashAfter) := splitDash inner
    some (⟨⟨dash, dashAfter⟩, Text.trim content, opening ++ inner ++ closing⟩, rest)

/-- The tag whose opening mark has just been taken from the front of a text. -/
def read? (opening closing : Text) : Text → Option (Tag × Text)
  | '-' :: s => close? (opening ++ ['-']) closing true s
  | s => close? opening closing false s

end Tag

/-- A piece of a template. -/
inductive Segment where
  /-- Characters that no tag takes. -/
  | text (source : Text)
  | comment (source : Text)
  | logic (tag : Tag)
  | output (tag : Tag)
  /-- A section whose content stands for itself, between its two statements. -/
  | literal (opening : Tag) (content : Text) (closing : Tag)
deriving DecidableEq, Repr

/-- The characters of a segment. -/
def Segment.source : Segment → Text
  | .text source => source
  | .comment source => source
  | .logic tag => tag.source
  | .output tag => tag.source
  | .literal opening content closing => opening.source ++ content ++ closing.source

/-- A tag or section that starts and does not end. -/
inductive Unclosed where
  | token (kind : TokenKind)
  | literal (kind : TokenKind) (opening : Tag)

/-- The error for an unclosed tag or section at the front of `s`. An unclosed tag reaches to the end
of the template, an unclosed section is reported at its first statement. -/
def Unclosed.at (p : Position) (s : Text) : Unclosed → ParseError
  | .token kind => ⟨.unclosedToken kind, .covering p s⟩
  | .literal kind opening => ⟨.unclosedSection kind, .covering p opening.source⟩

/-- The statement `name` at the front of a text, if the grammar recognises its dashes. -/
def statement? (g : Grammar) (name s : Text) : Option (Tag × Text) :=
  match s with
  | '{' :: '%' :: r =>
    match Tag.read? ['{', '%'] ['%', '}'] r with
    | some (tag, rest) =>
      if g.recognizes (.logic tag.trim) && tag.body = name then some (tag, rest) else none
    | none => none
  | _ => none

/-- The content of a literal section, the statement that ends it, and what follows. -/
def literalEnd? (g : Grammar) (name s : Text) : Option (Text × Tag × Text) :=
  match statement? g name s with
  | some (tag, rest) => some ([], tag, rest)
  | none =>
    match s with
    | [] => none
    | c :: cs =>
      (literalEnd? g name cs).map fun (content, tag, rest) => (c :: content, tag, rest)

/-- The kind of section that a statement opens, and the statement that ends it. -/
def literalKind? (g : Grammar) (body : Text) : Option (TokenKind × Text) :=
  if body = "raw" && g.recognizes .raw then some (.raw, "endraw")
  else if body = "verbatim" && g.recognizes .verbatim then some (.verbatim, "endverbatim")
  else none

/-- The comment, tag or section at the front of a text. -/
def segment? (g : Grammar) (s : Text) : Except Unclosed (Option (Segment × Text)) :=
  match s with
  | '{' :: '#' :: r =>
    if g.recognizes .comment then
      match Text.breakOn? ['#', '}'] r with
      | some (inner, rest) => .ok (some (.comment (['{', '#'] ++ inner ++ ['#', '}']), rest))
      | none => .error (.token .comment)
    else .ok none
  | '{' :: '%' :: r =>
    if g.recognizesLogic then
      match Tag.read? ['{', '%'] ['%', '}'] r with
      | some (tag, rest) =>
        if g.recognizes (.logic tag.trim) then
          match literalKind? g tag.body with
          | some (kind, endName) =>
            match literalEnd? g endName rest with
            | some (content, closing, rest) => .ok (some (.literal tag content closing, rest))
            | none => .error (.literal kind tag)
          | none => .ok (some (.logic tag, rest))
        else .ok none
      | none => .error (.token (.logic .keep))
    else .ok none
  | '{' :: '{' :: r =>
    if g.recognizesOutput then
      match Tag.read? ['{', '{'] ['}', '}'] r with
      | some (tag, rest) =>
        if g.recognizes (.output tag.trim) then .ok (some (.output tag, rest)) else .ok none
      | none => .error (.token (.output .keep))
    else .ok none
  | _ => .ok none

namespace Tag

theorem source_of_close? {opening closing s rest : Text} {dash : Bool} {tag : Tag}
    (h : close? opening closing dash s = some (tag, rest)) : opening ++ s = tag.source ++ rest := by
  simp only [close?] at h
  split at h
  · simp at h
  · next inner rest' hb =>
    simp only [Option.some.injEq, Prod.mk.injEq] at h
    obtain ⟨rfl, rfl⟩ := h
    simp [Text.eq_of_breakOn? hb]

/-- A tag that is read is the front of the text it is read from. -/
theorem source_of_read? {opening closing s rest : Text} {tag : Tag}
    (h : read? opening closing s = some (tag, rest)) : opening ++ s = tag.source ++ rest := by
  unfold read? at h
  split at h <;> simpa using source_of_close? h

/-- What follows a tag is no longer than what followed its opening mark. -/
theorem length_of_read? {opening closing s rest : Text} {tag : Tag}
    (h : read? opening closing s = some (tag, rest)) : rest.length ≤ s.length := by
  have hclose {o t : Text} {dash : Bool} (h : close? o closing dash t = some (tag, rest)) :
      rest.length ≤ t.length := by
    simp only [close?] at h
    split at h
    · simp at h
    · next hb =>
      simp only [Option.some.injEq, Prod.mk.injEq] at h
      obtain ⟨-, rfl⟩ := h
      simp [Text.eq_of_breakOn? hb]
      omega
  unfold read? at h
  split at h
  · have := hclose h
    simp
    omega
  · exact hclose h

end Tag

theorem source_of_statement? {g : Grammar} {name s rest : Text} {tag : Tag}
    (h : statement? g name s = some (tag, rest)) : s = tag.source ++ rest := by
  unfold statement? at h
  split at h
  · next r =>
    split at h
    · next hr =>
      split at h
      · simp only [Option.some.injEq, Prod.mk.injEq] at h
        obtain ⟨rfl, rfl⟩ := h
        simpa using Tag.source_of_read? hr
      · simp at h
    · simp at h
  · simp at h

theorem source_of_literalEnd? {g : Grammar} {name s content rest : Text} {tag : Tag}
    (h : literalEnd? g name s = some (content, tag, rest)) :
    s = content ++ tag.source ++ rest := by
  fun_induction literalEnd? g name s generalizing content with
  | case1 s tag' rest' hs =>
    simp only [Option.some.injEq, Prod.mk.injEq] at h
    obtain ⟨rfl, rfl, rfl⟩ := h
    simpa using source_of_statement? hs
  | case2 => simp at h
  | case3 c cs _ ih =>
    obtain ⟨⟨content', tag', rest'⟩, hl, he⟩ := Option.map_eq_some_iff.1 h
    simp only [Prod.mk.injEq] at he
    obtain ⟨rfl, rfl, rfl⟩ := he
    simp [ih hl]

/-- A segment at the front of a text is the front of that text. -/
theorem segment?_source {g : Grammar} {s rest : Text} {segment : Segment}
    (h : segment? g s = .ok (some (segment, rest))) : s = segment.source ++ rest := by
  unfold segment? at h
  split at h
  · next r =>
    split at h
    · split at h
      · next inner rest' hb =>
        simp only [Except.ok.injEq, Option.some.injEq, Prod.mk.injEq] at h
        obtain ⟨rfl, rfl⟩ := h
        simp [Segment.source, Text.eq_of_breakOn? hb]
      · simp at h
    · simp at h
  · next r =>
    split at h
    · split at h
      · next tag rest' hr =>
        have hs := Tag.source_of_read? hr
        split at h
        · split at h
          · split at h
            · next content closing rest'' hl =>
              simp only [Except.ok.injEq, Option.some.injEq, Prod.mk.injEq] at h
              obtain ⟨rfl, rfl⟩ := h
              simpa [Segment.source, source_of_literalEnd? hl] using hs
            · simp at h
          · simp only [Except.ok.injEq, Option.some.injEq, Prod.mk.injEq] at h
            obtain ⟨rfl, rfl⟩ := h
            simpa [Segment.source] using hs
        · simp at h
      · simp at h
    · simp at h
  · next r =>
    split at h
    · split at h
      · next tag rest' hr =>
        split at h
        · simp only [Except.ok.injEq, Option.some.injEq, Prod.mk.injEq] at h
          obtain ⟨rfl, rfl⟩ := h
          simpa [Segment.source] using Tag.source_of_read? hr
        · simp at h
      · simp at h
    · simp at h
  · simp at h

/-- What follows a segment is shorter than the text it is the front of. -/
theorem segment?_length {g : Grammar} {s rest : Text} {segment : Segment}
    (h : segment? g s = .ok (some (segment, rest))) : rest.length < s.length := by
  unfold segment? at h
  split at h
  · split at h
    · split at h
      · next hb =>
        simp only [Except.ok.injEq, Option.some.injEq, Prod.mk.injEq] at h
        obtain ⟨-, rfl⟩ := h
        simp [Text.eq_of_breakOn? hb]
        omega
      · simp at h
    · simp at h
  · split at h
    · split at h
      · next hr =>
        have hlen := Tag.length_of_read? hr
        split at h
        · split at h
          · split at h
            · next hl =>
              simp only [Except.ok.injEq, Option.some.injEq, Prod.mk.injEq] at h
              obtain ⟨-, rfl⟩ := h
              have := congrArg List.length (source_of_literalEnd? hl)
              simp only [List.length_append, List.length_cons] at this ⊢
              omega
            · simp at h
          · simp only [Except.ok.injEq, Option.some.injEq, Prod.mk.injEq] at h
            obtain ⟨-, rfl⟩ := h
            simp only [List.length_cons]
            omega
        · simp at h
      · simp at h
    · simp at h
  · split at h
    · split at h
      · next hr =>
        have hlen := Tag.length_of_read? hr
        split at h
        · simp only [Except.ok.injEq, Option.some.injEq, Prod.mk.injEq] at h
          obtain ⟨-, rfl⟩ := h
          simp only [List.length_cons]
          omega
        · simp at h
      · simp at h
    · simp at h
  · simp at h

/-- Text that is waiting to become a segment, its last character first. -/
def flushText (p : Position) (pending : Text) : List (Position × Segment) :=
  if pending = [] then [] else [(p, .text pending.reverse)]

/-- The segments of a template, each with the place where it starts. The characters of `pending`
have been seen since `p` and belong to no tag. -/
def scan (g : Grammar) (p : Position) (pending s : Text) :
    Except ParseError (List (Position × Segment)) :=
  match s with
  | [] => .ok (flushText p pending)
  | c :: cs =>
    match _h : segment? g (c :: cs) with
    | .error unclosed => .error (unclosed.at (p.advance pending.reverse) (c :: cs))
    | .ok none => scan g p (c :: pending) cs
    | .ok (some (segment, rest)) =>
      let here := p.advance pending.reverse
      match scan g (here.advance segment.source) [] rest with
      | .error e => .error e
      | .ok segments => .ok (flushText p pending ++ (here, segment) :: segments)
termination_by s.length
decreasing_by
  · simp
  · exact segment?_length ‹_›

/-- The segments of a template. -/
def segments (g : Grammar) (source : Text) : Except ParseError (List (Position × Segment)) :=
  scan g .start [] source

end Blockbook.Template
