import Blockbook.Proofs.Template.Excerpt
import Blockbook.Proofs.Template.Spelling

/-!
# Dashes drop the blanks next to them

A template of text and statements, each statement with or without a dash on either side. A dash on
the right drops blanks from text that is still to come, a dash on the left from text that has been
taken in. What is left of a text depends on the two statements around it and on nothing else.

* `segment?_dashed`: a statement is read with its dashes and its body.
* `ofPlaced_dashed`: what is left of a text between two statements.
* `scan_sources`: the tokens of a whole template.
-/

namespace Blockbook.Template

open Text

/-- A statement with its dashes, and the text up to the next one. -/
structure Passage where
  trim : Trim
  body : Text
  text : Text
deriving DecidableEq, Repr

/-- Text without the marks of statements and comments. -/
def Unmarked (text : Text) : Prop := ¬['{', '%'] <:+: text ∧ ¬['{', '#'] <:+: text

instance : DecidablePred Unmarked := fun text =>
  inferInstanceAs (Decidable (¬['{', '%'] <:+: text ∧ ¬['{', '#'] <:+: text))

/-- What is left of a text with a dash before it or not, and a dash after it or not. -/
def afterDashes (start stop : Bool) (text : Text) : Text :=
  let front := if start then trimStart text else text
  if stop then trimEnd front else front

/-- The token for what is left of a text that is written as `source`; there is none for nothing. -/
def textTokens (p : Position) (source content : Text) : List Token :=
  if content = [] then [] else [.text content (.covering p source)]

namespace Passage

/-- What stands between the opening mark and its dash and the closing mark. -/
def inner (passage : Passage) : Text := [' '] ++ passage.body ++ [' '] ++ dash passage.trim.after

/-- A statement as it is written: a blank on each side of its body, and dashes next to the marks. -/
def statement (passage : Passage) : Text :=
  ['{', '%'] ++ (dash passage.trim.before ++ (passage.inner ++ ['%', '}']))

/-- The body has no blank at its ends and no closing mark in it, and it opens no literal section. -/
structure Legal (passage : Passage) : Prop where
  trim_eq : Text.trim passage.body = passage.body
  closing : ¬['%', '}'] <:+: passage.body
  raw : passage.body ≠ "raw"
  verbatim : passage.body ≠ "verbatim"
  unmarked : Unmarked passage.text

/-- The template of a text and the statements after it, each with its text. -/
def sources (front : Text) : List Passage → Text
  | [] => front
  | passage :: passages => front ++ (passage.statement ++ sources passage.text passages)

/-- The tokens of a text and the statements after it. The text stands after a dash if `dashed` says
so. -/
def tokens (dashed : Bool) (p : Position) (front : Text) : List Passage → List Token
  | [] => textTokens p front (afterDashes dashed false front)
  | passage :: passages =>
    let here := p.advance front
    textTokens p front (afterDashes dashed passage.trim.before front) ++
      .logic passage.trim passage.body (.covering here passage.statement) ::
        tokens passage.trim.after (here.advance passage.statement) passage.text passages

/-- The tag of a written statement. -/
def tag (passage : Passage) : Tag := ⟨passage.trim, passage.body, passage.statement⟩

/-- The segment of a text; there is none for nothing. -/
def textSegments (text : Text) : List Segment := if text = [] then [] else [.text text]

/-- The segments of a text and the statements after it. -/
def segments (front : Text) : List Passage → List Segment
  | [] => textSegments front
  | passage :: passages =>
    textSegments front ++ .logic passage.tag :: segments passage.text passages

variable {passage : Passage}

/-! ## Statements -/

/-- The blanks around a body keep its ends away from the marks. -/
theorem Legal.closing_inner (h : passage.Legal) : ¬['%', '}'] <:+: passage.inner := by
  have htail : ¬['%', '}'] <:+: [' '] ++ dash passage.trim.after := by
    cases passage.trim.after <;> decide
  intro hmark
  rw [inner, List.append_assoc] at hmark
  obtain hmark | hmark | ⟨l, r, hlr, hl, hr, -, hfront⟩ := infix_append_cases hmark
  · rw [List.singleton_append, List.infix_cons_iff] at hmark
    obtain hmark | hmark := hmark
    · simp at hmark
    · exact h.closing hmark
  · exact htail hmark
  · -- Across the border the second character of the mark would be the blank after the body.
    obtain ⟨c, l, rfl⟩ := List.exists_cons_of_ne_nil hl
    obtain ⟨d, r, rfl⟩ := List.exists_cons_of_ne_nil hr
    obtain rfl := (List.cons_prefix_cons.1 hfront).1
    have hmem : ' ' ∈ ['%', '}'] := by
      rw [hlr]
      simp
    simp at hmem

theorem splitDash_inner (passage : Passage) :
    Tag.splitDash passage.inner = ([' '] ++ passage.body ++ [' '], passage.trim.after) := by
  rw [inner, Tag.splitDash]
  cases passage.trim.after with
  | false =>
    rw [show dash false = [] from rfl, List.append_nil, List.getLast?_concat, if_neg (by decide)]
  | true =>
    rw [show dash true = ['-'] from rfl, List.getLast?_concat, if_pos rfl, List.dropLast_concat]

theorem read?_dashed (h : passage.Legal) (rest : Text) :
    Tag.read? ['{', '%'] ['%', '}']
      (dash passage.trim.before ++ (passage.inner ++ '%' :: '}' :: rest)) =
        some (passage.tag, rest) := by
  refine Tag.read?_eq_some_iff.2 ⟨passage.trim.before, passage.inner ++ '%' :: '}' :: rest,
    passage.inner, rfl, ?_, breakOn?_pair (by decide) h.closing_inner rest, ?_⟩
  · intro hbefore
    simp [hbefore, dash, inner]
  · have hbody : Text.trim ([' '] ++ passage.body ++ [' ']) = passage.body :=
      (trim_spaces passage.body).trans h.trim_eq
    rw [Tag.between, splitDash_inner, hbody]
    rfl

/-- A statement is read with its dashes and its body. -/
theorem segment?_dashed (h : passage.Legal) (rest : Text) :
    segment? .structural (passage.statement ++ rest) =
      .ok (some (.logic passage.tag, rest)) := by
  have hlogic : Grammar.structural.recognizesLogic = true := rfl
  have hsource : passage.statement ++ rest =
      '{' :: '%' :: (dash passage.trim.before ++ (passage.inner ++ '%' :: '}' :: rest)) := by
    simp [statement]
  rw [hsource]
  simp only [segment?, hlogic, read?_dashed h, recognizes_logic, ↓reduceIte]
  rw [show passage.tag.body = passage.body from rfl, literalKind?_eq_none h.raw h.verbatim]

theorem opens_dashed (h : passage.Legal) (rest : Text) : Opens (passage.statement ++ rest) :=
  .of_segment rfl (segment?_dashed h rest)

/-! ## The text between statements -/

theorem cut_textSegments {text rest : Text} {segments : List Segment} (h : Unmarked text)
    (hrest : Opens rest) (hcut : Cut .structural rest segments) :
    Cut .structural (text ++ rest) (textSegments text ++ segments) := by
  unfold textSegments
  split
  · next hnil => rwa [hnil]
  · next hne => exact .text hne (plain_of_opens h.1 h.2 hrest) hrest.endsPlain hcut

/-- A template is cut at its statements. -/
theorem cut_sources {front : Text} {passages : List Passage} (hfront : Unmarked front)
    (h : ∀ passage ∈ passages, passage.Legal) :
    Cut .structural (sources front passages) (segments front passages) := by
  induction passages generalizing front with
  | nil =>
    have hcut := cut_textSegments hfront (.inl rfl) .nil
    rwa [List.append_nil, List.append_nil] at hcut
  | cons passage passages ih =>
    obtain ⟨hpassage, hpassages⟩ := List.forall_mem_cons.1 h
    refine cut_textSegments hfront (opens_dashed hpassage _) ?_
    exact .segment (segment?_dashed hpassage _) (ih hpassage.unmarked hpassages)

theorem sources_textSegments (text : Text) : Segment.sources (textSegments text) = text := by
  unfold textSegments
  split
  · next hnil =>
    rw [hnil]
    rfl
  · simp [Segment.sources, Segment.source]

/-- Taking in the segment of a text leaves the text without its first blanks if a dash is before
it. -/
theorem foldl_textSegments (dashed : Bool) (p : Position) (text : Text) :
    ((place p (textSegments text)).foldl Token.Progress.step ⟨[], dashed⟩).tokens =
      textTokens p text (afterDashes dashed false text) := by
  by_cases htext : text = []
  · subst htext
    cases dashed <;> rfl
  · rw [textSegments, if_neg htext]
    rfl

theorem ofPlaced_textSegments (dashed : Bool) (p : Position) (text : Text) :
    Token.ofPlaced dashed p (textSegments text) =
      textTokens p text (afterDashes dashed false text) := by
  rw [Token.ofPlaced, foldl_textSegments, textTokens]
  split <;> rfl

/-- A dash after a text drops its last blanks, and the text if it has nothing else. -/
theorem trimLast_textTokens (p : Position) (source content : Text) :
    Token.trimLast (textTokens p source content) = textTokens p source (trimEnd content) := by
  by_cases hcontent : content = []
  · subst hcontent
    rfl
  · rw [textTokens, if_neg hcontent]
    rfl

/-- What is left of a text between two statements, and the second statement. -/
theorem ofPlaced_dashed (dashed : Bool) (p : Position) (text : Text) (tag : Tag) :
    Token.ofPlaced dashed p (textSegments text ++ [.logic tag]) =
      textTokens p text (afterDashes dashed tag.trim.before text) ++
        [.logic tag.trim tag.body (.covering (p.advance text) tag.source)] := by
  have hbefore : (if tag.trim.before then
      Token.trimLast (textTokens p text (afterDashes dashed false text))
      else textTokens p text (afterDashes dashed false text)) =
        textTokens p text (afterDashes dashed tag.trim.before text) := by
    cases tag.trim.before with
    | false => rfl
    | true => exact trimLast_textTokens p text _
  have hreverse (content : Text) :
      (textTokens p text content).reverse = textTokens p text content := by
    unfold textTokens
    split <;> rfl
  rw [Token.ofPlaced, place_append, List.foldl_append, sources_textSegments]
  simp only [place, List.foldl_cons, List.foldl_nil, Token.Progress.step, foldl_textSegments,
    hbefore, List.reverse_cons, hreverse]

/-- The segments of a template come down to its tokens. -/
theorem ofPlaced_segments (dashed : Bool) (p : Position) (front : Text) (passages : List Passage) :
    Token.ofPlaced dashed p (segments front passages) = tokens dashed p front passages := by
  induction passages generalizing dashed p front with
  | nil => exact ofPlaced_textSegments dashed p front
  | cons passage passages ih =>
    rw [segments, Token.ofPlaced_append, ofPlaced_dashed, sources_textSegments, ih, tokens]
    simp [tag]

end Passage

/-- A template of text and statements is cut into a token for each statement, with its body and its
dashes, and between them what the dashes on both sides leave of each text, if anything. -/
theorem scan_sources (front : Text) (passages : List Passage) (hfront : Unmarked front)
    (h : ∀ passage ∈ passages, passage.Legal) :
    Token.scan .structural (Passage.sources front passages) =
      .ok (Passage.tokens false .start front passages) :=
  Token.scan_ok_iff.2 ⟨_, Passage.cut_sources hfront h,
    (Passage.ofPlaced_segments false .start front passages).symm⟩

/-- Text that ends in a brace, statements with only blanks between them, bodies of marks and dashes,
and blanks at the end that a dash drops. -/
theorem scan_sources_braces :
    (∀ passage ∈ [⟨⟨true, true⟩, "block x", " \n"⟩, ⟨⟨true, false⟩, "%", " é "⟩,
      ⟨⟨false, true⟩, "-", "\n"⟩], Passage.Legal passage) ∧
    Token.scan .structural
        "a \x7b\x7b%- block x -%\x7d \n\x7b%- % %\x7d é \x7b% - -%\x7d\n".toList =
      .ok [.text "a \x7b" ⟨0, 3, 1, 1⟩, .logic ⟨true, true⟩ "block x" ⟨3, 18, 1, 4⟩,
        .logic ⟨true, false⟩ "%" ⟨20, 28, 2, 1⟩, .text " é " ⟨28, 32, 2, 9⟩,
        .logic ⟨false, true⟩ "-" ⟨32, 40, 2, 12⟩] := by
  have hlegal : ∀ passage ∈ [⟨⟨true, true⟩, "block x", " \n"⟩, ⟨⟨true, false⟩, "%", " é "⟩,
      ⟨⟨false, true⟩, "-", "\n"⟩], Passage.Legal passage := by
    intro passage hmem
    simp only [List.mem_cons, List.not_mem_nil, or_false] at hmem
    obtain rfl | rfl | rfl := hmem
    all_goals exact ⟨by decide, by decide, by decide, by decide, by decide⟩
  exact ⟨hlegal, scan_sources "a \x7b" _ (by decide) hlegal⟩

end Blockbook.Template
