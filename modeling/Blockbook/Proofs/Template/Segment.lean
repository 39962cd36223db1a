import Blockbook.Proofs.Search
import Blockbook.Proofs.Template.Statement
import Blockbook.Proofs.Template.Tag

/-!
# Segments as they are written

What the grammar for extracting blocks reads from a written statement, comment or literal section,
whatever follows it, and which text it passes over.

* `segment?_statement`: a statement between its marks and one blank on each side is read whole.
* `literalEnd?_append`: a literal section ends at its closing statement, and no mark in its content
  is taken for the start of it.
* `segment?_eq_none_iff`: no segment starts where the marks of statements and comments do not.
-/

namespace Blockbook.Template

open Text

/-- A statement as it is written, with one blank on each side. -/
def statement (body : Text) : Text := ['{', '%', ' '] ++ body ++ [' ', '%', '}']

/-- A comment as it is written. -/
def comment (content : Text) : Text := ['{', '#'] ++ content ++ ['#', '}']

/-- The tag of a written statement. -/
def statementTag (body : Text) : Tag := ⟨.keep, body, statement body⟩

/-- A body that is read back from between the marks: it has no blank at its ends, and nothing that
looks like the end of the tag. -/
structure IsBody (body : Text) : Prop where
  trim_eq : trim body = body
  percent : '%' ∉ body

theorem recognizes_logic (trim : Trim) : Grammar.structural.recognizes (.logic trim) = true := by
  obtain ⟨before, after⟩ := trim
  cases before <;> cases after <;> rfl

/-! ## Statements -/

theorem statement_append (body rest : Text) :
    statement body ++ rest = '{' :: '%' :: ' ' :: (body ++ ' ' :: '%' :: '}' :: rest) := by
  simp [statement]

theorem trim_spaces (body : Text) : trim (' ' :: (body ++ [' '])) = trim body := by
  have hspace : AllBlank [' '] := allBlank_cons.2 ⟨rfl, allBlank_nil⟩
  rw [← List.singleton_append, trim_append_of_allBlank hspace, trim_eq_trimStart_trimEnd,
    trimEnd_append_of_allBlank hspace, ← trim_eq_trimStart_trimEnd]

theorem read?_statement {body : Text} (h : IsBody body) (rest : Text) :
    Tag.read? ['{', '%'] ['%', '}'] (' ' :: (body ++ ' ' :: '%' :: '}' :: rest)) =
      some (statementTag body, rest) := by
  have hread (s : Text) : Tag.read? ['{', '%'] ['%', '}'] (' ' :: s) =
      Tag.close? ['{', '%'] ['%', '}'] false (' ' :: s) := rfl
  have hmark : ¬['%', '}'] <:+: ' ' :: (body ++ [' ']) := by
    intro hpart
    have hpercent : '%' ∈ ' ' :: (body ++ [' ']) := hpart.subset (by simp)
    simp [h.percent] at hpercent
  have hbreak : breakOn? ['%', '}'] (' ' :: (body ++ ' ' :: '%' :: '}' :: rest)) =
      some (' ' :: (body ++ [' ']), rest) := by
    have hpair := breakOn?_pair (by decide) hmark rest
    simpa using hpair
  have hdash : Tag.splitDash (' ' :: (body ++ [' '])) = (' ' :: (body ++ [' ']), false) := by
    simp [Tag.splitDash, List.getLast?_cons]
  rw [hread, Tag.close?, hbreak]
  simp only [hdash, trim_spaces, h.trim_eq]
  simp [statementTag, statement, Trim.keep]

theorem segment?_statement {body : Text} (h : IsBody body)
    (hliteral : literalKind? .structural body = none) (rest : Text) :
    segment? .structural (statement body ++ rest) =
      .ok (some (.logic (statementTag body), rest)) := by
  have hlogic : Grammar.structural.recognizesLogic = true := rfl
  rw [statement_append]
  simp only [segment?, hlogic, read?_statement h, recognizes_logic, ↓reduceIte]
  rw [show (statementTag body).body = body from rfl, hliteral]

theorem segment?_comment {content : Text} (h : ¬['#', '}'] <:+: content) (rest : Text) :
    segment? .structural (comment content ++ rest) =
      .ok (some (.comment (comment content), rest)) := by
  have hcomment : Grammar.structural.recognizes .comment = true := rfl
  have hsource : comment content ++ rest = '{' :: '#' :: (content ++ '#' :: '}' :: rest) := by
    simp [comment]
  rw [hsource]
  simp only [segment?, hcomment, breakOn?_pair (by decide) h, ↓reduceIte]
  rfl

/-! ## Literal sections -/

theorem isInfix_trim (s : Text) : trim s <:+: s := by
  rw [trim]
  obtain ⟨front, -, hfront⟩ := exists_trimStart s
  obtain ⟨tail, -, htail⟩ := exists_trimEnd (trimStart s)
  exact ⟨front, tail, by rw [List.append_assoc, ← htail, ← hfront]⟩

theorem mem_trim {c : Char} {s : Text} (hc : isBlank c = false) (h : c ∈ s) : c ∈ trim s := by
  have hsolid : c ∈ solid (trim s) := by
    rw [solid_trim]
    exact List.mem_filter.2 ⟨h, by simp [hc]⟩
  exact (List.mem_filter.1 hsolid).1

/-- Without the dash at its end, the content of a tag is a part of it and keeps its braces. -/
theorem splitDash_cases (inner : Text) :
    (Tag.splitDash inner).1 <+: inner ∧ ('{' ∈ inner → '{' ∈ (Tag.splitDash inner).1) := by
  unfold Tag.splitDash
  split
  · next hlast =>
    obtain ⟨front, rfl⟩ := List.getLast?_eq_some_iff.1 hlast
    simp
  · exact ⟨List.prefix_refl _, id⟩

/-- What is read as the body of a tag stands in it. -/
theorem body_of_read? {s rest : Text} {tag : Tag}
    (h : Tag.read? ['{', '%'] ['%', '}'] s = some (tag, rest)) :
    ∃ dash inner, s = dash ++ (inner ++ (['%', '}'] ++ rest)) ∧ (∀ c ∈ dash, c = '-') ∧
      tag.body <:+: inner ∧ ('{' ∈ inner → '{' ∈ tag.body) := by
  obtain ⟨before, t, inner, rfl, -, hbreak, rfl⟩ := Tag.read?_eq_some_iff.1 h
  obtain ⟨hfront, hbrace⟩ := splitDash_cases inner
  refine ⟨dash before, inner, by simp [eq_of_breakOn? hbreak], ?_, ?_, ?_⟩
  · cases before <;> simp [dash]
  · exact (isInfix_trim _).trans hfront.isInfix
  · exact fun hmem => mem_trim rfl (hbrace hmem)

/-- A tag that starts in the content of a section does not end it: either its body stands in the
content, or it holds the brace of the closing statement. -/
theorem body_ne_of_read? {name content rest rest' : Text} {tag : Tag} (h : ¬name <:+: content)
    (hbrace : '{' ∉ name)
    (hread : Tag.read? ['{', '%'] ['%', '}'] (content ++ (statement name ++ rest)) =
      some (tag, rest')) : tag.body ≠ name := by
  rintro rfl
  obtain ⟨dash, inner, hs, hdash, hpart, hmem⟩ := body_of_read? hread
  rw [statement_append, ← List.append_assoc] at hs
  obtain ⟨a, hinner, hrest⟩ | ⟨a, rfl, -⟩ := List.append_eq_append_iff.1 hs
  · cases a with
    | nil => simp at hrest
    | cons c a =>
      obtain ⟨rfl, -⟩ : '{' = c ∧ _ := by simpa using hrest
      have hopen : '{' ∈ dash ++ inner := by simp [hinner]
      obtain hopen | hopen := List.mem_append.1 hopen
      · cases hdash _ hopen
      · exact hbrace (hmem hopen)
  · exact h (hpart.trans ⟨dash, a, rfl⟩)

/-- No statement that ends the section starts in its content. -/
theorem statement?_eq_none {name content : Text} (h : ¬name <:+: content) (hbrace : '{' ∉ name)
    (hne : content ≠ []) (rest : Text) :
    statement? .structural name (content ++ (statement name ++ rest)) = none := by
  unfold statement?
  split
  · next r hs =>
    split
    · next tag rest' hread =>
      have hbody : tag.body ≠ name := by
        match content, hne with
        | [c], _ => simp [statement] at hs
        | c :: d :: content, _ =>
          obtain ⟨-, -, rfl⟩ : c = '{' ∧ d = '%' ∧ content ++ (statement name ++ rest) = r := by
            simpa using hs
          refine body_ne_of_read? (fun hpart => h ?_) hbrace hread
          exact hpart.trans (List.suffix_append [c, d] content).isInfix
      simp [hbody]
    · rfl
  · rfl

theorem statement?_statement {name : Text} (h : IsBody name) (rest : Text) :
    statement? .structural name (statement name ++ rest) = some (statementTag name, rest) := by
  rw [statement_append]
  simp only [statement?, read?_statement h, recognizes_logic]
  exact if_pos (by simp [statementTag])

/-- A literal section ends at its closing statement. -/
theorem literalEnd?_append {name content : Text} (hname : IsBody name) (hbrace : '{' ∉ name)
    (h : ¬name <:+: content) (rest : Text) :
    literalEnd? .structural name (content ++ (statement name ++ rest)) =
      some (content, statementTag name, rest) := by
  induction content with
  | nil => rw [List.nil_append, literalEnd?.eq_def, statement?_statement hname]
  | cons c cs ih =>
    have hcs := ih fun hpart => h (hpart.trans (List.suffix_cons c cs).isInfix)
    have hnone := statement?_eq_none h hbrace (List.cons_ne_nil c cs) rest
    rw [List.cons_append] at hnone ⊢
    rw [literalEnd?.eq_def, hnone]
    simp [hcs]

theorem segment?_literal {name endName content : Text} {kind : TokenKind} (hname : IsBody name)
    (hend : IsBody endName) (hbrace : '{' ∉ endName)
    (hkind : literalKind? .structural name = some (kind, endName)) (h : ¬endName <:+: content)
    (rest : Text) :
    segment? .structural (statement name ++ (content ++ (statement endName ++ rest))) =
      .ok (some (.literal (statementTag name) content (statementTag endName), rest)) := by
  have hlogic : Grammar.structural.recognizesLogic = true := rfl
  rw [statement_append]
  simp only [segment?, hlogic, read?_statement hname, recognizes_logic, ↓reduceIte]
  rw [show (statementTag name).body = name from rfl, hkind]
  simp only [literalEnd?_append hend hbrace h]

/-! ## Plain text -/

/-- Text without the marks of statements and comments starts no segment. -/
theorem segment?_eq_none {s : Text} (hlogic : ¬['{', '%'] <+: s) (hcomment : ¬['{', '#'] <+: s) :
    segment? .structural s = .ok none := by
  have houtput : Grammar.structural.recognizesOutput = false := rfl
  unfold segment?
  split
  · exact absurd ⟨_, rfl⟩ hcomment
  · exact absurd ⟨_, rfl⟩ hlogic
  · rw [houtput]
    rfl
  · rfl

/-- Under the grammar for extracting blocks, the first two characters say whether a tag, comment or
section starts. -/
theorem segment?_eq_none_iff {s : Text} :
    segment? .structural s = .ok none ↔ ¬['{', '%'] <+: s ∧ ¬['{', '#'] <+: s := by
  constructor
  · intro h
    have hlogic : Grammar.structural.recognizesLogic = true := rfl
    have hcomment : Grammar.structural.recognizes .comment = true := rfl
    constructor
    · rintro ⟨r, rfl⟩
      simp only [List.cons_append, List.nil_append, segment?, hlogic, ↓reduceIte,
        recognizes_logic] at h
      split at h
      · split at h
        · split at h <;> cases h
        · cases h
      · cases h
    · rintro ⟨r, rfl⟩
      simp only [List.cons_append, List.nil_append, segment?, hcomment, ↓reduceIte] at h
      split at h <;> cases h
  · rintro ⟨hlogic, hcomment⟩
    exact segment?_eq_none hlogic hcomment

end Blockbook.Template
