import Blockbook.Proofs.Blank
import Blockbook.Proofs.Search
import Blockbook.Template.Segment

/-!
# Tags and sections as they stand in a template

A tag is its opening mark, an optional dash, its body between blanks, an optional dash and its
closing mark. Reading it stops at the first closing mark, so that what follows does not matter, and
the same holds of comments and literal sections.

* `Tag.read?_eq_some_iff`: which tag is read, and from which text.
* `segment?_append`: a segment is read the same, whatever follows it.
* `segment?_eq_some_iff`: what stands where a segment is read.
-/

namespace Blockbook.Template

open Text

/-- The dash of a tag that drops blanks. -/
def dash (drops : Bool) : Text := if drops then ['-'] else []

namespace Tag

/-- The tag with a text between its opening mark and dash and its closing mark. -/
def between (opening closing : Text) (before : Bool) (inner : Text) : Tag :=
  ⟨⟨before, (splitDash inner).2⟩, Text.trim (splitDash inner).1,
    opening ++ (dash before ++ (inner ++ closing))⟩

/-- A tag as it is written: its body between blanks, dashes where it drops blanks, and marks. -/
def Written (opening closing : Text) (tag : Tag) : Prop :=
  ∃ gap gap', AllBlank gap ∧ AllBlank gap' ∧
    tag.source = opening ++ (dash tag.trim.before ++ gap ++ tag.body ++ gap' ++
      dash tag.trim.after) ++ closing

/-- A closing mark that does not start with a dash. -/
def IsClosing (closing : Text) : Prop := ∃ c cs, closing = c :: cs ∧ c ≠ '-'

theorem splitDash_eq (inner : Text) :
    inner = (splitDash inner).1 ++ dash (splitDash inner).2 := by
  unfold splitDash
  split
  · next hlast =>
    obtain ⟨front, rfl⟩ := List.getLast?_eq_some_iff.1 hlast
    simp [dash]
  · simp [dash]

theorem written_between (opening closing : Text) (before : Bool) (inner : Text) :
    (between opening closing before inner).Written opening closing := by
  obtain ⟨gap, hgap, hfront⟩ := exists_trimStart (splitDash inner).1
  obtain ⟨gap', hgap', hback⟩ := exists_trimEnd (trimStart (splitDash inner).1)
  refine ⟨gap, gap', hgap, hgap', ?_⟩
  have hinner : inner =
      gap ++ (Text.trim (splitDash inner).1 ++ (gap' ++ dash (splitDash inner).2)) := by
    rw [Text.trim, ← List.append_assoc _ gap', ← hback, ← List.append_assoc, ← hfront]
    exact splitDash_eq inner
  have hsource : (between opening closing before inner).source =
      opening ++ (dash before ++ (inner ++ closing)) := rfl
  rw [hsource]
  conv => lhs; rw [hinner]
  simp [between]

/-! ## Reading a tag -/

theorem close?_eq (opening closing : Text) (before : Bool) (s : Text) :
    close? (opening ++ dash before) closing before s =
      (breakOn? closing s).map fun (inner, rest) =>
        (between opening closing before inner, rest) := by
  unfold close?
  cases breakOn? closing s with
  | none => rfl
  | some found => simp [between]

theorem close?_eq_some_iff {opening closing s rest : Text} {before : Bool} {tag : Tag} :
    close? (opening ++ dash before) closing before s = some (tag, rest) ↔
      ∃ inner, breakOn? closing s = some (inner, rest) ∧
        tag = between opening closing before inner := by
  rw [close?_eq, Option.map_eq_some_iff]
  constructor
  · rintro ⟨⟨inner, rest'⟩, hbreak, heq⟩
    obtain ⟨rfl, rfl⟩ := Prod.mk.inj heq
    exact ⟨inner, hbreak, rfl⟩
  · rintro ⟨inner, hbreak, rfl⟩
    exact ⟨_, hbreak, rfl⟩

/-- The text that a tag is read from starts with its dash and goes on up to the first closing
mark. -/
theorem read?_eq_some_iff {opening closing s rest : Text} {tag : Tag} :
    read? opening closing s = some (tag, rest) ↔
      ∃ before t inner, s = dash before ++ t ∧ (before = false → s.head? ≠ some '-') ∧
        breakOn? closing t = some (inner, rest) ∧ tag = between opening closing before inner := by
  have hopening : opening ++ dash false = opening := List.append_nil opening
  constructor
  · intro h
    unfold read? at h
    split at h
    · next t =>
      obtain ⟨inner, hbreak, rfl⟩ := close?_eq_some_iff.1 h
      exact ⟨true, t, inner, rfl, nofun, hbreak, rfl⟩
    · next hne =>
      rw [← hopening] at h
      obtain ⟨inner, hbreak, rfl⟩ := close?_eq_some_iff.1 h
      refine ⟨false, s, inner, rfl, fun _ hs => ?_, hbreak, rfl⟩
      obtain ⟨t, rfl⟩ := List.head?_eq_some_iff.1 hs
      exact hne t rfl
  · rintro ⟨before, t, inner, rfl, hhead, hbreak, rfl⟩
    have hclose : close? (opening ++ dash before) closing before t =
        some (between opening closing before inner, rest) :=
      close?_eq_some_iff.2 ⟨inner, hbreak, rfl⟩
    cases before with
    | true => exact hclose
    | false =>
      rw [hopening] at hclose
      unfold read?
      split
      · next t' heq => exact absurd (by rw [heq]; rfl) (hhead rfl)
      · exact hclose

variable {opening closing s rest : Text} {tag : Tag}

theorem written_of_read? (h : read? opening closing s = some (tag, rest)) :
    tag.Written opening closing := by
  obtain ⟨before, t, inner, -, -, -, rfl⟩ := read?_eq_some_iff.1 h
  exact written_between opening closing before inner

/-- More text behind a tag does not change how it is read. -/
theorem read?_append (hclosing : closing ≠ []) (h : read? opening closing s = some (tag, rest))
    (x : Text) : read? opening closing (s ++ x) = some (tag, rest ++ x) := by
  obtain ⟨before, t, inner, rfl, hhead, hbreak, rfl⟩ := read?_eq_some_iff.1 h
  refine read?_eq_some_iff.2
    ⟨before, t ++ x, inner, by simp, fun hb => ?_, breakOn?_append_right hbreak x, rfl⟩
  have hne : dash before ++ t ≠ [] := by simp [eq_of_breakOn? hbreak, hclosing]
  obtain ⟨c, cs, hcs⟩ := List.exists_cons_of_ne_nil hne
  rw [hcs] at hhead ⊢
  exact hhead hb

/-- A tag is read the same, whatever follows it. -/
theorem read?_replace (hclosing : closing ≠ []) (h : read? opening closing s = some (tag, rest)) :
    ∃ t, s = t ++ rest ∧ tag.source = opening ++ t ∧
      ∀ x, read? opening closing (t ++ x) = some (tag, x) := by
  obtain ⟨before, t, inner, rfl, hhead, hbreak, rfl⟩ := read?_eq_some_iff.1 h
  have hself : read? opening closing (dash before ++ (inner ++ closing)) =
      some (between opening closing before inner, []) := by
    have hend := breakOn?_append hbreak []
    rw [List.append_nil] at hend
    refine read?_eq_some_iff.2 ⟨before, inner ++ closing, inner, rfl, fun hb => ?_, hend, rfl⟩
    have hne : dash before ++ (inner ++ closing) ≠ [] := by simp [hclosing]
    obtain ⟨c, cs, hcs⟩ := List.exists_cons_of_ne_nil hne
    rw [eq_of_breakOn? hbreak, ← List.append_assoc, hcs] at hhead
    rw [hcs]
    exact hhead hb
  refine ⟨dash before ++ (inner ++ closing), by simp [eq_of_breakOn? hbreak], rfl, fun x => ?_⟩
  exact read?_append hclosing hself x

/-- Where the closing mark stands, a tag is read. -/
theorem exists_read? (opening : Text) (hclosing : IsClosing closing) (h : closing <:+: s) :
    ∃ tag rest, read? opening closing s = some (tag, rest) := by
  obtain ⟨c, cs, rfl, hc⟩ := hclosing
  have hbreak {t : Text} (ht : c :: cs <:+: t) :
      ∃ inner rest, breakOn? (c :: cs) t = some (inner, rest) := by
    cases hb : breakOn? (c :: cs) t with
    | none => exact absurd ht (breakOn?_eq_none_iff.1 hb)
    | some found => exact ⟨found.1, found.2, rfl⟩
  by_cases hs : s.head? = some '-'
  · obtain ⟨t, rfl⟩ := List.head?_eq_some_iff.1 hs
    obtain hfront | ht := List.infix_cons_iff.1 h
    · exact absurd (List.cons_prefix_cons.1 hfront).1 hc
    · obtain ⟨inner, rest, hinner⟩ := hbreak ht
      exact ⟨_, rest, read?_eq_some_iff.2 ⟨true, t, inner, rfl, nofun, hinner, rfl⟩⟩
  · obtain ⟨inner, rest, hinner⟩ := hbreak h
    exact ⟨_, rest, read?_eq_some_iff.2 ⟨false, s, inner, rfl, fun _ => hs, hinner, rfl⟩⟩

end Tag

/-! ## Literal sections -/

theorem isClosing_percent : Tag.IsClosing ['%', '}'] := ⟨'%', ['}'], rfl, by decide⟩

theorem statement?_eq_some_iff {g : Grammar} {name s rest : Text} {tag : Tag} :
    statement? g name s = some (tag, rest) ↔
      ∃ r, s = '{' :: '%' :: r ∧ Tag.read? ['{', '%'] ['%', '}'] r = some (tag, rest) ∧
        g.recognizes (.logic tag.trim) = true ∧ tag.body = name := by
  unfold statement?
  constructor
  · intro h
    split at h
    · next r =>
      split at h
      · next hread =>
        split at h
        · next hname =>
          obtain ⟨rfl, rfl⟩ := Prod.mk.inj (Option.some.inj h)
          rw [Bool.and_eq_true, decide_eq_true_eq] at hname
          exact ⟨r, rfl, hread, hname⟩
        · cases h
      · cases h
    · cases h
  · rintro ⟨r, rfl, hread, hkind, hname⟩
    simp [hread, hkind, hname]

/-- Whether a statement starts here is seen up to the first closing mark. -/
theorem statement?_eq_none_replace {g : Grammar} {name a rest : Text} {c : Char}
    (hmark : ['%', '}'] <:+: a.tail) (h : statement? g name (c :: (a ++ rest)) = none) (x : Text) :
    statement? g name (c :: (a ++ x)) = none := by
  rw [Option.eq_none_iff_forall_ne_some] at h ⊢
  rintro ⟨tag, y⟩ hx
  obtain ⟨r, hr, hread, hkind, hname⟩ := statement?_eq_some_iff.1 hx
  cases a with
  | nil => exact absurd hmark (by decide)
  | cons d a =>
    obtain ⟨rfl, rfl, rfl⟩ : c = '{' ∧ d = '%' ∧ a ++ x = r := by simpa using hr
    rw [List.tail_cons] at hmark
    obtain ⟨tag', y', hself⟩ := Tag.exists_read? ['{', '%'] isClosing_percent hmark
    rw [Tag.read?_append (by decide) hself] at hread
    obtain ⟨rfl, -⟩ := Prod.mk.inj (Option.some.inj hread)
    exact h (tag', y' ++ rest) (statement?_eq_some_iff.2
      ⟨a ++ rest, rfl, Tag.read?_append (by decide) hself rest, hkind, hname⟩)

theorem closing_isInfix_of_written {tag : Tag} (h : tag.Written ['{', '%'] ['%', '}']) :
    ∃ t, tag.source = '{' :: t ∧ ['%', '}'] <:+: t := by
  obtain ⟨gap, gap', -, -, hsource⟩ := h
  exact ⟨_, hsource, (List.suffix_append ..).isInfix⟩

/-- The statement that ends a section has the name asked for, and it is the same whatever follows
it. -/
theorem literalEnd?_replace {g : Grammar} {name s content rest : Text} {tag : Tag}
    (h : literalEnd? g name s = some (content, tag, rest)) :
    tag.Written ['{', '%'] ['%', '}'] ∧ tag.body = name ∧
      ∀ x, literalEnd? g name (content ++ (tag.source ++ x)) = some (content, tag, x) := by
  fun_induction literalEnd? g name s generalizing content with
  | case1 s tag' rest' hs =>
    obtain ⟨rfl, rfl, rfl⟩ : [] = content ∧ tag' = tag ∧ rest' = rest := by simpa using h
    obtain ⟨r, rfl, hread, hkind, hname⟩ := statement?_eq_some_iff.1 hs
    obtain ⟨t, -, hsource, hx⟩ := Tag.read?_replace (by decide) hread
    refine ⟨Tag.written_of_read? hread, hname, fun x => ?_⟩
    have hstatement : statement? g name (tag'.source ++ x) = some (tag', x) := by
      rw [hsource]
      exact statement?_eq_some_iff.2 ⟨t ++ x, rfl, hx x, hkind, hname⟩
    rw [List.nil_append, literalEnd?.eq_def, hstatement]
  | case2 => cases h
  | case3 c cs hnone ih =>
    obtain ⟨⟨content', tag', rest'⟩, hend, heq⟩ := Option.map_eq_some_iff.1 h
    obtain ⟨rfl, rfl, rfl⟩ : c :: content' = content ∧ tag' = tag ∧ rest' = rest := by
      simpa using heq
    obtain ⟨hwritten, hname, hx⟩ := ih hend
    obtain ⟨t, hsource, hmark⟩ := closing_isInfix_of_written hwritten
    have hmark' : ['%', '}'] <:+: (content' ++ tag'.source).tail := by
      refine hmark.trans ?_
      rw [hsource]
      cases content' with
      | nil => exact List.infix_refl t
      | cons d ds => exact ⟨ds ++ ['{'], [], by simp⟩
    rw [source_of_literalEnd? hend] at hnone
    refine ⟨hwritten, hname, fun x => ?_⟩
    have hfront := statement?_eq_none_replace hmark' hnone x
    rw [List.append_assoc] at hfront
    rw [List.cons_append, literalEnd?.eq_def, hfront]
    simp [hx]

/-! ## Segments -/

/-- What stands at the front of a text, and what follows it. -/
inductive Found (g : Grammar) : Text → Segment → Text → Prop where
  | comment {r inner rest : Text} : g.recognizes .comment = true →
      breakOn? ['#', '}'] r = some (inner, rest) →
      Found g ('{' :: '#' :: r) (.comment (['{', '#'] ++ inner ++ ['#', '}'])) rest
  | logic {r rest : Text} {tag : Tag} : Tag.read? ['{', '%'] ['%', '}'] r = some (tag, rest) →
      g.recognizes (.logic tag.trim) = true → literalKind? g tag.body = none →
      Found g ('{' :: '%' :: r) (.logic tag) rest
  | literal {r endName content rest rest' : Text} {kind : TokenKind} {opening closing : Tag} :
      Tag.read? ['{', '%'] ['%', '}'] r = some (opening, rest) →
      g.recognizes (.logic opening.trim) = true →
      literalKind? g opening.body = some (kind, endName) →
      literalEnd? g endName rest = some (content, closing, rest') →
      Found g ('{' :: '%' :: r) (.literal opening content closing) rest'
  | output {r rest : Text} {tag : Tag} : Tag.read? ['{', '{'] ['}', '}'] r = some (tag, rest) →
      g.recognizes (.output tag.trim) = true → Found g ('{' :: '{' :: r) (.output tag) rest

theorem recognizesLogic_of {g : Grammar} {trim : Trim} (h : g.recognizes (.logic trim) = true) :
    g.recognizesLogic = true :=
  List.any_eq_true.2 ⟨_, List.contains_iff_mem.1 h, rfl⟩

theorem recognizesOutput_of {g : Grammar} {trim : Trim} (h : g.recognizes (.output trim) = true) :
    g.recognizesOutput = true :=
  List.any_eq_true.2 ⟨_, List.contains_iff_mem.1 h, rfl⟩

theorem segment?_eq_some_iff {g : Grammar} {s rest : Text} {segment : Segment} :
    segment? g s = .ok (some (segment, rest)) ↔ Found g s segment rest := by
  constructor
  · intro h
    unfold segment? at h
    split at h
    · split at h
      · next hkind =>
        split at h
        · next hbreak =>
          cases h
          exact .comment hkind hbreak
        · cases h
      · cases h
    · split at h
      · split at h
        · next hread =>
          split at h
          · next hkind =>
            split at h
            · next hliteral =>
              split at h
              · next hend =>
                cases h
                exact .literal hread hkind hliteral hend
              · cases h
            · next hliteral =>
              cases h
              exact .logic hread hkind hliteral
          · cases h
        · cases h
      · cases h
    · split at h
      · split at h
        · next hread =>
          split at h
          · next hkind =>
            cases h
            exact .output hread hkind
          · cases h
        · cases h
      · cases h
    · cases h
  · rintro (⟨hkind, hbreak⟩ | ⟨hread, hkind, hliteral⟩ | ⟨hread, hkind, hliteral, hend⟩ |
      ⟨hread, hkind⟩)
    · simp [segment?, hkind, hbreak]
    · simp [segment?, recognizesLogic_of hkind, hread, hkind, hliteral]
    · simp [segment?, recognizesLogic_of hkind, hread, hkind, hliteral, hend]
    · simp [segment?, recognizesOutput_of hkind, hread, hkind]

/-- A segment is read the same, whatever follows it. -/
theorem segment?_append {g : Grammar} {s rest : Text} {segment : Segment}
    (h : segment? g s = .ok (some (segment, rest))) (x : Text) :
    segment? g (segment.source ++ x) = .ok (some (segment, x)) := by
  rw [segment?_eq_some_iff] at h ⊢
  cases h with
  | comment hkind hbreak =>
    have hfound := breakOn?_append hbreak x
    simpa [Segment.source] using Found.comment hkind hfound
  | logic hread hkind hliteral =>
    obtain ⟨t, -, hsource, hx⟩ := Tag.read?_replace (by decide) hread
    rw [Segment.source, hsource]
    exact .logic (hx x) hkind hliteral
  | @literal r endName content rest _ kind opening closing hread hkind hliteral hend =>
    obtain ⟨t, -, hsource, hx⟩ := Tag.read?_replace (by decide) hread
    obtain ⟨-, -, hx'⟩ := literalEnd?_replace hend
    rw [Segment.source, hsource, List.append_assoc, List.append_assoc, List.append_assoc]
    exact .literal (hx _) hkind hliteral (hx' x)
  | output hread hkind =>
    obtain ⟨t, -, hsource, hx⟩ := Tag.read?_replace (by decide) hread
    rw [Segment.source, hsource]
    exact .output (hx x) hkind

end Blockbook.Template
