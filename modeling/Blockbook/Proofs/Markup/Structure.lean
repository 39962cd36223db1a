import Blockbook.Proofs.Markup.Respaced

/-!
# When layout keeps the structure of markup

The constructs of a text are its tokens other than text. Layout keeps them all, with one exception.
A `<!--` without a `-->` after it is text. A tag such as `<p -- >` is shown as `<p -->`, and that
ends the comment which the text only seemed to start.

* `Respaced.closes_iff`: respaced text holds a `-->` exactly where a token is shown with one.
* `inert_of_allWords`: text without constructs stays so, comments that now end apart.
* `exists_comment`: where a comment now ends, it is the first construct.
* `constructs_layout`: layout keeps the constructs of a text exactly if no comment ends so.
-/

namespace Blockbook.Markup

open Text

/-- Where a comment ends. -/
def commentEnd : Text := ['-', '-', '>']

namespace Token

def isConstruct : Token → Bool
  | .text _ => false
  | _ => true

/-- Whether a token is text that looks like the start of a comment. -/
def opensComment : Token → Bool
  | .text content => contains content ('<' :: commentMark)
  | _ => false

/-- Whether a token is shown with the end of a comment. -/
def closesComment (token : Token) : Bool := contains token.inRun commentEnd

end Token

/-- The tokens of markup other than text. -/
def constructs (ts : List Token) : List Token := ts.filter Token.isConstruct

/-- No text that looks like the start of a comment is followed by a token that is shown with the end
of one. -/
def Settled (ts : List Token) : Prop :=
  ts.Pairwise fun token next => token.opensComment = true → next.closesComment = false

instance (ts : List Token) : Decidable (Settled ts) :=
  inferInstanceAs (Decidable (ts.Pairwise _))

/-! ## Tokens -/

theorem isConstruct_of_construct? {s rest : Text} {token : Token}
    (h : construct? s = some (token, rest)) : token.isConstruct = true := by
  cases token with
  | text v => exact absurd rfl (construct?_not_text h v)
  | _ => rfl

theorem constructs_cons {token : Token} (h : token.isConstruct = true) (ts : List Token) :
    constructs (token :: ts) = token :: constructs ts := List.filter_cons_of_pos h

theorem settled_cons {token : Token} (h : token.isConstruct = true) (ts : List Token) :
    Settled (token :: ts) ↔ Settled ts := by
  have hopens : ¬token.opensComment = true := by
    cases token with
    | text content => cases h
    | _ => exact Bool.false_ne_true
  rw [Settled, List.pairwise_cons, Settled]
  exact and_iff_right fun _ _ hopen => absurd hopen hopens

theorem constructs_flushText (u : Text) (ts : List Token) :
    constructs (flushText u.reverse ++ ts) = constructs ts := by
  by_cases hu : u = []
  · rw [hu]
    rfl
  · rw [flushText_reverse hu]
    rfl

theorem settled_flushText (u : Text) (ts : List Token) :
    Settled (flushText u.reverse ++ ts) ↔
      ('<' :: commentMark <:+: u → ∀ token ∈ ts, token.closesComment = false) ∧ Settled ts := by
  by_cases hu : u = []
  · subst hu
    exact ⟨fun h => ⟨fun hmark => absurd (List.infix_nil.1 hmark) (by simp), h⟩, And.right⟩
  · rw [flushText_reverse hu, List.singleton_append, Settled, List.pairwise_cons, Settled,
      ← contains_iff]
    refine and_congr_left fun _ => ⟨fun h hopen token htoken => ?_, fun h token htoken hopen => ?_⟩
    · exact h token htoken hopen
    · exact h hopen token htoken

theorem closes_flushText (u : Text) :
    (∃ token ∈ flushText u.reverse, token.closesComment = true) ↔ commentEnd <:+: u := by
  by_cases hu : u = []
  · subst hu
    simp [flushText, commentEnd]
  · simp only [flushText_reverse hu, List.mem_singleton, exists_eq_left]
    exact contains_iff.trans (infix_iff_of_allWords rfl rfl (allWords_reduce u))

/-! ## The end of a comment -/

/-- The end of a comment does not go across the end of a construct or the start of one. -/
theorem commentEnd_append_iff {s t : Text} (h : (∃ front, s = front ++ ['>']) ∨ StartsMarkup t) :
    commentEnd <:+: s ++ t ↔ commentEnd <:+: s ∨ commentEnd <:+: t := by
  constructor
  · intro hmark
    obtain hs | ht | ⟨l, r, hlr, hl, hr, hsuffix, hfront⟩ := infix_append_cases hmark
    · exact .inl hs
    · exact .inr ht
    exfalso
    obtain ⟨front, rfl⟩ | rfl | ⟨y, rfl⟩ := h
    · -- The first part would end in `>`, which the mark holds at its end only.
      have hmem : '>' ∈ l := by
        obtain ⟨before, hbefore⟩ := hsuffix
        have hlast := congrArg List.getLast? hbefore
        rw [List.getLast?_append_of_ne_nil _ hl, List.getLast?_concat] at hlast
        exact List.mem_of_getLast? hlast
      have hdrop : ['-', '-'] = l ++ r.dropLast := by
        rw [← List.dropLast_append_of_ne_nil hr, ← hlr]
        rfl
      have : '>' ∈ ['-', '-'] := hdrop ▸ List.mem_append_left _ hmem
      simp at this
    · exact hr (List.prefix_nil.1 hfront)
    · obtain ⟨c, r, rfl⟩ := List.exists_cons_of_ne_nil hr
      obtain ⟨rfl, -⟩ := List.cons_prefix_cons.1 hfront
      have hmem : '<' ∈ commentEnd := hlr ▸ List.mem_append_right _ (by simp)
      simp [commentEnd] at hmem
  · rintro (hs | ht)
    · exact hs.trans (List.prefix_append ..).isInfix
    · exact ht.trans (List.suffix_append ..).isInfix

theorem commentEnd_inRun_append {s rest : Text} {token : Token}
    (h : construct? s = some (token, rest)) (x : Text) :
    commentEnd <:+: token.inRun ++ x ↔ token.closesComment = true ∨ commentEnd <:+: x := by
  obtain ⟨inner, hinner⟩ := inRun_of_construct? h
  rw [Token.closesComment, contains_iff]
  exact commentEnd_append_iff (.inl ⟨'<' :: inner, hinner⟩)

theorem construct?_of_rawContent {name s content rest : Text} {close : Token}
    (h : rawContent name s = (content, some (close, rest))) :
    ∃ t, construct? t = some (close, rest) := by
  obtain ⟨t, -, ht, -⟩ := rawContent_closed h
  exact ⟨t, (construct?_of_rawClose? ht).2⟩

namespace Respaced

variable {inText : Bool} {s x : Text}

theorem solid (h : Respaced inText s x) : Text.solid s = Text.solid x := by
  induction h with
  | nil => rfl
  | text _ hwords _ ih => rw [solid_append, solid_append, solid_eq_of_allWords hwords, ih]
  | tag hc _ _ ih => rw [solid_of_construct? hc, solid_append, ih]
  | rawElement hc _ hcontent _ ih =>
    rw [solid_of_construct? hc, solid_of_rawContent hcontent, ih]
    simp
  | rawRest hc => rw [solid_of_construct? hc, solid_append]

/-- Respaced text holds the end of a comment exactly if a token is shown with it. -/
theorem closes_iff (h : Respaced inText s x) :
    commentEnd <:+: x ↔ ∃ token ∈ tokens s, token.closesComment = true := by
  induction h with
  | nil => simp [tokens_nil, commentEnd]
  | @text u u' y y' hinert hwords hy ih =>
    have hu : commentEnd <:+: u' ↔ commentEnd <:+: u := infix_iff_of_allWords rfl rfl hwords.symm
    rw [commentEnd_append_iff (.inr hy.atConstruct.2.startsMarkup), ih, hu, ← closes_flushText,
      hinert.tokens hy.atConstruct.1]
    simp only [List.mem_append, or_and_right, exists_or]
  | tag hc hraw _ ih =>
    rw [commentEnd_inRun_append hc, ih, tokens_of_construct? hc, tokensAfter_of_rawName?_none hraw]
    simp only [List.mem_cons, or_and_right, exists_or, exists_eq_left]
  | @rawElement y rest name content rest' x token close hc hraw hcontent _ ih =>
    obtain ⟨t, hclose⟩ := construct?_of_rawContent hcontent
    have hstart : StartsMarkup (close.inRun ++ x) :=
      startsMarkup_of_construct? (construct?_inRun hclose x)
    rw [commentEnd_inRun_append hc, commentEnd_append_iff (.inr hstart),
      commentEnd_inRun_append hclose, ih, tokens_of_construct? hc, tokensAfter_closed hraw hcontent]
    simp only [List.mem_cons, or_and_right, exists_or, exists_eq_left]
    rw [show (Token.rawText content).closesComment = true ↔ commentEnd <:+: content from
      contains_iff]
  | @rawRest y rest name token hc hraw hcontent =>
    rw [commentEnd_inRun_append hc, tokens_of_construct? hc, tokensAfter_open hraw hcontent]
    simp only [List.mem_cons, List.not_mem_nil, or_false, or_and_right, exists_or, exists_eq_left]
    rw [show (Token.rawText rest).closesComment = true ↔ commentEnd <:+: rest from contains_iff]

end Respaced

/-! ## Text without constructs -/

theorem construct?_commentMark (w : Text) :
    construct? ('<' :: (commentMark ++ w)) =
      (breakOn? commentEnd w).map fun (inner, rest) => (.verbatim (comment inner), rest) := rfl

theorem construct?_commentMark_eq_none_iff {w : Text} :
    construct? ('<' :: (commentMark ++ w)) = none ↔ ¬commentEnd <:+: w := by
  rw [construct?_commentMark, Option.map_eq_none_iff, breakOn?_eq_none_iff]

theorem commentMark_of_firstWord {v v' : Text} (h : firstWord v = firstWord v') :
    commentMark <+: v ↔ commentMark <+: v' := by
  rw [prefix_firstWord_iff (by rfl), h, ← prefix_firstWord_iff (by rfl)]

/-- What follows text that looks like the start of a comment does not end the comment. -/
theorem Inert.not_commentEnd {u y : Text} (h : Inert u y) (hopen : '<' :: commentMark <:+: u) :
    ¬commentEnd <:+: y := by
  obtain ⟨before, w, rfl⟩ := hopen
  have hnone := h (commentMark ++ w) ⟨before, by simp⟩
  rw [List.append_assoc, construct?_commentMark_eq_none_iff] at hnone
  exact fun hend => hnone (hend.trans (List.suffix_append ..).isInfix)

/-- No start of a comment stands before the first one. -/
theorem not_commentMark_of_breakOn? {s front w v : Text}
    (h : breakOn? ('<' :: commentMark) s = some (front, w)) (hv : '<' :: v <:+ front) :
    ¬commentMark <+: v ++ '<' :: (commentMark ++ w) := by
  have hpart : ¬('<' :: commentMark) <:+: '<' :: v := fun hp =>
    not_infix_of_breakOn? (by simp) h (hp.trans hv.isInfix)
  intro hmark
  exact not_prefix_append (by decide) (by simp) hpart _ (List.cons_prefix_cons.2 ⟨rfl, hmark⟩)

section

variable {u u' y z : Text} (hinert : Inert u y) (hwords : allWords u = allWords u')
  (h : Respaced false y z)

include hinert hwords h

/-- A `<` in text without constructs stays stray, unless a comment that it seems to start ends in
what follows the text. -/
theorem construct?_eq_none_of_allWords {v' : Text} (hv' : '<' :: v' <:+ u')
    (hend : commentMark <+: v' → ¬commentEnd <:+: z) : construct? ('<' :: (v' ++ z)) = none := by
  obtain ⟨v, hv, hsame⟩ := exists_suffix_of_allWords hwords rfl hv'
  obtain ⟨hall, hfirst⟩ := allWords_tail rfl hsame
  have hnone := hinert v hv
  have hy := h.atConstruct.1.startsMarkup
  have hz := h.atConstruct.2.startsMarkup
  by_cases hmark : commentMark <+: v'
  · obtain ⟨w, rfl⟩ := (commentMark_of_firstWord hfirst).2 hmark
    obtain ⟨w', rfl⟩ := hmark
    have hrest : allWords w = allWords w' :=
      allWords_of_append (by simp [commentMark]; decide) hall
    rw [List.append_assoc, construct?_commentMark_eq_none_iff] at hnone ⊢
    rw [commentEnd_append_iff (.inr hz)]
    rintro (hw' | hz)
    · have hw : commentEnd <:+: w := infix_of_allWords rfl rfl hrest.symm hw'
      exact hnone (hw.trans (List.prefix_append ..).isInfix)
    · exact hend (List.prefix_append ..) hz
  · exact construct?_eq_none_of_solid hy hz (mt (commentMark_of_firstWord hfirst).1 hmark) hfirst
      (solid_eq_of_allWords hall) h.solid hnone

/-- Text without constructs stays so, unless it looks like the start of a comment and what follows
ends the comment. -/
theorem inert_of_allWords (hend : ¬('<' :: commentMark <:+: u ∧ commentEnd <:+: z)) :
    Inert u' z := by
  intro v' hv'
  refine construct?_eq_none_of_allWords hinert hwords h hv' fun hmark hz => hend ⟨?_, hz⟩
  have hopen : '<' :: commentMark <:+: u' :=
    (List.cons_prefix_cons.2 ⟨rfl, hmark⟩).isInfix.trans hv'.isInfix
  exact infix_of_allWords rfl rfl hwords.symm hopen

/-- Where a comment that text seems to start ends in what follows, it is the first construct. -/
theorem exists_comment (hopen : '<' :: commentMark <:+: u) (hend : commentEnd <:+: z) :
    ∃ inner ts, constructs (tokens (u' ++ z)) = .verbatim (comment inner) :: ts := by
  obtain ⟨front, w, hfirst⟩ := exists_breakOn? (infix_of_allWords rfl rfl hwords hopen)
  obtain ⟨inner, rest, hinner⟩ := exists_breakOn? (hend.trans (List.suffix_append w z).isInfix)
  have hu' : u' = front ++ '<' :: (commentMark ++ w) := by
    rw [eq_of_breakOn? hfirst]
    simp
  have hs : u' ++ z = front ++ '<' :: (commentMark ++ (w ++ z)) := by
    rw [hu']
    simp
  have hcomment : construct? ('<' :: (commentMark ++ (w ++ z))) =
      some (.verbatim (comment inner), rest) := by
    rw [construct?_commentMark, hinner]
    rfl
  have hfront : Inert front ('<' :: (commentMark ++ (w ++ z))) := by
    intro v hv
    have hv' : '<' :: (v ++ '<' :: (commentMark ++ w)) <:+ u' := by
      rw [hu', ← List.cons_append]
      exact List.suffix_append_self_iff.2 hv
    have hnone := construct?_eq_none_of_allWords hinert hwords h hv' fun hmark =>
      absurd hmark (not_commentMark_of_breakOn? hfirst hv)
    simpa using hnone
  rw [hs, hfront.tokens (.inr ⟨_, _, hcomment⟩), constructs_flushText,
    tokens_of_construct? hcomment, constructs_cons rfl]
  exact ⟨_, _, rfl⟩

end

/-! ## Constructs -/

/-- A construct that is a comment holds the end of one. -/
theorem commentEnd_of_construct? {y rest inner : Text}
    (h : construct? y = some (.verbatim (comment inner), rest)) : commentEnd <:+: y := by
  obtain ⟨inner', rfl, -, -⟩ | ⟨front, -, htoken, -, hmark, -, hq⟩ := construct?_cases h
  · exact ⟨'<' :: commentMark ++ inner', rest, by simp [comment, commentMark, commentEnd]⟩
  · have hshown : comment inner = '<' :: (squeeze none false front ++ ['>']) := by
      rw [← inRun_tagToken hq, ← htoken]
      rfl
    have hstart : commentMark <+: squeeze none false front ++ ['>'] :=
      ⟨inner ++ ['-', '-', '>'], by simpa [comment, commentMark] using hshown⟩
    exact absurd (commentMark_squeeze hstart) hmark

/-- A comment that ends only in the respaced text changes the constructs. -/
theorem constructs_ne {u u' y z : Text} (hinert : Inert u y) (hwords : allWords u = allWords u')
    (h : Respaced false y z) (hopen : '<' :: commentMark <:+: u) (hend : commentEnd <:+: z) :
    constructs (tokens (u' ++ z)) ≠ constructs (tokens (u ++ y)) := by
  obtain ⟨inner, ts, hcomment⟩ := exists_comment hinert hwords h hopen hend
  obtain rfl | ⟨token, rest, hc⟩ := h.atConstruct.1
  · obtain ⟨token, htoken, -⟩ := h.closes_iff.1 hend
    rw [tokens_nil] at htoken
    cases htoken
  · rw [hcomment, hinert.tokens h.atConstruct.1, constructs_flushText, tokens_of_construct? hc,
      constructs_cons (isConstruct_of_construct? hc)]
    intro hsame
    obtain ⟨rfl, -⟩ := List.cons.inj hsame
    exact hinert.not_commentEnd hopen (commentEnd_of_construct? hc)

/-- Text in front of constructs. -/
theorem constructs_text_iff {u u' y z : Text} (hinert : Inert u y)
    (hwords : allWords u = allWords u') (h : Respaced false y z)
    (ih : constructs (tokens z) = constructs (tokens y) ↔ Settled (tokens y)) :
    constructs (tokens (u' ++ z)) = constructs (tokens (u ++ y)) ↔ Settled (tokens (u ++ y)) := by
  have hs := hinert.tokens h.atConstruct.1
  rw [hs, settled_flushText, ← hs]
  by_cases hend : '<' :: commentMark <:+: u ∧ commentEnd <:+: z
  · obtain ⟨token, htoken, hcloses⟩ := h.closes_iff.1 hend.2
    refine iff_of_false (constructs_ne hinert hwords h hend.1 hend.2) ?_
    rintro ⟨hopen, -⟩
    rw [hopen hend.1 token htoken] at hcloses
    cases hcloses
  · have hinert' := inert_of_allWords hinert hwords h hend
    have hopen : '<' :: commentMark <:+: u →
        ∀ token ∈ tokens y, token.closesComment = false := by
      intro hmark token htoken
      have hno := fun hcloses => hend ⟨hmark, h.closes_iff.2 ⟨token, htoken, hcloses⟩⟩
      simpa using hno
    rw [hs, hinert'.tokens h.atConstruct.2, constructs_flushText, constructs_flushText, ih]
    exact (and_iff_right hopen).symm

/-- Respacing keeps the constructs of a text exactly if it is settled. -/
theorem Respaced.constructs_iff {inText : Bool} {s x : Text} (h : Respaced inText s x) :
    constructs (tokens x) = constructs (tokens s) ↔ Settled (tokens s) := by
  induction h with
  | nil =>
    rw [tokens_nil]
    exact iff_of_true rfl List.Pairwise.nil
  | text hinert hwords hy ih => exact constructs_text_iff hinert hwords hy ih
  | tag hc hraw _ ih =>
    have htoken := isConstruct_of_construct? hc
    rw [tokens_of_construct? (construct?_inRun hc _), tokens_of_construct? hc,
      tokensAfter_of_rawName?_none hraw, tokensAfter_of_rawName?_none hraw, settled_cons htoken,
      ← ih]
    simp only [constructs_cons htoken, List.cons.injEq, true_and]
  | @rawElement _ _ _ content _ _ _ _ hc hraw hcontent hrest ih =>
    obtain ⟨t, hclose⟩ := construct?_of_rawContent hcontent
    have htoken := isConstruct_of_construct? hc
    have hcontent' : (Token.rawText content).isConstruct = true := rfl
    have hclosing := isConstruct_of_construct? hclose
    have hread := rawContent_read (letterName_of_rawName? hraw) hcontent hrest.solid.symm
    rw [tokens_of_construct? (construct?_inRun hc _), tokens_of_construct? hc,
      tokensAfter_closed hraw hread, tokensAfter_closed hraw hcontent, settled_cons htoken,
      settled_cons hcontent', settled_cons hclosing, ← ih]
    simp only [constructs_cons htoken, constructs_cons hcontent', constructs_cons hclosing,
      List.cons.injEq, true_and]
  | rawRest hc hraw hcontent =>
    rw [tokens_of_construct? (construct?_inRun hc _), tokens_of_construct? hc,
      settled_cons (isConstruct_of_construct? hc), tokensAfter_open hraw hcontent]
    exact iff_of_true rfl (List.pairwise_singleton ..)

/-- Layout keeps the constructs of a text exactly if no text that looks like the start of a comment
is followed by a token that is shown with the end of one. -/
theorem constructs_layout (s : Text) :
    constructs (tokens (layout s)) = constructs (tokens s) ↔ Settled (tokens s) :=
  (respaced_layout s).constructs_iff

example :
    Settled (tokens "<!-- a<p -- c>b".toList) ∧ ¬Settled (tokens "<!-- a<p -- >b".toList) := by
  decide +kernel

/-- A tag whose `>` moves next to its dashes ends a comment that was none before. -/
theorem constructs_layout_dashes :
    layout "<!-- a<p -- >b".toList = "<!-- a\n<p -->\n  b".toList ∧
      constructs (tokens "<!-- a<p -- >b".toList) = [.opening ['p'] "<p -->".toList false] ∧
      constructs (tokens (layout "<!-- a<p -- >b".toList)) =
        [.verbatim "<!-- a\n<p -->".toList] := by
  decide +kernel

end Blockbook.Markup
