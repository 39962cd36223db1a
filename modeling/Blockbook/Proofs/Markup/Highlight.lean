import Blockbook.Markup.Highlight
import Blockbook.Proofs.Markup.Escape
import Blockbook.Proofs.Markup.Tag

/-!
# Highlighted markup shows the markup

Each scanner cuts what it reads without losing a character, so the stretches of markup together are
the markup. In the page every stretch is escaped once, so the only markup there is that of the
elements around stretches.

* `text_attributeStretches`, `text_tagStretches`, `text_of_markedUp?`: what each scanner keeps.
* `text_stretches`: the stretches of markup are the markup.
* `highlight_parts`: highlighted markup is escaped text, parts of it in elements that name a shade,
  and it reads back as the markup.
* `highlight_injective`: highlighted markup determines the markup.
-/

namespace Blockbook.Markup

open Text

/-- A part of a page: escaped text, and the class of the element around it if there is one. -/
structure PagePart where
  word? : Option Text
  content : Text
deriving DecidableEq, Repr

namespace PagePart

/-- The characters of a part. -/
def source (part : PagePart) : Text :=
  match part.word? with
  | some word => "<span class=\"token " ++ word ++ "\">" ++ part.content ++ "</span>"
  | none => part.content

/-- The words that a class may be. -/
def words : List Text := ["tag", "attr-name", "attr-value", "comment"]

/-- A part adds no markup to a page but its own element. -/
structure Safe (part : PagePart) : Prop where
  escaped : Escaped part.content
  word : ∀ word ∈ part.word?, word ∈ words

end PagePart

/-- The characters of stretches. -/
def text (stretches : List Stretch) : Text := stretches.flatMap Prod.snd

/-! ## Stretches -/

theorem text_cons (shade : Shade) (t : Text) (ss : List Stretch) :
    text ((shade, t) :: ss) = t ++ text ss := List.flatMap_cons

theorem text_append (ss ss' : List Stretch) : text (ss ++ ss') = text ss ++ text ss' :=
  List.flatMap_append

theorem eq_of_attributeValue? {s value rest : Text} (h : attributeValue? s = some (value, rest)) :
    s = value ++ rest := by
  cases s with
  | nil => cases h
  | cons c s =>
    rw [attributeValue?] at h
    split at h
    · obtain ⟨⟨inner, rest'⟩, hbreak, heq⟩ := Option.map_eq_some_iff.1 h
      obtain ⟨rfl, rfl⟩ := Prod.mk.inj heq
      simp [eq_of_breakOn? hbreak]
    · split at h
      · obtain ⟨rfl, rfl⟩ := Prod.mk.inj (Option.some.inj h)
        rw [List.cons_append, List.takeWhile_append_dropWhile]
      · cases h

theorem eq_of_assignedValue? {s equals value rest : Text}
    (h : assignedValue? s = some (equals, value, rest)) : s = equals ++ (value ++ rest) := by
  unfold assignedValue? at h
  split at h
  · next t ht =>
    obtain ⟨⟨value', rest'⟩, hvalue, heq⟩ := Option.map_eq_some_iff.1 h
    obtain ⟨rfl, rfl, rfl⟩ : _ = equals ∧ value' = value ∧ rest' = rest := by simpa using heq
    rw [List.append_assoc, List.cons_append, ← eq_of_attributeValue? hvalue,
      List.takeWhile_append_dropWhile, ← ht, List.takeWhile_append_dropWhile]
  · cases h

/-- However far the attributes are followed, nothing of them is lost. -/
theorem text_attributeStretches (fuel : Nat) (s : Text) : text (attributeStretches fuel s) = s := by
  induction fuel generalizing s with
  | zero => simp [attributeStretches, text]
  | succ fuel ih =>
    have hgap := List.takeWhile_append_dropWhile (p := fun c => !isAttributeNameChar c) (l := s)
    rw [attributeStretches]
    split
    · next hnil =>
      rw [hnil, List.append_nil] at hgap
      rw [text_cons, hgap]
      exact List.append_nil s
    · next t _ =>
      have hname := List.takeWhile_append_dropWhile (p := isAttributeNameChar)
        (l := s.dropWhile fun c => !isAttributeNameChar c)
      dsimp only
      split
      · next equals value rest hvalue =>
        rw [text_cons, text_cons, text_cons, text_cons, ih, ← eq_of_assignedValue? hvalue, hname,
          hgap]
      · rw [text_cons, text_cons, ih, hname, hgap]

/-- The stretches of a tag are the tag. -/
theorem text_tagStretches (inner : Text) : text (tagStretches inner) = '<' :: (inner ++ ['>']) := by
  unfold tagStretches
  split
  next opening body hopening =>
  split
  next body' closing hclosing =>
  have hfront : opening ++ body = '<' :: inner := by
    split at hopening
    · obtain ⟨rfl, rfl⟩ := Prod.mk.inj hopening
      rfl
    · obtain ⟨rfl, rfl⟩ := Prod.mk.inj hopening
      rfl
  have hback : body' ++ closing = body ++ ['>'] := by
    split at hclosing
    · next hlast =>
      obtain ⟨rfl, rfl⟩ := Prod.mk.inj hclosing
      obtain ⟨front, rfl⟩ := List.getLast?_eq_some_iff.1 hlast
      simp
    · obtain ⟨rfl, rfl⟩ := Prod.mk.inj hclosing
      rfl
  dsimp only
  rw [text_append, text_cons, text_attributeStretches, List.append_assoc opening,
    List.takeWhile_append_dropWhile, text_cons, List.append_assoc, ← List.append_assoc body', hback,
    ← List.append_assoc, ← List.append_assoc, hfront]
  simp [text]

/-- What is marked up at the front of a text is the front of that text. -/
theorem text_of_markedUp? {s rest : Text} {ss : List Stretch}
    (h : markedUp? s = some (ss, rest)) : s = text ss ++ rest := by
  unfold markedUp? at h
  split at h
  · split at h
    · next r inner rest' hbreak =>
      obtain ⟨rfl, rfl⟩ := Prod.mk.inj (Option.some.inj h)
      simp [text, eq_of_breakOn? hbreak]
    · obtain ⟨rfl, rfl⟩ := Prod.mk.inj (Option.some.inj h)
      simp [text]
  · split at h
    · obtain ⟨⟨tag, rest'⟩, hsplit, heq⟩ := Option.map_eq_some_iff.1 h
      obtain ⟨rfl, rfl⟩ := Prod.mk.inj heq
      obtain ⟨front, rfl, rfl, -, -⟩ := splitTag?_eq_some_iff.1 hsplit
      simp [text_tagStretches]
    · cases h
  · cases h

theorem text_stretchesFrom (pending s : Text) :
    text (stretchesFrom pending s) = pending.reverse ++ s := by
  fun_induction stretchesFrom pending s with
  | case1 pending => simp [text]
  | case2 pending c cs ss rest h ih =>
    rw [text_append, text_cons, ih, List.reverse_nil, List.nil_append, List.append_assoc,
      ← text_of_markedUp? h]
  | case3 pending c cs h ih => simpa using ih

/-- The stretches of markup are the markup. -/
theorem text_stretches (s : Text) : text (stretches s) = s := text_stretchesFrom [] s

/-! ## The page -/

/-- A stretch in a page. -/
def pagePart (stretch : Stretch) : PagePart := ⟨stretch.1.word?, escape stretch.2⟩

theorem Shade.mem_words (shade : Shade) : ∀ word ∈ shade.word?, word ∈ PagePart.words := by
  cases shade <;> decide

theorem safe_pagePart (stretch : Stretch) : (pagePart stretch).Safe :=
  ⟨escaped_escape stretch.2, stretch.1.mem_words⟩

namespace PagePart

variable {part : PagePart}

/-- Of the characters of markup, a part holds those of its element. -/
theorem Safe.count_source (h : part.Safe) {c : Char} (hc : c ∈ ['<', '>', '"']) :
    part.source.count c = 2 * [part].countP (·.word?.isSome) := by
  obtain ⟨word?, content⟩ := part
  have hinert : c ∈ ['<', '>', '"', '\''] := List.mem_append_left ['\''] hc
  have hcontent : content.count c = 0 := List.count_eq_zero.2 (h.escaped.inert c hinert)
  cases word? with
  | none => exact hcontent
  | some word =>
    have htags : ∀ word ∈ words, ['<', '>', '"'].all fun c =>
        (("<span class=\"token " : Text) ++ word ++ "\">").count c +
          ("</span>" : Text).count c = 2 := by decide
    have hmarks := List.all_eq_true.1 (htags word (h.word word rfl)) c hc
    rw [source, List.count_append, List.count_append, hcontent]
    exact of_decide_eq_true hmarks

theorem Safe.quote_not_mem (h : part.Safe) : '\'' ∉ part.source := by
  obtain ⟨word?, content⟩ := part
  have hcontent : '\'' ∉ content := h.escaped.inert '\'' (by decide)
  cases word? with
  | none => exact hcontent
  | some word =>
    have htags : ∀ word ∈ words, '\'' ∉ ("<span class=\"token " : Text) ++ word ++ "\">" := by
      decide
    have hclosing : '\'' ∉ ("</span>" : Text) := by decide
    rw [source, List.mem_append, List.mem_append, not_or, not_or]
    exact ⟨⟨htags word (h.word word rfl), hcontent⟩, hclosing⟩

theorem Safe.allEntities (h : part.Safe) : AllEntities part.source := by
  obtain ⟨word?, content⟩ := part
  cases word? with
  | none => exact h.escaped.allEntities
  | some word =>
    have htags : ∀ word ∈ words, '&' ∉ ("<span class=\"token " : Text) ++ word ++ "\">" := by
      decide
    have hopening := allEntities_of_not_mem (htags word (h.word word rfl))
    have hclosing : AllEntities "</span>" := allEntities_of_not_mem (by decide)
    exact (hopening.append h.escaped.allEntities).append hclosing

end PagePart

theorem allEntities_flatMap {parts : List PagePart} (h : ∀ part ∈ parts, part.Safe) :
    AllEntities (parts.flatMap PagePart.source) := by
  induction parts with
  | nil => exact allEntities_of_not_mem List.not_mem_nil
  | cons part parts ih =>
    obtain ⟨hpart, hparts⟩ := List.forall_mem_cons.1 h
    exact hpart.allEntities.append (ih hparts)

theorem count_flatMap_source {parts : List PagePart} (h : ∀ part ∈ parts, part.Safe) {c : Char}
    (hc : c ∈ ['<', '>', '"']) :
    (parts.flatMap PagePart.source).count c = 2 * parts.countP (·.word?.isSome) := by
  induction parts with
  | nil => rfl
  | cons part parts ih =>
    obtain ⟨hpart, hparts⟩ := List.forall_mem_cons.1 h
    rw [List.flatMap_cons, List.count_append, hpart.count_source hc, ih hparts, ← Nat.mul_add,
      ← List.countP_append, List.singleton_append]

/-- Highlighted markup is made of parts, each of which is escaped text, alone or in an element of its
own. All `<`, `>` and `"` are those of these elements, no `'` is left, and every ampersand starts an
entity. What the parts show is the markup. -/
theorem highlight_parts (code : Text) :
    ∃ parts : List PagePart, highlight code = parts.flatMap PagePart.source ∧
      (∀ part ∈ parts, part.Safe) ∧
      parts.flatMap (fun part => unescape part.content) = code ∧
      (∀ c ∈ ['<', '>', '"'],
        (highlight code).count c = 2 * parts.countP (·.word?.isSome)) ∧
      '\'' ∉ highlight code ∧ AllEntities (highlight code) := by
  have hsource : highlight code = ((stretches code).map pagePart).flatMap PagePart.source := by
    rw [List.flatMap_map]
    rfl
  have hsafe : ∀ part ∈ (stretches code).map pagePart, part.Safe := by
    intro part hpart
    obtain ⟨stretch, -, rfl⟩ := List.mem_map.1 hpart
    exact safe_pagePart stretch
  have hshown : ((stretches code).map pagePart).flatMap (fun part => unescape part.content) =
      code := by
    rw [List.flatMap_map]
    simp only [pagePart, unescape_escape]
    exact text_stretches code
  refine ⟨(stretches code).map pagePart, hsource, hsafe, hshown, ?_, ?_, ?_⟩
  · intro c hc
    rw [hsource]
    exact count_flatMap_source hsafe hc
  · rw [hsource, List.mem_flatMap]
    rintro ⟨part, hpart, hmem⟩
    exact (hsafe part hpart).quote_not_mem hmem
  · rw [hsource]
    exact allEntities_flatMap hsafe

/-! ## Reading the page

What stands outside of tags is the escaped markup, so a page determines the markup, and a mark that
starts like a tag stands in a page only if it stands in one of the tags. -/

/-- The characters of a page outside of tags, after the `<` of a tag or not. -/
def untagged : Bool → Text → Text
  | _, [] => []
  | true, c :: s => untagged (c ≠ '>') s
  | false, c :: s => if c = '<' then untagged true s else c :: untagged false s

theorem untagged_append {u : Text} (h : '<' ∉ u) (s : Text) :
    untagged false (u ++ s) = u ++ untagged false s := by
  induction u with
  | nil => rfl
  | cons c u ih =>
    rw [List.mem_cons, not_or] at h
    rw [List.cons_append, untagged, if_neg (Ne.symm h.1), ih h.2, List.cons_append]

theorem untagged_tag {u : Text} (h : '>' ∉ u) (s : Text) :
    untagged false ('<' :: (u ++ '>' :: s)) = untagged false s := by
  rw [untagged, if_pos rfl]
  induction u with
  | nil => rfl
  | cons c u ih =>
    rw [List.mem_cons, not_or] at h
    have hc : decide (c ≠ '>') = true := by simpa using Ne.symm h.1
    rw [List.cons_append, untagged, hc, ih h.2]

namespace PagePart

/-- The tag in front of a part with a class, without the end of the tag. -/
def openingTag (word : Text) : Text := '<' :: ("span class=\"token " ++ word ++ ['"'])

theorem source_some (word content : Text) :
    source ⟨some word, content⟩ =
      openingTag word ++ '>' :: (content ++ ("</span" ++ ['>'])) := by
  simp [source, openingTag]

theorem Safe.untagged_source {part : PagePart} (h : part.Safe) (s : Text) :
    untagged false (part.source ++ s) = part.content ++ untagged false s := by
  obtain ⟨word?, content⟩ := part
  have hcontent : '<' ∉ content := h.escaped.inert '<' (by decide)
  cases word? with
  | none => exact untagged_append hcontent s
  | some word =>
    have hwords : ∀ word ∈ words, '>' ∉ ("span class=\"token " : Text) ++ word ++ ['"'] := by decide
    have hclosing : ("</span" ++ ['>'] : Text) ++ s = '<' :: ("/span" ++ '>' :: s) := rfl
    rw [source_some, openingTag, List.append_assoc, List.cons_append, List.cons_append,
      untagged_tag (hwords word (h.word word rfl)), List.append_assoc, untagged_append hcontent,
      hclosing, untagged_tag (by decide)]

/-- A mark that no tag of a part holds. -/
structure Foreign (a : Char) (mark : Text) : Prop where
  first : a = '<'
  closing : '>' ∉ a :: mark
  tags : ∀ tag ∈ ("</span" : Text) :: words.map openingTag, occurrences (a :: mark) tag = 0

theorem Safe.occurrences_source {part : PagePart} (h : part.Safe) {a : Char} {mark : Text}
    (hmark : Foreign a mark) (s : Text) :
    occurrences (a :: mark) (part.source ++ s) = occurrences (a :: mark) s := by
  obtain ⟨word?, content⟩ := part
  obtain ⟨rfl, hend, htags⟩ := hmark
  have hcontent : '<' ∉ content := h.escaped.inert '<' (by decide)
  obtain ⟨hclosing, hopening⟩ := List.forall_mem_cons.1 htags
  cases word? with
  | none => exact occurrences_append_of_not_mem hcontent s
  | some word =>
    have hword := hopening _ (List.mem_map_of_mem (h.word word rfl))
    rw [source_some, List.append_assoc, List.cons_append,
      occurrences_append_cons (List.cons_ne_nil _ _) hend, hword, List.append_assoc,
      occurrences_append_of_not_mem hcontent, List.append_assoc, List.singleton_append,
      occurrences_append_cons (List.cons_ne_nil _ _) hend, hclosing]
    omega

end PagePart

theorem highlight_eq (code : Text) :
    highlight code = ((stretches code).map pagePart).flatMap PagePart.source := by
  rw [List.flatMap_map]
  rfl

theorem safe_of_mem_map {ss : List Stretch} : ∀ part ∈ ss.map pagePart, part.Safe :=
  List.forall_mem_map.2 fun stretch _ => safe_pagePart stretch

/-- Without its tags, highlighted markup is the escaped markup. -/
theorem untagged_highlight (code : Text) : untagged false (highlight code) = escape code := by
  have hparts : ∀ ss : List Stretch,
      untagged false ((ss.map pagePart).flatMap PagePart.source) = escape (text ss) := by
    intro ss
    induction ss with
    | nil => rfl
    | cons stretch ss ih =>
      rw [List.map_cons, List.flatMap_cons, (safe_pagePart stretch).untagged_source, ih]
      exact (escape_append stretch.2 (text ss)).symm
  rw [highlight_eq, hparts, text_stretches]

theorem highlight_injective {s t : Text} (h : highlight s = highlight t) : s = t := by
  refine escape_injective ?_
  rw [← untagged_highlight, h, untagged_highlight]

/-- A mark that no tag of a part holds does not stand in highlighted markup, nor does it start
there. -/
theorem occurrences_highlight {a : Char} {mark : Text} (hmark : PagePart.Foreign a mark)
    (code s : Text) :
    occurrences (a :: mark) (highlight code ++ s) = occurrences (a :: mark) s := by
  have hparts : ∀ parts : List PagePart, (∀ part ∈ parts, part.Safe) →
      occurrences (a :: mark) (parts.flatMap PagePart.source ++ s) =
        occurrences (a :: mark) s := by
    intro parts hsafe
    induction parts with
    | nil => rfl
    | cons part parts ih =>
      obtain ⟨hpart, hrest⟩ := List.forall_mem_cons.1 hsafe
      rw [List.flatMap_cons, List.append_assoc, hpart.occurrences_source hmark, ih hrest]
  rw [highlight_eq]
  exact hparts _ safe_of_mem_map

end Blockbook.Markup
