import Blockbook.Proofs.Markup.Idempotence
import Blockbook.Proofs.Split

/-!
# Trees of elements

Layout knows no trees: it counts open elements and looks ahead for a closing tag of the same name.
On the markup of a tree of elements that stand on lines of their own, raw text elements, comments
and text between them, this comes to the layout that is said here by recursion on the tree.

* `Tree.pieces_sources`: the markup of trees is read as their pieces, before anything that text
  stops at.
* `Tree.lineUp_allPieces`: the pieces of trees are set in the lines of the trees.
* `layout_sources`: markup that is written from trees is laid out as trees.
-/

namespace Blockbook.Markup

open Text

/-- A tree of markup. -/
inductive Tree where
  | text (content : Text)
  | element (name : Text) (children : List Tree)
  /-- An element whose content is kept character for character. -/
  | raw (name content : Text)
  | comment (content : Text)
deriving Repr

/-- The opening tag of an element without attributes. -/
def openTag (name : Text) : Text := '<' :: (name ++ ['>'])

/-- The closing tag of an element. -/
def closeTag (name : Text) : Text := '<' :: ('/' :: name ++ ['>'])

/-- Words with single spaces between them. -/
def Spaced (s : Text) : Prop := ∀ word ∈ splitOn ' ' s, word ≠ [] ∧ ∀ c ∈ word, isBlank c = false

/-- The name of an element in lower case. -/
def IsLowerName (name : Text) : Prop :=
  (∃ c ∈ name.head?, isAsciiLetter c = true) ∧ ∀ c ∈ name, isNameChar c = true ∧ lowerAscii c = c

/-- The name of an element that is laid out on lines of its own. -/
structure IsBlockName (name : Text) : Prop where
  lower : IsLowerName name
  not_inline : isInlineElement name = false
  not_void : isVoid name = false
  not_raw : isRawText name = false

namespace Tree

def isText : Tree → Bool
  | .text _ => true
  | _ => false

mutual

/-- The markup of a tree. -/
def source : Tree → Text
  | .text content => content
  | .element name children => openTag name ++ (sources children ++ closeTag name)
  | .raw name content => openTag name ++ (content ++ closeTag name)
  | .comment content => Markup.comment content

/-- The markup of trees. -/
def sources : List Tree → Text
  | [] => []
  | tree :: trees => source tree ++ sources trees

end

mutual

/-- A tree whose markup can be told apart: text holds no markup, no braces and no blanks but single
spaces, and neither raw text nor a comment holds its own end. -/
def Legal : Tree → Prop
  | .text content => Spaced content ∧ '<' ∉ content ∧ ¬['{', '{'] <:+: content
  | .element name children => IsBlockName name ∧ AllLegal children
  | .raw name content =>
    isRawText name = true ∧ ¬('<' :: '/' :: name) <:+: content.map lowerAscii
  | .comment content => ¬['-', '-', '>'] <:+: content

/-- Trees that are legal, with no text next to a text. -/
def AllLegal : List Tree → Prop
  | [] => True
  | tree :: trees =>
    Legal tree ∧ (tree.isText = true → ∀ next ∈ trees.head?, next.isText = false) ∧ AllLegal trees

end

/-- Whether the children of an element stay on its line. -/
def isShort : List Tree → Bool
  | [] => true
  | [.text _] => true
  | _ => false

mutual

/-- The lines of a tree inside `depth` elements. -/
def lines (depth : Nat) : Tree → List Text
  | .element name children =>
    if isShort children then [indent depth ++ (openTag name ++ (sources children ++ closeTag name))]
    else (indent depth ++ openTag name) ::
      (allLines (depth + 1) children ++ [indent depth ++ closeTag name])
  | tree => [indent depth ++ tree.source]

/-- The lines of trees inside `depth` elements. -/
def allLines (depth : Nat) : List Tree → List Text
  | [] => []
  | tree :: trees => lines depth tree ++ allLines depth trees

end

mutual

/-- The pieces of a tree. -/
def pieces : Tree → List Piece
  | .text content => [.run content]
  | .element name children =>
    .opening name (openTag name) :: (allPieces children ++ [.closing name (closeTag name)])
  | .raw name content => [.whole (openTag name ++ content ++ closeTag name)]
  | .comment content => [.whole (Markup.comment content)]

/-- The pieces of trees. -/
def allPieces : List Tree → List Piece
  | [] => []
  | tree :: trees => pieces tree ++ allPieces trees

end

end Tree

/-! ## Tags without attributes -/

theorem unclosed_names {name : Text} (h : ∀ c ∈ name, isNameChar c = true) :
    Unclosed none name ∧ quoteAfter none name = none ∧ squeeze none false name = name := by
  induction name with
  | nil => exact ⟨trivial, rfl, rfl⟩
  | cons c cs ih =>
    obtain ⟨hc, hcs⟩ := List.forall_mem_cons.1 h
    obtain ⟨hu, hq, hsqueeze⟩ := ih hcs
    have hnext := nextQuote_of_isNameChar hc
    refine ⟨⟨?_, by rwa [hnext]⟩, by rwa [quoteAfter_cons, hnext], ?_⟩
    · rintro ⟨-, rfl⟩
      cases hc
    · rw [squeeze_cons (by simp [isBlank_of_isNameChar hc]), hnext, hsqueeze]
      rfl

theorem elementName_append {name : Text} (h : ∀ c ∈ name, isNameChar c = true ∧ lowerAscii c = c) :
    elementName (name ++ ['>']) = name := by
  rw [elementName_append_close, elementName, List.takeWhile_eq_self_iff.2 fun c hc => (h c hc).1]
  exact (List.map_congr_left (g := id) fun c hc => (h c hc).2).trans (List.map_id name)

namespace IsLowerName

variable {name : Text}

theorem exists_cons (h : IsLowerName name) : ∃ c cs, name = c :: cs ∧ isAsciiLetter c = true := by
  obtain ⟨⟨c, hc, hletter⟩, -⟩ := h
  obtain ⟨cs, rfl⟩ := List.head?_eq_some_iff.1 hc
  exact ⟨c, cs, rfl, hletter⟩

theorem construct?_openTag (h : IsLowerName name) (x : Text) :
    construct? (openTag name ++ x) = some (.opening name (openTag name) false, x) := by
  obtain ⟨hu, hq, hsqueeze⟩ := unclosed_names fun c hc => (h.2 c hc).1
  obtain ⟨c, cs, hcons, hletter⟩ := h.exists_cons
  have h₁ : c ≠ '!' := by rintro rfl; cases hletter
  have h₂ : c ≠ '/' := by rintro rfl; cases hletter
  have hopens : opensTag name = true := by rw [hcons, opensTag_cons h₁ h₂, hletter]
  have hmark : ¬commentMark <+: name := by
    rw [hcons, commentMark, List.cons_prefix_cons]
    exact fun hp => h₁ hp.1.symm
  have hshown : normalizeTag ('<' :: (name ++ ['>'])) = openTag name := by
    rw [normalizeTag_eq hq, hsqueeze, openTag]
  have hslash : ['/', '>'].isSuffixOf (openTag name) = false := by
    by_contra hsuffix
    obtain ⟨front, hfront⟩ : ['/', '>'] <:+ openTag name := by simpa using hsuffix
    have hname : front ++ ['/'] ++ ['>'] = '<' :: name ++ ['>'] := by simpa [openTag] using hfront
    have hmem : '/' ∈ '<' :: name := by
      rw [← List.append_cancel_right hname]
      simp
    obtain hmem | hmem := List.mem_cons.1 hmem
    · cases hmem
    · cases (h.2 _ hmem).1
  have htoken : tagToken (name ++ ['>']) = .opening name (openTag name) false := by
    rw [tagToken.eq_3 _ (by simp [hcons, h₁]) (by simp [hcons, h₂]), hshown, hslash,
      elementName_append h.2]
  have hsource : openTag name ++ x = '<' :: (name ++ '>' :: x) := by simp [openTag]
  rw [hsource, construct?_tag hopens hmark hu hq, htoken]

theorem construct?_closeTag (h : IsLowerName name) (x : Text) :
    construct? (closeTag name ++ x) = some (.closing name (closeTag name), x) := by
  obtain ⟨hu, hq, hsqueeze⟩ := unclosed_names fun c hc => (h.2 c hc).1
  obtain ⟨c, cs, hcons, hletter⟩ := h.exists_cons
  have hopens : opensTag ('/' :: name) = true := by rw [hcons]; exact hletter
  have hmark : ¬commentMark <+: '/' :: name := by simp [commentMark]
  have hu' : Unclosed none ('/' :: name) := ⟨by decide, hu⟩
  have hq' : quoteAfter none ('/' :: name) = none := hq
  have hshown : normalizeTag ('<' :: ('/' :: name ++ ['>'])) = closeTag name := by
    rw [normalizeTag_eq hq', squeeze_cons (by decide),
      show nextQuote none '/' = none from rfl, hsqueeze]
    rfl
  have htoken : tagToken ('/' :: name ++ ['>']) = .closing name (closeTag name) := by
    rw [List.cons_append, tagToken.eq_2, ← List.cons_append, hshown, elementName_append h.2]
  have hsource : closeTag name ++ x = '<' :: ('/' :: name ++ '>' :: x) := by simp [closeTag]
  rw [hsource, construct?_tag hopens hmark hu' hq', htoken]

end IsLowerName

/-! ## Text of words -/

theorem reduceAfter_word {word t : Text} (hne : word ≠ []) (hword : ∀ c ∈ word, isBlank c = false)
    (hbraces : ¬['{', '{'] <:+: word ++ t) (gap : Bool) :
    reduceAfter gap (word ++ t) = space gap ++ (word ++ reduceAfter false t) := by
  induction word generalizing gap with
  | nil => exact absurd rfl hne
  | cons c cs ih =>
    obtain ⟨hc, hcs⟩ := List.forall_mem_cons.1 hword
    rw [List.cons_append, List.infix_cons_iff, not_or] at hbraces
    rw [List.cons_append, reduceAfter_of_solid hc hbraces.1]
    by_cases hnil : cs = []
    · rw [hnil]
      rfl
    · rw [ih hnil hcs hbraces.2]
      rfl

namespace Spaced

variable {s : Text}

/-- Spaced text is a word, or a word and a space before spaced text. -/
theorem cases (h : Spaced s) :
    ∃ word, word ≠ [] ∧ (∀ c ∈ word, isBlank c = false) ∧
      (s = word ∨ ∃ rest, s = word ++ ' ' :: rest ∧ Spaced rest) := by
  by_cases hmem : ' ' ∈ s
  · obtain ⟨word, rest, rfl, hword⟩ := List.eq_append_cons_of_mem hmem
    rw [Spaced, splitOn_append hword] at h
    obtain ⟨⟨hne, hsolid⟩, hrest⟩ := List.forall_mem_cons.1 h
    exact ⟨word, hne, hsolid, .inr ⟨rest, rfl, hrest⟩⟩
  · obtain ⟨hne, hsolid⟩ := h s (by rw [splitOn_of_not_mem hmem]; simp)
    exact ⟨s, hne, hsolid, .inl rfl⟩

/-- Spaced text has nothing to reduce. -/
theorem reduceAfter_eq (h : Spaced s) (hbraces : ¬['{', '{'] <:+: s) (gap : Bool) :
    reduceAfter gap s = space gap ++ s := by
  induction hn : s.length using Nat.strong_induction_on generalizing s gap with
  | _ n ih =>
    obtain ⟨word, hne, hsolid, rfl | ⟨rest, rfl, hrest⟩⟩ := h.cases
    · have hword := reduceAfter_word (t := []) hne hsolid (by simpa using hbraces) gap
      rw [List.append_nil, reduceAfter_nil] at hword
      simpa [space] using hword
    · have hlen : rest.length < n := by
        rw [← hn]
        simp only [List.length_append, List.length_cons]
        omega
      have hrest' := ih rest.length hlen hrest
        (fun hpart => hbraces (hpart.trans ⟨word ++ [' '], [], by simp⟩)) true rfl
      rw [reduceAfter_word hne hsolid hbraces, reduceAfter_of_blank rfl, hrest']
      rfl

theorem reduce_eq (h : Spaced s) (hbraces : ¬['{', '{'] <:+: s) : reduce [] s = s := by
  rw [Markup.reduce_eq, h.reduceAfter_eq hbraces]
  rfl

/-- Spaced text ends in a character that is not blank. -/
theorem trimEnd_eq (h : Spaced s) : trimEnd s = s ∧ s ≠ [] := by
  induction hn : s.length using Nat.strong_induction_on generalizing s with
  | _ n ih =>
    obtain ⟨word, hne, hsolid, rfl | ⟨rest, rfl, hrest⟩⟩ := h.cases
    · obtain rfl | ⟨front, c, rfl⟩ := List.eq_nil_or_concat s
      · exact absurd rfl hne
      · rw [List.concat_eq_append] at hsolid ⊢
        exact ⟨trimEnd_of_last_not_blank (hsolid c (by simp)) front, by simp⟩
    · have hlen : rest.length < n := by
        rw [← hn]
        simp only [List.length_append, List.length_cons]
        omega
      obtain ⟨htrim, hrest'⟩ := ih rest.length hlen hrest rfl
      have hnot : ¬AllBlank rest := by rwa [← trimEnd_eq_nil_iff, htrim]
      refine ⟨?_, by simp⟩
      rw [← List.singleton_append, ← List.append_assoc, trimEnd_append_of_not_allBlank hnot, htrim]

theorem trim_eq (h : Spaced s) : trim s = s := by
  obtain ⟨htrim, -⟩ := h.trimEnd_eq
  obtain ⟨word, hne, hsolid, hs⟩ := h.cases
  obtain ⟨c, cs, rfl⟩ := List.exists_cons_of_ne_nil hne
  obtain ⟨t, rfl⟩ : ∃ t, s = c :: t := by
    obtain rfl | ⟨rest, rfl, -⟩ := hs
    · exact ⟨cs, rfl⟩
    · exact ⟨cs ++ ' ' :: rest, rfl⟩
  rw [trim, trimStart_of_not_blank (hsolid c (by simp)), htrim]

end Spaced

theorem pieces_spaced {content x : Text} (h : Spaced content) (hmarkup : '<' ∉ content)
    (hbraces : ¬['{', '{'] <:+: content) (hx : Stops x) :
    pieces (tokens (content ++ x)) = .run content :: pieces (tokens x) := by
  have hstray : Stray content x := fun v hv => absurd (hv.subset (by simp)) hmarkup
  have hne : content ≠ [] := h.trimEnd_eq.2
  have hrun : run [.text content] = content := by
    rw [run, List.flatMap_singleton, Token.inRun, h.reduce_eq hbraces, h.trim_eq]
  rw [(Flow.stop hstray hx).pieces, flushText_reverse hne, runPiece, hrun, if_neg hne]
  rfl

/-! ## Raw text elements and comments -/

theorem isLowerName_of_isRawText {name : Text} (h : isRawText name = true) :
    IsLowerName name ∧ LetterName name := by
  have hall : (rawTextElements.all fun n => n.head?.any isAsciiLetter &&
      n.all fun c => isAsciiLetter c && lowerAscii c == c) = true := by decide
  have hname := List.all_eq_true.1 hall name (List.contains_iff_mem.1 h)
  rw [Bool.and_eq_true, Option.any_eq_true, List.all_eq_true] at hname
  obtain ⟨hhead, hletters⟩ := hname
  have hletter : ∀ c ∈ name, isAsciiLetter c = true ∧ lowerAscii c = c := by
    intro c hc
    simpa using hletters c hc
  exact ⟨⟨hhead, fun c hc => ⟨by simp [isNameChar, hletter c hc], (hletter c hc).2⟩⟩,
    fun c hc => (hletter c hc).1⟩

/-- Raw text that does not hold its closing tag ends where the tag is written. -/
theorem rawContent_closeTag {name content : Text} (h : isRawText name = true)
    (hcontent : ¬('<' :: '/' :: name) <:+: content.map lowerAscii) (x : Text) :
    rawContent name (content ++ (closeTag name ++ x)) =
      (content, some (.closing name (closeTag name), x)) := by
  obtain ⟨hlower, hletters⟩ := isLowerName_of_isRawText h
  have hmap : name.map lowerAscii = name :=
    (List.map_congr_left (g := id) fun c hc => (hlower.2 c hc).2).trans (List.map_id name)
  have hat : AtRawClose name (closeTag name ++ x) :=
    ⟨name, '>' :: x, by simp [closeTag], hmap, rfl⟩
  refine rawContent_append ?_ fun v hv hsuffix => ?_
  · rw [rawClose?_of_at hat, hlower.construct?_closeTag]
  · refine rawClose?_of_not_at fun hat' => hcontent ?_
    obtain ⟨word, more, rfl, hword, -⟩ := hat'.of_append hletters hv
    have hpart : ('<' :: '/' :: name) <:+: ('<' :: '/' :: (word ++ more)).map lowerAscii := by
      rw [← hword]
      exact ⟨[], more.map lowerAscii, by simp [lowerAscii]⟩
    exact hpart.trans (hsuffix.map lowerAscii).isInfix

theorem construct?_of_not_closed {content : Text} (h : ¬['-', '-', '>'] <:+: content) (x : Text) :
    construct? (comment content ++ x) = some (.verbatim (comment content), x) := by
  have hdashes : ¬['-', '-'] ++ ['>'] <:+: content ++ ['-', '-'] := by
    intro hmark
    obtain hmark | hmark | ⟨l, r, hlr, -, hr, -, hfront⟩ := infix_append_cases hmark
    · exact h hmark
    · simpa using hmark.length_le
    · have hlast : '>' ∈ r := by
        obtain rfl | ⟨front, c, rfl⟩ := List.eq_nil_or_concat r
        · exact absurd rfl hr
        · rw [List.concat_eq_append, ← List.append_assoc] at hlr
          obtain ⟨-, rfl⟩ : _ ∧ '>' = c := by simpa using List.append_inj' hlr rfl
          simp
      simpa using hfront.subset hlast
  exact construct?_comment (breakOn?_concat hdashes []) x

namespace Tree

/-! ## Reading trees -/

/-- Text stops where a tree follows that is not text. -/
theorem stops_source {tree : Tree} (h : tree.Legal) (htext : tree.isText = false) (x : Text) :
    Stops (tree.source ++ x) := by
  cases tree with
  | text content => cases htext
  | element name children =>
    rw [source, List.append_assoc]
    exact .inr ⟨_, _, h.1.lower.construct?_openTag _, h.1.not_inline⟩
  | raw name content =>
    rw [source, List.append_assoc]
    exact .inr ⟨_, _, (isLowerName_of_isRawText h.1).1.construct?_openTag _,
      isInlineElement_of_isRawText h.1⟩
  | comment content => exact .inr ⟨_, _, construct?_of_not_closed h x, rfl⟩

mutual

theorem pieces_source (tree : Tree) {x : Text} (h : tree.Legal)
    (hx : tree.isText = true → Stops x) :
    Markup.pieces (tokens (tree.source ++ x)) = tree.pieces ++ Markup.pieces (tokens x) := by
  match tree with
  | .text content => exact pieces_spaced h.1 h.2.1 h.2.2 (hx rfl)
  | .element name children =>
    obtain ⟨hname, hchildren⟩ := h
    have hclose := hname.lower.construct?_closeTag x
    have hstops : Stops (closeTag name ++ x) := .inr ⟨_, _, hclose, hname.not_inline⟩
    have hplain : (Token.opening name (openTag name) false).rawName? = none := by
      simp [Token.rawName?, hname.not_raw]
    rw [source, List.append_assoc, List.append_assoc,
      tokens_of_construct? (hname.lower.construct?_openTag _), tokensAfter_of_rawName?_none hplain,
      pieces_opening hname.not_inline (by simp [hname.not_void]) (by simp [hname.not_raw]),
      pieces_sources children hchildren hstops, tokens_of_construct? hclose,
      tokensAfter_of_rawName?_none rfl, pieces_closing hname.not_inline]
    simp [pieces]
  | .raw name content =>
    have hname : (Token.opening name (openTag name) false).rawName? = some name := if_pos h.1
    rw [source, List.append_assoc, List.append_assoc,
      tokens_of_construct? ((isLowerName_of_isRawText h.1).1.construct?_openTag _),
      tokensAfter_closed hname (rawContent_closeTag h.1 h.2 x), (pieces_rawElement h.1 _ _).2]
    rfl
  | .comment content =>
    rw [source, tokens_of_construct? (construct?_of_not_closed h x),
      tokensAfter_of_rawName?_none rfl, pieces_verbatim]
    rfl

/-- The markup of trees is read as their pieces, before anything that text stops at. -/
theorem pieces_sources (trees : List Tree) {x : Text} (h : AllLegal trees) (hx : Stops x) :
    Markup.pieces (tokens (sources trees ++ x)) = allPieces trees ++ Markup.pieces (tokens x) := by
  match trees with
  | [] => rfl
  | tree :: trees =>
    obtain ⟨htree, hnext, htrees⟩ := h
    have hstops : tree.isText = true → Stops (sources trees ++ x) := by
      intro htext
      cases trees with
      | nil => exact hx
      | cons next trees =>
        rw [sources, List.append_assoc]
        exact stops_source htrees.1 (hnext htext next rfl) _
    rw [sources, List.append_assoc, pieces_source tree htree hstops, pieces_sources trees htrees hx,
      allPieces, List.append_assoc]

end

/-! ## Setting trees in lines -/

/-- The first piece of a tree is no closing tag, and no run unless the tree is text. -/
theorem exists_pieces (tree : Tree) :
    ∃ p ps, tree.pieces = p :: ps ∧ (∀ closed tag, p ≠ .closing closed tag) ∧
      (tree.isText = false → p.isRun = false) := by
  cases tree with
  | text content => exact ⟨_, _, rfl, nofun, nofun⟩
  | element name children => exact ⟨_, _, rfl, nofun, fun _ => rfl⟩
  | raw name content => exact ⟨_, _, rfl, nofun, fun _ => rfl⟩
  | comment content => exact ⟨_, _, rfl, nofun, fun _ => rfl⟩

/-- An element whose children do not stay on its line is not taken for one that holds a run. -/
theorem onlyRun?_allPieces {children : List Tree} (h : isShort children = false) (name : Text)
    (ps : List Piece) : onlyRun? name (allPieces children ++ ps) = none := by
  match children with
  | [] => cases h
  | tree :: trees =>
    obtain ⟨p, ps', hp, hclosing, hrun⟩ := tree.exists_pieces
    by_cases htext : tree.isText = true
    · -- A text that is not alone is followed by a tree, and so not by the closing tag.
      match tree, trees with
      | .text content, [] => cases h
      | .text content, next :: trees =>
        obtain ⟨p, ps', hp, hclosing, -⟩ := next.exists_pieces
        rw [allPieces, allPieces, hp]
        exact onlyRun?_run_of_ne hclosing content _
    · rw [allPieces, hp]
      exact onlyRun?_of_ne (hrun (by simpa using htext)) hclosing _

theorem onlyRun?_of_isShort {children : List Tree} (h : isShort children = true) (name tag : Text)
    (ps : List Piece) :
    onlyRun? name (allPieces children ++ .closing name tag :: ps) =
      some (sources children, tag, ps) := by
  match children with
  | [] => exact if_pos rfl
  | [.text content] =>
    rw [sources, sources, List.append_nil]
    exact if_pos rfl

mutual

theorem lineUp_pieces (tree : Tree) (depth : Nat) (ps : List Piece) :
    lineUp depth (tree.pieces ++ ps) = tree.lines depth ++ lineUp depth ps := by
  match tree with
  | .text content => rw [pieces, List.singleton_append, lineUp]; rfl
  | .element name children =>
    rw [pieces, List.cons_append, List.append_assoc, List.singleton_append, lines]
    split
    · next hshort =>
      rw [lineUp_opening_only (onlyRun?_of_isShort hshort name _ ps)]
      simp
    · next hlong =>
      rw [lineUp_opening (onlyRun?_allPieces (by simpa using hlong) name _),
        lineUp_allPieces children, lineUp]
      simp
  | .raw name content =>
    rw [pieces, List.singleton_append, lineUp]
    simp [lines, source]
  | .comment content => rw [pieces, List.singleton_append, lineUp]; rfl

/-- The pieces of trees are set in the lines of the trees. -/
theorem lineUp_allPieces (trees : List Tree) (depth : Nat) (ps : List Piece) :
    lineUp depth (allPieces trees ++ ps) = allLines depth trees ++ lineUp depth ps := by
  match trees with
  | [] => rfl
  | tree :: trees =>
    rw [allPieces, List.append_assoc, lineUp_pieces tree, lineUp_allPieces trees, allLines,
      List.append_assoc]

end

end Tree

/-- Markup that is written from trees is laid out as trees: each element on a line of its own if it
has no child or a single text, else its tags at its level and its children one level deeper. -/
theorem layout_sources (trees : List Tree) (h : Tree.AllLegal trees) :
    layout (Tree.sources trees) = unlines (Tree.allLines 0 trees) := by
  have hpieces := Tree.pieces_sources trees h (.inl rfl)
  have hlines := Tree.lineUp_allPieces trees 0 []
  rw [List.append_nil, tokens_nil, pieces_nil, List.append_nil] at hpieces
  rw [List.append_nil, lineUp, List.append_nil] at hlines
  rw [layout, lines_eq_lineUp, hpieces, hlines]

/-- An element inside one of the same name, and content that only looks like tags. -/
theorem layout_sources_nested :
    let trees : List Tree :=
      [.element ['d', 'i', 'v'] [.text ['a', ' ', 'b'], .element ['d', 'i', 'v'] [.text ['c']],
        .raw ['p', 'r', 'e'] ['<', '/', 'p', '>', '\n'], .comment ['<', 'p', '>']],
        .element ['p'] []]
    Tree.AllLegal trees ∧
      Tree.sources trees =
        "<div>a b<div>c</div><pre></p>\n</pre><!--<p>--></div><p></p>".toList ∧
      layout (Tree.sources trees) =
        ("<div>\n  a b\n  <div>c</div>\n  <pre></p>\n</pre>\n" ++
          "  <!--<p>-->\n</div>\n<p></p>").toList := by
  intro trees
  have hlegal : Tree.AllLegal trees := by
    have hdiv : IsBlockName ['d', 'i', 'v'] :=
      ⟨⟨⟨'d', rfl, rfl⟩, by simp [isNameChar, isAsciiLetter, lowerAscii]⟩, rfl, rfl, rfl⟩
    have hp : IsBlockName ['p'] :=
      ⟨⟨⟨'p', rfl, rfl⟩, by simp [isNameChar, isAsciiLetter, lowerAscii]⟩, rfl, rfl, rfl⟩
    have hsolid : isBlank 'a' = false ∧ isBlank 'b' = false ∧ isBlank 'c' = false := by decide
    have hwords : Spaced ['a', ' ', 'b'] := by simp [Spaced, splitOn, hsolid]
    have hword : Spaced ['c'] := by simp [Spaced, splitOn, hsolid]
    have htext : Tree.Legal (.text ['a', ' ', 'b']) := ⟨hwords, by decide, by decide⟩
    have hinner : Tree.Legal (.text ['c']) := ⟨hword, by decide, by decide⟩
    have hpre : Tree.Legal (.raw ['p', 'r', 'e'] ['<', '/', 'p', '>', '\n']) := ⟨rfl, by decide⟩
    have hcomment : Tree.Legal (.comment ['<', 'p', '>']) := by
      rw [Tree.Legal]
      decide
    simp [trees, Tree.AllLegal, Tree.Legal.eq_2, Tree.isText, hdiv, hp, htext, hinner, hpre,
      hcomment]
  exact ⟨hlegal, by decide, (layout_sources trees hlegal).trans (by decide)⟩

end Blockbook.Markup
