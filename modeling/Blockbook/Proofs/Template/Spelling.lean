import Blockbook.Proofs.Template.Nesting
import Blockbook.Proofs.Template.Segment

/-!
# Written trees are read back

A tree can be written in many ways: text as it stands, in raw or in verbatim sections, with comments
between its pieces and between statements, and the end of a block with or without its name. Read
with the grammar for extracting blocks, each of them gives back the tree.

* `reads_sources`: a written tree stands for its events, before anything that plain text ends at.
* `run_sources`: the events of a written tree build the tree that is written.
* `parse_sources`: a well formed tree that is written with legal pieces is read back.
-/

namespace Blockbook.Template

open Text

/-- A piece of text as it is written. -/
inductive Written.Piece where
  /-- Text that stands for itself. -/
  | plain (content : Text)
  | raw (content : Text)
  | verbatim (content : Text)
  /-- A comment, which adds nothing. -/
  | comment (content : Text)
deriving Repr

/-- A node as it is written. -/
inductive Written where
  | text (pieces : List Written.Piece)
  | comment (content : Text)
  /-- A block, and whether its end repeats its name. -/
  | block (name : Text) (named : Bool) (body : List Written)
  | parent
deriving Repr

namespace Written

namespace Piece

/-- What a piece adds to the text. -/
def content : Piece → Text
  | .plain content => content
  | .raw content => content
  | .verbatim content => content
  | .comment _ => []

/-- The characters of a piece. -/
def source : Piece → Text
  | .plain content => content
  | .raw content => statement "raw" ++ (content ++ statement "endraw")
  | .verbatim content => statement "verbatim" ++ (content ++ statement "endverbatim")
  | .comment content => Template.comment content

def isPlain : Piece → Bool
  | .plain _ => true
  | _ => false

/-- A piece holds nothing that would be read as markup, or as its own end. -/
def Legal : Piece → Prop
  | .plain content => ¬['{', '%'] <:+: content ∧ ¬['{', '#'] <:+: content
  | .raw content => ¬("endraw" : Text) <:+: content
  | .verbatim content => ¬("endverbatim" : Text) <:+: content
  | .comment content => ¬['#', '}'] <:+: content

instance : DecidablePred Legal
  | .plain content => inferInstanceAs (Decidable (¬_ <:+: content ∧ ¬_ <:+: content))
  | .raw content => inferInstanceAs (Decidable (¬_ <:+: content))
  | .verbatim content => inferInstanceAs (Decidable (¬_ <:+: content))
  | .comment content => inferInstanceAs (Decidable (¬_ <:+: content))

/-- Not both of two neighbours are plain. -/
def Apart (left right : Piece) : Prop := ¬(left.isPlain = true ∧ right.isPlain = true)

instance : DecidableRel Apart := fun left right =>
  inferInstanceAs (Decidable ¬(left.isPlain = true ∧ right.isPlain = true))

end Piece

/-- The text that pieces write. -/
def content (pieces : List Piece) : Text := pieces.flatMap Piece.content

/-- What is written at the end of a block. -/
def ending (name : Text) (named : Bool) : Text :=
  if named then "endblock " ++ name else "endblock"

mutual

/-- The characters of a node. -/
def source : Written → Text
  | .text pieces => pieces.flatMap Piece.source
  | .comment content => Template.comment content
  | .block name named body =>
    statement ("block " ++ name) ++ (sources body ++ statement (ending name named))
  | .parent => statement "parent"

/-- The characters of a sequence of nodes. -/
def sources : List Written → Text
  | [] => []
  | node :: nodes => source node ++ sources nodes

end

mutual

/-- The node that is written, if any. -/
def outline : Written → List Outline
  | .text pieces => [.text (content pieces)]
  | .comment _ => []
  | .block name _ body => [.block name (outlines body)]
  | .parent => [.parent]

/-- The tree that is written. -/
def outlines : List Written → List Outline
  | [] => []
  | node :: nodes => outline node ++ outlines nodes

end

mutual

/-- A node is written so that it can be told apart from what is around it: block names are
identifiers, and no two plain pieces stand next to each other. -/
def Legal : Written → Prop
  | .text pieces => (∀ piece ∈ pieces, piece.Legal) ∧ pieces.IsChain Piece.Apart
  | .comment content => ¬['#', '}'] <:+: content
  | .block name _ body => IsIdentifier name ∧ AllLegal body
  | .parent => True

/-- Each node of a sequence is legal. -/
def AllLegal : List Written → Prop
  | [] => True
  | node :: nodes => Legal node ∧ AllLegal nodes

end

/-- The event of a text, if there is any. -/
def texts (content : Text) : List Event := if content = [] then [] else [.text content]

mutual

/-- The events of a written node. -/
def events : Written → List Event
  | .text pieces => pieces.flatMap fun piece => texts piece.content
  | .comment _ => []
  | .block name named body =>
    .opens name :: (allEvents body ++ [.closes (if named then some name else none)])
  | .parent => [.parent]

/-- The events of a sequence of written nodes. -/
def allEvents : List Written → List Event
  | [] => []
  | node :: nodes => events node ++ allEvents nodes

end

end Written

/-! ## Reading from the front -/

/-- A text stands for events: it is cut into segments without dashes, whose tokens mean them. -/
def Reads (s : Text) (es : List Event) : Prop :=
  ∀ (p : Position) (tokens : List Token), ∃ segments ts, scan .structural p [] s = .ok segments ∧
    segments.foldl Token.Progress.step ⟨tokens, false⟩ = ⟨ts.reverse ++ tokens, false⟩ ∧
    List.Forall₂ (Token.Means .structural) ts es

/-- A segment stands for events, after any tokens. -/
def Segment.Shows (segment : Segment) (es : List Event) : Prop :=
  ∀ (p : Position) (tokens : List Token), ∃ ts,
    Token.Progress.step ⟨tokens, false⟩ (p, segment) = ⟨ts.reverse ++ tokens, false⟩ ∧
    List.Forall₂ (Token.Means .structural) ts es

/-- A text ends here or goes on with a segment. -/
def Opens (s : Text) : Prop :=
  s = [] ∨ ∃ cs segment rest, s = '{' :: cs ∧ segment? .structural s = .ok (some (segment, rest))

theorem Opens.endsPlain {s : Text} (h : Opens s) : EndsPlain .structural s :=
  h.imp_right fun ⟨_, segment, rest, _, hsegment⟩ => ⟨segment, rest, hsegment⟩

theorem reads_nil : Reads [] [] := by
  intro p tokens
  refine ⟨[], [], ?_, rfl, .nil⟩
  rw [scan]
  rfl

theorem not_prefix_of_opens {a : Char} (ha : a ≠ '{') {u rest : Text} (hne : u ≠ [])
    (hu : ¬['{', a] <:+: u) (hrest : Opens rest) : ¬['{', a] <+: u ++ rest := by
  intro hp
  match u, hne with
  | [c], _ =>
    obtain rfl | ⟨cs, -, -, rfl, -⟩ := hrest
    · simpa using hp.length_le
    · exact ha (List.cons_prefix_cons.1 (List.cons_prefix_cons.1 hp).2).1
  | c :: d :: u, _ =>
    obtain ⟨rfl, hnext⟩ := List.cons_prefix_cons.1 hp
    obtain ⟨rfl, -⟩ : a = d ∧ _ := List.cons_prefix_cons.1 hnext
    exact hu ⟨[], u, rfl⟩

/-- No segment starts in text without the marks of statements and comments. -/
theorem plain_of_opens {u rest : Text} (hlogic : ¬['{', '%'] <:+: u) (hcomment : ¬['{', '#'] <:+: u)
    (hrest : Opens rest) : Plain .structural u rest := by
  intro v hne hv
  exact segment?_eq_none
    (not_prefix_of_opens (by decide) hne (fun h => hlogic (h.trans hv.isInfix)) hrest)
    (not_prefix_of_opens (by decide) hne (fun h => hcomment (h.trans hv.isInfix)) hrest)

theorem Reads.segment {s rest : Text} {segment : Segment} {es es' : List Event}
    (hrest : Reads rest es') (h : segment? .structural s = .ok (some (segment, rest)))
    (hshows : segment.Shows es) : Reads s (es ++ es') := by
  intro p tokens
  obtain ⟨ts, hstep, hts⟩ := hshows p tokens
  obtain ⟨segments, ts', hscan, hfold, hts'⟩ :=
    hrest (p.advance segment.source) (ts.reverse ++ tokens)
  refine ⟨(p, segment) :: segments, ts ++ ts', ?_, ?_, List.rel_append hts hts'⟩
  · have hfirst := scan_of_segment h p []
    rw [List.reverse_nil, show p.advance [] = p from rfl, hscan] at hfirst
    exact hfirst
  · rw [List.foldl_cons, hstep, hfold, List.reverse_append, List.append_assoc]

theorem Reads.plain {u rest : Text} {es : List Event} (hrest : Reads rest es) (hopens : Opens rest)
    (hlogic : ¬['{', '%'] <:+: u) (hcomment : ¬['{', '#'] <:+: u) :
    Reads (u ++ rest) (Written.texts u ++ es) := by
  by_cases hu : u = []
  · rw [hu]
    exact hrest
  · intro p tokens
    obtain ⟨segments, ts, hscan, hfold, hts⟩ :=
      hrest (p.advance u) (.text u (.covering p u) :: tokens)
    refine ⟨(p, .text u) :: segments, .text u (.covering p u) :: ts, ?_, ?_, ?_⟩
    · rw [scan_of_plain (plain_of_opens hlogic hcomment hopens), scan_of_endsPlain hopens.endsPlain,
        List.append_nil, List.reverse_reverse, hscan]
      simp [flushText, hu, Except.map]
    · have hstep : Token.Progress.step ⟨tokens, false⟩ (p, .text u) =
          ⟨.text u (.covering p u) :: tokens, false⟩ := by
        simp [Token.Progress.step, Token.pushText, hu]
      rw [List.foldl_cons, hstep, hfold]
      simp
    · rw [Written.texts, if_neg hu]
      exact .cons (.text u _) hts

/-! ## Statements, comments and sections -/

theorem literalKind?_eq_none {g : Grammar} {body : Text} (hraw : body ≠ "raw")
    (hverbatim : body ≠ "verbatim") : literalKind? g body = none := by
  rw [literalKind?, if_neg, if_neg]
  · rw [Bool.and_eq_true, decide_eq_true_eq]
    exact fun h => hverbatim h.1
  · rw [Bool.and_eq_true, decide_eq_true_eq]
    exact fun h => hraw h.1

theorem shows_logic {body : Text} {e : Event}
    (h : ∀ span, Token.Means .structural (.logic .keep body span) e) :
    (Segment.logic (statementTag body)).Shows [e] := by
  intro p tokens
  exact ⟨[.logic .keep body (.covering p (statement body))], rfl, .cons (h _) .nil⟩

theorem shows_comment (source : Text) : (Segment.comment source).Shows [] :=
  fun _ _ => ⟨[], rfl, .nil⟩

theorem shows_literal (name content endName : Text) :
    (Segment.literal (statementTag name) content (statementTag endName)).Shows
      (Written.texts content) := by
  intro p tokens
  have hstep : Token.Progress.step ⟨tokens, false⟩
      (p, .literal (statementTag name) content (statementTag endName)) =
      ⟨Token.pushText content (.covering (p.advance (statement name)) content) tokens, false⟩ := rfl
  rw [hstep, Token.pushText, Written.texts]
  split
  · exact ⟨[], rfl, .nil⟩
  · exact ⟨[_], rfl, .cons (.text content _) .nil⟩

theorem exists_literal {name endName content : Text} {kind : TokenKind} (hname : IsBody name)
    (hend : IsBody endName) (hbrace : '{' ∉ endName)
    (hkind : literalKind? .structural name = some (kind, endName)) (h : ¬endName <:+: content)
    (rest : Text) :
    ∃ cs segment, statement name ++ (content ++ statement endName) ++ rest = '{' :: cs ∧
      segment? .structural (statement name ++ (content ++ statement endName) ++ rest) =
        .ok (some (segment, rest)) ∧ segment.Shows (Written.texts content) := by
  refine ⟨_, .literal (statementTag name) content (statementTag endName), rfl, ?_,
    shows_literal name content endName⟩
  rw [List.append_assoc, List.append_assoc]
  exact segment?_literal hname hend hbrace hkind h rest

/-- A piece that is not plain is a segment of its own. -/
theorem Written.Piece.exists_segment {piece : Piece} (h : piece.Legal)
    (hplain : piece.isPlain = false) (rest : Text) :
    ∃ cs segment, piece.source ++ rest = '{' :: cs ∧
      segment? .structural (piece.source ++ rest) = .ok (some (segment, rest)) ∧
      segment.Shows (texts piece.content) := by
  cases piece with
  | plain content => cases hplain
  | raw content =>
    have hopening : IsBody "raw" := ⟨rfl, by decide⟩
    have hclosing : IsBody "endraw" := ⟨rfl, by decide⟩
    exact exists_literal hopening hclosing (by decide) rfl h rest
  | verbatim content =>
    have hopening : IsBody "verbatim" := ⟨rfl, by decide⟩
    have hclosing : IsBody "endverbatim" := ⟨rfl, by decide⟩
    exact exists_literal hopening hclosing (by decide) rfl h rest
  | comment content => exact ⟨_, _, rfl, segment?_comment h rest, shows_comment _⟩

theorem Opens.of_segment {s cs rest : Text} {segment : Segment} (hs : s = '{' :: cs)
    (h : segment? .structural s = .ok (some (segment, rest))) : Opens s :=
  .inr ⟨cs, segment, rest, hs, h⟩

/-- Pieces stand for their texts, before anything that plain text ends at. -/
theorem reads_pieces {pieces : List Written.Piece} {rest : Text} {es : List Event}
    (hlegal : ∀ piece ∈ pieces, piece.Legal) (hapart : pieces.IsChain Written.Piece.Apart)
    (hopens : Opens rest) (hrest : Reads rest es) :
    Reads (pieces.flatMap Written.Piece.source ++ rest)
      (pieces.flatMap (fun piece => Written.texts piece.content) ++ es) := by
  induction pieces with
  | nil => exact hrest
  | cons piece pieces ih =>
    obtain ⟨hpiece, hlegal⟩ := List.forall_mem_cons.1 hlegal
    obtain ⟨hnext, hapart⟩ := List.isChain_cons.1 hapart
    have hreads := ih hlegal hapart
    rw [List.flatMap_cons, List.flatMap_cons, List.append_assoc, List.append_assoc]
    by_cases hplain : piece.isPlain = true
    -- No other plain piece follows, so the brace that ends the text is that of a segment.
    · have hopens' : Opens (pieces.flatMap Written.Piece.source ++ rest) := by
        cases pieces with
        | nil => exact hopens
        | cons next pieces =>
          have hnot : next.isPlain = false := by
            by_contra hne
            exact hnext next rfl ⟨hplain, by simpa using hne⟩
          rw [List.flatMap_cons, List.append_assoc]
          obtain ⟨cs, segment, hs, hsegment, -⟩ :=
            Written.Piece.exists_segment (hlegal next (by simp)) hnot _
          exact .of_segment hs hsegment
      cases piece with
      | plain content => exact hreads.plain hopens' hpiece.1 hpiece.2
      | raw | verbatim | comment => cases hplain
    · obtain ⟨cs, segment, -, hsegment, hshows⟩ :=
        Written.Piece.exists_segment hpiece (by simpa using hplain) _
      exact hreads.segment hsegment hshows

/-! ## Nodes -/

theorem isBody_append {word name : Text} (hname : IsIdentifier name)
    (hword : ∀ c ∈ word.head?, isBlank c = false) (hne : word ≠ []) (hpercent : '%' ∉ word) :
    IsBody (word ++ name) where
  trim_eq := by
    have hsolid : ¬AllBlank name := by
      intro hblank
      obtain ⟨c, cs, rfl, hc, -⟩ := hname
      have hc' := isBlank_of_continuesIdentifier (continuesIdentifier_of_starts hc)
      rw [hblank c (by simp)] at hc'
      cases hc'
    cases word with
    | nil => exact absurd rfl hne
    | cons c cs =>
      rw [trim, List.cons_append, trimStart_of_not_blank (hword c rfl), ← List.cons_append,
        trimEnd_append_of_not_allBlank hsolid, hname.trimEnd_eq]
  percent := by
    rw [List.mem_append, not_or]
    refine ⟨hpercent, fun hmem => ?_⟩
    have hnot : continuesIdentifier '%' = false := by decide
    rw [hname.continues _ hmem] at hnot
    cases hnot

theorem spells_named {g : Grammar} (rule : TagRule) (hrule : g.tag? rule.name = some rule)
    (hid : IsIdentifier rule.name) (hargument : rule.argument ≠ .forbidden) {name : Text}
    (hname : IsIdentifier name) : g.Spells (rule.name ++ ' ' :: name) rule (some name) := by
  refine ⟨[' '], name, [], by simp, hid, hrule, ?_, allBlank_nil, by simp, .named hargument hname⟩
  intro c hc
  rw [List.mem_singleton.1 hc]
  rfl

theorem spells_bare {g : Grammar} (rule : TagRule) (hrule : g.tag? rule.name = some rule)
    (hid : IsIdentifier rule.name) (hargument : rule.argument ≠ .required) :
    g.Spells rule.name rule none :=
  ⟨[], [], [], by simp, hid, hrule, by rintro _ ⟨⟩, allBlank_nil, by simp, .bare hargument⟩

theorem means_opens {name : Text} (h : IsIdentifier name) (span : Span) :
    Token.Means .structural (.logic .keep ("block " ++ name) span) (.opens name) :=
  .opens _ span (spells_named ⟨"block", .opensBlock, .required⟩ rfl (by decide) (by decide) h) rfl

theorem means_closes {name : Text} (h : IsIdentifier name) (named : Bool) (span : Span) :
    Token.Means .structural (.logic .keep (Written.ending name named) span)
      (.closes (if named then some name else none)) := by
  cases named with
  | true =>
    exact .closes _ span
      (spells_named ⟨"endblock", .closesBlock, .optional⟩ rfl (by decide) (by decide) h) rfl
  | false =>
    exact .closes _ span
      (spells_bare ⟨"endblock", .closesBlock, .optional⟩ rfl (by decide) (by decide)) rfl

theorem means_parent (span : Span) :
    Token.Means .structural (.logic .keep "parent" span) .parent :=
  .parent _ span (spells_bare ⟨"parent", .callsParent, .forbidden⟩ rfl (by decide) (by decide)) rfl

theorem Reads.statement {body rest : Text} {e : Event} {es : List Event} (hrest : Reads rest es)
    (hbody : IsBody body) (hliteral : literalKind? .structural body = none)
    (hmeans : ∀ span, Token.Means .structural (.logic .keep body span) e) :
    Reads (Template.statement body ++ rest) (e :: es) :=
  hrest.segment (segment?_statement hbody hliteral rest) (shows_logic hmeans)

theorem opens_statement {body : Text} (hbody : IsBody body)
    (hliteral : literalKind? .structural body = none) (rest : Text) :
    Opens (statement body ++ rest) :=
  .of_segment rfl (segment?_statement hbody hliteral rest)

theorem opens_comment {content : Text} (h : ¬['#', '}'] <:+: content) (rest : Text) :
    Opens (comment content ++ rest) :=
  .of_segment rfl (segment?_comment h rest)

theorem isBody_block {name : Text} (h : IsIdentifier name) : IsBody ("block " ++ name) :=
  isBody_append h (by rintro _ ⟨⟩; rfl) (by decide) (by decide)

theorem isBody_ending {name : Text} (h : IsIdentifier name) (named : Bool) :
    IsBody (Written.ending name named) := by
  cases named with
  | true => exact isBody_append h (by rintro _ ⟨⟩; rfl) (by decide) (by decide)
  | false =>
    have hword : IsBody "endblock" := ⟨rfl, by decide⟩
    exact hword

theorem literalKind?_block (name : Text) : literalKind? .structural ("block " ++ name) = none :=
  literalKind?_eq_none nofun nofun

theorem literalKind?_ending (name : Text) (named : Bool) :
    literalKind? .structural (Written.ending name named) = none := by
  cases named with
  | true => exact literalKind?_eq_none nofun nofun
  | false => rfl

namespace Written

def isText : Written → Bool
  | .text _ => true
  | _ => false

/-- What is not text starts with a segment. -/
theorem opens_source {node : Written} (h : node.Legal) (htext : node.isText = false) (rest : Text) :
    Opens (node.source ++ rest) := by
  cases node with
  | text pieces => cases htext
  | comment content => exact opens_comment h rest
  | block name named body =>
    rw [source, List.append_assoc]
    exact opens_statement (isBody_block h.1) (literalKind?_block name) _
  | parent => exact opens_statement ⟨rfl, by decide⟩ rfl rest

/-- What follows a text in a tidy tree is not text. -/
theorem isText_of_tidy {node next : Written} {nodes : List Written}
    (htidy : Outline.AllTidy (outlines (node :: next :: nodes))) (htext : node.isText = true) :
    next.isText = false := by
  by_contra hnext
  cases node with
  | text pieces =>
    cases next with
    | text pieces' => exact htidy.2.1 _ rfl ⟨rfl, rfl⟩
    | comment | block | parent => exact hnext rfl
  | comment | block | parent => cases htext

mutual

theorem reads_source (node : Written) {rest : Text} {es : List Event} (h : node.Legal)
    (htidy : Outline.AllTidy node.outline) (hopens : node.isText = true → Opens rest)
    (hrest : Reads rest es) : Reads (node.source ++ rest) (node.events ++ es) := by
  match node with
  | .text pieces => exact reads_pieces h.1 h.2 (hopens rfl) hrest
  | .comment content => exact hrest.segment (segment?_comment h rest) (shows_comment _)
  | .parent => exact hrest.statement ⟨rfl, by decide⟩ rfl means_parent
  | .block name named body =>
    obtain ⟨hname, hbody⟩ := h
    have hend := hrest.statement (isBody_ending hname named) (literalKind?_ending name named)
      (means_closes hname named)
    have hinner := reads_sources body hbody htidy.1
      (opens_statement (isBody_ending hname named) (literalKind?_ending name named) rest) hend
    have hblock := hinner.statement (isBody_block hname) (literalKind?_block name)
      (means_opens hname)
    simpa [source, events] using hblock

/-- A written tree stands for its events, before anything that plain text ends at. -/
theorem reads_sources (nodes : List Written) {rest : Text} {es : List Event} (h : AllLegal nodes)
    (htidy : Outline.AllTidy (outlines nodes)) (hopens : Opens rest) (hrest : Reads rest es) :
    Reads (sources nodes ++ rest) (allEvents nodes ++ es) := by
  match nodes with
  | [] => exact hrest
  | node :: nodes =>
    obtain ⟨hnode, hnodes⟩ := h
    obtain ⟨htidy₁, htidy₂⟩ := Outline.AllTidy.of_append htidy
    rw [sources, allEvents, List.append_assoc, List.append_assoc]
    refine reads_source node hnode htidy₁ (fun htext => ?_)
      (reads_sources nodes hnodes htidy₂ hopens hrest)
    cases nodes with
    | nil => exact hopens
    | cons next nodes =>
      rw [sources, List.append_assoc]
      exact opens_source hnodes.1 (isText_of_tidy htidy htext) _

end

/-! ## Building the tree -/

theorem run_texts {cs : List Text} {d d' : Draft} (hne : cs.flatten ≠ [])
    (h : Draft.Step d (.text cs.flatten) d') : Draft.Run d (cs.flatMap texts) d' := by
  induction cs generalizing d with
  | nil => exact absurd rfl hne
  | cons c cs ih =>
    rw [List.flatten_cons] at hne h
    rw [List.flatMap_cons, texts]
    by_cases hc : c = []
    · rw [hc, List.nil_append] at hne h
      rw [if_pos hc]
      exact ih hne h
    · rw [if_neg hc]
      by_cases hcs : cs.flatten = []
      · have hnil : cs.flatMap texts = [] := by
          rw [List.flatMap_eq_nil_iff]
          intro t ht
          rw [texts, if_pos (List.flatten_eq_nil_iff.1 hcs t ht)]
        rw [hcs, List.append_nil] at h
        rw [hnil]
        exact .cons h (.nil _)
      · obtain ⟨d₁, hfirst, hrest⟩ := Draft.step_text_append_iff.1 h
        exact .cons hfirst (ih hcs hrest)

mutual

theorem run_source (node : Written) {d d' : Draft} (htidy : Outline.AllTidy node.outline)
    (h : Draft.Run d (Outline.allEvents node.outline) d') : Draft.Run d node.events d' := by
  match node with
  | .text pieces =>
    have hne : (pieces.map Piece.content).flatten ≠ [] := htidy.1
    obtain ⟨d₁, hstep, ⟨⟩⟩ := Draft.run_cons_iff.1 h
    have hrun := run_texts hne hstep
    rwa [List.flatMap_map] at hrun
  | .comment content => exact h
  | .parent => exact h
  | .block name named body =>
    have hmark : Event.Marks (.closes (if named then some name else none))
        (.closes (some name)) := by
      cases named with
      | true => exact .same _
      | false => exact .unnamed name
    rw [outline, Outline.allEvents, Outline.allEvents, List.append_nil, Outline.events] at h
    obtain ⟨d₁, hopen, h⟩ := Draft.run_cons_iff.1 h
    obtain ⟨d₂, hbody, h⟩ := Draft.run_append_iff.1 h
    obtain ⟨d₃, hclose, ⟨⟩⟩ := Draft.run_cons_iff.1 h
    exact .cons hopen (Draft.run_append_iff.2 ⟨d₂, run_sources body htidy.1 hbody,
      .cons (Draft.step_of_marks hmark hclose) (.nil _)⟩)

/-- The events of a written tree build the tree that is written. -/
theorem run_sources (nodes : List Written) {d d' : Draft} (htidy : Outline.AllTidy (outlines nodes))
    (h : Draft.Run d (Outline.allEvents (outlines nodes)) d') :
    Draft.Run d (allEvents nodes) d' := by
  match nodes with
  | [] => exact h
  | node :: nodes =>
    obtain ⟨htidy₁, htidy₂⟩ := Outline.AllTidy.of_append htidy
    rw [outlines, Outline.allEvents_append] at h
    obtain ⟨d₁, hnode, hnodes⟩ := Draft.run_append_iff.1 h
    exact Draft.run_append_iff.2 ⟨d₁, run_source node htidy₁ hnode, run_sources nodes htidy₂ hnodes⟩

end

end Written

theorem Reads.scan {s : Text} {es : List Event} (h : Reads s es) :
    ∃ ts, Token.scan .structural s = .ok ts ∧ List.Forall₂ (Token.Means .structural) ts es := by
  obtain ⟨segments, ts, hscan, hfold, hts⟩ := h .start []
  refine ⟨ts, ?_, hts⟩
  rw [Token.scan, Template.segments, hscan]
  simp [Except.map, Token.ofSegments, hfold]

/-- A well formed tree that is written with legal pieces is read back. -/
theorem parse_sources (nodes : List Written) (hlegal : Written.AllLegal nodes)
    (h : WellFormed (Written.outlines nodes)) :
    ∃ parsed, parse .structural (Written.sources nodes) = .ok parsed ∧
      Node.outlines parsed = Written.outlines nodes := by
  have hreads := Written.reads_sources nodes hlegal h.tidy (.inl rfl) reads_nil
  rw [List.append_nil, List.append_nil] at hreads
  obtain ⟨ts, hscan, hts⟩ := hreads.scan
  have hrun := Written.run_sources nodes h.tidy (Draft.run_of_wellFormed h)
  rw [parse, hscan]
  exact Node.ofTokens_ok_iff.2 ⟨_, _, hts, hrun⟩

/-- Text that ends in a brace before a statement, a raw section with marks of statements in it, and
a block that is closed by name. -/
theorem parse_sources_nested :
    ∃ parsed, parse .structural (Written.sources
        [.text [.plain "a\x7b"], .block "b" true
          [.text [.raw "\x7b% endblock %\x7d\x7b% endra \x7b%", .comment "%\x7d", .plain "\x7b",
              .verbatim "\x7b#"], .parent, .comment " c ", .block "c" false []]]) = .ok parsed ∧
      Node.outlines parsed = [.text "a\x7b", .block "b"
        [.text "\x7b% endblock %\x7d\x7b% endra \x7b%\x7b\x7b#", .parent, .block "c" []]] := by
  refine parse_sources _ ⟨⟨by decide, by decide⟩, ⟨by decide, ?_⟩, trivial⟩ ⟨by decide, ?_, ?_⟩
  · have hcomment : (Written.comment " c ").Legal := show ¬['#', '}'] <:+: _ by decide
    exact ⟨⟨by decide +kernel, by decide⟩, trivial, hcomment, ⟨by decide, trivial⟩, trivial⟩
  · simp [Written.outlines, Written.outline]
  · simp [Written.outlines, Written.outline, Outline.AllTidy, Outline.Tidy, Outline.Apart,
      Outline.isText, Written.content, Written.Piece.content]

end Blockbook.Template
