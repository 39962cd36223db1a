import Blockbook.Proofs.Slice
import Blockbook.Proofs.Template.Cut
import Blockbook.Proofs.Template.Tag

/-!
# What tokens leave out of a template

Each token covers the stretch of the template that its span gives. Tokens stand in the order of the
template and do not overlap, and between them stand blanks, comments and the statements around
literal sections only.

* `Trace.step`: one more segment is accounted for by the tokens after it.
* `Trace.run`: so are all the segments of a text that is cut.
* `scan_covers`: the tokens of a template cover it, less what may be left out.
-/

namespace Blockbook.Template

open Text

/-- A token covers a stretch of text: text with the blanks that were dropped around it, or a tag as
it is written. -/
def Token.Covers : Token → Text → Prop
  | .text content _, slice =>
    content ≠ [] ∧ ∃ gap gap', AllBlank gap ∧ AllBlank gap' ∧ slice = gap ++ content ++ gap'
  | .logic trim body _, slice => Tag.Written ['{', '%'] ['%', '}'] ⟨trim, body, slice⟩
  | .output trim body _, slice => Tag.Written ['{', '{'] ['}', '}'] ⟨trim, body, slice⟩

/-- The literal sections: the kind of each, and the statements that open and close it. -/
def sections : List (TokenKind × Text × Text) :=
  [(.raw, "raw", "endraw"), (.verbatim, "verbatim", "endverbatim")]

/-- A literal section of a template: its opening statement stands from `a` up to `b`, its content up
to `c`, and the first statement that ends it up to `d`. -/
inductive SectionAt (g : Grammar) (source : Text) (a b c d : Nat) : Prop where
  | intro {opening closing : Tag} {kind : TokenKind} {content : Text} :
      source.slice? a b = some opening.source → source.slice? b c = some content →
      source.slice? c d = some closing.source → opening.Written ['{', '%'] ['%', '}'] →
      closing.Written ['{', '%'] ['%', '}'] → (kind, opening.body, closing.body) ∈ sections →
      g.recognizes kind = true →
      literalEnd? g closing.body (content ++ closing.source) = some (content, closing, []) →
      SectionAt g source a b c d

/-- What may stand between the tokens of a template: blanks, comments, and the statements around
literal sections. -/
inductive Skips (g : Grammar) (source : Text) : Nat → Nat → Prop where
  | nil (a : Nat) : Skips g source a a
  | blank {a b c : Nat} {gap : Text} : source.slice? a b = some gap → AllBlank gap →
      Skips g source b c → Skips g source a c
  | comment {a b c : Nat} {inner : Text} : g.recognizes .comment = true →
      source.slice? a b = some (['{', '#'] ++ inner ++ ['#', '}']) → ¬['#', '}'] <:+: inner →
      Skips g source b c → Skips g source a c
  | opening {a b c d e : Nat} : SectionAt g source a b c d → Skips g source b e →
      Skips g source a e
  | closing {a b c d e : Nat} : SectionAt g source a b c d → Skips g source d e →
      Skips g source c e

/-- The stretches between spans, up to the end of the text. -/
def gaps (stop : Nat) : Nat → List Span → List (Nat × Nat)
  | start, [] => [(start, stop)]
  | start, span :: spans => (start, span.start) :: gaps stop span.stop spans

/-- The tokens so far, the last one first, account for the first `n` bytes of a template. -/
inductive Trace (g : Grammar) (source : Text) : Nat → List Token → Prop where
  | nil {n : Nat} : Skips g source 0 n → Trace g source n []
  | cons {n : Nat} {token : Token} {tokens : List Token} {slice : Text} :
      Trace g source token.span.start tokens →
      source.slice? token.span.start token.span.stop = some slice → token.Covers slice →
      Skips g source token.span.stop n → Trace g source n (token :: tokens)

variable {g : Grammar} {source : Text}

/-! ## What is left out -/

theorem Skips.trans {a b c : Nat} (h : Skips g source a b) (h' : Skips g source b c) :
    Skips g source a c := by
  induction h with
  | nil => exact h'
  | blank hslice hgap _ ih => exact .blank hslice hgap (ih h')
  | comment hkind hslice hinner _ ih => exact .comment hkind hslice hinner (ih h')
  | opening hsection _ ih => exact .opening hsection (ih h')
  | closing hsection _ ih => exact .closing hsection (ih h')

theorem Skips.le {a b : Nat} (h : Skips g source a b) : a ≤ b := by
  induction h with
  | nil => exact Nat.le_refl _
  | blank hslice _ _ ih =>
    have := stop_of_slice? hslice
    omega
  | comment _ hslice _ _ ih =>
    have := stop_of_slice? hslice
    omega
  | opening hsection _ ih =>
    obtain ⟨hslice, -, -⟩ := hsection
    have := stop_of_slice? hslice
    omega
  | closing hsection _ ih =>
    obtain ⟨-, -, hslice⟩ := hsection
    have := stop_of_slice? hslice
    omega

/-! ## Tokens so far -/

namespace Trace

variable {m n : Nat} {tokens : List Token}

theorem skip (h : Trace g source m tokens) (hskips : Skips g source m n) :
    Trace g source n tokens := by
  cases h with
  | nil hstart => exact .nil (hstart.trans hskips)
  | cons htokens hslice hcovers hgap => exact .cons htokens hslice hcovers (hgap.trans hskips)

/-- Text covers its stretch, or the stretch is blank. -/
theorem pushText (span : Span) {content gap gap' : Text} (h : Trace g source span.start tokens)
    (hgap : AllBlank gap) (hgap' : AllBlank gap')
    (hslice : source.slice? span.start span.stop = some (gap ++ content ++ gap')) :
    Trace g source span.stop (Token.pushText content span tokens) := by
  unfold Token.pushText
  split
  · next hnil =>
    have hblank : AllBlank (gap ++ content ++ gap') := by
      rw [hnil, List.append_nil]
      exact allBlank_append.2 ⟨hgap, hgap'⟩
    exact h.skip (.blank hslice hblank (.nil _))
  · next hne =>
    have hcovers : (Token.text content span).Covers (gap ++ content ++ gap') :=
      ⟨hne, gap, gap', hgap, hgap', rfl⟩
    exact .cons h hslice hcovers (.nil _)

theorem trimLast (h : Trace g source n tokens) : Trace g source n (Token.trimLast tokens) := by
  unfold Token.trimLast
  split
  · next content span tokens =>
    cases h with
    | cons htokens hslice hcovers hskips =>
      obtain ⟨-, gap, gap', hgap, hgap', rfl⟩ := hcovers
      obtain ⟨b, hb, hcontent⟩ := exists_trimEnd content
      have hslice' : source.slice? span.start span.stop =
          some (gap ++ trimEnd content ++ (b ++ gap')) := by
        rw [List.append_assoc, ← List.append_assoc (trimEnd content), ← hcontent,
          ← List.append_assoc]
        exact hslice
      exact (htokens.pushText span hgap (allBlank_append.2 ⟨hb, hgap'⟩) hslice').skip hskips
  · exact h

/-- What a tag does to the tokens before it. -/
theorem beforeTag (h : Trace g source n tokens) (drops : Bool) :
    Trace g source n (if drops then Token.trimLast tokens else tokens) := by
  split
  · exact h.trimLast
  · exact h

end Trace

/-! ## One more segment -/

theorem mem_sections_of_literalKind? {body endName : Text} {kind : TokenKind}
    (h : literalKind? g body = some (kind, endName)) :
    (kind, body, endName) ∈ sections ∧ g.recognizes kind = true := by
  unfold literalKind? at h
  split at h
  · next hraw =>
    rw [Bool.and_eq_true, decide_eq_true_eq] at hraw
    obtain ⟨rfl, rfl⟩ := Prod.mk.inj (Option.some.inj h)
    exact ⟨hraw.1 ▸ by decide, hraw.2⟩
  · split at h
    · next hverbatim =>
      rw [Bool.and_eq_true, decide_eq_true_eq] at hverbatim
      obtain ⟨rfl, rfl⟩ := Prod.mk.inj (Option.some.inj h)
      exact ⟨hverbatim.1 ▸ by decide, hverbatim.2⟩
    · cases h

theorem exists_dropStart (content : Text) (drops : Bool) :
    ∃ gap, AllBlank gap ∧ content = gap ++ (if drops then trimStart content else content) := by
  split
  · exact exists_trimStart content
  · exact ⟨[], allBlank_nil, rfl⟩

theorem exists_dropEnd (content : Text) (drops : Bool) :
    ∃ gap, AllBlank gap ∧ content = (if drops then trimEnd content else content) ++ gap := by
  split
  · exact exists_trimEnd content
  · exact ⟨[], allBlank_nil, (List.append_nil _).symm⟩

namespace Trace

variable {p : Position} {state : Token.Progress} {stop : Nat}

theorem step_text {u : Text} (h : Trace g source p.offset state.tokens)
    (hslice : source.slice? p.offset stop = some u) :
    Trace g source stop (state.step (p, .text u)).tokens := by
  obtain ⟨gap, hgap, hu⟩ := exists_dropStart u state.trimNext
  obtain rfl : (Span.covering p u).stop = stop := by
    rw [Span.stop_covering]
    exact stop_of_slice? hslice
  refine h.pushText (.covering p u) hgap allBlank_nil ?_
  rw [List.append_nil, ← hu]
  exact hslice

/-- A tag covers its stretch, after what it does to the tokens before it. -/
theorem tag {token : Token} {slice : Text} {drops : Bool} (h : Trace g source p.offset state.tokens)
    (hspan : token.span = .covering p slice) (hslice : source.slice? p.offset stop = some slice)
    (hcovers : token.Covers slice) :
    Trace g source stop
      (token :: if drops then Token.trimLast state.tokens else state.tokens) := by
  have hstart : token.span.start = p.offset := by rw [hspan, Span.start_covering]
  have hstop : token.span.stop = stop := by
    rw [hspan, Span.stop_covering]
    exact stop_of_slice? hslice
  refine .cons ?_ (by rwa [hstart, hstop]) hcovers ?_
  · rw [hstart]
    exact h.beforeTag drops
  · rw [hstop]
    exact .nil stop

theorem step_literal {opening closing : Tag} {kind : TokenKind} {content : Text}
    (h : Trace g source p.offset state.tokens)
    (hslice : source.slice? p.offset stop = some (Segment.literal opening content closing).source)
    (hopening : opening.Written ['{', '%'] ['%', '}'])
    (hclosing : closing.Written ['{', '%'] ['%', '}'])
    (hnames : (kind, opening.body, closing.body) ∈ sections) (hkind : g.recognizes kind = true)
    (hend : literalEnd? g closing.body (content ++ closing.source) = some (content, closing, [])) :
    Trace g source stop (state.step (p, .literal opening content closing)).tokens := by
  rw [Segment.source, List.append_assoc] at hslice
  obtain ⟨hslice₁, hslice⟩ := slice?_of_append hslice
  obtain ⟨hslice₂, hslice₃⟩ := slice?_of_append hslice
  have hsection := SectionAt.intro hslice₁ hslice₂ hslice₃ hopening hclosing hnames hkind hend
  have hplace : (p.advance opening.source).offset = p.offset + byteLength opening.source :=
    p.offset_advance _
  obtain ⟨gap, hgap, hfront⟩ := exists_dropStart content opening.trim.after
  obtain ⟨gap', hgap', hback⟩ := exists_dropEnd
    (if opening.trim.after then trimStart content else content) closing.trim.before
  -- The opening statement is left out, the content is text and the closing statement is left out.
  have hbefore := (h.beforeTag opening.trim.before).skip (.opening hsection (.nil _))
  rw [← hplace] at hbefore hslice₂
  have hcontent := hbefore.pushText (.covering (p.advance opening.source) content) hgap hgap' (by
    rw [List.append_assoc, ← hback, ← hfront, Span.stop_covering]
    exact hslice₂)
  rw [Span.stop_covering, hplace] at hcontent
  exact hcontent.skip (.closing hsection (.nil _))

/-- One more segment is accounted for by the tokens after it. -/
theorem step {s rest : Text} {segment : Segment} (hfound : Found g s segment rest)
    (h : Trace g source p.offset state.tokens)
    (hslice : source.slice? p.offset stop = some segment.source) :
    Trace g source stop (state.step (p, segment)).tokens := by
  cases hfound with
  | comment hkind hbreak =>
    exact h.skip (.comment hkind hslice (not_infix_of_breakOn? (by decide) hbreak) (.nil _))
  | logic hread _ _ =>
    exact h.tag rfl hslice (Tag.written_of_read? hread)
  | output hread _ =>
    exact h.tag rfl hslice (Tag.written_of_read? hread)
  | literal hread _ hkind hend =>
    obtain ⟨hclosing, rfl, hends⟩ := literalEnd?_replace hend
    have hself := hends []
    rw [List.append_nil] at hself
    obtain ⟨hnames, hkind⟩ := mem_sections_of_literalKind? hkind
    exact h.step_literal hslice (Tag.written_of_read? hread) hclosing hnames hkind hself

/-- All the segments of a text that is cut are accounted for. -/
theorem run {s front : Text} {segments : List Segment} (hcut : Cut g s segments)
    (hsource : source = front ++ s) (hp : p.offset = byteLength front)
    (h : Trace g source p.offset state.tokens) :
    Trace g source (byteLength source)
      ((place p segments).foldl Token.Progress.step state).tokens := by
  induction hcut generalizing front p state with
  | nil =>
    rw [hsource, List.append_nil, ← hp]
    rwa [hsource, List.append_nil] at h
  | @text u rest segments hne hplain hends hcut ih =>
    have hslice : source.slice? p.offset (p.advance u).offset = some u :=
      slice?_eq_some_iff.2 ⟨front, rest, hsource, hp.symm, (p.offset_advance u).symm⟩
    refine ih (by rw [hsource, List.append_assoc]) ?_ (h.step_text hslice)
    rw [p.offset_advance, hp, byteLength_append, Segment.source]
  | @segment s rest segment segments hsegment hcut ih =>
    have hs := segment?_source hsegment
    have hslice : source.slice? p.offset (p.advance segment.source).offset = some segment.source :=
      slice?_eq_some_iff.2
        ⟨front, rest, by rw [hsource, hs], hp.symm, (p.offset_advance segment.source).symm⟩
    refine ih (by rw [hsource, hs, List.append_assoc]) ?_
      (h.step (segment?_eq_some_iff.1 hsegment) hslice)
    rw [p.offset_advance, hp, byteLength_append]

end Trace

/-! ## All tokens -/

theorem Token.Covers.ne_nil {token : Token} {slice : Text} (h : token.Covers slice) :
    slice ≠ [] := by
  cases token with
  | text content span =>
    obtain ⟨hne, gap, gap', -, -, rfl⟩ := h
    simp [hne]
  | logic trim body span =>
    obtain ⟨gap, gap', -, -, hslice⟩ := h
    exact ne_of_eq_of_ne hslice (List.cons_ne_nil _ _)
  | output trim body span =>
    obtain ⟨gap, gap', -, -, hslice⟩ := h
    exact ne_of_eq_of_ne hslice (List.cons_ne_nil _ _)

theorem gaps_concat (stop start : Nat) (spans : List Span) (span : Span) :
    gaps stop start (spans ++ [span]) = gaps span.start start spans ++ [(span.stop, stop)] := by
  induction spans generalizing start with
  | nil => rfl
  | cons first spans ih => rw [List.cons_append, gaps, gaps, ih, List.cons_append]

namespace Trace

variable {n : Nat} {tokens : List Token}

theorem covers (h : Trace g source n tokens) :
    ∀ t ∈ tokens, ∃ slice, source.slice? t.span.start t.span.stop = some slice ∧
      t.Covers slice := by
  induction h with
  | nil => exact List.forall_mem_nil _
  | cons _ hslice hcovers _ ih => exact List.forall_mem_cons.2 ⟨⟨_, hslice, hcovers⟩, ih⟩

theorem stop_le (h : Trace g source n tokens) : ∀ t ∈ tokens, t.span.stop ≤ n := by
  induction h with
  | nil => exact List.forall_mem_nil _
  | @cons n token tokens slice _ hslice _ hskips ih =>
    have hle : token.span.start ≤ token.span.stop := stop_of_slice? hslice ▸ Nat.le_add_right ..
    refine List.forall_mem_cons.2 ⟨hskips.le, fun t ht => ?_⟩
    exact (ih t ht).trans (hle.trans hskips.le)

theorem pairwise (h : Trace g source n tokens) :
    tokens.Pairwise fun t t' => t'.span.stop ≤ t.span.start := by
  induction h with
  | nil => exact .nil
  | cons htokens _ _ _ ih => exact .cons htokens.stop_le ih

theorem skips (h : Trace g source n tokens) :
    ∀ gap ∈ gaps n 0 (tokens.reverse.map Token.span), Skips g source gap.1 gap.2 := by
  induction h with
  | nil hskips => exact List.forall_mem_singleton.2 hskips
  | cons _ _ _ hskips ih =>
    rw [List.reverse_cons, List.map_append, List.map_singleton, gaps_concat]
    exact List.forall_mem_append.2 ⟨ih, List.forall_mem_singleton.2 hskips⟩

end Trace

/-- The tokens of a template stand in its order and do not overlap. Each covers its own stretch, and
between them, before the first and after the last nothing stands that may not be left out. -/
theorem scan_covers {g : Grammar} {source : Text} {ts : List Token}
    (h : Token.scan g source = .ok ts) :
    ts.Pairwise (fun t t' => t.span.stop ≤ t'.span.start) ∧
      (∀ t ∈ ts, t.span.start < t.span.stop ∧ t.span.stop ≤ byteLength source ∧
        ∃ slice, source.slice? t.span.start t.span.stop = some slice ∧ t.Covers slice) ∧
      ∀ gap ∈ gaps (byteLength source) 0 (ts.map Token.span), Skips g source gap.1 gap.2 := by
  obtain ⟨segments, hcut, rfl⟩ := Token.scan_ok_iff.1 h
  have htrace : Trace g source (byteLength source)
      ((place .start segments).foldl Token.Progress.step ⟨[], false⟩).tokens :=
    .run hcut (List.nil_append source).symm rfl (.nil (.nil _))
  refine ⟨List.pairwise_reverse.2 htrace.pairwise, fun t ht => ?_, htrace.skips⟩
  obtain ⟨slice, hslice, hcovers⟩ := htrace.covers t (List.mem_reverse.1 ht)
  have hpos := byteLength_pos hcovers.ne_nil
  have hstop := stop_of_slice? hslice
  exact ⟨by omega, stop_le_of_slice? hslice, slice, hslice, hcovers⟩

/-- Blanks that dashes drop around a literal section belong to a token or stand between two. -/
theorem scan_covers_section :
    ∃ source : Text, source = ("\x7b# note #\x7dé \x7b%- raw -%\x7d \x7b\x7b x \x7d\x7d " ++
        "\x7b%- endraw %\x7d  \x7b\x7b- y -\x7d\x7d  \x7b% set z %\x7d\n").toList ∧
      Token.scan .full source = .ok [.text "é" ⟨10, 13, 1, 11⟩,
        .text "\x7b\x7b x \x7d\x7d" ⟨24, 33, 1, 24⟩, .output ⟨true, true⟩ "y" ⟨48, 57, 1, 48⟩,
        .logic .keep "set z" ⟨59, 70, 1, 59⟩, .text "\n" ⟨70, 71, 1, 70⟩] ∧
      ∀ gap ∈ [(0, 10), (13, 24), (33, 48), (57, 59), (70, 70), (71, 71)],
        Skips .full source gap.1 gap.2 := by
  obtain ⟨source, hsource, hlength, hscan⟩ : ∃ source : Text, source =
        ("\x7b# note #\x7dé \x7b%- raw -%\x7d \x7b\x7b x \x7d\x7d " ++
          "\x7b%- endraw %\x7d  \x7b\x7b- y -\x7d\x7d  \x7b% set z %\x7d\n").toList ∧
      byteLength source = 71 ∧ Token.scan .full source = .ok [.text "é" ⟨10, 13, 1, 11⟩,
        .text "\x7b\x7b x \x7d\x7d" ⟨24, 33, 1, 24⟩, .output ⟨true, true⟩ "y" ⟨48, 57, 1, 48⟩,
        .logic .keep "set z" ⟨59, 70, 1, 59⟩, .text "\n" ⟨70, 71, 1, 70⟩] :=
    ⟨_, rfl, rfl, by decide +kernel⟩
  have hgaps := (scan_covers hscan).2.2
  rw [hlength] at hgaps
  exact ⟨source, hsource, hscan, hgaps⟩

end Blockbook.Template
