import Blockbook.Proofs.Template.Block
import Blockbook.Proofs.Template.Segment
import Blockbook.Proofs.Template.Shift
import Mathlib.Logic.Function.Iterate

/-!
# Blocks as templates of their own

The span of a block goes from its opening tag to its closing tag. What stands there is a template
that has this block as its only node: tags, comments and sections end where they end in the whole
template, dashes act on text inside the block only, and no name is missing or taken.

* `Token.ofPlaced_append`: tokens before a statement do not depend on what follows it, and those
  after it do not depend on what is before it.
* `Cut.upTo`: a template that is cut can be cut off after a statement.
* `parse_slice_of_inside`: the span of a block holds a template of that block only.
-/

namespace Blockbook.Template

open Text

/-! ## Tokens of some of the segments -/

namespace Token

theorem pushText_append (content : Text) (span : Span) (u v : List Token) :
    pushText content span (u ++ v) = pushText content span u ++ v := by
  unfold pushText
  split <;> rfl

theorem trimLast_append {u : List Token} (h : u ≠ []) (v : List Token) :
    trimLast (u ++ v) = trimLast u ++ v := by
  cases u with
  | nil => exact absurd rfl h
  | cons token u =>
    cases token with
    | text content span => exact pushText_append _ span u v
    | logic | output => rfl

/-- A dash drops blanks from the last tokens, or from those under them if there are none. -/
theorem exists_trimLast_append (drops : Bool) (u v : List Token) :
    ∃ n, (if drops then trimLast (u ++ v) else u ++ v) =
      (if drops then trimLast u else u) ++ trimLast^[n] v := by
  cases drops with
  | false => exact ⟨0, rfl⟩
  | true =>
    by_cases hu : u = []
    · exact ⟨1, by rw [hu]; rfl⟩
    · exact ⟨0, trimLast_append hu v⟩

theorem logic_mem_of_mem_trimLast {trim : Trim} {body : Text} {span : Span} {n : Nat}
    {tokens : List Token} (h : .logic trim body span ∈ trimLast^[n] tokens) :
    .logic trim body span ∈ tokens := by
  have hone {tokens : List Token} (h : .logic trim body span ∈ trimLast tokens) :
      .logic trim body span ∈ tokens := by
    unfold trimLast pushText at h
    split at h
    · split at h
      · exact List.mem_cons_of_mem _ h
      · simpa using h
    · exact h
  induction n generalizing tokens with
  | zero => exact h
  | succ n ih => exact hone (ih h)

namespace Progress

/-- Tokens under the last ones are left alone, but for blanks at the end of text. -/
theorem step_append (drops : Bool) (u v : List Token) (x : Position × Segment) :
    ∃ n, step ⟨u ++ v, drops⟩ x =
      ⟨(step ⟨u, drops⟩ x).tokens ++ trimLast^[n] v, (step ⟨u, drops⟩ x).trimNext⟩ := by
  obtain ⟨p, segment⟩ := x
  cases segment with
  | text source => exact ⟨0, by simp only [step, pushText_append, Function.iterate_zero, id]⟩
  | comment source => exact ⟨0, rfl⟩
  | logic tag =>
    obtain ⟨n, hn⟩ := exists_trimLast_append tag.trim.before u v
    exact ⟨n, by simp only [step, hn, List.cons_append]⟩
  | output tag =>
    obtain ⟨n, hn⟩ := exists_trimLast_append tag.trim.before u v
    exact ⟨n, by simp only [step, hn, List.cons_append]⟩
  | literal opening content closing =>
    obtain ⟨n, hn⟩ := exists_trimLast_append opening.trim.before u v
    exact ⟨n, by simp only [step, hn, pushText_append]⟩

theorem run_append (drops : Bool) (u v : List Token) (xs : List (Position × Segment)) :
    ∃ n, (xs.foldl step ⟨u ++ v, drops⟩).tokens =
      (xs.foldl step ⟨u, drops⟩).tokens ++ trimLast^[n] v := by
  induction xs generalizing u v drops with
  | nil => exact ⟨0, rfl⟩
  | cons x xs ih =>
    obtain ⟨m, hm⟩ := step_append drops u v x
    obtain ⟨n, hn⟩ := ih (step ⟨u, drops⟩ x).trimNext (step ⟨u, drops⟩ x).tokens (trimLast^[m] v)
    refine ⟨n + m, ?_⟩
    rw [List.foldl_cons, hm, hn, List.foldl_cons, Function.iterate_add_apply]

end Progress

/-- The tokens of the first segment come before those of the others, but for blanks at their end. -/
theorem ofPlaced_cons (drops : Bool) (p : Position) (segment : Segment) (segments : List Segment) :
    ∃ n, ofPlaced drops p (segment :: segments) =
      (trimLast^[n] (Progress.step ⟨[], drops⟩ (p, segment)).tokens).reverse ++
        ofPlaced (Progress.step ⟨[], drops⟩ (p, segment)).trimNext (p.advance segment.source)
          segments := by
  obtain ⟨n, hn⟩ := Progress.run_append (Progress.step ⟨[], drops⟩ (p, segment)).trimNext []
    (Progress.step ⟨[], drops⟩ (p, segment)).tokens (place (p.advance segment.source) segments)
  refine ⟨n, ?_⟩
  rw [ofPlaced, ofPlaced, ← List.reverse_append, ← hn]
  rfl

/-- Tokens up to a statement do not depend on what follows it, and those after it do not depend on
what is before it. -/
theorem ofPlaced_append (drops : Bool) (p : Position) (before : List Segment) (tag : Tag)
    (after : List Segment) :
    ofPlaced drops p (before ++ .logic tag :: after) =
      ofPlaced drops p (before ++ [.logic tag]) ++
        ofPlaced tag.trim.after ((p.advance (Segment.sources before)).advance tag.source) after := by
  generalize hq : p.advance (Segment.sources before) = q
  generalize hlast : ((place p before).foldl Progress.step ⟨[], drops⟩).step (q, .logic tag) = last
  have hupTo : ofPlaced drops p (before ++ [.logic tag]) = last.tokens.reverse := by
    rw [ofPlaced, place_append, List.foldl_append, hq, ← hlast]
    rfl
  have hall : ofPlaced drops p (before ++ .logic tag :: after) =
      ((place (q.advance tag.source) after).foldl Progress.step last).tokens.reverse := by
    rw [ofPlaced, place_append, List.foldl_append, hq, ← hlast]
    rfl
  obtain ⟨n, hn⟩ := Progress.run_append last.trimNext [] last.tokens
    (place (q.advance tag.source) after)
  -- The statement is the last token, and there is no text at the end that could lose blanks.
  have hfixed : trimLast^[n] last.tokens = last.tokens :=
    Function.iterate_fixed (by rw [← hlast]; rfl) n
  rw [List.nil_append, hfixed] at hn
  have htrim : last.trimNext = tag.trim.after := by rw [← hlast]; rfl
  rw [hall, hupTo, hn, List.reverse_append, htrim]
  rfl

/-- The first segment gives a statement only if it is one. -/
theorem eq_logic_of_mem_step {drops : Bool} {p : Position} {segment : Segment} {trim : Trim}
    {body : Text} {span : Span}
    (h : .logic trim body span ∈ (Progress.step ⟨[], drops⟩ (p, segment)).tokens) :
    ∃ tag, segment = .logic tag ∧
      .logic trim body span = Token.logic tag.trim tag.body (.covering p tag.source) := by
  cases segment with
  | text source =>
    simp only [Progress.step, pushText] at h
    split at h <;> simp at h
  | comment source => simp [Progress.step] at h
  | logic tag =>
    refine ⟨tag, rfl, ?_⟩
    simpa [Progress.step, trimLast] using h
  | output tag => simp [Progress.step, trimLast] at h
  | literal opening content closing =>
    simp only [Progress.step, pushText, trimLast, ite_self] at h
    split at h <;> simp at h

theorem append_eq_append_cons {α : Type} {first rest front back : List α} {a : α}
    (h : first ++ rest = front ++ a :: back) :
    (∃ front', rest = front' ++ a :: back) ∨ ∃ more, first = front ++ a :: more ∧
      back = more ++ rest := by
  obtain ⟨found, -, hfound⟩ | ⟨_ | ⟨b, found⟩, hfirst, hfound⟩ := List.append_eq_append_iff.1 h
  · exact .inl ⟨found, hfound⟩
  · exact .inl ⟨[], hfound.symm⟩
  · obtain ⟨rfl, rfl⟩ := List.cons.inj hfound
    exact .inr ⟨found, hfirst, rfl⟩

/-- A statement among the tokens is one of the segments, and the tokens after it are those of the
segments after it. -/
theorem exists_segment_of_logic {drops : Bool} {p : Position} {segments : List Segment}
    {front back : List Token} {trim : Trim} {body : Text} {span : Span}
    (h : ofPlaced drops p segments = front ++ .logic trim body span :: back) :
    ∃ before tag after, segments = before ++ .logic tag :: after ∧ trim = tag.trim ∧
      body = tag.body ∧ span = .covering (p.advance (Segment.sources before)) tag.source ∧
      back = ofPlaced tag.trim.after ((p.advance (Segment.sources before)).advance tag.source)
        after := by
  induction segments generalizing drops p front with
  | nil => simp [ofPlaced, place] at h
  | cons segment segments ih =>
    obtain ⟨n, hn⟩ := ofPlaced_cons drops p segment segments
    rw [hn] at h
    obtain ⟨front', hlater⟩ | ⟨more, hfirst, rfl⟩ := append_eq_append_cons h
    · obtain ⟨before, tag, after, rfl, hrest⟩ := ih hlater
      refine ⟨segment :: before, tag, after, rfl, ?_⟩
      rw [Segment.sources_cons, p.advance_append]
      exact hrest
    · have hmem : .logic trim body span ∈
          trimLast^[n] (Progress.step ⟨[], drops⟩ (p, segment)).tokens := by
        rw [← List.mem_reverse, hfirst]
        exact List.mem_append_right _ List.mem_cons_self
      obtain ⟨tag, rfl, heq⟩ := eq_logic_of_mem_step (logic_mem_of_mem_trimLast hmem)
      have hstep : Progress.step ⟨[], drops⟩ (p, .logic tag) =
          ⟨[.logic trim body span], tag.trim.after⟩ := by
        rw [heq]
        simp [Progress.step, trimLast]
      have hfixed : trimLast^[n] [Token.logic trim body span] = [.logic trim body span] :=
        Function.iterate_fixed rfl n
      rw [hstep, hfixed, List.reverse_singleton] at hfirst
      obtain ⟨rfl, rfl⟩ : front = [] ∧ more = [] := by
        cases front <;> simp_all
      obtain ⟨rfl, rfl, rfl⟩ := Token.logic.inj heq
      exact ⟨[], tag, segments, rfl, rfl, rfl, rfl, by rw [hstep]; rfl⟩

/-- The tokens from one statement to another are those of the segments from the one to the other,
taken alone. -/
theorem exists_segments_between {drops : Bool} {p : Position} {segments : List Segment}
    {front rest back : List Token} {trim trim' : Trim} {body body' : Text} {span span' : Span}
    (h : ofPlaced drops p segments =
      front ++ .logic trim body span :: (rest ++ .logic trim' body' span' :: back)) :
    ∃ before between last after, segments = before ++ (between ++ .logic last :: after) ∧
      span.start = (p.advance (Segment.sources before)).offset ∧
      span'.stop = span.start + byteLength (Segment.sources (between ++ [.logic last])) ∧
      .logic trim body span :: (rest ++ [.logic trim' body' span']) =
        ofPlaced false (p.advance (Segment.sources before)) (between ++ [.logic last]) := by
  obtain ⟨before, first, others, rfl, rfl, rfl, rfl, hothers⟩ := exists_segment_of_logic h
  obtain ⟨inner, last, after, rfl, rfl, rfl, rfl, hback⟩ := exists_segment_of_logic hothers.symm
  refine ⟨before, .logic first :: inner, last, after, rfl, rfl, ?_, ?_⟩
  · have hsources : Segment.sources (.logic first :: inner ++ [.logic last]) =
        first.source ++ (Segment.sources inner ++ last.source) := by
      simp [Segment.sources, Segment.source]
    rw [hsources, Span.stop_covering, Position.offset_advance, Position.offset_advance,
      Span.start_covering, byteLength_append, byteLength_append]
    omega
  · generalize p.advance (Segment.sources before) = q at *
    have hinner := ofPlaced_append first.trim.after (q.advance first.source) inner last after
    rw [← hothers, ← hback, List.append_cons, List.append_cancel_right_eq] at hinner
    have hopening : ofPlaced false q [.logic first] =
        [.logic first.trim first.body (.covering q first.source)] := by
      simp [ofPlaced, place, Progress.step, trimLast]
    have hall : ofPlaced false q (.logic first :: (inner ++ [.logic last])) =
        ofPlaced false q [.logic first] ++
          ofPlaced first.trim.after (q.advance first.source) (inner ++ [.logic last]) :=
      ofPlaced_append false q [] first (inner ++ [Segment.logic last])
    rw [List.cons_append, hall, hopening, hinner]
    rfl

end Token

/-! ## Cutting some of the text -/

/-- Plain text stays plain where less text follows it. -/
theorem Plain.shorten {u rest rest' : Text} (h : Plain .structural u rest)
    (hfront : rest' <+: rest) : Plain .structural u rest' := by
  intro v hv hsuffix
  obtain ⟨hlogic, hcomment⟩ := segment?_eq_none_iff.1 (h v hv hsuffix)
  have hwhole : v ++ rest' <+: v ++ rest := (List.prefix_append_right_inj v).2 hfront
  exact segment?_eq_none_iff.2 ⟨fun hp => hlogic (hp.trans hwhole),
    fun hp => hcomment (hp.trans hwhole)⟩

theorem segment?_ne_text {g : Grammar} {s u rest : Text} :
    segment? g s ≠ .ok (some (.text u, rest)) := by
  intro h
  cases segment?_eq_some_iff.1 h

namespace Cut

variable {g : Grammar}

/-- Plain text ends where the first segment is not text. -/
theorem endsPlain_iff {s : Text} {segments : List Segment} (h : Cut g s segments) :
    EndsPlain g s ↔ ∀ u, segments.head? ≠ some (.text u) := by
  cases h with
  | nil => exact ⟨nofun, fun _ => .inl rfl⟩
  | @text u rest segments hne hplain _ _ =>
    have hnone := hplain u hne (List.suffix_refl u)
    constructor
    · rintro (hnil | ⟨segment, rest', hsegment⟩)
      · exact absurd (List.append_eq_nil_iff.1 hnil).1 hne
      · rw [hnone] at hsegment
        cases hsegment
    · exact fun h => absurd rfl (h u)
  | @segment s rest segment segments hsegment _ =>
    refine ⟨fun _ u hu => ?_, fun _ => .inr ⟨segment, rest, hsegment⟩⟩
    obtain rfl := Option.some.inj hu
    exact segment?_ne_text hsegment

/-- What stands behind some of the segments is cut into the others. -/
theorem after {s : Text} {before segments : List Segment} (h : Cut g s (before ++ segments)) :
    Cut g (Segment.sources segments) segments := by
  induction before generalizing s with
  | nil =>
    have hs : Segment.sources segments = s := h.sources
    rw [hs]
    exact h
  | cons segment before ih =>
    cases h with
    | text _ _ _ hrest => exact ih hrest
    | segment _ hrest => exact ih hrest

/-- A template that is cut can be cut off after a statement. -/
theorem upTo {s : Text} {before after : List Segment} {tag : Tag}
    (h : Cut .structural s (before ++ .logic tag :: after)) :
    Cut .structural (Segment.sources (before ++ [.logic tag])) (before ++ [.logic tag]) := by
  induction before generalizing s with
  | nil =>
    cases h with
    | segment hsegment _ =>
      exact .segment (segment?_append hsegment []) .nil
  | cons segment before ih =>
    rw [List.cons_append, Segment.sources_cons]
    cases h with
    | @text u rest _ hne hplain hends hrest =>
      have hcut := ih hrest
      have hfront : Segment.sources (before ++ [.logic tag]) <+: rest := by
        refine ⟨Segment.sources after, ?_⟩
        rw [← Segment.sources_append, List.append_assoc]
        exact hrest.sources
      have hhead : (before ++ [Segment.logic tag]).head? =
          (before ++ .logic tag :: after).head? := by
        cases before <;> rfl
      refine .text hne (hplain.shorten hfront) (hcut.endsPlain_iff.2 ?_) hcut
      rw [hhead]
      exact hrest.endsPlain_iff.1 hends
    | segment hsegment hrest => exact .segment (segment?_append hsegment _) (ih hrest)

end Cut

/-! ## Blocks -/

/-- From one statement to another stands a template that has the tokens between the two, moved to
the front. -/
theorem exists_scan_between {source : Text} {front rest back : List Token} {trim trim' : Trim}
    {body body' : Text} {span span' : Span}
    (h : Token.scan .structural source =
      .ok (front ++ .logic trim body span :: (rest ++ .logic trim' body' span' :: back))) :
    ∃ slice ts, source.slice? span.start span'.stop = some slice ∧
      Token.scan .structural slice = .ok ts ∧ ts.map (Token.shift span.start) =
        (.logic trim body span :: (rest ++ [.logic trim' body' span'])).map (Token.shift 0) := by
  obtain ⟨segments, hcut, hts⟩ := Token.scan_ok_iff.1 h
  obtain ⟨before, between, last, after, rfl, hstart, hstop, hbetween⟩ :=
    Token.exists_segments_between hts.symm
  have hslice : source.slice? span.start span'.stop =
      some (Segment.sources (between ++ [.logic last])) := by
    refine slice?_eq_some_iff.2 ⟨Segment.sources before, Segment.sources after, ?_, ?_, hstop.symm⟩
    · rw [← hcut.sources]
      simp [Segment.sources]
    · rw [hstart, Position.offset_advance]
      exact (Nat.zero_add _).symm
  have hplace : Position.start.offset + span.start =
      (Position.start.advance (Segment.sources before)).offset + 0 := by
    rw [← hstart]
    exact Nat.zero_add _
  refine ⟨_, _, hslice, Token.scan_ok_iff.2 ⟨_, hcut.after.upTo, rfl⟩, ?_⟩
  rw [hbetween]
  exact Token.map_shift_ofPlaced hplace false _

/-- The span of a block holds a template that has this block as its only node, moved to the
front. -/
theorem parse_slice_of_inside {source name : Text} {nodes body : List Node} {span : Span}
    (h : parse .structural source = .ok nodes)
    (hinside : Node.Inside (.block name body span) nodes) :
    ∃ slice block, source.slice? span.start span.stop = some slice ∧
      parse .structural slice = .ok [block] ∧
      block.shift span.start = (Node.block name body span).shift 0 := by
  unfold parse at h
  split at h
  · next ts hscan =>
    obtain ⟨front, opening, rest, closing, back, name', written, rfl, hopens, hcloses, hstart,
      hstop, halone⟩ := Node.exists_tokens_of_inside h hinside
    cases hopens
    cases hcloses
    obtain ⟨slice, ts, hslice, hts, hmoved⟩ := exists_scan_between hscan
    obtain ⟨nodes', hnodes', hshift⟩ := Node.exists_ofTokens_of_shift halone hmoved
    rw [Node.shiftAll_eq_map, Node.shiftAll_eq_map, List.map_singleton,
      List.map_eq_singleton_iff] at hshift
    obtain ⟨block, rfl, hblock⟩ := hshift
    rw [hstart, hstop]
    refine ⟨slice, block, hslice, ?_, hblock⟩
    rw [parse, hts]
    exact hnodes'
  · cases h

/-- The inner of two blocks, with dashes and a literal section at its edges. -/
theorem parse_slice_of_inside_nested :
    ∃ source : Text, source =
        ("a \x7b%- block x %\x7dé\x7b% block y -%\x7d \x7b% raw %\x7d\x7b% endblock %\x7d" ++
          "\x7b% endraw %\x7d \x7b%- endblock -%\x7d b\x7b% endblock %\x7d").toList ∧
      parse .structural source = .ok [.text "a", .block "x" [.text "é",
        .block "y" [.text "\x7b% endblock %\x7d"] ⟨18, 85, 1, 18⟩, .text "b"] ⟨2, 101, 1, 3⟩] ∧
      ∃ slice block, source.slice? 18 85 = some slice ∧ parse .structural slice = .ok [block] ∧
        block.shift 18 =
          (Node.block "y" [.text "\x7b% endblock %\x7d"] ⟨18, 85, 1, 18⟩).shift 0 := by
  obtain ⟨source, hsource, hscan⟩ : ∃ source : Text, source =
        ("a \x7b%- block x %\x7dé\x7b% block y -%\x7d \x7b% raw %\x7d\x7b% endblock %\x7d" ++
          "\x7b% endraw %\x7d \x7b%- endblock -%\x7d b\x7b% endblock %\x7d").toList ∧
      Token.scan .structural source = .ok [.text "a" ⟨0, 2, 1, 1⟩,
        .logic ⟨true, false⟩ "block x" ⟨2, 16, 1, 3⟩, .text "é" ⟨16, 18, 1, 17⟩,
        .logic ⟨false, true⟩ "block y" ⟨18, 32, 1, 18⟩,
        .text "\x7b% endblock %\x7d" ⟨42, 56, 1, 42⟩,
        .logic ⟨true, true⟩ "endblock" ⟨69, 85, 1, 69⟩, .text "b" ⟨85, 87, 1, 85⟩,
        .logic .keep "endblock" ⟨87, 101, 1, 87⟩] := ⟨_, rfl, by decide +kernel⟩
  have hparse : parse .structural source = .ok [.text "a", .block "x" [.text "é",
      .block "y" [.text "\x7b% endblock %\x7d"] ⟨18, 85, 1, 18⟩, .text "b"] ⟨2, 101, 1, 3⟩] := by
    rw [parse, hscan]
    rfl
  exact ⟨source, hsource, hparse, parse_slice_of_inside hparse
    (.deeper (.tail _ (.head _)) (.here (.tail _ (.head _))))⟩

end Blockbook.Template
