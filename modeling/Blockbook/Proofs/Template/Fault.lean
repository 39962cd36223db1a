import Blockbook.Proofs.Position
import Blockbook.Proofs.Template.Excerpt

/-!
# Where faults are

Whatever is wrong with a template, the fault names a stretch of it that starts with the mark of a
statement, an expression or a comment. A tag or section that does not end is found while the
template is cut; every other fault is that of a statement among the tokens, be it one that does not
fit or one that opens a block without end.

* `marks_of_scan_error`: what does not end is found where it starts.
* `exists_logic_of_ofTokens_error`: a statement that does not fit is one of the tokens.
* `marks_of_parse_error`: every fault names a stretch that starts with a mark.
* `places_determined`: places tell where they are, those of faults too.
-/

namespace Blockbook.Template

open Text

/-- The marks that open a statement, an expression and a comment. -/
def openings : List Text := [['{', '%'], ['{', '{'], ['{', '#']]

/-- A span names a stretch of a source that starts with an opening mark, and the place where it
starts. -/
def Marks (source : Text) (span : Span) : Prop :=
  ∃ front slice rest, source = front ++ (slice ++ rest) ∧
    span = .covering (Position.start.advance front) slice ∧ ∃ mark ∈ openings, mark <+: slice

variable {g : Grammar} {source : Text} {e : ParseError}

/-! ## What does not end -/

theorem Tag.Written.starts_opening {opening closing : Text} {tag : Tag}
    (h : tag.Written opening closing) : opening <+: tag.source := by
  obtain ⟨gap, gap', -, -, hsource⟩ := h
  rw [hsource, List.append_assoc]
  exact List.prefix_append ..

/-- What does not end starts with an opening mark. -/
theorem exists_opening_of_unclosed {s : Text} {unclosed : Unclosed}
    (h : segment? g s = .error unclosed) (p : Position) :
    ∃ slice rest, s = slice ++ rest ∧ (unclosed.at p s).span = .covering p slice ∧
      ∃ mark ∈ openings, mark <+: slice := by
  have hwhole {kind : TokenKind} {r : Text} (mark : Text) (hmark : mark ∈ openings)
      (hs : s = mark ++ r) :
      ∃ slice rest, s = slice ++ rest ∧ ((Unclosed.token kind).at p s).span = .covering p slice ∧
        ∃ mark ∈ openings, mark <+: slice :=
    ⟨s, [], (List.append_nil s).symm, rfl, mark, hmark, r, hs.symm⟩
  -- A tag without end is reported up to the end of the text, a section without end at its tag.
  unfold segment? at h
  split at h
  · split at h
    · split at h
      · cases h
      · cases h
        exact hwhole ['{', '#'] (by decide) rfl
    · cases h
  · split at h
    · split at h
      · next tag rest hread =>
        split at h
        · split at h
          · split at h
            · cases h
            · cases h
              have hsource := Tag.source_of_read? hread
              exact ⟨tag.source, rest, hsource, rfl, ['{', '%'], by decide,
                (Tag.written_of_read? hread).starts_opening⟩
          · cases h
        · cases h
      · cases h
        exact hwhole ['{', '%'] (by decide) rfl
    · cases h
  · split at h
    · split at h
      · split at h
        · cases h
        · cases h
      · cases h
        exact hwhole ['{', '{'] (by decide) rfl
    · cases h
  · cases h

/-- What does not end is found where it starts. -/
theorem marks_of_scan_error {front pending s : Text}
    (hsource : source = front ++ (pending.reverse ++ s))
    (h : Template.scan g (Position.start.advance front) pending s = .error e) :
    Marks source e.span := by
  -- On the length of what is left; `front` ends where the text that is pending starts.
  induction hn : s.length using Nat.strong_induction_on generalizing front pending s with
  | _ n ih =>
    cases s with
    | nil =>
      rw [Template.scan] at h
      cases h
    | cons c cs =>
      cases hfirst : segment? g (c :: cs) with
      | error unclosed =>
        rw [scan_of_error hfirst, ← Position.advance_append] at h
        obtain ⟨slice, rest, hslice, hspan, hmark⟩ := exists_opening_of_unclosed hfirst
          (Position.start.advance (front ++ pending.reverse))
        cases h
        refine ⟨front ++ pending.reverse, slice, rest, ?_, hspan, hmark⟩
        rw [hsource, hslice, List.append_assoc]
      | ok first =>
        cases first with
        | none =>
          rw [scan_of_none hfirst] at h
          refine ih cs.length (hn ▸ Nat.lt_succ_self _) ?_ h rfl
          rw [hsource, List.reverse_cons, List.append_assoc, List.singleton_append]
        | some first =>
          obtain ⟨segment, rest⟩ := first
          rw [scan_of_segment hfirst, map_eq_error_iff, ← Position.advance_append,
            ← Position.advance_append] at h
          refine ih rest.length (hn ▸ segment?_length hfirst) ?_ h rfl
          rw [hsource, segment?_source hfirst, List.reverse_nil, List.nil_append,
            List.append_assoc, List.append_assoc]

/-! ## Statements that do not fit -/

namespace Node.Builder

theorem exists_logic_of_step_error {b : Builder} {token : Token} (h : b.step g token = .error e) :
    ∃ trim body, token = .logic trim body e.span := by
  cases token with
  | text content span => cases h
  | output trim body span => cases h
  | logic trim body span =>
    rw [step] at h
    cases hobey : b.obey g body span with
    | ok b' =>
      rw [hobey] at h
      cases h
    | error fault =>
      rw [hobey] at h
      cases h
      exact ⟨trim, body, rfl⟩

theorem exists_step_of_foldlM_error {b : Builder} {ts : List Token}
    (h : ts.foldlM (step g) b = .error e) : ∃ token ∈ ts, ∃ b', step g b' token = .error e := by
  induction ts generalizing b with
  | nil => cases h
  | cons token ts ih =>
    rw [List.foldlM_cons] at h
    cases hstep : b.step g token with
    | error e' =>
      rw [hstep] at h
      cases h
      exact ⟨token, List.mem_cons_self, b, hstep⟩
    | ok b' =>
      rw [hstep] at h
      obtain ⟨found, hmem, hfound⟩ := ih h
      exact ⟨found, List.mem_cons_of_mem _ hmem, hfound⟩

end Node.Builder

/-- A statement that does not fit is one of the tokens, and so is one that opens a block without
end. -/
theorem exists_logic_of_ofTokens_error {ts : List Token} (h : Node.ofTokens g ts = .error e) :
    ∃ trim body, .logic trim body e.span ∈ ts := by
  unfold Node.ofTokens at h
  split at h
  · next b hb =>
    unfold Node.Builder.finish at h
    split at h
    · cases h
    · next frame frames hframes =>
      cases h
      have hopen : b.frames = [] ++ frame :: frames := hframes
      obtain ⟨front, opening, rest, name, alone, rfl, hmeans, hspan, -, -⟩ :=
        (Node.Builder.foldlM_eq_ok_iff.1 hb).exists_within hopen
      obtain ⟨trim, body, hopening⟩ : ∃ trim body, opening = .logic trim body frame.span := by
        rw [hspan]
        cases hmeans
        exact ⟨_, _, rfl⟩
      exact ⟨trim, body, List.mem_append_right front (hopening ▸ List.mem_cons_self)⟩
  · next e' he =>
    cases h
    obtain ⟨token, hmem, b, hstep⟩ := Node.Builder.exists_step_of_foldlM_error he
    obtain ⟨trim, body, rfl⟩ := Node.Builder.exists_logic_of_step_error hstep
    exact ⟨trim, body, hmem⟩

/-! ## All faults -/

/-- A statement among the tokens stands in the source as it is written. -/
theorem marks_of_logic_mem {ts : List Token} {trim : Trim} {body : Text} {span : Span}
    (hscan : Token.scan g source = .ok ts) (hmem : .logic trim body span ∈ ts) :
    Marks source span := by
  obtain ⟨segments, hcut, rfl⟩ := Token.scan_ok_iff.1 hscan
  obtain ⟨front, back, hts⟩ := List.append_of_mem hmem
  obtain ⟨before, tag, after, rfl, -, -, rfl, -⟩ := Token.exists_segment_of_logic hts
  have hwritten : tag.Written ['{', '%'] ['%', '}'] := by
    have hrest := hcut.after
    generalize Segment.sources (.logic tag :: after) = s at hrest
    cases hrest with
    | segment hsegment _ =>
      have hfound := segment?_eq_some_iff.1 hsegment
      cases hfound with
      | logic hread _ _ => exact Tag.written_of_read? hread
  refine ⟨Segment.sources before, tag.source, Segment.sources after, ?_, rfl, ['{', '%'], by decide,
    hwritten.starts_opening⟩
  rw [← hcut.sources, Segment.sources_append, Segment.sources_cons]
  rfl

/-- Every fault names a stretch of the source that starts with a mark. -/
theorem marks_of_parse_error (h : parse g source = .error e) : Marks source e.span := by
  unfold parse at h
  split at h
  · next ts hscan =>
    obtain ⟨trim, body, hmem⟩ := exists_logic_of_ofTokens_error h
    exact marks_of_logic_mem hscan hmem
  · next e' hscan =>
    cases h
    rw [Token.scan, map_eq_error_iff] at hscan
    have hstart : Template.scan g (Position.start.advance []) [] source = .error e := hscan
    refine marks_of_scan_error ?_ hstart
    rfl

/-- A stretch that starts with a mark lies in the source, and its span has the line and column of
its start. -/
theorem Marks.located {span : Span} (h : Marks source span) :
    span.start < span.stop ∧ span.stop ≤ byteLength source ∧ source.IsBoundary span.start ∧
      (∃ slice, source.slice? span.start span.stop = some slice ∧
        ∃ mark ∈ openings, mark <+: slice) ∧
      Span.locate? source span.start span.stop = some span := by
  obtain ⟨front, slice, rest, rfl, rfl, mark, hmark, hprefix⟩ := h
  have hstart : (Span.covering (Position.start.advance front) slice).start = byteLength front := by
    rw [Span.start_covering, Position.offset_advance]
    exact Nat.zero_add _
  have hstop : (Span.covering (Position.start.advance front) slice).stop =
      byteLength front + byteLength slice := by
    rw [Span.stop_covering, Position.offset_advance]
    exact congrArg (· + byteLength slice) (Nat.zero_add (byteLength front))
  have hne : slice ≠ [] := by
    rintro rfl
    have hmarks : ∀ mark ∈ openings, mark ≠ [] := by decide
    exact hmarks mark hmark (List.prefix_nil.1 hprefix)
  have hpos := byteLength_pos hne
  refine ⟨by omega, ?_, ⟨front, slice ++ rest, rfl, hstart.symm⟩, ⟨slice, ?_, mark, hmark, hprefix⟩,
    ?_⟩
  · rw [hstop, byteLength_append, byteLength_append]
    omega
  · exact slice?_eq_some_iff.2 ⟨front, rest, rfl, hstart.symm, by rw [hstart, hstop]⟩
  · rw [hstart, Span.locate?_append]
    rfl

/-- A fault has a line and a column that count from one: it starts before the end of its source, and
no text before that is overfull. -/
theorem Marks.numbered {span : Span} (hsize : byteLength source < UInt32.size)
    (h : Marks source span) : span.line ≠ 0 ∧ span.column ≠ 0 := by
  obtain ⟨hlt, hle, ⟨front, rest, rfl, hfront⟩, -, hlocate⟩ := h.located
  have hlength := front.length_le_byteLength
  have hfits : ¬front.Overfull := not_overfull_of_lt (by omega)
  rw [← hfront] at hlocate
  have hcounts := Span.lineColumn_eq_of_not_overfull (by omega) hfits hlocate
  obtain ⟨hline, hcolumn⟩ := Prod.mk.inj (toLex.injective hcounts)
  constructor
  · intro hzero
    rw [hzero] at hline
    cases hline
  · intro hzero
    rw [hzero] at hcolumn
    cases hcolumn

/-- Places are valid and tell where they are. The line of a character boundary counts the line feeds
before it, its column the characters since the last of them, and both counts have a number of 32
bits unless the text before is overfull. They come before those of a later boundary unless that is
the end of an overfull source, and they always determine the byte. Every fault has a span that is
not empty, lies in the source, starts with a mark and has the line and column of its start, which
count from one. -/
theorem places_determined {source : Text} (hsize : byteLength source < UInt32.size) :
    (∀ front rest stop, source = front ++ rest →
      Span.locate? source (byteLength front) stop =
        some ⟨byteLength front, stop, .ofNat (front.count '\n' + 1),
          .ofNat (front.lastLine.length + 1)⟩ ∧
      (¬front.Overfull →
        front.count '\n' + 1 < UInt32.size ∧ front.lastLine.length + 1 < UInt32.size)) ∧
    (∀ a b stop stop', source.IsBoundary a → source.IsBoundary b → a < b →
      ∃ s t, Span.locate? source a stop = some s ∧ Span.locate? source b stop' = some t ∧
        (s.lineColumn < t.lineColumn ↔ ¬(b = byteLength source ∧ source.Overfull))) ∧
    (∀ a b stop stop' s t, source.IsBoundary a → source.IsBoundary b →
      Span.locate? source a stop = some s → Span.locate? source b stop' = some t →
      s.line = t.line → s.column = t.column → a = b) ∧
    ∀ g e, parse g source = .error e →
      e.span.start < e.span.stop ∧ e.span.stop ≤ byteLength source ∧
      source.IsBoundary e.span.start ∧
      (∃ slice, source.slice? e.span.start e.span.stop = some slice ∧
        ∃ mark ∈ openings, mark <+: slice) ∧
      Span.locate? source e.span.start e.span.stop = some e.span ∧
      e.span.line ≠ 0 ∧ e.span.column ≠ 0 := by
  refine ⟨?_, fun a b stop stop' ha hb hlt => ?_,
    fun a b stop stop' s t ha hb hs ht hline hcolumn => ?_, fun g e h => ?_⟩
  · rintro front rest stop rfl
    have hlength := front.length_le_byteLength
    rw [byteLength_append] at hsize
    exact ⟨Span.locate?_eq_count front rest stop, lt_size_of_not_overfull (by omega)⟩
  · obtain ⟨s, hs⟩ := Span.exists_locate? ha stop
    obtain ⟨t, ht⟩ := Span.exists_locate? hb stop'
    exact ⟨s, t, hs, ht, Span.lineColumn_lt_iff hsize ha hb hlt hs ht⟩
  · refine Span.eq_of_lineColumn_eq hsize ha hb hs ht ?_
    rw [Span.lineColumn, Span.lineColumn, hline, hcolumn]
  · have hmarks := marks_of_parse_error h
    obtain ⟨hlt, hle, hstart, hslice, hlocate⟩ := hmarks.located
    exact ⟨hlt, hle, hstart, hslice, hlocate, hmarks.numbered hsize⟩

/-- An unknown statement in the second line of a template, after a letter of two bytes. -/
theorem places_determined_unknown :
    ∃ source : Text, source = "é\n \x7b% if x %\x7d".toList ∧ byteLength source < UInt32.size ∧
      source.IsBoundary 2 ∧ source.IsBoundary 3 ∧
      (∃ s t, Span.locate? source 2 3 = some s ∧ Span.locate? source 3 4 = some t ∧
        s.lineColumn < t.lineColumn) ∧
      parse .structural source = .error ⟨.unknownTag "if", ⟨4, 14, 2, 2⟩⟩ ∧
      (∃ slice, source.slice? 4 14 = some slice ∧ ∃ mark ∈ openings, mark <+: slice) ∧
      Span.locate? source 4 14 = some ⟨4, 14, 2, 2⟩ := by
  obtain ⟨source, hsource, hlength, htwo, hthree, hscan⟩ : ∃ source : Text,
      source = "é\n \x7b% if x %\x7d".toList ∧ byteLength source = 14 ∧
      source.IsBoundary 2 ∧ source.IsBoundary 3 ∧
      Token.scan .structural source =
        .ok [.text "é\n " ⟨0, 4, 1, 1⟩, .logic .keep "if x" ⟨4, 14, 2, 2⟩] :=
    ⟨_, rfl, by decide, ⟨['é'], _, rfl, rfl⟩, ⟨['é', '\n'], _, rfl, rfl⟩, by decide +kernel⟩
  have hsize : byteLength source < UInt32.size := by
    rw [hlength]
    decide
  have hparse : parse .structural source = .error ⟨.unknownTag "if", ⟨4, 14, 2, 2⟩⟩ := by
    rw [parse, hscan]
    rfl
  obtain ⟨-, hgrow, -, hfaults⟩ := places_determined hsize
  obtain ⟨s, t, hs, ht, hiff⟩ := hgrow 2 3 3 4 htwo hthree (by decide)
  have hlt : s.lineColumn < t.lineColumn := hiff.2 fun hend => by omega
  obtain ⟨-, -, -, hslice, hlocate, -, -⟩ := hfaults .structural _ hparse
  exact ⟨source, hsource, hsize, htwo, hthree, ⟨s, t, hs, ht, hlt⟩, hparse, hslice, hlocate⟩

/-- In a source of less than 4 GiB that holds nothing but line feeds, one for each number of 32 bits
but zero, the end is in line zero and so comes before the start. -/
theorem places_unordered :
    ∃ source : Text, source = List.replicate (UInt32.size - 1) '\n' ∧
      byteLength source < UInt32.size ∧ source.IsBoundary 0 ∧
      source.IsBoundary (byteLength source) ∧ 0 < byteLength source ∧
      ∃ s t, Span.locate? source 0 0 = some s ∧
        Span.locate? source (byteLength source) (byteLength source) = some t ∧
        s.line = 1 ∧ t.line = 0 ∧ ¬s.lineColumn < t.lineColumn := by
  -- The number of line feeds stays a variable, so that nothing writes the source out.
  obtain ⟨n, hn⟩ : ∃ n, n = UInt32.size - 1 := ⟨_, rfl⟩
  have hwrap : UInt32.ofNat (n + 1) = 0 := by
    rw [hn]
    decide
  have hbytes := byteLength_replicate n
  have hend := Span.locate?_replicate n n
  have hstart := Span.locate?_eq_count [] (List.replicate n '\n') 0
  rw [hwrap] at hend
  rw [← hn]
  refine ⟨List.replicate n '\n', rfl, ?_, ⟨[], _, rfl, rfl⟩, ⟨_, [], (List.append_nil _).symm, rfl⟩,
    ?_, _, _, hstart, by rw [hbytes]; exact hend, rfl, rfl, ?_⟩
  · rw [hbytes, hn]
    decide
  · rw [hbytes, hn]
    decide
  · rw [Span.lineColumn, Span.lineColumn, Prod.Lex.toLex_lt_toLex]
    rintro (hline | ⟨hline, -⟩)
    · exact Nat.not_lt_zero _ hline
    · exact Nat.one_ne_zero hline

end Blockbook.Template
