import Blockbook.Proofs.Markup.Run
import Blockbook.Proofs.Markup.Solid

/-!
# Laying out twice

The pieces of a text can be read back from the lines they are set in, because each piece is read
back where the solid characters of the pieces after it follow. So markup that has been laid out is
laid out the same again.

* `Legible.read`: legible pieces are read back from their lines.
* `legible_pieces`: the pieces of a text whose comments end are legible.
* `layout_layout`: layout is idempotent on such a text.
-/

namespace Blockbook.Markup

open Text

/-- A run ends here: after blanks the text ends or goes on with a construct outside runs. -/
def EndsRun (x : Text) : Prop := ∃ b y, AllBlank b ∧ x = b ++ y ∧ Stops y

/-- A piece is read back where the solid characters of `ps` follow. -/
def ReadsBack (p : Piece) (ps : List Piece) : Prop :=
  ∀ x, solid x = solid (sources ps) → (ps = [] → x = []) → (p.isRun = true → EndsRun x) →
    pieces (tokens (p.source ++ x)) = p :: pieces (tokens x) ∧
      (p.isRun = false → EndsRun (p.source ++ x))

/-- The pieces do not start with a run. -/
def StartsBlock (ps : List Piece) : Prop := ∀ p ∈ ps.head?, p.isRun = false

/-- Every piece is read back where the pieces after it follow, and no run follows a run. -/
def Legible : List Piece → Prop
  | [] => True
  | p :: ps => ReadsBack p ps ∧ (p.isRun = true → StartsBlock ps) ∧ Legible ps

theorem startsBlock_cons {p : Piece} {ps : List Piece} (h : p.isRun = false) :
    StartsBlock (p :: ps) := by
  rintro _ ⟨⟩
  exact h

theorem EndsRun.append {b x : Text} (hb : AllBlank b) (h : EndsRun x) : EndsRun (b ++ x) := by
  obtain ⟨b', y, hb', rfl, hy⟩ := h
  exact ⟨b ++ b', y, allBlank_append.2 ⟨hb, hb'⟩, (List.append_assoc ..).symm, hy⟩

theorem Stops.endsRun {y : Text} (h : Stops y) : EndsRun y := ⟨[], y, allBlank_nil, rfl, h⟩

/-! ## Reading lines -/

/-- The pieces that follow are read back from their lines, and end a run unless they start with
one. -/
def ReadsLines (depth : Nat) (ps : List Piece) : Prop :=
  pieces (tokens (laidOut depth ps)) = ps ∧ (StartsBlock ps → EndsRun (laidOut depth ps))

theorem ReadsBack.line {p : Piece} {ps : List Piece} (h : ReadsBack p ps)
    (hblock : p.isRun = true → StartsBlock ps) {depth : Nat} (hps : ReadsLines depth ps) :
    pieces (tokens (p.source ++ laidOut depth ps)) = p :: ps ∧
      (p.isRun = false → EndsRun (p.source ++ laidOut depth ps)) := by
  have hnil : ps = [] → laidOut depth ps = [] := by
    rintro rfl
    exact laidOut_nil depth
  have hread := h (laidOut depth ps) (solid_laidOut depth ps) hnil fun hrun => hps.2 (hblock hrun)
  rwa [hps.1] at hread

/-- A line that starts with a piece is read back if the piece is, with what follows it. -/
theorem readsLines_cons {p : Piece} {ps : List Piece} {depth : Nat} {x : Text} (depth' : Nat)
    (hline : laidOut depth (p :: ps) = ('\n' :: indent depth') ++ (p.source ++ x))
    (hread : pieces (tokens (p.source ++ x)) = p :: ps ∧
      (p.isRun = false → EndsRun (p.source ++ x))) : ReadsLines depth (p :: ps) := by
  rw [ReadsLines, hline]
  refine ⟨?_, fun hstart => ?_⟩
  · rw [pieces_tokens_append (allBlank_indent depth'), hread.1]
  · exact (hread.2 (hstart p rfl)).append (allBlank_indent depth')

/-- What an element holds that stays on one line is read back after its tag. -/
theorem readsBack_onlyRun {name line endTag : Text} {ps rest : List Piece} (h : Legible ps)
    (honly : onlyRun? name ps = some (line, endTag, rest)) {depth : Nat}
    (hrest : ReadsLines depth rest) :
    pieces (tokens (line ++ (endTag ++ laidOut depth rest))) = ps := by
  obtain rfl | ⟨rfl, rfl⟩ := onlyRun?_cases honly
  · obtain ⟨hrun, -, hclosing, hblock, -⟩ := h
    obtain ⟨hpieces, hends⟩ := hclosing.line hblock hrest
    have hsolid : solid (endTag ++ laidOut depth rest) =
        solid (sources (.closing name endTag :: rest)) := by
      rw [solid_append, solid_laidOut, solid_sources_cons]
      rfl
    obtain ⟨hline, -⟩ := hrun _ hsolid (fun hnil => by cases hnil) fun _ => hends rfl
    exact hline.trans (congrArg _ hpieces)
  · obtain ⟨hclosing, hblock, -⟩ := h
    exact (hclosing.line hblock hrest).1

/-- Legible pieces are read back from their lines. -/
theorem Legible.read {ps : List Piece} (h : Legible ps) (depth : Nat) : ReadsLines depth ps := by
  fun_induction lineUp depth ps with
  | case1 depth =>
    rw [ReadsLines, laidOut_nil, tokens_nil, pieces_nil]
    exact ⟨rfl, fun _ => Stops.endsRun (.inl rfl)⟩
  | case2 depth line ps ih =>
    obtain ⟨hp, hblock, hps⟩ := h
    refine readsLines_cons depth ?_ (hp.line hblock (ih hps))
    simp [laidOut, lineUp, Piece.source]
  | case3 depth source ps ih =>
    obtain ⟨hp, hblock, hps⟩ := h
    refine readsLines_cons depth ?_ (hp.line hblock (ih hps))
    simp [laidOut, lineUp, Piece.source]
  | case4 depth name tag ps ih =>
    obtain ⟨hp, hblock, hps⟩ := h
    refine readsLines_cons (depth - 1) ?_ (hp.line hblock (ih hps))
    simp [laidOut, lineUp, Piece.source]
  | case5 depth name tag ps line endTag rest honly ih =>
    -- Opening tag, run and closing tag share a line, so they are read back in one go.
    obtain ⟨hp, -, hps⟩ := h
    have hrest : Legible rest := by
      obtain rfl | ⟨rfl, rfl⟩ := onlyRun?_cases honly
      · exact hps.2.2.2.2
      · exact hps.2.2
    have hread := readsBack_onlyRun hps honly (ih hrest)
    have hsolid : solid (line ++ (endTag ++ laidOut depth rest)) = solid (sources ps) := by
      rw [sources_of_onlyRun? honly]
      simp [solid_laidOut]
    have hne : ps ≠ [] := by
      rintro rfl
      cases honly
    have htag := hp _ hsolid (fun hnil => absurd hnil hne) (by rintro ⟨⟩)
    rw [hread] at htag
    refine readsLines_cons depth ?_ htag
    rw [laidOut, lineUp_opening_only honly]
    simp [laidOut, Piece.source]
  | case6 depth name tag ps honly ih =>
    obtain ⟨hp, hblock, hps⟩ := h
    refine readsLines_cons depth ?_ (hp.line hblock (ih hps))
    rw [laidOut, lineUp_opening honly]
    simp [laidOut, Piece.source]

/-! ## The pieces of a text -/

/-- A construct outside runs that opens no raw text is a piece of its own. -/
theorem exists_piece {token : Token} (hblock : token.isInline = false)
    (hraw : token.rawName? = none) :
    ∃ p : Piece, p.isRun = false ∧ p.source = token.inRun ∧
      ∀ ts, pieces (token :: ts) = p :: pieces ts := by
  cases token with
  | opening name tag selfClosing =>
    by_cases halone : (selfClosing || isVoid name) = true
    · exact ⟨.whole tag, rfl, rfl, pieces_opening_alone hblock halone tag⟩
    · have hraw' : ¬isRawText name = true := by
        intro h
        cases selfClosing with
        | true => exact halone rfl
        | false => simp [Token.rawName?, h] at hraw
      exact ⟨.opening name tag, rfl, rfl, pieces_opening hblock halone hraw' tag⟩
  | closing name tag => exact ⟨.closing name tag, rfl, rfl, pieces_closing hblock tag⟩
  | verbatim source => exact ⟨.whole source, rfl, rfl, pieces_verbatim source⟩
  | rawText content => exact ⟨.whole content, rfl, rfl, pieces_rawText content⟩
  | text content => cases hblock

theorem stops_inRun {s rest : Text} {token : Token} (h : construct? s = some (token, rest))
    (hblock : token.isInline = false) (x : Text) : Stops (token.inRun ++ x) :=
  .inr ⟨token, x, construct?_inRun h x, hblock⟩

theorem readsBack_construct {s rest : Text} {token : Token} {p : Piece}
    (h : construct? s = some (token, rest)) (hblock : token.isInline = false)
    (hraw : token.rawName? = none) (hsource : p.source = token.inRun)
    (hp : ∀ ts, pieces (token :: ts) = p :: pieces ts) (ps : List Piece) : ReadsBack p ps := by
  intro x _ _ _
  rw [hsource, tokens_of_construct? (construct?_inRun h x), tokensAfter_of_rawName?_none hraw, hp]
  exact ⟨rfl, fun _ => (stops_inRun h hblock x).endsRun⟩

theorem exists_rawOpening {token : Token} {name : Text} (h : token.rawName? = some name) :
    ∃ tag, token = .opening name tag false ∧ isRawText name = true := by
  unfold Token.rawName? at h
  split at h
  · next tag =>
    split at h
    · next hraw =>
      obtain rfl := Option.some.inj h
      exact ⟨tag, rfl, hraw⟩
    · cases h
  · cases h

/-- The tokens of a raw text element make one piece. -/
theorem pieces_rawElement {name : Text} (h : isRawText name = true) (tag content : Text) :
    pieces [.opening name tag false, .rawText content] = [.whole (tag ++ content)] ∧
      ∀ endTag ts, pieces (.opening name tag false :: .rawText content ::
        .closing name endTag :: ts) = .whole (tag ++ content ++ endTag) :: pieces ts := by
  have hall : ∀ n ∈ rawTextElements, isVoid n = false := by decide
  have hvoid := hall name (List.contains_iff_mem.1 h)
  have hinline := isInlineElement_of_isRawText h
  refine ⟨?_, fun endTag ts => ?_⟩
  · rw [pieces_opening_raw hinline (by simp [hvoid]) h]
    simp [takeRawText, takeClosing, pieces_nil]
  · rw [pieces_opening_raw hinline (by simp [hvoid]) h]
    simp [takeRawText, takeClosing]

/-- A raw text element that ends is read back. -/
theorem readsBack_rawElement {s rest name tag content endTag rest' : Text}
    (h : construct? s = some (.opening name tag false, rest)) (hraw : isRawText name = true)
    (hcontent : rawContent name rest = (content, some (.closing name endTag, rest'))) :
    ReadsBack (.whole (tag ++ content ++ endTag)) (pieces (tokens rest')) := by
  intro x hsolid _ _
  have hname : (Token.opening name tag false).rawName? = some name := if_pos hraw
  have hx : solid x = solid rest' := by rw [hsolid, solid_pieces, solid_tokens]
  have hread := rawContent_read (letterName_of_rawName? hname) hcontent hx
  have hsource : (Piece.whole (tag ++ content ++ endTag)).source ++ x =
      (Token.opening name tag false).inRun ++
        (content ++ ((Token.closing name endTag).inRun ++ x)) := by
    simp [Piece.source, Token.inRun]
  have hblock : (Token.opening name tag false).isInline = false :=
    isInlineElement_of_isRawText hraw
  rw [hsource, tokens_of_construct? (construct?_inRun h _), tokensAfter_closed hname hread,
    (pieces_rawElement hraw tag content).2]
  exact ⟨rfl, fun _ => (stops_inRun h hblock _).endsRun⟩

/-- A raw text element that does not end is read back where nothing follows. -/
theorem readsBack_rawElement_open {s rest name tag : Text}
    (h : construct? s = some (.opening name tag false, rest)) (hraw : isRawText name = true)
    (hcontent : rawContent name rest = (rest, none)) :
    ReadsBack (.whole (tag ++ rest)) [] := by
  intro x _ hnil _
  obtain rfl := hnil rfl
  have hname : (Token.opening name tag false).rawName? = some name := if_pos hraw
  have hsource : (Piece.whole (tag ++ rest)).source ++ [] =
      (Token.opening name tag false).inRun ++ rest := by
    simp [Piece.source, Token.inRun]
  have hblock : (Token.opening name tag false).isInline = false :=
    isInlineElement_of_isRawText hraw
  rw [hsource, tokens_of_construct? (construct?_inRun h _), tokensAfter_open hname hcontent,
    (pieces_rawElement hraw tag rest).1, tokens_nil, pieces_nil]
  exact ⟨rfl, fun _ => (stops_inRun h hblock _).endsRun⟩

/-- A run is read back. -/
theorem readsBack_run {s y : Text} {ts : List Token} (h : Flow s ts y) (hne : run ts ≠ []) :
    ReadsBack (.run (run ts)) (pieces (tokens y)) := by
  intro x hsolid _ hends
  obtain ⟨b, y', hb, rfl, hy'⟩ := hends rfl
  have hy : solid y' = solid y := by
    rwa [solid_append, hb.solid, List.nil_append, solid_pieces, solid_tokens] at hsolid
  obtain ⟨ts', q, hq, hflow, hshown⟩ := h.read hb hy' hy
  have hrun : run ts' = run ts := by
    rw [run, run, hshown, trim_eq_trimStart_trimEnd, trimEnd_append_of_allBlank hq,
      trimEnd_trimEnd, ← trim_eq_trimStart_trimEnd]
  obtain ⟨front, hfront, hts⟩ := exists_trimStart (trimEnd (ts.flatMap Token.inRun))
  rw [← trim_eq_trimStart_trimEnd] at hts
  refine ⟨?_, by rintro ⟨⟩⟩
  calc pieces (tokens (run ts ++ (b ++ y')))
      = pieces (tokens (front ++ (run ts ++ (b ++ y')))) := (pieces_tokens_append hfront _).symm
    _ = runPiece ts' ++ pieces (tokens y') := by
      rw [← List.append_assoc, run, ← hts, hflow.pieces]
    _ = .run (run ts) :: pieces (tokens (b ++ y')) := by
      rw [runPiece, hrun, if_neg hne, pieces_tokens_append hb]
      rfl

/-- What stands where runs stop is legible if all that is shorter is. -/
theorem legible_of_stops {y : Text} (h : CommentsEnd y) (hstops : Stops y)
    (ih : ∀ t : Text, t.length < y.length → CommentsEnd t → Legible (pieces (tokens t))) :
    Legible (pieces (tokens y)) ∧ StartsBlock (pieces (tokens y)) := by
  obtain rfl | ⟨token, rest, hc, hblock⟩ := hstops
  · rw [tokens_nil, pieces_nil]
    exact ⟨trivial, by rintro p ⟨⟩⟩
  have hlen := length_of_construct? hc
  rw [tokens_of_construct? hc]
  cases hraw : token.rawName? with
  | none =>
    obtain ⟨p, hrun, hsource, hp⟩ := exists_piece hblock hraw
    rw [tokensAfter_of_rawName?_none hraw, hp]
    refine ⟨⟨readsBack_construct hc hblock hraw hsource hp _, by simp [hrun], ?_⟩,
      startsBlock_cons hrun⟩
    exact ih rest hlen (h.of_suffix (suffix_of_construct? hc))
  | some name =>
    obtain ⟨tag, rfl, hname⟩ := exists_rawOpening hraw
    rcases hcontent : rawContent name rest with ⟨content, close?⟩
    cases close? with
    | none =>
      obtain rfl := rawContent_open hcontent
      rw [tokensAfter_open hraw hcontent, (pieces_rawElement hname tag content).1]
      exact ⟨⟨readsBack_rawElement_open hc hname hcontent, by rintro ⟨⟩, trivial⟩,
        startsBlock_cons rfl⟩
    | some found =>
      obtain ⟨close, rest'⟩ := found
      obtain ⟨endTag, rfl⟩ := closing_of_rawContent (letterName_of_rawName? hraw) hcontent
      have hsuffix := (suffix_of_rawContent hcontent).trans (suffix_of_construct? hc)
      rw [tokensAfter_closed hraw hcontent, (pieces_rawElement hname tag content).2]
      refine ⟨⟨readsBack_rawElement hc hname hcontent, by rintro ⟨⟩, ?_⟩, startsBlock_cons rfl⟩
      exact ih rest' ((length_of_rawContent hcontent).trans hlen) (h.of_suffix hsuffix)

/-- The pieces of a text whose comments end are legible. -/
theorem legible_pieces {s : Text} (h : CommentsEnd s) : Legible (pieces (tokens s)) := by
  induction hn : s.length using Nat.strong_induction_on generalizing s with
  | _ n ih =>
    -- The first run may be empty; only the construct after it makes the text shorter.
    obtain ⟨ts, y, hflow⟩ := exists_flow h
    have hle : y.length ≤ n := hn ▸ hflow.suffix.length_le
    obtain ⟨hlegible, hblock⟩ := legible_of_stops (h.of_suffix hflow.suffix) hflow.stops
      fun t ht htail => ih t.length (by omega) htail rfl
    rw [hflow.pieces, runPiece]
    split
    · exact hlegible
    · next hne => exact ⟨readsBack_run hflow hne, fun _ => hblock, hlegible⟩

/-! ## Layout -/

theorem pieces_layout {s : Text} (h : CommentsEnd s) :
    pieces (tokens (layout s)) = pieces (tokens s) := by
  have hread := ((legible_pieces h).read 0).1
  rw [layout, lines_eq_lineUp]
  rw [laidOut] at hread
  cases hlines : lineUp 0 (pieces (tokens s)) with
  | nil => rwa [hlines] at hread
  | cons line ls =>
    have hfeed : AllBlank ['\n'] := allBlank_cons.2 ⟨rfl, allBlank_nil⟩
    rwa [hlines, flatMap_eq_unlines, pieces_tokens_append hfeed] at hread

/-- Layout is idempotent on a text whose comments end. -/
theorem layout_layout (s : Text) (h : CommentsEnd s) : layout (layout s) = layout s := by
  rw [layout, lines_eq_lineUp, pieces_layout h, ← lines_eq_lineUp, layout]

/-- A stray `<`, a comment, a raw text element with markup in it, a quote and an expression that do
not end, and an element that is not closed. -/
theorem layout_layout_malformed :
    CommentsEnd
      "<ul> a < b <!-- c\n --> <li>x\n y</li><script> </b </script  ><p id=\"q>\x7b\x7b z".toList ∧
    layout (layout
      "<ul> a < b <!-- c\n --> <li>x\n y</li><script> </b </script  ><p id=\"q>\x7b\x7b z".toList) =
    layout
      "<ul> a < b <!-- c\n --> <li>x\n y</li><script> </b </script  ><p id=\"q>\x7b\x7b z".toList :=
  ⟨by decide +kernel, layout_layout _ (by decide +kernel)⟩

end Blockbook.Markup
