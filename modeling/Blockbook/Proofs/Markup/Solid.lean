import Blockbook.Proofs.Markup.Piece

/-!
# Layout keeps the solid characters

Cutting markup into tokens, putting tokens together to pieces and setting pieces in lines change
blanks only.

* `solid_tokens`, `solid_pieces`, `solid_laidOut`: what each step keeps.
* `layout_keeps_solid`: what layout keeps, and which texts it leaves nothing of.
-/

namespace Blockbook.Markup

open Text

/-- The characters of a list of pieces. -/
def sources (ps : List Piece) : Text := ps.flatMap Piece.source

/-- Laid out pieces, each line after a line feed. -/
def laidOut (depth : Nat) (ps : List Piece) : Text := (lineUp depth ps).flatMap ('\n' :: ·)

theorem allBlank_indent (depth : Nat) : AllBlank ('\n' :: indent depth) :=
  allBlank_cons.2 ⟨rfl, allBlank_replicate _⟩

/-! ## Tokens -/

theorem solid_prependText (u : Text) (ts : List Token) :
    solid ((prependText u ts).flatMap Token.inRun) =
      solid u ++ solid (ts.flatMap Token.inRun) := by
  unfold prependText
  split
  · simp only [List.flatMap_cons, Token.inRun, solid_append, reduce_eq, solid_reduceAfter,
      List.append_assoc]
  · by_cases hu : u = []
    · subst hu
      rfl
    · rw [flushText_reverse hu, List.flatMap_append, solid_append]
      simp [Token.inRun, reduce_eq]

theorem solid_tokensAfter {token : Token} {rest : Text}
    (ih : ∀ s : Text, s.length ≤ rest.length → solid ((tokens s).flatMap Token.inRun) = solid s) :
    solid ((tokensAfter token rest).flatMap Token.inRun) = solid rest := by
  cases hr : token.rawName? with
  | none => rw [tokensAfter_of_rawName?_none hr, ih rest (Nat.le_refl _)]
  | some name =>
    rcases hraw : rawContent name rest with ⟨content, close?⟩
    cases close? with
    | none =>
      rw [tokensAfter_open hr hraw, rawContent_open hraw]
      simp [Token.inRun]
    | some found =>
      obtain ⟨close, rest'⟩ := found
      have hlen := length_of_rawContent hraw
      rw [tokensAfter_closed hr hraw, solid_of_rawContent hraw, List.flatMap_cons,
        List.flatMap_cons, solid_append, solid_append, ih rest' (by omega)]
      simp [Token.inRun]

theorem solid_tokens (s : Text) : solid ((tokens s).flatMap Token.inRun) = solid s := by
  induction hn : s.length using Nat.strong_induction_on generalizing s with
  | _ n ih =>
    cases s with
    | nil => rw [tokens_nil]; rfl
    | cons c cs =>
      cases hc : construct? (c :: cs) with
      | none =>
        rw [tokens_of_stray hc, solid_prependText,
          ih cs.length (by rw [← hn]; exact Nat.lt_succ_self _) cs rfl, ← solid_append]
        rfl
      | some found =>
        have hlen := length_of_construct? hc
        rw [tokens_of_construct? hc, List.flatMap_cons, solid_append, solid_of_construct? hc,
          solid_tokensAfter fun t ht => ih t.length (by omega) t rfl]

/-! ## Pieces -/

theorem takeRawText_inRun (ts : List Token) :
    (takeRawText ts).1 ++ (takeRawText ts).2.flatMap Token.inRun = ts.flatMap Token.inRun := by
  unfold takeRawText
  split <;> rfl

theorem takeClosing_inRun (name : Text) (ts : List Token) :
    (takeClosing name ts).1 ++ (takeClosing name ts).2.flatMap Token.inRun =
      ts.flatMap Token.inRun := by
  unfold takeClosing
  split
  · split <;> rfl
  · rfl

theorem solid_runPiece (ts : List Token) :
    solid (sources (runPiece ts)) = solid (ts.flatMap Token.inRun) := by
  have hrun : solid (run ts) = solid (ts.flatMap Token.inRun) := solid_trim _
  rw [← hrun, runPiece]
  split
  · next h =>
    rw [h]
    rfl
  · simp [sources, Piece.source]

theorem solid_sources_cons (p : Piece) (ps : List Piece) :
    solid (sources (p :: ps)) = solid p.source ++ solid (sources ps) := solid_append ..

theorem solid_pieces (ts : List Token) :
    solid (sources (pieces ts)) = solid (ts.flatMap Token.inRun) := by
  fun_induction pieces ts with
  | case1 => rfl
  | case2 token ts hinline ih =>
    rw [sources, List.flatMap_append, solid_append, ← sources, ← sources, ih, solid_runPiece,
      ← solid_append, ← List.flatMap_append, List.cons_append, List.takeWhile_append_dropWhile]
  | case3 ts name tag selfClosing halone hblock ih =>
    rw [solid_sources_cons, ih, ← solid_append]
    rfl
  | case4 ts name tag selfClosing halone hraw content close hblock ih =>
    rw [solid_sources_cons, ih, ← solid_append, Piece.source, List.append_assoc,
      takeClosing_inRun, List.append_assoc, takeRawText_inRun]
    rfl
  | case5 ts name tag selfClosing halone hraw hblock ih =>
    rw [solid_sources_cons, ih, ← solid_append]
    rfl
  | case6 ts name tag hblock ih =>
    rw [solid_sources_cons, ih, ← solid_append]
    rfl
  | case7 ts source hblock ih =>
    rw [solid_sources_cons, ih, ← solid_append]
    rfl
  | case8 ts content hblock ih =>
    rw [solid_sources_cons, ih, ← solid_append]
    rfl
  | case9 ts content hblock ih => exact absurd rfl hblock

/-! ## Lines -/

/-- What an element holds that stays on one line. -/
theorem onlyRun?_cases {name line tag : Text} {ps rest : List Piece}
    (h : onlyRun? name ps = some (line, tag, rest)) :
    ps = .run line :: .closing name tag :: rest ∨ line = [] ∧ ps = .closing name tag :: rest := by
  unfold onlyRun? at h
  split at h
  · split at h
    · next hname =>
      simp only [Option.some.injEq, Prod.mk.injEq] at h
      obtain ⟨rfl, rfl, rfl⟩ := h
      exact .inl (by rw [hname])
    · cases h
  · split at h
    · next hname =>
      simp only [Option.some.injEq, Prod.mk.injEq] at h
      obtain ⟨rfl, rfl, rfl⟩ := h
      exact .inr ⟨rfl, by rw [hname]⟩
    · cases h
  · cases h

theorem sources_of_onlyRun? {name line tag : Text} {ps rest : List Piece}
    (h : onlyRun? name ps = some (line, tag, rest)) :
    sources ps = line ++ (tag ++ sources rest) := by
  obtain rfl | ⟨rfl, rfl⟩ := onlyRun?_cases h
  · simp [sources, Piece.source]
  · simp [sources, Piece.source]

/-- A line of laid out markup adds blanks in front of its characters. -/
theorem solid_line (depth : Nat) (s : Text) : solid ('\n' :: (indent depth ++ s)) = solid s := by
  rw [← List.cons_append, solid_append, (allBlank_indent depth).solid, List.nil_append]

theorem laidOut_nil (depth : Nat) : laidOut depth [] = [] := by
  rw [laidOut, lineUp]
  rfl

theorem solid_laidOut (depth : Nat) (ps : List Piece) :
    solid (laidOut depth ps) = solid (sources ps) := by
  rw [laidOut]
  fun_induction lineUp depth ps with
  | case1 => rfl
  | case2 depth line ps ih =>
    rw [List.flatMap_cons, solid_append, solid_line, ih, solid_sources_cons]
    rfl
  | case3 depth source ps ih =>
    rw [List.flatMap_cons, solid_append, solid_line, ih, solid_sources_cons]
    rfl
  | case4 depth name tag ps ih =>
    rw [List.flatMap_cons, solid_append, solid_line, ih, solid_sources_cons]
    rfl
  | case5 depth name tag ps line endTag rest honly ih =>
    rw [List.flatMap_cons, solid_append, List.append_assoc, List.append_assoc, solid_line, ih,
      solid_sources_cons, sources_of_onlyRun? honly]
    simp [Piece.source]
  | case6 depth name tag ps honly ih =>
    rw [List.flatMap_cons, solid_append, solid_line, ih, solid_sources_cons]
    rfl

/-! ## Layout -/

/-- Lines that each start with a line feed are joined by line feeds. -/
theorem flatMap_eq_unlines (line : Text) (ls : List Text) :
    (line :: ls).flatMap ('\n' :: ·) = ['\n'] ++ unlines (line :: ls) := by
  induction ls generalizing line with
  | nil => simp [unlines]
  | cons next ls ih =>
    rw [List.flatMap_cons, ih, unlines, unlines, List.intercalate_cons_cons]
    simp

theorem solid_unlines (ls : List Text) : solid (unlines ls) = solid (ls.flatMap ('\n' :: ·)) := by
  cases ls with
  | nil => rfl
  | cons line ls =>
    have hfeed : AllBlank ['\n'] := allBlank_cons.2 ⟨rfl, allBlank_nil⟩
    rw [flatMap_eq_unlines, solid_append, hfeed.solid, List.nil_append]

theorem solid_layout (s : Text) : solid (layout s) = solid s := by
  rw [layout, lines_eq_lineUp, solid_unlines, ← laidOut, solid_laidOut, solid_pieces, solid_tokens]

theorem layout_of_allBlank {s : Text} (h : AllBlank s) : layout s = [] := by
  have hpieces : pieces (tokens (s ++ [])) = [] := by
    rw [pieces_tokens_append h, tokens_nil, pieces_nil]
  rw [List.append_nil] at hpieces
  rw [layout, lines_eq_lineUp, hpieces, lineUp]
  rfl

/-- Layout keeps every character that is not blank, in order, and leaves nothing of a text exactly
where the text is blank. -/
theorem layout_keeps_solid (s : Text) :
    solid (layout s) = solid s ∧ (layout s = [] ↔ AllBlank s) := by
  refine ⟨solid_layout s, fun hnil => ?_, layout_of_allBlank⟩
  rw [← solid_eq_nil_iff, ← solid_layout s, hnil, solid_nil]

end Blockbook.Markup
