import Blockbook.Proofs.Markup.Idempotence
import Blockbook.Proofs.Markup.Words

/-!
# What layout changes

Layout moves blanks: it changes those between words, those around constructs, and those in tags that
a tag is shown without. `Respaced` says so construct by construct, whether or not the result is read
back as it was.

* `spread_laidOut`: laid out pieces are their characters with blanks in front of each.
* `respaced_layout`: laid out text is respaced text.
-/

namespace Blockbook.Markup

open Text

/-- The second text shows the constructs of the first and the words between them, and keeps raw
text. The flag tells whether text may stand in front of the first construct. -/
inductive Respaced : Bool → Text → Text → Prop where
  | nil : Respaced false [] []
  | text {u u' y y' : Text} : Inert u y → allWords u = allWords u' → Respaced false y y' →
      Respaced true (u ++ y) (u' ++ y')
  | tag {y rest x : Text} {token : Token} : construct? y = some (token, rest) →
      token.rawName? = none → Respaced true rest x → Respaced false y (token.inRun ++ x)
  | rawElement {y rest name content rest' x : Text} {token close : Token} :
      construct? y = some (token, rest) → token.rawName? = some name →
      rawContent name rest = (content, some (close, rest')) → Respaced true rest' x →
      Respaced false y (token.inRun ++ (content ++ (close.inRun ++ x)))
  | rawRest {y rest name : Text} {token : Token} : construct? y = some (token, rest) →
      token.rawName? = some name → rawContent name rest = (rest, none) →
      Respaced false y (token.inRun ++ rest)

/-- The characters of pieces, with blanks in front of each. -/
inductive Spread : List Piece → Text → Prop where
  | nil : Spread [] []
  | cons {p : Piece} {ps : List Piece} {b x : Text} : AllBlank b → Spread ps x →
      Spread (p :: ps) (b ++ (p.source ++ x))

/-! ## Laid out pieces -/

theorem Spread.line {p : Piece} {ps : List Piece} {x : Text} (h : Spread ps x) (depth : Nat) :
    Spread (p :: ps) ('\n' :: (indent depth ++ p.source) ++ x) := by
  rw [← List.cons_append, List.append_assoc]
  exact .cons (allBlank_indent depth) h

/-- Laid out pieces are their characters with blanks in front of each. -/
theorem spread_laidOut (depth : Nat) (ps : List Piece) : Spread ps (laidOut depth ps) := by
  rw [laidOut]
  fun_induction lineUp depth ps with
  | case1 => exact .nil
  | case2 depth line ps ih => exact ih.line depth
  | case3 depth source ps ih => exact ih.line depth
  | case4 depth name tag ps ih => exact ih.line (depth - 1)
  | case5 depth name tag ps line endTag rest honly ih =>
    have hclose := Spread.cons (p := .closing name endTag) allBlank_nil ih
    have hinner : Spread ps (line ++ (endTag ++ (lineUp depth rest).flatMap ('\n' :: ·))) := by
      obtain rfl | ⟨rfl, rfl⟩ := onlyRun?_cases honly
      · exact .cons (p := .run line) allBlank_nil hclose
      · exact hclose
    have hline := hinner.line (p := .opening name tag) depth
    rw [List.flatMap_cons]
    simpa [Piece.source] using hline
  | case6 depth name tag ps honly ih => exact ih.line depth

/-! ## Blanks in front -/

namespace Respaced

theorem atConstruct {y x : Text} (h : Respaced false y x) : AtConstruct y ∧ AtConstruct x := by
  cases h with
  | nil => exact ⟨.inl rfl, .inl rfl⟩
  | tag hc => exact ⟨.inr ⟨_, _, hc⟩, .inr ⟨_, _, construct?_inRun hc _⟩⟩
  | rawElement hc => exact ⟨.inr ⟨_, _, hc⟩, .inr ⟨_, _, construct?_inRun hc _⟩⟩
  | rawRest hc => exact ⟨.inr ⟨_, _, hc⟩, .inr ⟨_, _, construct?_inRun hc _⟩⟩

/-- Blanks in front of respaced text do not matter. -/
theorem replace_blanks {s x b b' : Text} (h : Respaced true s (b ++ x)) (hb : AllBlank b)
    (hb' : AllBlank b') : Respaced true s (b' ++ x) := by
  generalize hx : b ++ x = z at h
  cases h with
  | @text u u' y y' hinert hwords hy =>
    obtain ⟨a, rfl, rfl⟩ | ⟨a, rfl, rfl⟩ := List.append_eq_append_iff.1 hx
    · have hsame : allWords u = allWords (b' ++ a) := by
        rw [hwords, allWords_append_of_allBlank hb, allWords_append_of_allBlank hb']
      rw [← List.append_assoc]
      exact .text hinert hsame hy
    · have hnil : a = [] := by
        obtain h | ⟨z, h⟩ := hy.atConstruct.2.startsMarkup
        · exact (List.append_eq_nil_iff.1 h).1
        · cases a with
          | nil => rfl
          | cons c a =>
            obtain ⟨rfl, -⟩ := List.cons.inj h
            have hblank := hb '<' (by simp)
            cases hblank
      subst hnil
      rw [List.append_nil] at hb
      exact .text hinert (by rw [hwords, allWords_of_allBlank hb, allWords_of_allBlank hb']) hy

end Respaced

/-! ## Laid out text -/

/-- The tokens of the run that a text starts with. -/
def runTokens (s : Text) : List Token := (tokens s).takeWhile Token.isInline

/-- The pieces after the run that a text starts with. -/
def piecesAfterRun (s : Text) : List Piece := pieces ((tokens s).dropWhile Token.isInline)

/-- What a text is shown as from its first run on is respaced text. -/
def RunRespaced (s : Text) : Prop :=
  ∀ x, Spread (piecesAfterRun s) x →
    Respaced true s (trimEnd ((runTokens s).flatMap Token.inRun) ++ x)

theorem RunRespaced.spread {s x : Text} (h : RunRespaced s) (hx : Spread (pieces (tokens s)) x) :
    Respaced true s x := by
  obtain ⟨front, hfront, hrun⟩ := exists_trimStart (trimEnd ((runTokens s).flatMap Token.inRun))
  rw [← trim_eq_trimStart_trimEnd, ← run] at hrun
  rw [pieces_split, ← runTokens, ← piecesAfterRun, runPiece] at hx
  split at hx
  · next hnil =>
    have hs := h x hx
    rw [hrun, hnil, List.append_nil] at hs
    exact hs.replace_blanks hfront allBlank_nil
  · cases hx with
    | @cons _ _ b x hb hx =>
      have hs := h x hx
      rw [hrun, List.append_assoc] at hs
      exact hs.replace_blanks hfront hb

/-- A construct outside runs is respaced if all that is shorter is. -/
theorem respaced_block {y rest x : Text} {token : Token} (hc : construct? y = some (token, rest))
    (hblock : token.isInline = false) (hx : Spread (pieces (tokens y)) x)
    (ih : ∀ t : Text, t.length < y.length → RunRespaced t) :
    ∃ b z, AllBlank b ∧ x = b ++ z ∧ Respaced false y z := by
  have hlen := length_of_construct? hc
  rw [tokens_of_construct? hc] at hx
  cases hraw : token.rawName? with
  | none =>
    obtain ⟨p, -, hsource, hp⟩ := exists_piece hblock hraw
    rw [tokensAfter_of_rawName?_none hraw, hp] at hx
    cases hx with
    | cons hb hx =>
      refine ⟨_, _, hb, rfl, ?_⟩
      rw [hsource]
      exact .tag hc hraw ((ih rest hlen).spread hx)
  | some name =>
    obtain ⟨tag, rfl, hname⟩ := exists_rawOpening hraw
    rcases hcontent : rawContent name rest with ⟨content, close?⟩
    cases close? with
    | none =>
      obtain rfl := rawContent_open hcontent
      rw [tokensAfter_open hraw hcontent, (pieces_rawElement hname tag content).1] at hx
      cases hx with
      | cons hb hx =>
        cases hx with
        | nil =>
          refine ⟨_, _, hb, rfl, ?_⟩
          rw [List.append_nil]
          exact .rawRest hc hraw hcontent
    | some found =>
      obtain ⟨close, rest'⟩ := found
      obtain ⟨endTag, rfl⟩ := closing_of_rawContent (letterName_of_rawName? hraw) hcontent
      rw [tokensAfter_closed hraw hcontent, (pieces_rawElement hname tag content).2] at hx
      cases hx with
      | cons hb hx =>
        have hrest := (ih rest' ((length_of_rawContent hcontent).trans hlen)).spread hx
        refine ⟨_, _, hb, rfl, ?_⟩
        rw [Piece.source, List.append_assoc, List.append_assoc]
        exact .rawElement hc hraw hcontent hrest

theorem allWords_shownText {b : Text} (hb : AllBlank b) (u : Text) :
    allWords u = allWords (trimEnd (reduce [] u) ++ b) := by
  rw [allWords_append_blank hb, allWords_trimEnd, allWords_reduce]

theorem runRespaced (s : Text) : RunRespaced s := by
  induction hn : s.length using Nat.strong_induction_on generalizing s with
  | _ n ih =>
    obtain ⟨u, y, rfl, hinert, hy⟩ := exists_inert s
    have hinline : ∀ token ∈ flushText u.reverse, token.isInline = true :=
      fun token => isInline_of_mem_flushText
    intro x hx
    rw [piecesAfterRun, hinert.tokens hy, List.dropWhile_append_of_pos hinline] at hx
    rw [runTokens, hinert.tokens hy, List.takeWhile_append_of_pos hinline, List.flatMap_append,
      flatMap_flushText]
    obtain rfl | ⟨token, rest, hc⟩ := hy
    · rw [tokens_nil, List.dropWhile_nil, pieces_nil] at hx
      cases hx with
      | nil =>
        rw [tokens_nil, List.takeWhile_nil, List.flatMap_nil, List.append_nil (reduce [] u)]
        exact .text hinert (by simpa using allWords_shownText allBlank_nil u) .nil
    have hlen := length_of_construct? hc
    rw [List.length_append] at hn
    by_cases hin : token.isInline = true
    · have hraw := rawName?_of_isInline hin
      rw [tokens_of_construct? hc, tokensAfter_of_rawName?_none hraw,
        List.dropWhile_cons_of_pos hin] at hx
      have hrest := ih rest.length (by omega) rest rfl x hx
      rw [tokens_of_construct? hc, tokensAfter_of_rawName?_none hraw,
        List.takeWhile_cons_of_pos hin, List.flatMap_cons, ← runTokens, trimEnd_append_inRun hc,
        List.append_assoc, List.append_assoc]
      exact .text hinert (allWords_reduce u).symm (.tag hc hraw hrest)
    · have hstop : Stops y := .inr ⟨token, rest, hc, by simpa using hin⟩
      rw [hstop.takeWhile.2] at hx
      obtain ⟨b, z, hb, rfl, hz⟩ := respaced_block hc (by simpa using hin) hx fun t ht =>
        ih t.length (by omega) t rfl
      rw [hstop.takeWhile.1, List.flatMap_nil, List.append_nil, ← List.append_assoc]
      exact .text hinert (allWords_shownText hb u) hz

/-- Laid out text is respaced text. -/
theorem respaced_layout (s : Text) : Respaced true s (layout s) := by
  have hspread := (runRespaced s).spread (spread_laidOut 0 (pieces (tokens s)))
  rw [layout, lines_eq_lineUp]
  rw [laidOut] at hspread
  cases hlines : lineUp 0 (pieces (tokens s)) with
  | nil => rwa [hlines] at hspread
  | cons line ls =>
    have hfeed : AllBlank ['\n'] := allBlank_cons.2 ⟨rfl, allBlank_nil⟩
    rw [hlines, flatMap_eq_unlines] at hspread
    exact hspread.replace_blanks hfeed allBlank_nil

end Blockbook.Markup
