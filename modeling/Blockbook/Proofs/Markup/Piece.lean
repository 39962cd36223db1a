import Blockbook.Proofs.Markup.RawText

/-!
# Layout in two steps

Layout first puts tokens together to pieces: runs, tags that change the indentation, and all else
that takes a line of its own. Then it sets the pieces in lines. Blanks around a run are lost in the
first step, so that the second depends on the pieces only.

* `lines_eq_lineUp`: the two steps are the layout.
* `pieces_tokens_append`: blanks in front of a text do not matter to its pieces.
-/

namespace Blockbook.Markup

open Text

/-- A part of a line of laid out markup. -/
inductive Piece where
  /-- Text and elements in its flow. -/
  | run (line : Text)
  /-- What stands on a line of its own. -/
  | whole (source : Text)
  /-- A tag whose element may go on over several lines. -/
  | opening (name tag : Text)
  | closing (name tag : Text)
deriving DecidableEq, Repr

namespace Piece

/-- The characters of a piece. -/
def source : Piece → Text
  | .run line => line
  | .whole source => source
  | .opening _ tag => tag
  | .closing _ tag => tag

def isRun : Piece → Bool
  | .run _ => true
  | _ => false

end Piece

/-- The piece of a run of tokens; a run of blanks is none. -/
def runPiece (ts : List Token) : List Piece := if run ts = [] then [] else [.run (run ts)]

/-- The pieces of a list of tokens. -/
def pieces (ts : List Token) : List Piece :=
  match ts with
  | [] => []
  | token :: ts =>
    if token.isInline then
      runPiece (token :: ts.takeWhile Token.isInline) ++ pieces (ts.dropWhile Token.isInline)
    else
      match token with
      | .opening name tag selfClosing =>
        if selfClosing || isVoid name then .whole tag :: pieces ts
        else if isRawText name then
          let content := takeRawText ts
          let close := takeClosing name content.2
          .whole (tag ++ content.1 ++ close.1) :: pieces close.2
        else .opening name tag :: pieces ts
      | .closing name tag => .closing name tag :: pieces ts
      | .verbatim source => .whole source :: pieces ts
      | .rawText content => .whole content :: pieces ts
      | .text content => .whole content :: pieces ts
termination_by ts.length
decreasing_by
  all_goals simp only [List.length_cons]
  · have := length_dropWhile_le Token.isInline ts
    omega
  · omega
  · have h₁ := length_takeRawText ts
    have h₂ := length_takeClosing name (takeRawText ts).2
    omega
  all_goals omega

/-- The run and the closing tag that follow a tag, if its element holds nothing else. -/
def onlyRun? (name : Text) : List Piece → Option (Text × Text × List Piece)
  | .run line :: .closing closed tag :: ps => if closed = name then some (line, tag, ps) else none
  | .closing closed tag :: ps => if closed = name then some ([], tag, ps) else none
  | _ => none

theorem length_of_onlyRun? {name line tag : Text} {ps rest : List Piece}
    (h : onlyRun? name ps = some (line, tag, rest)) : rest.length < ps.length := by
  unfold onlyRun? at h
  split at h
  · split at h
    · simp only [Option.some.injEq, Prod.mk.injEq] at h
      obtain ⟨-, -, rfl⟩ := h
      simp only [List.length_cons]
      omega
    · cases h
  · split at h
    · simp only [Option.some.injEq, Prod.mk.injEq] at h
      obtain ⟨-, -, rfl⟩ := h
      simp
    · cases h
  · cases h

/-- The lines of a list of pieces inside `depth` open elements. -/
def lineUp (depth : Nat) (ps : List Piece) : List Text :=
  match ps with
  | [] => []
  | .run line :: ps => (indent depth ++ line) :: lineUp depth ps
  | .whole source :: ps => (indent depth ++ source) :: lineUp depth ps
  | .closing _ tag :: ps => (indent (depth - 1) ++ tag) :: lineUp (depth - 1) ps
  | .opening name tag :: ps =>
    match _h : onlyRun? name ps with
    | some (line, endTag, rest) =>
      (indent depth ++ tag ++ line ++ endTag) :: lineUp depth rest
    | none => (indent depth ++ tag) :: lineUp (depth + 1) ps
termination_by ps.length
decreasing_by
  all_goals simp only [List.length_cons]
  · omega
  · omega
  · omega
  · have := length_of_onlyRun? ‹_›
    omega
  · omega

/-! ## Pieces of tokens -/

theorem pieces_nil : pieces [] = [] := by
  rw [pieces]

theorem pieces_of_inline {token : Token} (h : token.isInline = true) (ts : List Token) :
    pieces (token :: ts) = runPiece (token :: ts.takeWhile Token.isInline) ++
      pieces (ts.dropWhile Token.isInline) := by
  rw [pieces.eq_def]
  exact if_pos h

theorem pieces_closing {name : Text} (h : isInlineElement name = false) (tag : Text)
    (ts : List Token) : pieces (.closing name tag :: ts) = .closing name tag :: pieces ts := by
  rw [pieces.eq_def]
  simp [Token.isInline, h]

theorem pieces_verbatim (source : Text) (ts : List Token) :
    pieces (.verbatim source :: ts) = .whole source :: pieces ts := by
  rw [pieces.eq_def]
  simp [Token.isInline]

theorem pieces_rawText (content : Text) (ts : List Token) :
    pieces (.rawText content :: ts) = .whole content :: pieces ts := by
  rw [pieces.eq_def]
  simp [Token.isInline]

theorem pieces_opening_alone {name : Text} {selfClosing : Bool} (h : isInlineElement name = false)
    (halone : (selfClosing || isVoid name) = true) (tag : Text) (ts : List Token) :
    pieces (.opening name tag selfClosing :: ts) = .whole tag :: pieces ts := by
  rw [pieces.eq_def]
  simp only [Token.isInline, h, Bool.false_eq_true, ↓reduceIte, halone]

theorem pieces_opening_raw {name : Text} {selfClosing : Bool} (h : isInlineElement name = false)
    (halone : ¬(selfClosing || isVoid name) = true) (hraw : isRawText name = true) (tag : Text)
    (ts : List Token) :
    pieces (.opening name tag selfClosing :: ts) =
      .whole (tag ++ (takeRawText ts).1 ++ (takeClosing name (takeRawText ts).2).1) ::
        pieces (takeClosing name (takeRawText ts).2).2 := by
  rw [pieces.eq_def]
  simp only [Token.isInline, h, Bool.false_eq_true, ↓reduceIte, halone, hraw]

theorem pieces_opening {name : Text} {selfClosing : Bool} (h : isInlineElement name = false)
    (halone : ¬(selfClosing || isVoid name) = true) (hraw : ¬isRawText name = true) (tag : Text)
    (ts : List Token) :
    pieces (.opening name tag selfClosing :: ts) = .opening name tag :: pieces ts := by
  rw [pieces.eq_def]
  simp only [Token.isInline, h, Bool.false_eq_true, ↓reduceIte, halone, hraw]

/-- The pieces of tokens are the piece of the run in front and the pieces of what follows it. -/
theorem pieces_split (ts : List Token) :
    pieces ts = runPiece (ts.takeWhile Token.isInline) ++ pieces (ts.dropWhile Token.isInline) := by
  cases ts with
  | nil => rfl
  | cons token ts =>
    by_cases h : token.isInline = true
    · rw [pieces_of_inline h, List.takeWhile_cons_of_pos h, List.dropWhile_cons_of_pos h]
    · rw [List.takeWhile_cons_of_neg h, List.dropWhile_cons_of_neg h]
      rfl

theorem lineUp_opening_only {name tag line endTag : Text} {ps rest : List Piece}
    (h : onlyRun? name ps = some (line, endTag, rest)) (depth : Nat) :
    lineUp depth (.opening name tag :: ps) =
      (indent depth ++ tag ++ line ++ endTag) :: lineUp depth rest := by
  rw [lineUp]
  split
  · next h' =>
    rw [h] at h'
    simp only [Option.some.injEq, Prod.mk.injEq] at h'
    obtain ⟨rfl, rfl, rfl⟩ := h'
    rfl
  · next h' =>
    rw [h] at h'
    cases h'

theorem lineUp_opening {name tag : Text} {ps : List Piece} (h : onlyRun? name ps = none)
    (depth : Nat) :
    lineUp depth (.opening name tag :: ps) = (indent depth ++ tag) :: lineUp (depth + 1) ps := by
  rw [lineUp]
  split
  · next h' =>
    rw [h] at h'
    cases h'
  · rfl

/-- Whether a closing tag comes right after a run is seen in the pieces. -/
theorem onlyRun?_pieces {ts rest : List Token} {name closed tag : Text}
    (h : ts.dropWhile Token.isInline = .closing closed tag :: rest) :
    onlyRun? name (pieces ts) =
      if closed = name then some (run (ts.takeWhile Token.isInline), tag, pieces rest)
      else none := by
  have hblock : isInlineElement closed = false := by
    have := List.head?_dropWhile_not Token.isInline ts
    rw [h] at this
    simpa [Token.isInline] using this
  rw [pieces_split, h, pieces_closing hblock, runPiece]
  split
  · next hrun => rw [hrun, List.nil_append, onlyRun?]
  · rw [List.singleton_append, onlyRun?]

theorem onlyRun?_of_ne {name : Text} {p : Piece} (hrun : p.isRun = false)
    (hclosing : ∀ closed tag, p ≠ .closing closed tag) (ps : List Piece) :
    onlyRun? name (p :: ps) = none := by
  cases p with
  | run line => cases hrun
  | whole source => rfl
  | opening name tag => rfl
  | closing name tag => exact absurd rfl (hclosing name tag)

theorem onlyRun?_run_of_ne {name : Text} {p : Piece}
    (hclosing : ∀ closed tag, p ≠ .closing closed tag) (line : Text) (ps : List Piece) :
    onlyRun? name (.run line :: p :: ps) = none := by
  cases p with
  | run line => rfl
  | whole source => rfl
  | opening name tag => rfl
  | closing name tag => exact absurd rfl (hclosing name tag)

/-- A token outside runs makes a piece of its own kind. -/
theorem exists_pieces_of_block {token : Token} (h : token.isInline = false) (ts : List Token) :
    ∃ p ps, pieces (token :: ts) = p :: ps ∧ p.isRun = false ∧
      ((∀ closed tag, token ≠ .closing closed tag) → ∀ closed tag, p ≠ .closing closed tag) := by
  cases token with
  | opening name tag selfClosing =>
    by_cases halone : (selfClosing || isVoid name) = true
    · exact ⟨_, _, pieces_opening_alone h halone tag ts, rfl, by simp⟩
    · by_cases hraw : isRawText name = true
      · exact ⟨_, _, pieces_opening_raw h halone hraw tag ts, rfl, by simp⟩
      · exact ⟨_, _, pieces_opening h halone hraw tag ts, rfl, by simp⟩
  | closing name tag =>
    exact ⟨_, _, pieces_closing h tag ts, rfl, fun hne => absurd rfl (hne name tag)⟩
  | verbatim source => exact ⟨_, _, pieces_verbatim source ts, rfl, by simp⟩
  | rawText content => exact ⟨_, _, pieces_rawText content ts, rfl, by simp⟩
  | text content => cases h

theorem onlyRun?_pieces_none {ts : List Token} (name : Text)
    (h : ∀ closed tag rest, ts.dropWhile Token.isInline ≠ .closing closed tag :: rest) :
    onlyRun? name (pieces ts) = none := by
  rw [pieces_split, runPiece]
  cases hdrop : ts.dropWhile Token.isInline with
  | nil =>
    rw [pieces_nil]
    split <;> rfl
  | cons token rest =>
    have hblock : token.isInline = false := by
      have := List.head?_dropWhile_not Token.isInline ts
      rw [hdrop] at this
      simpa using this
    obtain ⟨p, ps, hp, hrun, hclosing⟩ := exists_pieces_of_block hblock rest
    have hne : ∀ closed tag, p ≠ .closing closed tag := by
      refine hclosing ?_
      rintro closed tag rfl
      exact h closed tag rest hdrop
    rw [hp]
    split
    · exact onlyRun?_of_ne hrun hne ps
    · exact onlyRun?_run_of_ne hne _ ps

/-- Layout is setting pieces in lines. -/
theorem lines_eq_lineUp (depth : Nat) (ts : List Token) :
    lines depth ts = lineUp depth (pieces ts) := by
  fun_induction lines depth ts with
  | case1 depth => rw [pieces_nil, lineUp]
  | case2 depth token ts hinline line rest hline ih =>
    rw [pieces_of_inline hinline, runPiece, if_pos hline]
    exact ih
  | case3 depth token ts hinline line rest hline ih =>
    rw [pieces_of_inline hinline, runPiece, if_neg hline, List.singleton_append, lineUp]
    exact congrArg _ ih
  | case4 depth ts name tag selfClosing halone hblock ih =>
    rw [pieces_opening_alone (by simpa [Token.isInline] using hblock) halone, lineUp, ih]
  | case5 depth ts name tag selfClosing halone hraw content close hblock ih =>
    rw [pieces_opening_raw (by simpa [Token.isInline] using hblock) halone hraw, lineUp]
    simp only [List.append_assoc]
    exact congrArg _ ih
  | case6 depth ts tag selfClosing closed endTag rest hrest halone hraw hblock ih =>
    have honly : onlyRun? closed (pieces ts) = _ := onlyRun?_pieces hrest
    rw [if_pos rfl] at honly
    rw [pieces_opening (by simpa [Token.isInline] using hblock) halone hraw,
      lineUp_opening_only honly, ih]
  | case7 depth ts name tag selfClosing halone hraw closed endTag rest hrest hne hblock ih =>
    have honly : onlyRun? name (pieces ts) = _ := onlyRun?_pieces hrest
    rw [if_neg hne] at honly
    rw [pieces_opening (by simpa [Token.isInline] using hblock) halone hraw, lineUp_opening honly,
      ih]
  | case8 depth ts name tag selfClosing halone hraw hrest hblock ih =>
    rw [pieces_opening (by simpa [Token.isInline] using hblock) halone hraw,
      lineUp_opening (onlyRun?_pieces_none name hrest), ih]
  | case9 depth ts name tag hblock ih =>
    rw [pieces_closing (by simpa [Token.isInline] using hblock), lineUp, ih]
  | case10 depth ts source hblock ih => rw [pieces_verbatim, lineUp, ih]
  | case11 depth ts content hblock ih => rw [pieces_rawText, lineUp, ih]
  | case12 depth ts content hblock ih => exact absurd rfl hblock

/-! ## Blanks in front -/

theorem run_text_append {b : Text} (h : AllBlank b) (v : Text) (ts : List Token) :
    run (.text (b ++ v) :: ts) = trim (reduce [] v ++ ts.flatMap Token.inRun) := by
  rw [run, List.flatMap_cons, trim, Token.inRun, trimStart_reduce_append h, trim]

/-- Blanks in front of tokens do not matter to the run in front, nor to what follows it. -/
theorem prependText_split {b : Text} (h : AllBlank b) (ts : List Token) :
    run ((prependText b ts).takeWhile Token.isInline) = run (ts.takeWhile Token.isInline) ∧
      (prependText b ts).dropWhile Token.isInline = ts.dropWhile Token.isInline := by
  by_cases hb : b = []
  · rw [hb, prependText_nil]
    exact ⟨rfl, rfl⟩
  · unfold prependText
    split
    · next v ts =>
      refine ⟨?_, rfl⟩
      exact (run_text_append h v _).trans (run_text_append allBlank_nil v _).symm
    · rw [flushText_reverse hb, List.singleton_append]
      refine ⟨?_, rfl⟩
      have := run_text_append h [] (ts.takeWhile Token.isInline)
      rw [List.append_nil, reduce_eq, reduceAfter_nil] at this
      exact this

theorem pieces_prependText {b : Text} (h : AllBlank b) (ts : List Token) :
    pieces (prependText b ts) = pieces ts := by
  obtain ⟨hrun, hdrop⟩ := prependText_split h ts
  rw [pieces_split, pieces_split ts, runPiece, runPiece, hrun, hdrop]

theorem tokens_append_of_allBlank {b : Text} (h : AllBlank b) (x : Text) :
    tokens (b ++ x) = prependText b (tokens x) := by
  refine tokens_append_of_stray ?_
  intro v hv
  have := h '<' (hv.subset (by simp))
  cases this

/-- Blanks in front of a text do not matter to its pieces. -/
theorem pieces_tokens_append {b : Text} (h : AllBlank b) (x : Text) :
    pieces (tokens (b ++ x)) = pieces (tokens x) := by
  rw [tokens_append_of_allBlank h, pieces_prependText h]

end Blockbook.Markup
