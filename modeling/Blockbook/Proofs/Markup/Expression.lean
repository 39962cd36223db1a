import Blockbook.Proofs.Markup.Run

/-!
# Expressions in double braces

Text keeps its expressions character for character while its other blanks are reduced. Markup is
read before text is, so this protects an expression only where no construct starts inside it: in
`{{ i<n && n>0 }}` layout sees a tag and breaks the line around it.

* `layout_of_inert`: text without constructs is laid out as one reduced line.
* `reduce_expression`: an expression is not changed by reducing.
* `layout_expression`: an expression in which no construct starts is kept.
-/

namespace Blockbook.Markup

open Text

/-- An expression with its braces. -/
def expression (inner : Text) : Text := ['{', '{'] ++ inner ++ ['}', '}']

/-! ## Text without constructs -/

theorem lineUp_runPiece (ts : List Token) : unlines (lineUp 0 (runPiece ts)) = run ts := by
  unfold runPiece
  split
  · next h =>
    rw [lineUp, h]
    rfl
  · rw [lineUp, lineUp]
    simp [unlines, indent]

/-- Text in which no construct starts is laid out as one reduced line. -/
theorem layout_of_inert {s : Text} (h : Inert s []) : layout s = trim (reduce [] s) := by
  have htokens := h.tokens (.inl rfl)
  have hinline : ∀ token ∈ flushText s.reverse, token.isInline = true :=
    fun token => isInline_of_mem_flushText
  rw [List.append_nil, tokens_nil, List.append_nil] at htokens
  rw [layout, lines_eq_lineUp, htokens, pieces_split, List.takeWhile_eq_self_iff.2 hinline,
    List.dropWhile_eq_nil_iff.2 hinline, pieces_nil, List.append_nil, lineUp_runPiece, run,
    flatMap_flushText]

/-! ## Reducing -/

/-- An expression ends where its closing braces are written, or one character earlier where a brace
stands in front of them. -/
theorem breakOn?_braces {inner : Text} (h : ¬['}', '}'] <:+: inner) :
    ∃ front back, breakOn? ['}', '}'] (inner ++ ['}', '}']) = some (front, back) ∧
      (back = [] ∨ back = ['}']) := by
  by_cases hlast : ['}'] <:+ inner
  · obtain ⟨front, rfl⟩ := hlast
    have hclosed : ¬['}'] ++ ['}'] <:+: front ++ ['}'] := h
    have hb := breakOn?_concat hclosed ['}']
    exact ⟨front, ['}'], by simpa using hb, .inr rfl⟩
  · have hclosed : ¬['}'] ++ ['}'] <:+: inner ++ ['}'] := by
      intro hmark
      obtain hmark | hmark | ⟨l, r, hlr, hl, hr, hsuffix, -⟩ := infix_append_cases hmark
      · exact h hmark
      · simpa using hmark.length_le
      · obtain ⟨c, l, rfl⟩ := List.exists_cons_of_ne_nil hl
        obtain ⟨d, r, rfl⟩ := List.exists_cons_of_ne_nil hr
        obtain ⟨rfl, hlr⟩ : '}' = c ∧ ['}'] = l ++ d :: r := by simpa using hlr
        have hnil : l = [] := by
          have := congrArg List.length hlr
          simp only [List.length_append, List.length_cons, List.length_nil] at this
          exact List.eq_nil_of_length_eq_zero (by omega)
        exact hlast (hnil ▸ hsuffix)
    have hb := breakOn?_concat hclosed []
    exact ⟨inner, [], by simpa using hb, .inl rfl⟩

theorem reduce_expression {inner : Text} (h : ¬['}', '}'] <:+: inner) :
    reduce [] (expression inner) = expression inner := by
  obtain ⟨front, back, hb, hback⟩ := breakOn?_braces h
  have hinner : inner ++ ['}', '}'] = front ++ (['}', '}'] ++ back) := by
    rw [eq_of_breakOn? hb, List.append_assoc]
  have hsource : expression inner = ['{', '{'] ++ front ++ ['}', '}'] ++ back := by
    rw [expression, List.append_assoc, hinner]
    simp
  have hrest : reduceAfter false back = back := by
    obtain rfl | rfl := hback
    · exact reduceAfter_nil false
    · rw [reduceAfter_of_solid rfl (by decide), reduceAfter_nil]
      rfl
  rw [hinner] at hb
  rw [hsource, reduce_eq, reduceAfter_of_expression (expression?_closed hb back), hrest]
  rfl

theorem trim_expression (inner : Text) : trim (expression inner) = expression inner := by
  have hlast : expression inner = ['{', '{'] ++ inner ++ ['}'] ++ ['}'] := by simp [expression]
  have htrim : trimEnd (expression inner) = expression inner := by
    rw [hlast]
    exact trimEnd_of_last_not_blank rfl _
  rw [trim, show trimStart (expression inner) = _ from trimStart_of_not_blank rfl _]
  exact htrim

/-- An expression in which no construct starts is kept character for character. -/
theorem layout_expression (inner : Text) (h : ¬['}', '}'] <:+: inner)
    (hinert : Inert inner ['}', '}']) : layout (expression inner) = expression inner := by
  have hnone : Inert (expression inner) [] := by
    intro v hv
    rw [List.append_nil]
    obtain hv | ⟨a, ha, rfl⟩ := suffix_append_cases hv
    · exact absurd (hv.subset (by simp)) (by decide : '<' ∉ ['}', '}'])
    · obtain ha | ⟨b, hb, -⟩ := suffix_append_cases ha
      · exact hinert a ha
      · exact absurd (hb.subset (by simp)) (by decide : '<' ∉ ['{', '{'])
  rw [layout_of_inert hnone, reduce_expression h, trim_expression]

/-- A comparison with a blank behind it is no construct. -/
theorem layout_expression_comparison :
    let inner := [' ', 'a', ' ', ' ', '<', '\n', 'b', '}']
    ¬['}', '}'] <:+: inner ∧ Inert inner ['}', '}'] ∧
      layout (expression inner) = "\x7b\x7b a  <\nb\x7d\x7d\x7d".toList := by
  intro inner
  have hclosed : ¬['}', '}'] <:+: inner := by decide
  have hinert : Inert inner ['}', '}'] := by
    intro v hv
    obtain rfl : v = ['\n', 'b', '}'] := by simpa [inner, List.suffix_cons_iff] using hv
    decide
  exact ⟨hclosed, hinert, layout_expression inner hclosed hinert⟩

/-- A comparison without blanks is read as a tag, and the expression is broken up. -/
theorem layout_breaks_expression :
    layout (expression " i<n && n>0 ".toList) = "\x7b\x7b i\n<n && n>\n  0 \x7d\x7d".toList ∧
      ¬['}', '}'] <:+: " i<n && n>0 ".toList := by
  decide +kernel

end Blockbook.Markup
