import Blockbook.Proofs.Markup.Construct

/-!
# Reduced text

Text in a run has its blanks reduced outside expressions. Doing it again changes nothing, blanks at
the ends only show at the ends, and a `<` in the reduced text has the same word and the same solid
characters after it as in the text it comes from.

* `reduce_reduce`: reducing twice is reducing once.
* `trimEnd_reduce_append`, `trimStart_reduce_append`: blanks at the ends.
* `Echoes.reduce`: reduced text echoes the text it comes from.
-/

namespace Blockbook.Markup

open Text

/-- The space that stands for a gap. -/
def space (gap : Bool) : Text := if gap then [' '] else []

/-- Reduced text, with a gap of blanks before it or not. -/
def reduceAfter (gap : Bool) (s : Text) : Text :=
  match s with
  | [] => space gap
  | c :: cs =>
    match _h : expression? (c :: cs) with
    | none => if isBlank c then reduceAfter true cs else space gap ++ c :: reduceAfter false cs
    | some (expression, rest) => space gap ++ expression ++ reduceAfter false rest
termination_by s.length
decreasing_by
  · simp
  · simp
  · exact length_of_expression? ‹_›

/-! ## Expressions -/

theorem expression?_eq_none_iff {s : Text} : expression? s = none ↔ ¬['{', '{'] <+: s := by
  constructor
  · rintro h ⟨r, rfl⟩
    simp only [List.cons_append, List.nil_append, expression?] at h
    split at h <;> cases h
  · intro h
    unfold expression?
    split
    · next r => exact absurd ⟨r, rfl⟩ h
    · rfl

/-- An expression ends at its first closing braces, or takes all there is. -/
theorem expression?_cases {s expression rest : Text} (h : expression? s = some (expression, rest)) :
    (∃ inner, expression = ['{', '{'] ++ inner ++ ['}', '}'] ∧ s = expression ++ rest ∧
      breakOn? ['}', '}'] (inner ++ (['}', '}'] ++ rest)) = some (inner, rest)) ∨
    ∃ inner, s = ['{', '{'] ++ inner ∧ expression = s ∧ rest = [] ∧ ¬['}', '}'] <:+: inner := by
  unfold expression? at h
  split at h
  · next r =>
    split at h
    · next inner rest' hb =>
      obtain ⟨rfl, rfl⟩ : _ = expression ∧ rest' = rest := by simpa using h
      refine .inl ⟨inner, rfl, ?_, breakOn?_append hb rest'⟩
      rw [eq_of_breakOn? hb]
      simp
    · next hb =>
      obtain ⟨rfl, rfl⟩ : _ = expression ∧ [] = rest := by simpa using h
      exact .inr ⟨r, rfl, rfl, rfl, breakOn?_eq_none_iff.1 hb⟩
  · cases h

theorem expression?_closed {inner rest : Text}
    (h : breakOn? ['}', '}'] (inner ++ (['}', '}'] ++ rest)) = some (inner, rest)) (x : Text) :
    expression? (['{', '{'] ++ inner ++ ['}', '}'] ++ x) =
      some (['{', '{'] ++ inner ++ ['}', '}'], x) := by
  have hx := breakOn?_append h x
  have hs : ['{', '{'] ++ inner ++ ['}', '}'] ++ x =
      '{' :: '{' :: (inner ++ (['}', '}'] ++ x)) := by
    simp
  rw [hs]
  simp only [expression?, hx]

theorem expression?_open {inner : Text} (h : ¬['}', '}'] <:+: inner) :
    expression? (['{', '{'] ++ inner) = some (['{', '{'] ++ inner, []) := by
  have hb := breakOn?_eq_none_iff.2 h
  simp only [List.cons_append, List.nil_append, expression?, hb]

theorem expression?_of_blank {c : Char} (h : isBlank c = true) (s : Text) :
    expression? (c :: s) = none := by
  rw [expression?_eq_none_iff, List.cons_prefix_cons]
  rintro ⟨rfl, -⟩
  cases h

/-- Blanks do not close an expression. -/
theorem not_closed_append {inner b : Text} (h : ¬['}', '}'] <:+: inner) (hb : AllBlank b) :
    ¬['}', '}'] <:+: inner ++ b := by
  rintro ⟨before, after, he⟩
  obtain ⟨a, hinner, -⟩ | ⟨a, hinner, rfl⟩ := List.append_eq_append_iff.1 he
  · exact h ⟨before, a, hinner.symm⟩
  · by_cases ha : a = []
    · rw [ha, List.append_nil] at hinner
      exact h ⟨before, [], by rw [← hinner, List.append_nil]⟩
    · have hlast : a.getLast? = some '}' := by
        rw [← List.getLast?_append_of_ne_nil inner ha, ← hinner]
        simp
      have hblank := hb '}' (List.mem_append_left _ (List.mem_of_getLast? hlast))
      cases hblank

/-! ## One recursion -/

theorem reduceAfter_nil (gap : Bool) : reduceAfter gap [] = space gap := by
  rw [reduceAfter]

theorem reduceAfter_of_blank {c : Char} (h : isBlank c = true) (gap : Bool) (cs : Text) :
    reduceAfter gap (c :: cs) = reduceAfter true cs := by
  rw [reduceAfter]
  split
  · rw [if_pos h]
  · next he =>
    rw [expression?_of_blank h] at he
    cases he

theorem reduceAfter_of_solid {c : Char} {cs : Text} (h : isBlank c = false)
    (he : ¬['{', '{'] <+: c :: cs) (gap : Bool) :
    reduceAfter gap (c :: cs) = space gap ++ c :: reduceAfter false cs := by
  rw [reduceAfter]
  split
  · rw [if_neg (by simp [h])]
  · next he' =>
    rw [expression?_eq_none_iff.2 he] at he'
    cases he'

theorem reduceAfter_of_expression {s expression rest : Text}
    (h : expression? s = some (expression, rest)) (gap : Bool) :
    reduceAfter gap s = space gap ++ expression ++ reduceAfter false rest := by
  cases s with
  | nil => cases h
  | cons c cs =>
    rw [reduceAfter]
    split
    · next he =>
      rw [h] at he
      cases he
    · next he =>
      rw [h] at he
      obtain ⟨rfl, rfl⟩ : _ = _ ∧ _ = _ := by simpa using he
      rfl

/-- Reducing text that has been collected so far is reducing what follows, after what the collected
text comes down to. -/
theorem reduce_eq_reduceAfter {pending s done : Text} {gap : Bool}
    (h : ∀ r, collapse false (pending.reverse ++ r) = done ++ collapse gap r) :
    reduce pending s = done ++ reduceAfter gap s := by
  fun_induction reduce pending s generalizing done gap with
  | case1 pending =>
    rw [reduceAfter_nil]
    simpa [collapse, space] using h []
  | case2 pending c cs he ih =>
    rw [expression?_eq_none_iff] at he
    by_cases hc : isBlank c = true
    · rw [reduceAfter_of_blank hc]
      refine ih fun r => ?_
      have := h (c :: r)
      simpa [collapse, hc] using this
    · have hc' : isBlank c = false := by simpa using hc
      have hdone : done ++ (space gap ++ c :: reduceAfter false cs) =
          done ++ space gap ++ [c] ++ reduceAfter false cs := by simp
      rw [reduceAfter_of_solid hc' he, hdone]
      refine ih fun r => ?_
      have := h (c :: r)
      cases gap <;> simpa [collapse, hc', space] using this
  | case3 pending c cs expression rest he ih =>
    have hrest : reduce [] rest = [] ++ reduceAfter false rest := ih fun _ => rfl
    have hpending := h []
    rw [List.append_nil] at hpending
    rw [reduceAfter_of_expression he, hrest, hpending]
    cases gap <;> simp [collapse, space]

theorem reduce_eq (s : Text) : reduce [] s = reduceAfter false s :=
  have h : reduce [] s = [] ++ reduceAfter false s := reduce_eq_reduceAfter fun _ => rfl
  h

theorem reduceAfter_space (gap : Bool) (s : Text) :
    reduceAfter false (space gap ++ s) = reduceAfter gap s := by
  cases gap with
  | false => rfl
  | true => exact reduceAfter_of_blank rfl false s

theorem exists_reduceAfter_true (s : Text) : ∃ t, reduceAfter true s = ' ' :: t := by
  induction s with
  | nil => exact ⟨[], reduceAfter_nil true⟩
  | cons c cs ih =>
    cases he : expression? (c :: cs) with
    | some found => exact ⟨_, reduceAfter_of_expression he true⟩
    | none =>
      by_cases hc : isBlank c = true
      · rw [reduceAfter_of_blank hc]
        exact ih
      · exact ⟨_, reduceAfter_of_solid (by simpa using hc) (expression?_eq_none_iff.1 he) true⟩

/-! ## Words and solid characters -/

theorem solid_space (gap : Bool) : solid (space gap) = [] := by
  cases gap <;> rfl

theorem source_of_expression? {s expression rest : Text}
    (h : expression? s = some (expression, rest)) : s = expression ++ rest := by
  obtain ⟨inner, -, hs, -⟩ | ⟨inner, -, rfl, rfl, -⟩ := expression?_cases h
  · exact hs
  · exact (List.append_nil _).symm

@[simp]
theorem solid_reduceAfter (gap : Bool) (s : Text) : solid (reduceAfter gap s) = solid s := by
  fun_induction reduceAfter gap s with
  | case1 gap => exact solid_space gap
  | case2 gap c cs he hc ih => rw [ih, solid_cons_of_blank hc]
  | case3 gap c cs he hc ih =>
    have hc' : isBlank c = false := by simpa using hc
    rw [solid_append, solid_space, List.nil_append, solid_cons_of_not_blank hc',
      solid_cons_of_not_blank hc', ih]
  | case4 gap c cs expression rest he ih =>
    rw [solid_append, solid_append, solid_space, ih, List.nil_append, ← solid_append,
      ← source_of_expression? he]

theorem firstWord_append_congr {s t : Text} (h : firstWord s = firstWord t) (e : Text) :
    firstWord (e ++ s) = firstWord (e ++ t) := by
  rw [firstWord, firstWord] at *
  rw [List.takeWhile_append, List.takeWhile_append, h]

theorem firstWord_of_blank {c : Char} (h : isBlank c = true) (s : Text) :
    firstWord (c :: s) = [] := by
  simp [firstWord, h]

theorem firstWord_append_of_allBlank {b : Text} (h : AllBlank b) (s : Text) :
    firstWord (s ++ b) = firstWord s := by
  have hb : firstWord b = firstWord [] := by
    cases b with
    | nil => rfl
    | cons c b => exact firstWord_of_blank (allBlank_cons.1 h).1 b
  rw [firstWord_append_congr hb, List.append_nil]

/-- Reduced text starts with the word that the text starts with. -/
theorem firstWord_reduceAfter (s : Text) : firstWord (reduceAfter false s) = firstWord s := by
  generalize hgap : false = gap
  fun_induction reduceAfter gap s with
  | case1 gap => subst hgap; rfl
  | case2 gap c cs he hc ih =>
    obtain ⟨t, ht⟩ := exists_reduceAfter_true cs
    rw [ht, firstWord_of_blank rfl, firstWord_of_blank hc]
  | case3 gap c cs he hc ih =>
    subst hgap
    exact firstWord_append_congr (ih rfl) [c]
  | case4 gap c cs expression rest he ih =>
    subst hgap
    rw [source_of_expression? he]
    exact firstWord_append_congr (ih rfl) expression

theorem prefix_firstWord_iff {mark v : Text} (hmark : isUnbroken mark = true) :
    mark <+: v ↔ mark <+: firstWord v := by
  have h := prefix_firstWord (v := v) hmark (.inl rfl)
  rwa [List.append_nil] at h

/-- Reducing text neither makes nor breaks up opening braces. -/
theorem not_opened_reduceAfter {c : Char} {cs : Text} (h : ¬['{', '{'] <+: c :: cs) :
    ¬['{', '{'] <+: c :: reduceAfter false cs := by
  rw [prefix_firstWord_iff (by rfl)] at h ⊢
  rwa [show firstWord (c :: reduceAfter false cs) = firstWord (c :: cs) from
    firstWord_append_congr (firstWord_reduceAfter cs) [c]]

/-! ## Reducing twice, and blanks at the ends -/

theorem reduceAfter_reduceAfter (gap : Bool) (s : Text) :
    reduceAfter false (reduceAfter gap s) = reduceAfter gap s := by
  fun_induction reduceAfter gap s with
  | case1 gap => cases gap <;> simp [space, reduceAfter_nil, reduceAfter_of_blank (c := ' ') rfl]
  | case2 gap c cs he hc ih => exact ih
  | case3 gap c cs he hc ih =>
    have he' := not_opened_reduceAfter (expression?_eq_none_iff.1 he)
    rw [reduceAfter_space, reduceAfter_of_solid (by simpa using hc) he', ih]
  | case4 gap c cs expression rest he ih =>
    rw [List.append_assoc, reduceAfter_space]
    obtain ⟨inner, rfl, -, hb⟩ | ⟨inner, hs, rfl, rfl, hopen⟩ := expression?_cases he
    · rw [reduceAfter_of_expression (expression?_closed hb _), ih, List.append_assoc]
    · rw [reduceAfter_nil, show space false = [] from rfl, List.append_nil,
        reduceAfter_of_expression he, reduceAfter_nil]
      simp [space]

theorem reduce_reduce (s : Text) : reduce [] (reduce [] s) = reduce [] s := by
  rw [reduce_eq, reduce_eq, reduceAfter_reduceAfter]

theorem allBlank_reduceAfter {b : Text} (h : AllBlank b) (gap : Bool) :
    AllBlank (reduceAfter gap b) := by
  rw [← solid_eq_nil_iff, solid_reduceAfter, h.solid]

theorem trimEnd_append_congr {s t : Text} (h : trimEnd s = trimEnd t) (e : Text) :
    trimEnd (e ++ s) = trimEnd (e ++ t) := by
  by_cases hs : AllBlank s
  · have ht : AllBlank t := by rwa [← trimEnd_eq_nil_iff, ← h, trimEnd_eq_nil_iff]
    rw [trimEnd_append_of_allBlank hs, trimEnd_append_of_allBlank ht]
  · have ht : ¬AllBlank t := by rwa [← trimEnd_eq_nil_iff, ← h, trimEnd_eq_nil_iff]
    rw [trimEnd_append_of_not_allBlank hs, trimEnd_append_of_not_allBlank ht, h]

/-- Blanks at the end of a text do not show before the end of the reduced text. -/
theorem trimEnd_reduceAfter_append {b : Text} (hb : AllBlank b) (gap : Bool) (s : Text) :
    trimEnd (reduceAfter gap (s ++ b)) = trimEnd (reduceAfter gap s) := by
  fun_induction reduceAfter gap s with
  | case1 gap =>
    rw [List.nil_append, trimEnd_eq_nil_iff.2 (allBlank_reduceAfter hb gap), trimEnd_eq_nil_iff.2]
    rw [← solid_eq_nil_iff, solid_space]
  | case2 gap c cs he hc ih =>
    rw [List.cons_append, reduceAfter_of_blank hc, ih]
  | case3 gap c cs he hc ih =>
    have he' : ¬['{', '{'] <+: c :: (cs ++ b) := by
      rw [expression?_eq_none_iff, prefix_firstWord_iff (by rfl)] at he
      rwa [prefix_firstWord_iff (by rfl), ← List.cons_append, firstWord_append_of_allBlank hb]
    have hcs := trimEnd_append_congr ih (space gap ++ [c])
    rw [List.cons_append, reduceAfter_of_solid (by simpa using hc) he']
    simpa using hcs
  | case4 gap c cs expression rest he ih =>
    obtain ⟨inner, rfl, hs, hclosed⟩ | ⟨inner, hs, rfl, rfl, hopen⟩ := expression?_cases he
    · rw [hs, List.append_assoc, reduceAfter_of_expression (expression?_closed hclosed _)]
      exact trimEnd_append_congr ih _
    · rw [hs, List.append_assoc, reduceAfter_of_expression
        (expression?_open (not_closed_append hopen hb)), reduceAfter_nil,
        show space false = [] from rfl, List.append_nil, List.append_nil, ← List.append_assoc,
        ← List.append_assoc, trimEnd_append_of_allBlank hb, List.append_assoc]

theorem trimEnd_reduce_append {b : Text} (hb : AllBlank b) (s : Text) :
    trimEnd (reduce [] (s ++ b)) = trimEnd (reduce [] s) := by
  rw [reduce_eq, reduce_eq, trimEnd_reduceAfter_append hb]

/-- A gap in front of a text does not show after the start of the reduced text. -/
theorem trimStart_reduceAfter_true (s x : Text) :
    trimStart (reduceAfter true s ++ x) = trimStart (reduceAfter false s ++ x) := by
  have hspace (t : Text) : trimStart (space true ++ t) = trimStart (space false ++ t) :=
    trimStart_append_of_allBlank (b := [' ']) (allBlank_replicate 1) t
  cases s with
  | nil =>
    rw [reduceAfter_nil, reduceAfter_nil]
    exact hspace x
  | cons c cs =>
    cases he : expression? (c :: cs) with
    | some found =>
      rw [reduceAfter_of_expression he, reduceAfter_of_expression he]
      simp only [List.append_assoc, hspace]
    | none =>
      by_cases hc : isBlank c = true
      · rw [reduceAfter_of_blank hc, reduceAfter_of_blank hc]
      · have he' := expression?_eq_none_iff.1 he
        rw [reduceAfter_of_solid (by simpa using hc) he',
          reduceAfter_of_solid (by simpa using hc) he', List.append_assoc, List.append_assoc,
          hspace]

/-- Blanks in front of a text do not show after the start of the reduced text. -/
theorem trimStart_reduce_append {b : Text} (hb : AllBlank b) (s x : Text) :
    trimStart (reduce [] (b ++ s) ++ x) = trimStart (reduce [] s ++ x) := by
  rw [reduce_eq, reduce_eq]
  have htrue : ∀ b : Text, AllBlank b →
      trimStart (reduceAfter true (b ++ s) ++ x) = trimStart (reduceAfter true s ++ x) := by
    intro b hb
    induction b with
    | nil => rfl
    | cons c b ih =>
      rw [List.cons_append, reduceAfter_of_blank (allBlank_cons.1 hb).1, ih (allBlank_cons.1 hb).2]
  cases b with
  | nil => rfl
  | cons c b =>
    rw [List.cons_append, reduceAfter_of_blank (allBlank_cons.1 hb).1,
      htrue b (allBlank_cons.1 hb).2, trimStart_reduceAfter_true]

/-! ## Echoes -/

/-- Each `<` of the second text has the same word right after it, and the same solid characters, as
some `<` of the first. -/
def Echoes (u u' : Text) : Prop :=
  ∀ v', '<' :: v' <:+ u' →
    ∃ v, '<' :: v <:+ u ∧ firstWord v = firstWord v' ∧ solid v = solid v'

theorem Echoes.trans {u u' u'' : Text} (h : Echoes u u') (h' : Echoes u' u'') : Echoes u u'' := by
  intro v'' hv''
  obtain ⟨v', hv', hword', hsolid'⟩ := h' v'' hv''
  obtain ⟨v, hv, hword, hsolid⟩ := h v' hv'
  exact ⟨v, hv, hword.trans hword', hsolid.trans hsolid'⟩

theorem Echoes.of_suffix {t u u' : Text} (h : t <:+ u) (ht : Echoes t u') : Echoes u u' := by
  intro v' hv'
  obtain ⟨v, hv, hword, hsolid⟩ := ht v' hv'
  exact ⟨v, hv.trans h, hword, hsolid⟩

theorem suffix_append_cases {s t v : Text} {c : Char} (h : c :: v <:+ s ++ t) :
    c :: v <:+ t ∨ ∃ a, c :: a <:+ s ∧ v = a ++ t := by
  obtain ⟨front, hfront⟩ := h
  obtain ⟨a, hs, ha⟩ | ⟨a, -, ht⟩ := List.append_eq_append_iff.1 hfront
  · cases a with
    | nil => exact .inl ⟨[], by simpa using ha⟩
    | cons d a =>
      obtain ⟨rfl, rfl⟩ : c = d ∧ v = a ++ t := by simpa using ha
      exact .inr ⟨a, ⟨front, hs.symm⟩, rfl⟩
  · exact .inl ⟨a, ht.symm⟩

/-- A suffix that starts with a solid character starts before blanks at the end. -/
theorem suffix_append_of_allBlank {v u b : Text} {c : Char} (hc : isBlank c = false)
    (hb : AllBlank b) (h : c :: v <:+ u ++ b) : ∃ v₀, v = v₀ ++ b ∧ c :: v₀ <:+ u := by
  obtain h | ⟨a, ha, rfl⟩ := suffix_append_cases h
  · have := hb c (h.subset (by simp))
    rw [hc] at this
    cases this
  · exact ⟨a, rfl, ha⟩

theorem echoes_append {b : Text} (hb : AllBlank b) (u : Text) : Echoes u (u ++ b) := by
  intro v' hv'
  obtain ⟨v, rfl, hv⟩ := suffix_append_of_allBlank rfl hb hv'
  refine ⟨v, hv, (firstWord_append_of_allBlank hb v).symm, ?_⟩
  rw [solid_append, hb.solid, List.append_nil]

theorem echoes_trimEnd (u : Text) : Echoes u (trimEnd u) := by
  obtain ⟨b, hb, hu⟩ := exists_trimEnd u
  intro v hv
  refine ⟨v ++ b, ?_, firstWord_append_of_allBlank hb v, ?_⟩
  · rw [hu]
    exact List.suffix_append_self_iff.2 hv
  · rw [solid_append, hb.solid, List.append_nil]

theorem Echoes.append {s t : Text} (h : Echoes s t) (hword : firstWord s = firstWord t)
    (hsolid : solid s = solid t) (e : Text) : Echoes (e ++ s) (e ++ t) := by
  intro v' hv'
  obtain hv' | ⟨a, ha, rfl⟩ := suffix_append_cases hv'
  · exact h.of_suffix (List.suffix_append ..) v' hv'
  · refine ⟨a ++ s, ?_, firstWord_append_congr hword a, ?_⟩
    · exact List.suffix_append_self_iff.2 ha
    · rw [solid_append, solid_append, hsolid]

theorem Echoes.space {u t : Text} (h : Echoes u t) (gap : Bool) :
    Echoes u (Markup.space gap ++ t) := by
  intro v' hv'
  obtain hv' | ⟨a, ha, -⟩ := suffix_append_cases hv'
  · exact h v' hv'
  · have hmem : '<' ∈ Markup.space gap := ha.subset (by simp)
    cases gap <;> simp [Markup.space] at hmem

theorem echoes_reduceAfter (gap : Bool) (u : Text) : Echoes u (reduceAfter gap u) := by
  fun_induction reduceAfter gap u with
  | case1 gap =>
    have hnil : Echoes [] [] := fun v' hv' => by simp at hv'
    simpa using hnil.space gap
  | case2 gap c cs he hc ih => exact ih.of_suffix (List.suffix_cons ..)
  | case3 gap c cs he hc ih =>
    have hword := firstWord_reduceAfter cs
    exact (ih.append hword.symm (solid_reduceAfter false cs).symm [c]).space gap
  | case4 gap c cs expression rest he ih =>
    have hword := firstWord_reduceAfter rest
    rw [source_of_expression? he, List.append_assoc]
    exact (ih.append hword.symm (solid_reduceAfter false rest).symm expression).space gap

/-- Reduced text echoes the text it comes from. -/
theorem echoes_reduce (u : Text) : Echoes u (reduce [] u) := by
  rw [reduce_eq]
  exact echoes_reduceAfter false u

end Blockbook.Markup
