import Blockbook.Proofs.Markup.Reduce

/-!
# The words of a text

Blanks come and go in front of text, behind it and, where there are some, inside it. What stays is
the list of its words. Texts with the same words have, from each solid character on, the same words
still, and hold the same marks without blanks.

* `allWords_reduce`, `allWords_trimEnd`: reducing and trimming keep the words.
* `exists_suffix_of_allWords`: what follows a character has the same words in both texts.
* `infix_iff_of_allWords`: a mark without blanks stands in both texts or in neither.
-/

namespace Blockbook.Markup

open Text

/-- The words of a text, without the blanks between them. -/
def allWords : Text → List Text
  | [] => []
  | c :: cs =>
    if isBlank c then allWords cs
    else (c :: firstWord cs) :: if firstWord cs = [] then allWords cs else (allWords cs).tail

theorem allWords_of_blank {c : Char} (h : isBlank c = true) (cs : Text) :
    allWords (c :: cs) = allWords cs := by
  rw [allWords, if_pos h]

theorem allWords_of_solid {c : Char} (h : isBlank c = false) (cs : Text) :
    allWords (c :: cs) =
      (c :: firstWord cs) :: if firstWord cs = [] then allWords cs else (allWords cs).tail := by
  rw [allWords, if_neg (by simp [h])]

theorem firstWord_of_solid {c : Char} (h : isBlank c = false) (cs : Text) :
    firstWord (c :: cs) = c :: firstWord cs := by
  simp [firstWord, h]

theorem allWords_append_of_allBlank {b : Text} (h : AllBlank b) (s : Text) :
    allWords (b ++ s) = allWords s := by
  induction b with
  | nil => rfl
  | cons c b ih =>
    obtain ⟨hc, hb⟩ := allBlank_cons.1 h
    rw [List.cons_append, allWords_of_blank hc, ih hb]

theorem allWords_of_allBlank {b : Text} (h : AllBlank b) : allWords b = [] := by
  have hb := allWords_append_of_allBlank h []
  rwa [List.append_nil, allWords] at hb

/-- Texts with the same words can follow the same text, if they start with the same part of a
word. -/
theorem allWords_append_congr {s t : Text} (h : allWords s = allWords t)
    (hfirst : firstWord s = firstWord t) (e : Text) : allWords (e ++ s) = allWords (e ++ t) := by
  induction e with
  | nil => exact h
  | cons c e ih =>
    simp only [List.cons_append, allWords, ih, firstWord_append_congr hfirst e]

theorem allWords_append_blank {b : Text} (h : AllBlank b) (s : Text) :
    allWords (s ++ b) = allWords s := by
  have hfirst : firstWord b = firstWord [] := firstWord_append_of_allBlank h []
  rw [allWords_append_congr (allWords_of_allBlank h) hfirst s, List.append_nil]

/-! ## The first word -/

/-- A word in front of a text that does not go on with it. -/
theorem allWords_append_word {w r : Text} (hne : w ≠ []) (hw : ∀ c ∈ w, isBlank c = false)
    (hr : firstWord r = []) : allWords (w ++ r) = w :: allWords r := by
  induction w with
  | nil => exact absurd rfl hne
  | cons c w ih =>
    obtain ⟨hc, hw⟩ := List.forall_mem_cons.1 hw
    have hfirst : firstWord (w ++ r) = w := by
      rw [firstWord, List.takeWhile_append_of_pos (by simpa using hw), ← firstWord, hr,
        List.append_nil]
    rw [List.cons_append, allWords_of_solid hc, hfirst]
    split
    · next hnil => rw [hnil, List.nil_append]
    · next hcons => rw [ih hcons hw, List.tail_cons]

/-- A text with words is blanks, its first word and what follows the word. -/
theorem exists_of_allWords_eq_cons {s w : Text} {ws : List Text} (h : allWords s = w :: ws) :
    ∃ b r, s = b ++ (w ++ r) ∧ AllBlank b ∧ w ≠ [] ∧ (∀ c ∈ w, isBlank c = false) ∧
      firstWord r = [] ∧ allWords r = ws := by
  induction s with
  | nil => cases h
  | cons c cs ih =>
    by_cases hc : isBlank c = true
    · rw [allWords_of_blank hc] at h
      obtain ⟨b, r, rfl, hb, hw⟩ := ih h
      exact ⟨c :: b, r, rfl, allBlank_cons.2 ⟨hc, hb⟩, hw⟩
    · have hc' : isBlank c = false := by simpa using hc
      have hsplit : cs = firstWord cs ++ cs.dropWhile fun c => !isBlank c :=
        List.takeWhile_append_dropWhile.symm
      have hsolid : ∀ d ∈ c :: firstWord cs, isBlank d = false := by
        refine List.forall_mem_cons.2 ⟨hc', fun d hd => ?_⟩
        simpa using List.mem_takeWhile_imp hd
      have hend : firstWord (cs.dropWhile fun c => !isBlank c) = [] := by
        cases hd : cs.dropWhile fun c => !isBlank c with
        | nil => rfl
        | cons d ds =>
          have hblank := List.head?_dropWhile_not (fun c => !isBlank c) cs
          rw [hd] at hblank
          exact firstWord_of_blank (by simpa using hblank) ds
      have hs := allWords_append_word (List.cons_ne_nil c (firstWord cs)) hsolid hend
      rw [List.cons_append, ← hsplit, h] at hs
      obtain ⟨rfl, rfl⟩ := List.cons.inj hs
      exact ⟨[], _, congrArg (c :: ·) hsplit, allBlank_nil, by simp, hsolid, hend, rfl⟩

theorem allWords_eq_firstWord {s : Text} (h : firstWord s ≠ []) :
    allWords s = firstWord s :: (allWords s).tail := by
  cases s with
  | nil => exact absurd rfl h
  | cons c cs =>
    by_cases hc : isBlank c = true
    · exact absurd (firstWord_of_blank hc cs) h
    · have hc' : isBlank c = false := by simpa using hc
      rw [allWords_of_solid hc', firstWord_of_solid hc', List.tail_cons]

theorem flatten_allWords (s : Text) : (allWords s).flatten = solid s := by
  induction s with
  | nil => rfl
  | cons c cs ih =>
    by_cases hc : isBlank c = true
    · rw [allWords_of_blank hc, solid_cons_of_blank hc, ih]
    · have hc' : isBlank c = false := by simpa using hc
      rw [allWords_of_solid hc', solid_cons_of_not_blank hc', ← ih, List.flatten_cons]
      split
      · next hnil => rw [hnil]; rfl
      · next hcons =>
        rw [allWords_eq_firstWord hcons]
        rfl

/-! ## Texts with the same words -/

theorem solid_eq_of_allWords {s t : Text} (h : allWords s = allWords t) : solid s = solid t := by
  rw [← flatten_allWords, h, flatten_allWords]

/-- What follows the same solid character has the same words, and starts with the same part of a
word. -/
theorem allWords_tail {c : Char} {s t : Text} (hc : isBlank c = false)
    (h : allWords (c :: s) = allWords (c :: t)) :
    allWords s = allWords t ∧ firstWord s = firstWord t := by
  rw [allWords_of_solid hc, allWords_of_solid hc] at h
  obtain ⟨hhead, htail⟩ := List.cons.inj h
  have hfirst : firstWord s = firstWord t := (List.cons.inj hhead).2
  refine ⟨?_, hfirst⟩
  by_cases hnil : firstWord t = []
  · rwa [hfirst, if_pos hnil, if_pos hnil] at htail
  · rw [hfirst, if_neg hnil, if_neg hnil] at htail
    rw [allWords_eq_firstWord hnil, allWords_eq_firstWord (hfirst ▸ hnil), hfirst, htail]

theorem allWords_of_append {e s t : Text} (he : ∀ c ∈ e, isBlank c = false)
    (h : allWords (e ++ s) = allWords (e ++ t)) : allWords s = allWords t := by
  induction e with
  | nil => exact h
  | cons c e ih =>
    obtain ⟨hc, he⟩ := List.forall_mem_cons.1 he
    exact ih he (allWords_tail hc h).1

/-- From each solid character on, texts with the same words have the same words still. -/
theorem exists_suffix_of_allWords {s t v : Text} {c : Char} (h : allWords s = allWords t)
    (hc : isBlank c = false) (hv : c :: v <:+ t) :
    ∃ u, c :: u <:+ s ∧ allWords (c :: u) = allWords (c :: v) := by
  generalize hws : allWords t = ws at h
  induction ws generalizing s t with
  | nil =>
    have hnil : solid t = [] := by rw [← flatten_allWords, hws]; rfl
    have hblank := solid_eq_nil_iff.1 hnil c (hv.subset (by simp))
    rw [hc] at hblank
    cases hblank
  | cons w ws ih =>
    obtain ⟨b, r, rfl, hb, -, -, hr, hwords⟩ := exists_of_allWords_eq_cons h
    obtain ⟨b', r', rfl, hb', -, hw, hr', hwords'⟩ := exists_of_allWords_eq_cons hws
    obtain hv | ⟨a, ha, -⟩ := suffix_append_cases hv
    · obtain hv | ⟨a, ha, rfl⟩ := suffix_append_cases hv
      · obtain ⟨u, hu, hsame⟩ := ih hv hwords' hwords
        exact ⟨u, hu.trans ⟨b ++ w, by simp⟩, hsame⟩
      · -- The character stands in the first word, which both texts have.
        have hsolid : ∀ d ∈ c :: a, isBlank d = false := fun d hd => hw d (ha.subset hd)
        have hu : c :: (a ++ r) <:+ w ++ r := List.suffix_append_self_iff.2 ha
        refine ⟨a ++ r, hu.trans (List.suffix_append ..), ?_⟩
        rw [← List.cons_append, ← List.cons_append, allWords_append_word (by simp) hsolid hr,
          allWords_append_word (by simp) hsolid hr', hwords, hwords']
    · have hblank := hb' c (ha.subset (by simp))
      rw [hc] at hblank
      cases hblank

/-- A mark without blanks stands in texts with the same words alike. -/
theorem infix_of_allWords {mark s t : Text} {c : Char} (hc : isBlank c = false)
    (hmark : isUnbroken mark = true) (h : allWords s = allWords t) (hs : c :: mark <:+: s) :
    c :: mark <:+: t := by
  obtain ⟨before, after, rfl⟩ := hs
  have hsuffix : c :: (mark ++ after) <:+ before ++ (c :: mark) ++ after := ⟨before, by simp⟩
  obtain ⟨u, hu, hsame⟩ := exists_suffix_of_allWords h.symm hc hsuffix
  have hfirst := (allWords_tail hc hsame).2
  have hpart : mark <+: u := by
    rw [prefix_firstWord_iff hmark, hfirst, ← prefix_firstWord_iff hmark]
    exact List.prefix_append ..
  exact (List.cons_prefix_cons.2 ⟨rfl, hpart⟩).isInfix.trans hu.isInfix

theorem infix_iff_of_allWords {mark s t : Text} {c : Char} (hc : isBlank c = false)
    (hmark : isUnbroken mark = true) (h : allWords s = allWords t) :
    c :: mark <:+: s ↔ c :: mark <:+: t :=
  ⟨infix_of_allWords hc hmark h, infix_of_allWords hc hmark h.symm⟩

/-! ## Reducing and trimming -/

theorem allBlank_space (gap : Bool) : AllBlank (space gap) := by
  rw [← solid_eq_nil_iff, solid_space]

theorem allWords_reduceAfter (gap : Bool) (s : Text) :
    allWords (reduceAfter gap s) = allWords s := by
  fun_induction reduceAfter gap s with
  | case1 gap => rw [allWords_of_allBlank (allBlank_space gap)]; rfl
  | case2 gap c cs he hc ih => rw [ih, allWords_of_blank hc]
  | case3 gap c cs he hc ih =>
    rw [allWords_append_of_allBlank (allBlank_space gap)]
    exact allWords_append_congr ih (firstWord_reduceAfter cs) [c]
  | case4 gap c cs expression rest he ih =>
    rw [List.append_assoc, allWords_append_of_allBlank (allBlank_space gap),
      source_of_expression? he]
    exact allWords_append_congr ih (firstWord_reduceAfter rest) expression

theorem allWords_reduce (s : Text) : allWords (reduce [] s) = allWords s := by
  rw [reduce_eq, allWords_reduceAfter]

theorem allWords_trimEnd (s : Text) : allWords (trimEnd s) = allWords s := by
  obtain ⟨b, hb, hs⟩ := exists_trimEnd s
  conv_rhs => rw [hs, allWords_append_blank hb]

end Blockbook.Markup
