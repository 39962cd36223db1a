import Blockbook.Text.Blank
import Mathlib.Data.List.DropRight

/-!
# Blanks and what stands between them

The laws of trimming, and the view of a text that layout keeps: its `solid` characters, those that
are not blank. Laying text out changes the blanks of a text and nothing else, so most of what is
known about laid out text is known through `solid`. A class of characters holds no blank if its
ranges are apart from those of the blanks.
-/

namespace Blockbook

/-! ## Classes of code points -/

/-- A code point that a class contains lies in one of its ranges. -/
theorem CodeRanges.exists_of_contains {ranges : CodeRanges} {n : Nat}
    (h : ranges.contains n = true) : ∃ r ∈ ranges, r.1 ≤ n ∧ n ≤ r.2 := by
  induction ranges with
  | nil => cases h
  | cons r ranges ih =>
    obtain ⟨first, last⟩ := r
    rw [contains] at h
    split at h
    · cases h
    · next hfirst =>
      rw [Bool.or_eq_true, decide_eq_true_eq] at h
      obtain hlast | hrest := h
      · exact ⟨_, List.mem_cons_self .., Nat.le_of_not_lt hfirst, hlast⟩
      · obtain ⟨r, hr, hn⟩ := ih hrest
        exact ⟨r, List.mem_cons_of_mem _ hr, hn⟩

/-- Whether no range of one class meets a range of another. -/
def CodeRanges.areDisjoint (left right : CodeRanges) : Bool :=
  left.all fun l => right.all fun r => l.2 < r.1 || r.2 < l.1

theorem CodeRanges.not_contains_of_areDisjoint {left right : CodeRanges}
    (h : left.areDisjoint right = true) {n : Nat} (hn : left.contains n = true) :
    right.contains n = false := by
  by_contra hne
  obtain ⟨l, hl, hl₁, hl₂⟩ := exists_of_contains hn
  obtain ⟨r, hr, hr₁, hr₂⟩ := exists_of_contains (by simpa using hne)
  have hlr := List.all_eq_true.1 (List.all_eq_true.1 h l hl) r hr
  rw [Bool.or_eq_true, decide_eq_true_eq, decide_eq_true_eq] at hlr
  omega

end Blockbook

namespace Blockbook.Text

/-- A text of blanks only. -/
def AllBlank (s : Text) : Prop := ∀ c ∈ s, isBlank c = true

/-- The characters of a text that are not blank. -/
def solid (s : Text) : Text := s.filter fun c => !isBlank c

/-- The characters in front of the first blank of a text. -/
def firstWord (s : Text) : Text := s.takeWhile fun c => !isBlank c

/-! ## Blank texts -/

@[simp]
theorem allBlank_nil : AllBlank [] := by
  intro c hc
  cases hc

theorem allBlank_cons {c : Char} {s : Text} :
    AllBlank (c :: s) ↔ isBlank c = true ∧ AllBlank s := by
  simp [AllBlank]

theorem allBlank_append {s t : Text} : AllBlank (s ++ t) ↔ AllBlank s ∧ AllBlank t := by
  simp only [AllBlank, List.mem_append]
  grind

theorem allBlank_replicate (n : Nat) : AllBlank (List.replicate n ' ') := by
  intro c hc
  rw [List.eq_of_mem_replicate hc]
  rfl

/-! ## Solid characters -/

@[simp]
theorem solid_nil : solid [] = [] := rfl

@[simp]
theorem solid_append (s t : Text) : solid (s ++ t) = solid s ++ solid t := List.filter_append ..

theorem solid_cons_of_blank {c : Char} (h : isBlank c = true) (s : Text) :
    solid (c :: s) = solid s := by
  simp [solid, h]

theorem solid_cons_of_not_blank {c : Char} (h : isBlank c = false) (s : Text) :
    solid (c :: s) = c :: solid s := by
  simp [solid, h]

theorem solid_eq_nil_iff {s : Text} : solid s = [] ↔ AllBlank s := by
  simp [solid, AllBlank]

theorem AllBlank.solid {s : Text} (h : AllBlank s) : Text.solid s = [] := solid_eq_nil_iff.2 h

/-! ## Trimming -/

theorem trimStart_append_of_allBlank {b : Text} (h : AllBlank b) (s : Text) :
    trimStart (b ++ s) = trimStart s := List.dropWhile_append_of_pos h

theorem trimStart_of_not_blank {c : Char} (h : isBlank c = false) (s : Text) :
    trimStart (c :: s) = c :: s := by
  simp [trimStart, h]

/-- A text is what trimming leaves of it, with blanks in front. -/
theorem exists_trimStart (s : Text) : ∃ b, AllBlank b ∧ s = b ++ trimStart s := by
  refine ⟨s.takeWhile isBlank, ?_, (List.takeWhile_append_dropWhile ..).symm⟩
  intro c hc
  exact List.mem_takeWhile_imp hc

theorem trimEnd_append_of_allBlank {b : Text} (h : AllBlank b) (s : Text) :
    trimEnd (s ++ b) = trimEnd s := by
  have hb : ∀ c ∈ b.reverse, isBlank c = true := fun c hc => h c (List.mem_reverse.1 hc)
  simp only [trimEnd, List.reverse_append]
  rw [List.dropWhile_append_of_pos hb]

/-- A text is what trimming leaves of it, with blanks behind. -/
theorem exists_trimEnd (s : Text) : ∃ b, AllBlank b ∧ s = trimEnd s ++ b := by
  refine ⟨s.rtakeWhile isBlank, ?_, (List.rdropWhile_append_rtakeWhile ..).symm⟩
  intro c hc
  exact List.mem_rtakeWhile_imp hc

theorem trimEnd_eq_nil_iff {s : Text} : trimEnd s = [] ↔ AllBlank s :=
  List.rdropWhile_eq_nil_iff

theorem trimEnd_trimEnd (s : Text) : trimEnd (trimEnd s) = trimEnd s :=
  List.rdropWhile_idempotent ..

/-- Trimming the end of a text stops at its last character that is not blank. -/
theorem trimEnd_append_of_not_allBlank {t : Text} (h : ¬AllBlank t) (s : Text) :
    trimEnd (s ++ t) = s ++ trimEnd t := by
  have hne : t.reverse.dropWhile isBlank ≠ [] := by
    intro h'
    exact h (trimEnd_eq_nil_iff.1 (by rw [trimEnd, h', List.reverse_nil]))
  simp only [trimEnd, List.reverse_append, List.dropWhile_append]
  split
  · next hempty => exact absurd (List.isEmpty_iff.1 hempty) hne
  · rw [List.reverse_append, List.reverse_reverse]

theorem trimEnd_of_last_not_blank {c : Char} (h : isBlank c = false) (s : Text) :
    trimEnd (s ++ [c]) = s ++ [c] :=
  List.rdropWhile_concat_neg _ _ _ (by simp [h])

theorem trimEnd_append_of_last {c : Char} (h : isBlank c = false) (s t : Text) :
    trimEnd (s ++ [c] ++ t) = s ++ [c] ++ trimEnd t := by
  by_cases ht : AllBlank t
  · rw [trimEnd_append_of_allBlank ht, trimEnd_of_last_not_blank h, trimEnd_eq_nil_iff.2 ht,
      List.append_nil]
  · rw [trimEnd_append_of_not_allBlank ht]

@[simp]
theorem solid_trimStart (s : Text) : solid (trimStart s) = solid s := by
  obtain ⟨b, hb, hs⟩ := exists_trimStart s
  conv => rhs; rw [hs]
  rw [solid_append, hb.solid, List.nil_append]

@[simp]
theorem solid_trimEnd (s : Text) : solid (trimEnd s) = solid s := by
  obtain ⟨b, hb, hs⟩ := exists_trimEnd s
  conv => rhs; rw [hs]
  rw [solid_append, hb.solid, List.append_nil]

@[simp]
theorem solid_trim (s : Text) : solid (trim s) = solid s := by
  rw [trim, solid_trimEnd, solid_trimStart]

theorem trim_append_of_allBlank {b : Text} (h : AllBlank b) (s : Text) :
    trim (b ++ s) = trim s := by
  rw [trim, trimStart_append_of_allBlank h, trim]

/-- Trimming both ends may start at the back. -/
theorem trim_eq_trimStart_trimEnd (s : Text) : trim s = trimStart (trimEnd s) := by
  obtain ⟨b, hb, hs⟩ := exists_trimStart s
  by_cases hall : AllBlank (trimStart s)
  · rw [trim, trimEnd_eq_nil_iff.2 hall, trimEnd_eq_nil_iff.2]
    · rfl
    · rw [hs]
      exact allBlank_append.2 ⟨hb, hall⟩
  · conv => rhs; rw [hs]
    rw [trimEnd_append_of_not_allBlank hall, trimStart_append_of_allBlank hb, trim]
    cases ht : trimStart s with
    | nil => rfl
    | cons c t =>
      have hc : isBlank c = false := by
        have := List.head?_dropWhile_not isBlank s
        rw [show s.dropWhile isBlank = c :: t from ht] at this
        simpa using this
      have hc' : ¬AllBlank (c :: t) := by
        simp [allBlank_cons, hc]
      by_cases ht' : AllBlank t
      · rw [show c :: t = [c] ++ t from rfl, trimEnd_append_of_allBlank ht',
          show [c] = [] ++ [c] from rfl, trimEnd_of_last_not_blank hc]
        exact (trimStart_of_not_blank hc []).symm
      · rw [show c :: t = [c] ++ t from rfl, trimEnd_append_of_not_allBlank ht']
        exact (trimStart_of_not_blank hc _).symm

end Blockbook.Text
