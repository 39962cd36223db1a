import Blockbook.Text.Basic
import Mathlib.Data.List.Infix

/-!
# Searching for a mark

`breakOn?` finds a mark exactly where it stands in a text, and its first place does not depend on
what follows it. `FirstAt` says which place that is, apart from the search, and `occurrences` counts
all places.
-/

namespace Blockbook.Text

theorem after?_eq_none_iff {mark s : Text} : after? mark s = none ↔ ¬mark <+: s := by
  rw [Option.eq_none_iff_forall_ne_some]
  constructor
  · rintro h ⟨rest, rfl⟩
    exact h rest (after?_eq_some_iff.2 rfl)
  · intro h rest hrest
    exact h ⟨rest, (after?_eq_some_iff.1 hrest).symm⟩

theorem breakOn?_eq_none_iff {mark s : Text} : breakOn? mark s = none ↔ ¬mark <:+: s := by
  fun_induction breakOn? mark s with
  | case1 s r hr =>
    obtain rfl := after?_eq_some_iff.1 hr
    simp only [reduceCtorEq, false_iff, not_not]
    exact (List.prefix_append ..).isInfix
  | case2 hnil =>
    rw [List.infix_nil]
    rw [after?_eq_none_iff, List.prefix_nil] at hnil
    simpa using hnil
  | case3 c cs hnone ih =>
    rw [Option.map_eq_none_iff, ih, List.infix_cons_iff]
    rw [after?_eq_none_iff] at hnone
    simp [hnone]

theorem exists_breakOn? {mark s : Text} (h : mark <:+: s) :
    ∃ before rest, breakOn? mark s = some (before, rest) := by
  cases hb : breakOn? mark s with
  | none => exact absurd h (breakOn?_eq_none_iff.1 hb)
  | some found => exact ⟨found.1, found.2, rfl⟩

theorem contains_iff {s part : Text} : contains s part = true ↔ part <:+: s := by
  rw [contains, ← not_iff_not, Bool.not_eq_true, Option.isSome_eq_false_iff,
    Option.isNone_iff_eq_none, breakOn?_eq_none_iff]

/-- The first place of a mark does not depend on what follows it. -/
theorem breakOn?_append {mark s before rest : Text} (h : breakOn? mark s = some (before, rest))
    (x : Text) : breakOn? mark (before ++ (mark ++ x)) = some (before, x) := by
  fun_induction breakOn? mark s generalizing before with
  | case1 s r hr =>
    obtain ⟨rfl, rfl⟩ : [] = before ∧ r = rest := by simpa using h
    have hx : after? mark (mark ++ x) = some x := after?_eq_some_iff.2 rfl
    rw [List.nil_append, breakOn?.eq_def, hx]
  | case2 => cases h
  | case3 c cs hnone ih =>
    obtain ⟨⟨before', rest'⟩, hb, he⟩ := Option.map_eq_some_iff.1 h
    obtain ⟨rfl, rfl⟩ : c :: before' = before ∧ rest' = rest := by simpa using he
    have hfront : after? mark (c :: (before' ++ (mark ++ x))) = none := by
      rw [after?_eq_none_iff] at hnone ⊢
      intro hp
      -- A mark at the front would lie in `before' ++ mark`, which is the front of `cs`.
      apply hnone
      have hlen : mark.length ≤ (c :: (before' ++ mark)).length := by
        simp only [List.length_cons, List.length_append]
        omega
      have hshort : mark <+: c :: (before' ++ mark) :=
        List.prefix_of_prefix_length_le hp ⟨x, by simp⟩ hlen
      exact hshort.trans ⟨rest', by rw [eq_of_breakOn? hb]; rfl⟩
    rw [List.cons_append, breakOn?.eq_def, hfront]
    simp [ih hb]

/-- A mark in two texts one after the other stands in one of them or goes across their border. -/
theorem infix_append_cases {mark s t : Text} (h : mark <:+: s ++ t) :
    mark <:+: s ∨ mark <:+: t ∨
      ∃ l r, mark = l ++ r ∧ l ≠ [] ∧ r ≠ [] ∧ l <:+ s ∧ r <+: t := by
  obtain ⟨before, after, h⟩ := h
  obtain ⟨a, rfl, -⟩ | ⟨a, hs, rfl⟩ := List.append_eq_append_iff.1 h
  · exact .inl ⟨before, a, rfl⟩
  · obtain ⟨l, rfl, rfl⟩ | ⟨l, -, rfl⟩ := List.append_eq_append_iff.1 hs
    · by_cases hl : l = []
      · exact .inr (.inl (by rw [hl]; exact (List.prefix_append a after).isInfix))
      · by_cases ha : a = []
        · exact .inl (by rw [ha, List.append_nil]; exact (List.suffix_append before l).isInfix)
        · exact .inr (.inr ⟨l, a, rfl, hl, ha, List.suffix_append .., List.prefix_append ..⟩)
    · exact .inr (.inl ⟨l, after, rfl⟩)

/-- More text behind a mark that is found does not change where it is found. -/
theorem breakOn?_append_right {mark s before rest : Text}
    (h : breakOn? mark s = some (before, rest)) (x : Text) :
    breakOn? mark (s ++ x) = some (before, rest ++ x) := by
  have hfound := breakOn?_append h (rest ++ x)
  rw [eq_of_breakOn? h, List.append_assoc, List.append_assoc]
  exact hfound

/-- What stands before the first occurrence of a mark does not hold the mark. -/
theorem not_infix_of_breakOn? {mark s before rest : Text} (hmark : mark ≠ [])
    (h : breakOn? mark s = some (before, rest)) : ¬mark <:+: before := by
  intro hpart
  cases hb : breakOn? mark before with
  | none => exact breakOn?_eq_none_iff.1 hb hpart
  | some found =>
    obtain ⟨b, r⟩ := found
    have hearly := breakOn?_append_right hb (mark ++ rest)
    rw [← List.append_assoc, ← eq_of_breakOn? h, h] at hearly
    obtain ⟨hbefore, -⟩ := Prod.mk.inj (Option.some.inj hearly)
    have hlen := congrArg List.length (eq_of_breakOn? hb)
    rw [← hbefore] at hlen
    simp only [List.length_append] at hlen
    exact hmark (List.eq_nil_of_length_eq_zero (by omega))

/-- A mark whose first character does not come again stands at no place inside a text that does not
hold it, whatever follows from that character on. -/
theorem not_prefix_append {a : Char} {mark u : Text} (ha : a ∉ mark) (hu : u ≠ [])
    (h : ¬(a :: mark) <:+: u) (x : Text) : ¬(a :: mark) <+: u ++ a :: x := by
  intro hp
  by_cases hlen : (a :: mark).length ≤ u.length
  · exact h (List.prefix_of_prefix_length_le hp (List.prefix_append u _) hlen).isInfix
  · -- The mark goes past `u`, so it has its first character again where `u` ends.
    obtain ⟨y, hy⟩ := List.prefix_of_prefix_length_le (List.prefix_append u (a :: x)) hp (by omega)
    obtain ⟨rest, hrest⟩ := hp
    rw [← hy, List.append_assoc] at hrest
    have hx := List.append_cancel_left hrest
    cases y with
    | nil =>
      rw [List.append_nil] at hy
      exact hlen (by rw [hy])
    | cons b y =>
      obtain ⟨rfl, -⟩ := List.cons.inj hx
      obtain ⟨c, cs, rfl⟩ := List.exists_cons_of_ne_nil hu
      obtain ⟨-, rfl⟩ := List.cons.inj hy
      exact ha (by simp)

/-- A mark is found where it is written, if its start stands nowhere before. -/
theorem breakOn?_mark {a : Char} {start inner : Text} (ha : a ∉ start)
    (h : ¬(a :: start) <:+: inner) (back rest : Text) :
    breakOn? (a :: start ++ back) (inner ++ (a :: start ++ back ++ rest)) = some (inner, rest) := by
  induction inner with
  | nil =>
    have hfront : after? (a :: start ++ back) (a :: start ++ back ++ rest) = some rest :=
      after?_eq_some_iff.2 rfl
    rw [List.nil_append, breakOn?.eq_def, hfront]
  | cons c cs ih =>
    have hfront : after? (a :: start ++ back) (c :: cs ++ (a :: start ++ back ++ rest)) = none := by
      rw [after?_eq_none_iff]
      intro hp
      exact not_prefix_append ha (List.cons_ne_nil c cs) h _ ((List.prefix_append ..).trans hp)
    rw [List.infix_cons_iff, not_or] at h
    rw [breakOn?.eq_def, hfront]
    exact congrArg (Option.map _) (ih h.2)

/-- A mark is found where it is written, if it does not end before. -/
theorem breakOn?_concat {mark inner : Text} {c : Char} (h : ¬mark ++ [c] <:+: inner ++ mark)
    (rest : Text) :
    breakOn? (mark ++ [c]) (inner ++ (mark ++ [c] ++ rest)) = some (inner, rest) := by
  induction inner with
  | nil =>
    have hfront : after? (mark ++ [c]) (mark ++ [c] ++ rest) = some rest :=
      after?_eq_some_iff.2 rfl
    rw [List.nil_append, breakOn?.eq_def, hfront]
  | cons d ds ih =>
    have hfront : after? (mark ++ [c]) (d :: ds ++ (mark ++ [c] ++ rest)) = none := by
      rw [after?_eq_none_iff]
      intro hp
      have hlen : (mark ++ [c]).length ≤ (d :: ds ++ mark).length := by
        simp only [List.length_append, List.length_cons, List.length_nil]
        omega
      have hshort : mark ++ [c] <+: d :: ds ++ mark :=
        List.prefix_of_prefix_length_le hp ⟨[c] ++ rest, by simp⟩ hlen
      exact h hshort.isInfix
    rw [List.cons_append, List.infix_cons_iff, not_or] at h
    rw [breakOn?.eq_def, hfront]
    exact congrArg (Option.map _) (ih h.2)

/-- A mark of two characters is found where it is written, if it stands nowhere before. -/
theorem breakOn?_pair {a b : Char} (hab : a ≠ b) {inner : Text} (h : ¬[a, b] <:+: inner)
    (rest : Text) : breakOn? [a, b] (inner ++ a :: b :: rest) = some (inner, rest) :=
  breakOn?_mark (fun hmem => hab (List.mem_singleton.1 hmem)) h [] rest

theorem breakOn?_char {c : Char} {inner : Text} (h : c ∉ inner) (rest : Text) :
    breakOn? [c] (inner ++ c :: rest) = some (inner, rest) :=
  breakOn?_mark List.not_mem_nil (fun hmark => h ((List.singleton_infix_iff ..).1 hmark)) [] rest

/-- Characters of a kind are taken up to the first that is of another. -/
theorem takeWhile_append_cons {p : Char → Bool} {inner : Text} (h : ∀ d ∈ inner, p d = true)
    {c : Char} (hc : p c = false) (rest : Text) : (inner ++ c :: rest).takeWhile p = inner := by
  rw [List.takeWhile_append_of_pos h]
  simp [hc]

theorem dropWhile_append_cons {p : Char → Bool} {inner : Text} (h : ∀ d ∈ inner, p d = true)
    {c : Char} (hc : p c = false) (rest : Text) :
    (inner ++ c :: rest).dropWhile p = c :: rest := by
  rw [List.dropWhile_append_of_pos h]
  simp [hc]

/-! ## The first place -/

/-- What stands before and after the first occurrence of a mark in a text. -/
structure FirstAt (mark s before rest : Text) : Prop where
  eq : s = before ++ mark ++ rest
  least : ∀ b r, s = b ++ mark ++ r → before.length ≤ b.length

theorem firstAt_of_breakOn? {mark s before rest : Text}
    (h : breakOn? mark s = some (before, rest)) : FirstAt mark s before rest := by
  refine ⟨eq_of_breakOn? h, ?_⟩
  fun_induction breakOn? mark s generalizing before with
  | case1 s r hr =>
    obtain ⟨rfl, rfl⟩ : [] = before ∧ r = rest := by simpa using h
    exact fun b _ _ => Nat.zero_le b.length
  | case2 => cases h
  | case3 c cs hnone ih =>
    obtain ⟨⟨before', rest'⟩, hb, he⟩ := Option.map_eq_some_iff.1 h
    obtain ⟨rfl, rfl⟩ : c :: before' = before ∧ rest' = rest := by simpa using he
    intro b r hs
    cases b with
    | nil => exact absurd ⟨r, hs.symm⟩ (after?_eq_none_iff.1 hnone)
    | cons d b =>
      obtain ⟨-, hcs⟩ := List.cons.inj hs
      simpa using ih hb b r hcs

/-! ## All places -/

/-- At how many places of a text a mark stands. -/
def occurrences (mark s : Text) : Nat := s.tails.countP fun t => decide (mark <+: t)

theorem occurrences_nil {mark : Text} (h : mark ≠ []) : occurrences mark [] = 0 := by
  simp [occurrences, h]

theorem occurrences_cons (mark : Text) (c : Char) (s : Text) :
    occurrences mark (c :: s) = occurrences mark s + if mark <+: c :: s then 1 else 0 := by
  simp [occurrences, List.countP_cons]

theorem occurrences_eq_zero_iff {mark s : Text} : occurrences mark s = 0 ↔ ¬mark <:+: s := by
  rw [occurrences, List.countP_eq_zero, List.infix_iff_prefix_suffix]
  simp only [List.mem_tails, decide_eq_true_eq]
  constructor
  · rintro h ⟨t, hprefix, hsuffix⟩
    exact h t hsuffix hprefix
  · intro h t hsuffix hprefix
    exact h ⟨t, hprefix, hsuffix⟩

/-- Text without the first character of a mark adds no place. -/
theorem occurrences_append_of_not_mem {a : Char} {mark u : Text} (h : a ∉ u) (s : Text) :
    occurrences (a :: mark) (u ++ s) = occurrences (a :: mark) s := by
  induction u with
  | nil => rfl
  | cons c u ih =>
    rw [List.mem_cons, not_or] at h
    have hfront : ¬(a :: mark) <+: c :: (u ++ s) := by
      rw [List.cons_prefix_cons]
      exact fun hp => h.1 hp.1
    rw [List.cons_append, occurrences_cons, if_neg hfront, ih h.2, Nat.add_zero]

theorem prefix_append_cons_iff {mark : Text} {c : Char} (h : c ∉ mark) (s t : Text) :
    mark <+: s ++ c :: t ↔ mark <+: s := by
  refine ⟨fun hp => ?_, fun hp => hp.trans (List.prefix_append s _)⟩
  by_cases hlen : mark.length ≤ s.length
  · exact List.prefix_of_prefix_length_le hp (List.prefix_append s _) hlen
  · -- A longer mark goes past `s` and holds the character there.
    have hshort : s ++ [c] <+: mark := by
      refine List.prefix_of_prefix_length_le ⟨t, by simp⟩ hp ?_
      simp only [List.length_append, List.length_singleton]
      omega
    exact absurd (hshort.subset (by simp)) h

/-- A character that a mark does not hold parts the places before it from those behind it. -/
theorem occurrences_append_cons {mark : Text} (hmark : mark ≠ []) {c : Char} (hc : c ∉ mark)
    (s t : Text) : occurrences mark (s ++ c :: t) = occurrences mark s + occurrences mark t := by
  induction s with
  | nil =>
    have hfront : ¬mark <+: c :: t := fun hp =>
      hmark (List.prefix_nil.1 ((prefix_append_cons_iff hc [] t).1 hp))
    rw [List.nil_append, occurrences_cons, if_neg hfront, occurrences_nil hmark]
    omega
  | cons d s ih =>
    have hfront := prefix_append_cons_iff hc (d :: s) t
    rw [List.cons_append] at hfront
    rw [List.cons_append, occurrences_cons, occurrences_cons, ih]
    simp only [hfront]
    omega

end Blockbook.Text
