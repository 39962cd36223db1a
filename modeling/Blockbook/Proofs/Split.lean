import Blockbook.Text.Basic

/-!
# Pieces of a text

A text without the separator is one piece, and the first separator of a text ends its first piece.
No piece holds the separator, and the lines of a text joined again are the text.
-/

namespace Blockbook.Text

theorem splitOn_ne_nil (separator : Char) (s : Text) : splitOn separator s ≠ [] := by
  cases s with
  | nil => simp [splitOn]
  | cons c cs =>
    rw [splitOn]
    split
    · simp
    · split <;> simp

theorem splitOn_cons_self (separator : Char) (s : Text) :
    splitOn separator (separator :: s) = [] :: splitOn separator s := by
  rw [splitOn]
  split
  · next h => exact absurd h (splitOn_ne_nil separator s)
  · next h => rw [if_pos rfl, h]

theorem splitOn_cons_of_ne {separator c : Char} (hc : c ≠ separator) {s piece : Text}
    {pieces : List Text} (h : splitOn separator s = piece :: pieces) :
    splitOn separator (c :: s) = (c :: piece) :: pieces := by
  rw [splitOn, h]
  exact if_neg hc

theorem splitOn_of_not_mem {separator : Char} {s : Text} (h : separator ∉ s) :
    splitOn separator s = [s] := by
  induction s with
  | nil => rfl
  | cons c cs ih =>
    rw [List.mem_cons, not_or] at h
    exact splitOn_cons_of_ne (Ne.symm h.1) (ih h.2)

/-- The first separator ends the first piece. -/
theorem splitOn_append {separator : Char} {piece : Text} (h : separator ∉ piece) (s : Text) :
    splitOn separator (piece ++ separator :: s) = piece :: splitOn separator s := by
  induction piece with
  | nil => exact splitOn_cons_self separator s
  | cons c cs ih =>
    rw [List.mem_cons, not_or] at h
    exact splitOn_cons_of_ne (Ne.symm h.1) (ih h.2)

theorem not_mem_of_mem_splitOn {separator : Char} {s : Text} :
    ∀ piece ∈ splitOn separator s, separator ∉ piece := by
  induction s with
  | nil => simp [splitOn]
  | cons c cs ih =>
    by_cases hc : c = separator
    · rw [hc, splitOn_cons_self]
      exact List.forall_mem_cons.2 ⟨List.not_mem_nil, ih⟩
    · obtain ⟨piece, pieces, hsplit⟩ := List.exists_cons_of_ne_nil (splitOn_ne_nil separator cs)
      rw [hsplit, List.forall_mem_cons] at ih
      rw [splitOn_cons_of_ne hc hsplit]
      refine List.forall_mem_cons.2 ⟨fun hmem => ?_, ih.2⟩
      obtain rfl | hmem := List.mem_cons.1 hmem
      · exact hc rfl
      · exact ih.1 hmem

/-! ## Lines -/

theorem unlines_cons_cons (line next : Text) (lines : List Text) :
    unlines (line :: next :: lines) = line ++ '\n' :: unlines (next :: lines) := by
  simp [unlines, List.intercalate]

theorem unlines_splitOn (s : Text) : unlines (splitOn '\n' s) = s := by
  induction s with
  | nil => rfl
  | cons c cs ih =>
    obtain ⟨line, lines, hsplit⟩ := List.exists_cons_of_ne_nil (splitOn_ne_nil '\n' cs)
    rw [hsplit] at ih
    by_cases hc : c = '\n'
    · rw [hc, splitOn_cons_self, hsplit, unlines_cons_cons, ih, List.nil_append]
    · rw [splitOn_cons_of_ne hc hsplit]
      cases lines with
      | nil => rw [← ih]; rfl
      | cons next lines => rw [unlines_cons_cons, List.cons_append, ← unlines_cons_cons, ih]

/-- Lines that are each ended by a line feed are the pieces of their text, with nothing behind the
last of them. -/
theorem splitOn_ended {lines : List Text} (h : ∀ line ∈ lines, '\n' ∉ line) :
    splitOn '\n' (lines.flatMap (· ++ ['\n'])) = lines ++ [[]] := by
  induction lines with
  | nil => rfl
  | cons line lines ih =>
    obtain ⟨hline, hlines⟩ := List.forall_mem_cons.1 h
    rw [List.flatMap_cons, List.append_assoc, List.singleton_append, splitOn_append hline,
      ih hlines, List.cons_append]

end Blockbook.Text
