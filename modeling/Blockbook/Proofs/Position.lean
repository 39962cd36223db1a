import Blockbook.Proofs.Slice
import Mathlib.Data.List.Induction
import Mathlib.Data.List.TakeWhile
import Mathlib.Data.Prod.Lex

/-!
# Lines and columns

A line and a column tell people where they are in a text. Counted without a bound they grow with the
bytes that lie before a place, line first. A span has them as numbers of 32 bits. In a text of less
than 4 GiB these are the counts at every place but one: the end of a text that has as many lines, or
as long a line, as there are numbers. There one of them is zero, so that the last place of such a
text comes before all others. Even so no two places have both in common.

* `Text.lineColumn_lt_append`: the counts grow with every character.
* `Span.locate?_eq_count`: the line and column of a character boundary, counted in the text before.
* `Span.lineColumn_lt_iff`: a place comes before a later one, unless the text is overfull there.
* `Span.eq_of_lineColumn_eq`: a line and a column determine the place.
-/

namespace Blockbook

namespace Text

/-- A character of the text starts at byte `n`, or the text ends there. -/
def IsBoundary (s : Text) (n : Nat) : Prop :=
  ∃ front rest, s = front ++ rest ∧ byteLength front = n

/-- The characters of a text since its last line feed, the last one first. -/
def lastLine (s : Text) : Text := s.reverse.takeWhile (· ≠ '\n')

/-- The line and the column after a text as they are counted, in the order of reading. -/
def lineColumn (s : Text) : Nat ×ₗ Nat := toLex (s.count '\n' + 1, s.lastLine.length + 1)

/-- A text with one character less than there are numbers of 32 bits, all of them line feeds or all
on one line. The line or the column after it has no number. -/
def Overfull (s : Text) : Prop :=
  s.length + 1 = UInt32.size ∧ ((∀ c ∈ s, c = '\n') ∨ '\n' ∉ s)

theorem length_le_byteLength (s : Text) : s.length ≤ byteLength s := by
  induction s with
  | nil => exact Nat.le_refl _
  | cons c cs ih =>
    have hpos := c.utf8Size_pos
    rw [List.length_cons, byteLength_cons]
    omega

theorem byteLength_replicate (n : Nat) : byteLength (List.replicate n '\n') = n := by
  induction n with
  | zero => rfl
  | succ n ih =>
    rw [List.replicate_succ, byteLength_cons, ih]
    exact Nat.add_comm 1 n

/-- Of two boundaries, the text before the later one goes on from the text before the other. -/
theorem IsBoundary.exists_between {s : Text} {m n : Nat} (hm : s.IsBoundary m)
    (hn : s.IsBoundary n) (hlt : m < n) :
    ∃ front between rest, s = front ++ between ++ rest ∧ byteLength front = m ∧
      byteLength (front ++ between) = n ∧ between ≠ [] := by
  obtain ⟨front, rest, rfl, rfl⟩ := hm
  obtain ⟨front', rest', hsplit, rfl⟩ := hn
  obtain ⟨between, rfl, rfl⟩ | ⟨between, rfl, -⟩ := List.append_eq_append_iff.1 hsplit
  · refine ⟨front, between, rest', hsplit, rfl, rfl, ?_⟩
    rintro rfl
    simp at hlt
  · rw [byteLength_append] at hlt
    omega

/-! ## Counting -/

theorem count_concat (s : Text) (c : Char) :
    (s ++ [c]).count '\n' = s.count '\n' + if c = '\n' then 1 else 0 := by
  rw [List.count_append, List.count_singleton]
  simp

theorem lastLine_concat (s : Text) (c : Char) :
    lastLine (s ++ [c]) = if c = '\n' then [] else c :: s.lastLine := by
  rw [lastLine, List.reverse_concat, List.takeWhile_cons, lastLine]
  by_cases hc : c = '\n' <;> simp [hc]

theorem lastLine_length_le (s : Text) : s.lastLine.length ≤ s.length := by
  rw [← s.length_reverse]
  exact (List.takeWhile_prefix _).length_le

theorem lastLine_length_eq_iff {s : Text} : s.lastLine.length = s.length ↔ '\n' ∉ s := by
  rw [← s.length_reverse]
  constructor
  · intro hlength hmem
    have hwhole : s.reverse.takeWhile (· ≠ '\n') = s.reverse :=
      (List.takeWhile_prefix _).eq_of_length hlength
    have hne := List.takeWhile_eq_self_iff.1 hwhole '\n' (List.mem_reverse.2 hmem)
    simp at hne
  · intro hnot
    rw [lastLine, List.takeWhile_eq_self_iff.2]
    intro c hc
    simpa using fun hnewline : c = '\n' => hnot (hnewline ▸ List.mem_reverse.1 hc)

theorem count_eq_length_iff {s : Text} : s.count '\n' = s.length ↔ ∀ c ∈ s, c = '\n' := by
  rw [List.count_eq_length]
  exact forall₂_congr fun _ _ => eq_comm

theorem lineColumn_lt_concat (s : Text) (c : Char) : s.lineColumn < lineColumn (s ++ [c]) := by
  rw [lineColumn, lineColumn, Prod.Lex.toLex_lt_toLex, count_concat, lastLine_concat]
  by_cases hc : c = '\n'
  · exact .inl (by simp [hc])
  · exact .inr (by simp [hc])

/-- The counts grow with every character. -/
theorem lineColumn_lt_append (s : Text) {t : Text} (h : t ≠ []) :
    s.lineColumn < lineColumn (s ++ t) := by
  induction t using List.reverseRecOn with
  | nil => exact absurd rfl h
  | append_singleton t c ih =>
    rw [← List.append_assoc]
    have hlast := lineColumn_lt_concat (s ++ t) c
    by_cases ht : t = []
    · rwa [ht, List.append_nil] at hlast ⊢
    · exact (ih ht).trans hlast

theorem not_overfull_of_lt {s : Text} (h : s.length + 1 < UInt32.size) : ¬s.Overfull :=
  fun hfull => h.ne hfull.1

/-- A text of less than 4 GiB is overfull nowhere but at its end. -/
theorem overfull_iff_append {front rest : Text} (hsize : byteLength (front ++ rest) < UInt32.size) :
    front.Overfull ↔ byteLength front = byteLength (front ++ rest) ∧ (front ++ rest).Overfull := by
  rw [byteLength_append] at hsize
  by_cases hrest : rest = []
  · simp [hrest]
  · have hpos := byteLength_pos hrest
    have hlength := front.length_le_byteLength
    refine iff_of_false (not_overfull_of_lt (by omega)) fun hend => ?_
    rw [byteLength_append] at hend
    omega

/-- Both counts have a number, unless the text is overfull. -/
theorem lt_size_of_not_overfull {s : Text} (hlength : s.length < UInt32.size) (h : ¬s.Overfull) :
    s.count '\n' + 1 < UInt32.size ∧ s.lastLine.length + 1 < UInt32.size := by
  have hcount : s.count '\n' ≤ s.length := List.count_le_length
  have hlast := s.lastLine_length_le
  by_cases hfull : s.length + 1 = UInt32.size
  · have hmixed : ¬((∀ c ∈ s, c = '\n') ∨ '\n' ∉ s) := fun hkind => h ⟨hfull, hkind⟩
    rw [← count_eq_length_iff, ← lastLine_length_eq_iff, not_or] at hmixed
    omega
  · omega

end Text

namespace Position

/-- The line counts the line feeds before a position, the column the characters since the last of
them. -/
theorem advance_start (s : Text) :
    (start.advance s).line = .ofNat (s.count '\n' + 1) ∧
      (start.advance s).column = .ofNat (s.lastLine.length + 1) := by
  induction s using List.reverseRecOn with
  | nil => exact ⟨rfl, rfl⟩
  | append_singleton s c ih =>
    have hstep : start.advance (s ++ [c]) = (start.advance s).step c := start.advance_append s [c]
    rw [hstep, step, Text.count_concat, Text.lastLine_concat]
    by_cases hc : c = '\n'
    · simp [hc, ih, UInt32.ofNat_add]
    · simp [hc, ih, UInt32.ofNat_add]

end Position

namespace Span

/-- The line and the column of a span, in the order of reading. -/
def lineColumn (s : Span) : Nat ×ₗ Nat := toLex (s.line.toNat, s.column.toNat)

theorem positionAt?_append (p : Position) (front rest : Text) :
    positionAt? (p.offset + Text.byteLength front) p (front ++ rest) = some (p.advance front) := by
  induction front generalizing p with
  | nil =>
    cases rest with
    | nil => rfl
    | cons c cs => exact if_pos rfl
  | cons c cs ih =>
    have hpos := c.utf8Size_pos
    have hnext := ih (p.step c)
    rw [p.offset_step, Nat.add_assoc, ← Text.byteLength_cons] at hnext
    rw [List.cons_append, positionAt?, if_neg (by simp; omega), if_neg (by omega), hnext]
    rfl

/-- A character boundary is located by the text before it. -/
theorem locate?_append (front rest : Text) (stop : Nat) :
    locate? (front ++ rest) (Text.byteLength front) stop =
      some (.of (Position.start.advance front) stop) := by
  have hoffset : (Position.start.advance front).offset = Text.byteLength front := by
    rw [Position.offset_advance]
    exact Nat.zero_add _
  have hfound : positionAt? (Text.byteLength front) .start (front ++ rest) =
      some (Position.start.advance front) := by
    have := positionAt?_append .start front rest
    rwa [show Position.start.offset = 0 from rfl, Nat.zero_add] at this
  rw [locate?, hfound]
  dsimp only
  rw [if_pos hoffset.le, of, hoffset]

/-- The line and column of a character boundary, counted in the text before it. -/
theorem locate?_eq_count (front rest : Text) (stop : Nat) :
    locate? (front ++ rest) (Text.byteLength front) stop =
      some ⟨Text.byteLength front, stop, .ofNat (front.count '\n' + 1),
        .ofNat (front.lastLine.length + 1)⟩ := by
  obtain ⟨hline, hcolumn⟩ := Position.advance_start front
  rw [locate?_append, of, hline, hcolumn, Position.offset_advance]
  simp [Position.start]

/-- A text of line feeds ends in a line that is one more than their number. -/
theorem locate?_replicate (n stop : Nat) :
    locate? (List.replicate n '\n') n stop = some ⟨n, stop, .ofNat (n + 1), 1⟩ := by
  have hcount : (List.replicate n '\n').count '\n' = n := List.count_replicate_self
  have hlast : Text.lastLine (List.replicate n '\n') = [] := by
    rw [Text.lastLine, List.reverse_replicate]
    cases n <;> rfl
  have hlocate := locate?_eq_count (List.replicate n '\n') [] stop
  rwa [List.append_nil, Text.byteLength_replicate, hcount, hlast] at hlocate

theorem exists_locate? {source : Text} {n : Nat} (h : source.IsBoundary n) (stop : Nat) :
    ∃ s, locate? source n stop = some s := by
  obtain ⟨front, rest, rfl, rfl⟩ := h
  exact ⟨_, locate?_append front rest stop⟩

/-! ## Numbers of 32 bits -/

section Located

variable {front rest : Text} {stop : Nat} {s : Span}

/-- A span has the counts as its line and column, unless the text before it is overfull. -/
theorem lineColumn_eq_of_not_overfull (hlength : front.length < UInt32.size)
    (hfits : ¬front.Overfull)
    (h : locate? (front ++ rest) (Text.byteLength front) stop = some s) :
    s.lineColumn = front.lineColumn := by
  obtain ⟨hline, hcolumn⟩ := Text.lt_size_of_not_overfull hlength hfits
  rw [locate?_eq_count] at h
  cases h
  rw [lineColumn, Text.lineColumn, UInt32.toNat_ofNat_of_lt' hline,
    UInt32.toNat_ofNat_of_lt' hcolumn]

/-- After an overfull text the line is zero, or the column is zero in the first line. -/
theorem lineColumn_of_overfull (hfull : front.Overfull)
    (h : locate? (front ++ rest) (Text.byteLength front) stop = some s) :
    s.line.toNat = 0 ∨ ('\n' ∉ front ∧ s.line.toNat = 1 ∧ s.column.toNat = 0) := by
  rw [locate?_eq_count] at h
  cases h
  obtain ⟨hlength, hfeeds | hnone⟩ := hfull
  · rw [← Text.count_eq_length_iff] at hfeeds
    refine .inl ?_
    dsimp only
    rw [hfeeds, hlength]
    rfl
  · refine .inr ⟨hnone, ?_, ?_⟩
    · dsimp only
      rw [List.count_eq_zero.2 hnone]
      rfl
    · dsimp only
      rw [Text.lastLine_length_eq_iff.2 hnone, hlength]
      rfl

end Located

section Order

variable {source : Text} {m n stop stop' : Nat} {s t : Span}

/-- Two places of a text are in the order of their counts, unless the text before the later one is
overfull, and then they are in the other order. -/
theorem lineColumn_lt_or_gt {front between rest : Text}
    (hsize : Text.byteLength (front ++ between ++ rest) < UInt32.size) (hne : between ≠ [])
    (hs : locate? (front ++ between ++ rest) (Text.byteLength front) stop = some s)
    (ht : locate? (front ++ between ++ rest) (Text.byteLength (front ++ between)) stop' = some t) :
    (¬(front ++ between).Overfull ∧ s.lineColumn < t.lineColumn) ∨
      ((front ++ between).Overfull ∧ t.lineColumn < s.lineColumn) := by
  have hlength := (front ++ between).length_le_byteLength
  have hpos := List.length_pos_iff.2 hne
  rw [Text.byteLength_append] at hsize
  have hshorter : front.length + between.length < UInt32.size := by
    rw [← List.length_append]
    omega
  -- the text before the earlier place is shorter, so it is not overfull
  have hfits : ¬front.Overfull := Text.not_overfull_of_lt (by omega)
  rw [List.append_assoc] at hs
  have hcounts := lineColumn_eq_of_not_overfull (by omega) hfits hs
  by_cases hfull : (front ++ between).Overfull
  · refine .inr ⟨hfull, ?_⟩
    rw [hcounts, lineColumn, Text.lineColumn, Prod.Lex.toLex_lt_toLex]
    obtain hline | ⟨hnone, hline, hcolumn⟩ := lineColumn_of_overfull hfull ht
    · exact .inl (by simp [hline])
    · have hfront : front.count '\n' = 0 :=
        List.count_eq_zero.2 fun hmem => hnone (List.mem_append_left _ hmem)
      exact .inr (by simp [hline, hcolumn, hfront])
  · refine .inl ⟨hfull, ?_⟩
    rw [hcounts, lineColumn_eq_of_not_overfull (by rwa [List.length_append]) hfull ht]
    exact Text.lineColumn_lt_append front hne

/-- A place comes before a later one, unless that is the end of an overfull text. -/
theorem lineColumn_lt_iff (hsize : Text.byteLength source < UInt32.size)
    (hm : source.IsBoundary m) (hn : source.IsBoundary n) (hlt : m < n)
    (hs : locate? source m stop = some s) (ht : locate? source n stop' = some t) :
    s.lineColumn < t.lineColumn ↔ ¬(n = Text.byteLength source ∧ source.Overfull) := by
  obtain ⟨front, between, rest, rfl, rfl, rfl, hne⟩ := hm.exists_between hn hlt
  rw [← Text.overfull_iff_append hsize]
  obtain ⟨hfits, hlt⟩ | ⟨hfull, hgt⟩ := lineColumn_lt_or_gt hsize hne hs ht
  · exact iff_of_true hlt hfits
  · exact iff_of_false hgt.asymm (not_not_intro hfull)

theorem lineColumn_ne (hsize : Text.byteLength source < UInt32.size)
    (hm : source.IsBoundary m) (hn : source.IsBoundary n) (hlt : m < n)
    (hs : locate? source m stop = some s) (ht : locate? source n stop' = some t) :
    s.lineColumn ≠ t.lineColumn := by
  obtain ⟨front, between, rest, rfl, rfl, rfl, hne⟩ := hm.exists_between hn hlt
  obtain ⟨-, hlt⟩ | ⟨-, hgt⟩ := lineColumn_lt_or_gt hsize hne hs ht
  · exact hlt.ne
  · exact hgt.ne'

/-- A line and a column tell where they were found. -/
theorem eq_of_lineColumn_eq (hsize : Text.byteLength source < UInt32.size)
    (hm : source.IsBoundary m) (hn : source.IsBoundary n)
    (hs : locate? source m stop = some s) (ht : locate? source n stop' = some t)
    (h : s.lineColumn = t.lineColumn) : m = n := by
  obtain hlt | heq | hgt := Nat.lt_trichotomy m n
  · exact absurd h (lineColumn_ne hsize hm hn hlt hs ht)
  · exact heq
  · exact absurd h.symm (lineColumn_ne hsize hn hm hgt ht hs)

end Order

end Span

end Blockbook
