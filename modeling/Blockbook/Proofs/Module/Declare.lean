import Blockbook.Module.Registration
import Blockbook.Proofs.Search
import Blockbook.Proofs.Split

/-!
# Declared components

A call that registers or extends a component is taken apart greedily: a name goes on to the last
quote of the line after which the rest of the call still fits. If the line holds no other quotes,
that is the quote the name was written with. The module then declares its component by a default
export in the place of the call.

* `registerCall?_eq`, `extendCall?_eq`: the names of a call are the ones it was written with.
* `closeCalls_eq_closeLines`: which lines lose their parenthesis.
* `declare_register`, `declare_extend`: the module that declares the component.
-/

namespace Blockbook.Module

/-- What stands before the first line feed. -/
def firstLine (s : Text) : Text := s.takeWhile (· ≠ '\n')

theorem firstLine_append {line : Text} (h : '\n' ∉ line) (s : Text) :
    firstLine (line ++ s) = line ++ firstLine s := by
  refine List.takeWhile_append_of_pos fun c hc => ?_
  simpa using ne_of_mem_of_not_mem hc h

theorem firstLine_eq_nil_iff {s : Text} : firstLine s = [] ↔ s = [] ∨ s.head? = some '\n' := by
  cases s with
  | nil => simp [firstLine]
  | cons c cs => by_cases hc : c = '\n' <;> simp [firstLine, hc]

/-! ## Lines that close a call -/

/-- The end of a call becomes the end of an object. -/
def closeLine (line : Text) : Text := if line = "\x7d);" then "\x7d;" else line

/-- Every line after the first that is the end of a call becomes the end of an object. -/
def closeLines (s : Text) : Text :=
  match Text.splitOn '\n' s with
  | [] => []
  | first :: lines => Text.unlines (first :: lines.map closeLine)

theorem closeCalls_cons_of_ne {c : Char} (h : c ≠ '\n') (s : Text) :
    closeCalls (c :: s) = c :: closeCalls s :=
  closeCalls.eq_3 c s fun _ hc => absurd hc h

/-- Nothing is closed before the end of a line. -/
theorem closeCalls_append_of_not_mem {line : Text} (h : '\n' ∉ line) (s : Text) :
    closeCalls (line ++ s) = line ++ closeCalls s := by
  induction line with
  | nil => rfl
  | cons c cs ih =>
    rw [List.mem_cons, not_or] at h
    rw [List.cons_append, List.cons_append, closeCalls_cons_of_ne (Ne.symm h.1), ih h.2]

/-- A character is kept, unless it is the line feed before the end of a call. -/
theorem closeCalls_cons (c : Char) {s : Text} (h : firstLine s ≠ "\x7d);") :
    closeCalls (c :: s) = c :: closeCalls s := by
  by_cases hcall : ∃ rest, c = '\n' ∧ s = "\x7d);" ++ rest
  · obtain ⟨rest, rfl, rfl⟩ := hcall
    have hcond : (rest = [] || rest.head? = some '\n') = false := by
      have hrest : firstLine rest ≠ [] := fun hrest => h (by
        rw [firstLine_append (by decide), hrest, List.append_nil])
      simpa [firstLine_eq_nil_iff] using hrest
    rw [closeCalls_append_of_not_mem (by decide)]
    show closeCalls ('\n' :: '}' :: ')' :: ';' :: rest) = _
    rw [closeCalls, hcond]
    rfl
  · exact closeCalls.eq_3 c s fun rest hc hs => hcall ⟨rest, hc, hs⟩

theorem closeCalls_newline {line s : Text} (hline : '\n' ∉ line) (hs : firstLine s = []) :
    closeCalls ('\n' :: (line ++ s)) = '\n' :: (closeLine line ++ closeCalls s) := by
  by_cases hclose : line = "\x7d);"
  · have hcond : (s = [] || s.head? = some '\n') = true := by
      simpa [firstLine_eq_nil_iff] using hs
    rw [hclose, closeLine, if_pos rfl]
    show closeCalls ('\n' :: '}' :: ')' :: ';' :: s) = _
    rw [closeCalls, hcond]
    rfl
  · rw [closeLine, if_neg hclose, ← closeCalls_append_of_not_mem hline]
    apply closeCalls_cons
    rwa [firstLine_append hline, hs, List.append_nil]

theorem closeCalls_unlines {line : Text} {lines : List Text}
    (h : ∀ l ∈ line :: lines, '\n' ∉ l) :
    closeCalls ('\n' :: Text.unlines (line :: lines)) =
      '\n' :: Text.unlines ((line :: lines).map closeLine) := by
  induction lines generalizing line with
  | nil =>
    rw [List.forall_mem_singleton] at h
    have hline := closeCalls_newline h (s := []) rfl
    simpa [Text.unlines, closeCalls] using hline
  | cons next lines ih =>
    rw [List.forall_mem_cons] at h
    rw [Text.unlines_cons_cons, closeCalls_newline h.1 rfl, ih h.2, List.map_cons, List.map_cons,
      List.map_cons, Text.unlines_cons_cons]

/-- The line feed before the end of a call tells which lines are closed, so the first is not. -/
theorem closeCalls_eq_closeLines (s : Text) : closeCalls s = closeLines s := by
  obtain ⟨first, lines, hsplit⟩ := List.exists_cons_of_ne_nil (Text.splitOn_ne_nil '\n' s)
  have hlines : ∀ l ∈ first :: lines, '\n' ∉ l := hsplit ▸ Text.not_mem_of_mem_splitOn
  have hs : s = Text.unlines (first :: lines) := by rw [← hsplit, Text.unlines_splitOn]
  have hclosed : closeLines s = Text.unlines (first :: lines.map closeLine) := by
    rw [closeLines, hsplit]
  obtain ⟨hfirst, hlines⟩ := List.forall_mem_cons.1 hlines
  rw [hclosed, hs]
  cases lines with
  | nil =>
    have hone := closeCalls_append_of_not_mem hfirst []
    simpa [Text.unlines, closeCalls] using hone
  | cons next lines =>
    rw [Text.unlines_cons_cons, closeCalls_append_of_not_mem hfirst, closeCalls_unlines hlines,
      List.map_cons, Text.unlines_cons_cons]

/-! ## What stands before the export -/

theorem prefix_of_firstLine {mark s t : Text} (hmark : '\n' ∉ mark)
    (hline : firstLine s = firstLine t) (h : mark <+: s) : mark <+: t := by
  obtain ⟨rest, rfl⟩ := h
  rw [firstLine_append hmark] at hline
  exact (hline ▸ List.prefix_append mark _).trans (List.takeWhile_prefix _)

theorem not_infix_append {a : Char} {mark front s : Text} (hfront : a ∉ front)
    (h : ¬(a :: mark) <:+: s) : ¬(a :: mark) <:+: front ++ s := by
  induction front with
  | nil => exact h
  | cons c cs ih =>
    rw [List.mem_cons, not_or] at hfront
    rw [List.cons_append, List.infix_cons_iff, not_or]
    exact ⟨fun hp => hfront.1 (List.cons_prefix_cons.1 hp).1, ih hfront.2⟩

/-- A line that goes on with a character that is no part of the end of a call is no such end. -/
theorem firstLine_append_ne {p : Text} (hend : ∀ rest, p ≠ "\x7d);" ++ '\n' :: rest) {c : Char}
    (hc : c ∉ ("\n\x7d);" : Text)) (s : Text) : firstLine (p ++ c :: s) ≠ "\x7d);" := by
  intro h
  by_cases hnl : '\n' ∈ p
  · obtain ⟨line, rest, rfl, hline⟩ := List.eq_append_cons_of_mem hnl
    rw [List.append_assoc, firstLine_append hline] at h
    exact hend rest (by rw [← h, List.cons_append]; simp [firstLine])
  · have hfirst : c ∈ firstLine (c :: s) := by
      simp [firstLine, show c ≠ '\n' from fun hc' => hc (by simp [hc'])]
    rw [firstLine_append hnl] at h
    have hmem : c ∈ ("\x7d);" : Text) := h ▸ List.mem_append_right p hfirst
    exact hc (List.mem_cons_of_mem _ hmem)

/-- Text before a character that cannot be part of the end of a call is closed on its own. Words
that it does not hold do not come up when it is closed. -/
theorem closeCalls_append (p : Text) :
    ∃ q, firstLine q = firstLine p ∧
      (∀ a mark, a ∉ ("\n\x7d);" : Text) → '\n' ∉ mark →
        ¬(a :: mark) <:+: p → ¬(a :: mark) <:+: q) ∧
      ∀ c s, c ∉ ("\n\x7d);" : Text) → closeCalls (p ++ c :: s) = q ++ c :: closeCalls s := by
  match p with
  | [] =>
    refine ⟨[], rfl, fun _ _ _ _ h => h, fun c s hc => closeCalls_cons_of_ne ?_ s⟩
    exact fun h => hc (by simp [h])
  | c :: p =>
    by_cases hend : c = '\n' ∧ ∃ rest, p = "\x7d);" ++ '\n' :: rest
    · obtain ⟨rfl, rest, rfl⟩ := hend
      obtain ⟨q, hline, hmark, hclose⟩ := closeCalls_append ('\n' :: rest)
      refine ⟨"\n\x7d;" ++ q, rfl, fun a mark ha hnl h => ?_, fun d s hd => ?_⟩
      · have hsub : ("\n\x7d;" : Text) ⊆ "\n\x7d);" := by decide
        refine not_infix_append (fun hmem => ha (hsub hmem)) (hmark a mark ha hnl fun hrest => h ?_)
        exact hrest.trans (List.suffix_append ("\n\x7d);" : Text) _).isInfix
      · have hnewline := closeCalls_newline (by decide : '\n' ∉ ("\x7d);" : Text))
          (s := '\n' :: rest ++ d :: s) rfl
        rw [hclose d s hd] at hnewline
        simpa [closeLine] using hnewline
    · obtain ⟨q, hline, hmark, hclose⟩ := closeCalls_append p
      refine ⟨c :: q, ?_, fun a mark ha hnl h hq => ?_, fun d s hd => ?_⟩
      · rw [firstLine, firstLine, List.takeWhile_cons, List.takeWhile_cons, ← firstLine,
          ← firstLine, hline]
      · rw [List.infix_cons_iff, not_or] at h
        obtain hp | hq := List.infix_cons_iff.1 hq
        · obtain ⟨rfl, htail⟩ := List.cons_prefix_cons.1 hp
          exact h.1 (List.cons_prefix_cons.2 ⟨rfl, prefix_of_firstLine hnl hline htail⟩)
        · exact hmark a mark ha hnl h.2 hq
      · rw [List.cons_append, List.cons_append, ← hclose d s hd]
        by_cases hc : c = '\n'
        · exact closeCalls_cons c (firstLine_append_ne (fun rest hp => hend ⟨hc, rest, hp⟩) hd s)
        · exact closeCalls_cons_of_ne hc _
termination_by p.length

/-! ## The names of a call -/

/-- The number of quotes in the first line of a text. -/
def quotes (s : Text) : Nat := (firstLine s).count '\''

theorem quotes_append {line : Text} (h : '\n' ∉ line) (s : Text) :
    quotes (line ++ s) = line.count '\'' + quotes s := by
  rw [quotes, firstLine_append h, List.count_append, quotes]

theorem quotes_cons {c : Char} (h : c ≠ '\n') (s : Text) :
    quotes (c :: s) = (if c = '\'' then 1 else 0) + quotes s := by
  simp [quotes, firstLine, h, List.count_cons, Nat.add_comm]

section Longest

variable {α : Type} {tail : Text → Option α} {a : α}

/-- A stretch goes to the last place where the tail matches. -/
theorem longest?_append {front s : Text} (hfront : '\n' ∉ front)
    (h : longest? tail s = some ([], a)) : longest? tail (front ++ s) = some (front, a) := by
  induction front with
  | nil => exact h
  | cons c cs ih =>
    rw [List.mem_cons, not_or] at hfront
    rw [List.cons_append, longest?, if_neg (Ne.symm hfront.1), ih hfront.2]

theorem longest?_of_tail {c : Char} {s : Text} (hc : c ≠ '\n') (hs : longest? tail s = none)
    (h : tail (c :: s) = some a) : longest? tail (c :: s) = some ([], a) := by
  rw [longest?, if_neg hc, hs, h]
  rfl

/-- A tail that needs more quotes than a line has matches nowhere in it. -/
theorem longest?_eq_none {k : Nat} (htail : ∀ s, quotes s ≤ k → tail s = none) {s : Text}
    (hs : quotes s ≤ k) : longest? tail s = none := by
  induction s with
  | nil => rw [longest?, htail [] hs]; rfl
  | cons c cs ih =>
    rw [longest?]
    split
    · rw [htail _ hs]; rfl
    · next hc =>
      have hcs := quotes_cons hc cs
      rw [ih (by omega), htail _ hs]
      rfl

end Longest

theorem nameEnd?_eq_none_of_quotes {α : Type} (mark : Text) (next : Text → Option α) {s : Text}
    (h : quotes s ≤ 0) : nameEnd? mark next s = none := by
  unfold nameEnd?
  split
  · next s =>
    have hquote := quotes_cons (by decide : '\'' ≠ '\n') s
    simp at hquote
    omega
  · rfl

/-- The first name of two needs a quote after it, one more at the start of the second name, and what
the second name needs. -/
theorem nameEnd?_eq_none_of_next {α : Type} {next : Text → Option α}
    (hnext : ∀ s, quotes s ≤ 0 → next s = none) {s : Text} (h : quotes s ≤ 2) :
    nameEnd? ['\''] next s = none := by
  have hrest : ∀ t, quotes t ≤ 1 →
      ((anyChar? t).bind (Text.after? ['\''])).bind next = none := by
    intro t ht
    match t with
    | [] => rfl
    | [c] => by_cases hc : c = '\n' <;> simp [anyChar?, hc, Text.after?]
    | c :: d :: t =>
      by_cases hc : c = '\n'
      · simp [anyChar?, hc]
      by_cases hd : '\'' = d
      · subst hd
        have hquotes := quotes_cons hc ('\'' :: t)
        have hquote := quotes_cons (by decide : '\'' ≠ '\n') t
        simp only [if_true] at hquote
        simp [anyChar?, hc, Text.after?, hnext t (by omega)]
      · simp [anyChar?, hc, Text.after?, hd]
  unfold nameEnd?
  split
  · next s =>
    have hquote := quotes_cons (by decide : '\'' ≠ '\n') s
    simp only [if_true] at hquote
    dsimp only
    split
    · next t =>
      have hcomma := quotes_cons (by decide : ',' ≠ '\n') t
      rw [hrest t (by omega), hrest _ (by omega)]
      rfl
    · exact hrest s (by omega)
  · rfl

/-- A name goes on to the quote it was written with, if the rest of the line has no quotes. -/
theorem longest?_name {name rest : Text} (hname : '\n' ∉ name) (hrest : quotes rest = 0) :
    longest? (nameEnd? ['{'] some) (name ++ ("', \x7b" ++ rest)) = some (name, rest) := by
  refine longest?_append hname (longest?_of_tail (by decide) ?_ rfl)
  refine longest?_eq_none (fun s => nameEnd?_eq_none_of_quotes _ _) ?_
  show quotes (", \x7b" ++ rest) ≤ 0
  rw [quotes_append (by decide), hrest]
  decide

theorem registerCall?_eq {name rest : Text} (hname : '\n' ∉ name) (hrest : quotes rest = 0) :
    registerCall? ("Component.register('" ++ (name ++ ("', \x7b" ++ rest))) =
      some (name, rest) := by
  rw [registerCall?, Text.after?_eq_some_iff.2 rfl, Option.bind_some, longest?_name hname hrest]

theorem extendCall?_eq {name base rest : Text} (hname : '\n' ∉ name) (hbase : '\n' ∉ base)
    (hquote : '\'' ∉ base) (hrest : quotes rest = 0) :
    extendCall? ("Component.extend('" ++ (name ++ ("', '" ++ (base ++ ("', \x7b" ++ rest))))) =
      some (name, base, rest) := by
  have hinner := longest?_name hbase hrest
  rw [extendCall?, Text.after?_eq_some_iff.2 rfl, Option.bind_some]
  refine longest?_append hname (longest?_of_tail (by decide) ?_ ?_)
  · refine longest?_eq_none (k := 2) (fun s => nameEnd?_eq_none_of_next fun s hs =>
      longest?_eq_none (fun s => nameEnd?_eq_none_of_quotes _ _) hs) ?_
    show quotes (", '" ++ (base ++ ("', \x7b" ++ rest))) ≤ 2
    rw [quotes_append (by decide), quotes_append hbase, quotes_append (by decide), hrest,
      List.count_eq_zero.2 hquote]
    decide
  · show (Option.or (longest? (nameEnd? ['{'] some) (base ++ ("', \x7b" ++ rest))) _) = _
    rw [hinner]
    rfl

/-! ## The declared module -/

/-- A call is replaced where it stands, if the start of such a call stands nowhere before. -/
theorem replaceFirst_append {call? : Text → Option (Text × Text)} (a : Char) (start : Text)
    (ha : a ∉ start) (hcall : ∀ s, ¬(a :: start) <+: s → call? s = none) {p s written rest : Text}
    (hp : ¬(a :: start) <:+: p) (h : call? (a :: s) = some (written, rest)) :
    replaceFirst call? (p ++ a :: s) = p ++ (written ++ rest) := by
  induction p with
  | nil => rw [List.nil_append, replaceFirst.eq_def, h]; rfl
  | cons c cs ih =>
    have hnone := hcall _ (Text.not_prefix_append ha (List.cons_ne_nil c cs) hp s)
    rw [List.infix_cons_iff, not_or] at hp
    rw [replaceFirst.eq_def, hnone]
    exact congrArg (c :: ·) (ih hp.2)

theorem after?_eq_none_of_start {start mark s : Text} (hstart : start <+: mark)
    (h : ¬start <+: s) : Text.after? mark s = none :=
  Text.after?_eq_none_iff.2 fun hmark => h (hstart.trans hmark)

theorem declare_register {p name rest : Text} (hp : ¬("Component.register(" : Text) <:+: p)
    (hname : '\n' ∉ name) (hrest : quotes rest = 0) :
    declare (p ++ ("Component.register('" ++ (name ++ ("', \x7b" ++ rest)))) =
      closeCalls (p ++ (exportOpening name ++ rest)) := by
  have hdetect : Registration.detect? (p ++ ("Component.register('" ++ (name ++ ("', \x7b" ++
      rest)))) = some .register := by
    rw [Registration.detect?, if_pos (Text.contains_iff.2 ?_)]
    exact ⟨p, "('" ++ (name ++ ("', \x7b" ++ rest)), by simp⟩
  rw [declare, hdetect]
  refine congrArg closeCalls (replaceFirst_append 'C' "omponent.register(" (by decide)
    (fun s hs => ?_) hp ?_)
  · have hafter : Text.after? "Component.register('" s = none :=
      after?_eq_none_of_start ⟨['\''], rfl⟩ hs
    rw [registerCall?, hafter]
    rfl
  · exact congrArg (Option.map _) (registerCall?_eq hname hrest)

theorem declare_extend {p name base rest : Text} (hp : ¬("Component.extend(" : Text) <:+: p)
    (hregister : ¬("Component.register" : Text) <:+:
      p ++ ("Component.extend('" ++ (name ++ ("', '" ++ (base ++ ("', \x7b" ++ rest))))))
    (hname : '\n' ∉ name) (hbase : '\n' ∉ base) (hquote : '\'' ∉ base) (hrest : quotes rest = 0) :
    declare (p ++ ("Component.extend('" ++ (name ++ ("', '" ++ (base ++ ("', \x7b" ++ rest)))))) =
      closeCalls (p ++ (extendOpening name base ++ rest)) := by
  have hdetect : Registration.detect? (p ++ ("Component.extend('" ++ (name ++ ("', '" ++
      (base ++ ("', \x7b" ++ rest)))))) = some .extend := by
    rw [Registration.detect?, if_neg (mt Text.contains_iff.1 hregister),
      if_pos (Text.contains_iff.2 ?_)]
    exact ⟨p, "('" ++ (name ++ ("', '" ++ (base ++ ("', \x7b" ++ rest)))), by simp⟩
  rw [declare, hdetect]
  refine congrArg closeCalls (replaceFirst_append 'C' "omponent.extend(" (by decide)
    (fun s hs => ?_) hp ?_)
  · have hafter : Text.after? "Component.extend('" s = none :=
      after?_eq_none_of_start ⟨['\''], rfl⟩ hs
    rw [extendCall?, hafter]
    rfl
  · exact congrArg (Option.map _) (extendCall?_eq hname hbase hquote hrest)

end Blockbook.Module
