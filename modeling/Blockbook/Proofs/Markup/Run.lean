import Blockbook.Proofs.Markup.Piece

/-!
# Runs are read back

A run is text with elements in its flow, up to the next construct outside runs. `Flow` reads a run
from the front of a text. What a run is shown as reads as a run again, with any blanks behind it, as
long as the solid characters that follow are the same.

* `exists_flow`: every text starts with a run, if its comments end.
* `Flow.read`: a shown run is read back as a run that is shown the same.
-/

namespace Blockbook.Markup

open Text

/-- Every `<!--` of a text is followed by a `-->`. -/
def CommentsEnd (s : Text) : Prop :=
  ∀ before after, s = before ++ (['<', '!', '-', '-'] ++ after) →
    contains after ['-', '-', '>'] = true

/-- A text ends here or goes on with a construct outside runs. -/
def Stops (y : Text) : Prop :=
  y = [] ∨ ∃ token rest, construct? y = some (token, rest) ∧ token.isInline = false

/-- A text ends here or goes on with a construct. -/
def AtConstruct (y : Text) : Prop := y = [] ∨ ∃ token rest, construct? y = some (token, rest)

/-- No `<` of a text starts a construct where `x` follows. -/
def Inert (u x : Text) : Prop := ∀ v, '<' :: v <:+ u → construct? ('<' :: (v ++ x)) = none

/-- No `<` of a text starts a construct where `x` follows, and none looks like a comment. -/
def Stray (u x : Text) : Prop :=
  ∀ v, '<' :: v <:+ u → ¬commentMark <+: v ∧ construct? ('<' :: (v ++ x)) = none

/-- A text starts with the tokens of a run, up to where runs stop. -/
inductive Flow : Text → List Token → Text → Prop where
  | stop {u y : Text} : Stray u y → Stops y → Flow (u ++ y) (flushText u.reverse) y
  | tag {u x rest y : Text} {token : Token} {ts : List Token} : Stray u x →
      construct? x = some (token, rest) → token.isInline = true → Flow rest ts y →
      Flow (u ++ x) (flushText u.reverse ++ token :: ts) y

theorem CommentsEnd.of_suffix {s t : Text} (h : CommentsEnd s) (hst : t <:+ s) : CommentsEnd t := by
  obtain ⟨front, rfl⟩ := hst
  intro before after ht
  exact h (front ++ before) after (by rw [ht, List.append_assoc])

theorem commentsEnd_iff {s : Text} :
    CommentsEnd s ↔ ∀ t ∈ s.tails, ∀ after ∈ after? ['<', '!', '-', '-'] t,
      contains after ['-', '-', '>'] = true := by
  constructor
  · intro h t ht after hafter
    obtain ⟨before, rfl⟩ := (List.mem_tails t s).1 ht
    exact h before after (by rw [after?_eq_some_iff.1 hafter])
  · rintro h before after rfl
    exact h _ ((List.mem_tails _ _).2 (List.suffix_append ..)) after (after?_eq_some_iff.2 rfl)

instance (s : Text) : Decidable (CommentsEnd s) := decidable_of_iff' _ commentsEnd_iff

/-- Where comments end, each of them is a construct. -/
theorem CommentsEnd.not_commentMark {v : Text} (h : CommentsEnd ('<' :: v))
    (hnone : construct? ('<' :: v) = none) : ¬commentMark <+: v := by
  rintro ⟨r, rfl⟩
  have hr : contains r ['-', '-', '>'] = true := h [] r rfl
  have hbreak : breakOn? ['-', '-', '>'] r = none := Option.map_eq_none_iff.1 hnone
  rw [contains, hbreak] at hr
  cases hr

theorem startsMarkup_of_construct? {x rest : Text} {token : Token}
    (h : construct? x = some (token, rest)) : StartsMarkup x := by
  obtain ⟨inner, rfl, -, -⟩ | ⟨front, rfl, -, -⟩ := construct?_cases h
  · exact .inr ⟨_, rfl⟩
  · exact .inr ⟨_, rfl⟩

theorem Stops.startsMarkup {y : Text} (h : Stops y) : StartsMarkup y := by
  obtain rfl | ⟨token, rest, hc, -⟩ := h
  · exact .inl rfl
  · exact startsMarkup_of_construct? hc

/-! ## Stray text -/

theorem Stray.tokens {u x : Text} (h : Stray u x) :
    tokens (u ++ x) = prependText u (Markup.tokens x) :=
  tokens_append_of_stray fun v hv => (h v hv).2

/-- Text that echoes stray text is stray, before the same solid characters. -/
theorem Stray.echo {u u' x x' : Text} (h : Stray u x) (he : Echoes u u') (hx : StartsMarkup x)
    (hx' : StartsMarkup x') (hsolid : solid x = solid x') : Stray u' x' := by
  intro v' hv'
  obtain ⟨v, hv, hword, hv''⟩ := he v' hv'
  obtain ⟨hmark, hnone⟩ := h v hv
  refine ⟨?_, construct?_eq_none_of_solid hx hx' hmark hword hv'' hsolid hnone⟩
  rwa [prefix_firstWord_iff (by rfl), ← hword, ← prefix_firstWord_iff (by rfl)]

/-- Every text starts with inert text up to its end or its first construct. -/
theorem exists_inert (s : Text) : ∃ u x, s = u ++ x ∧ Inert u x ∧ AtConstruct x := by
  induction s with
  | nil => exact ⟨[], [], rfl, fun v hv => by simp at hv, .inl rfl⟩
  | cons c cs ih =>
    cases hc : construct? (c :: cs) with
    | some found =>
      exact ⟨[], c :: cs, rfl, fun v hv => by simp at hv, .inr ⟨found.1, found.2, hc⟩⟩
    | none =>
      obtain ⟨u, x, rfl, hinert, hx⟩ := ih
      refine ⟨c :: u, x, rfl, fun v hv => ?_, hx⟩
      obtain heq | hv := List.suffix_cons_iff.1 hv
      · obtain ⟨rfl, rfl⟩ := List.cons.inj heq
        exact hc
      · exact hinert v hv

theorem exists_stray {s : Text} (h : CommentsEnd s) :
    ∃ u x, s = u ++ x ∧ Stray u x ∧ (x = [] ∨ ∃ token rest, construct? x = some (token, rest)) := by
  obtain ⟨u, x, rfl, hinert, hx⟩ := exists_inert s
  refine ⟨u, x, rfl, fun v hv => ⟨fun hmark => ?_, hinert v hv⟩, hx⟩
  have hsuffix : '<' :: (v ++ x) <:+ u ++ x := List.suffix_append_self_iff.2 hv
  exact (h.of_suffix hsuffix).not_commentMark (hinert v hv) (hmark.trans (List.prefix_append ..))

/-! ## Runs -/

theorem isInlineElement_of_isRawText {name : Text} (h : isRawText name = true) :
    isInlineElement name = false := by
  have hall : ∀ n ∈ rawTextElements, isInlineElement n = false := by decide
  exact hall name (List.contains_iff_mem.1 h)

theorem rawName?_of_isInline {token : Token} (h : token.isInline = true) :
    token.rawName? = none := by
  match token with
  | .opening name tag true => rfl
  | .opening name tag false =>
    have hname : isInlineElement name = true := h
    by_cases hraw : isRawText name = true
    · rw [isInlineElement_of_isRawText hraw] at hname
      cases hname
    · simp [Token.rawName?, hraw]
  | .closing _ _ => rfl
  | .verbatim _ => rfl
  | .rawText _ => rfl
  | .text _ => rfl

/-- Every text starts with a run. -/
theorem exists_flow {s : Text} (h : CommentsEnd s) : ∃ ts y, Flow s ts y := by
  induction hn : s.length using Nat.strong_induction_on generalizing s with
  | _ n ih =>
    obtain ⟨u, x, rfl, hstray, rfl | ⟨token, rest, hc⟩⟩ := exists_stray h
    · exact ⟨_, [], .stop hstray (.inl rfl)⟩
    · by_cases hinline : token.isInline = true
      · have hlen : rest.length < n := by
          have := length_of_construct? hc
          simp only [List.length_append] at hn
          omega
        have hrest := h.of_suffix ((suffix_of_construct? hc).trans (List.suffix_append u x))
        obtain ⟨ts, y, hflow⟩ := ih rest.length hlen hrest rfl
        exact ⟨_, y, .tag hstray hc hinline hflow⟩
      · exact ⟨_, x, .stop hstray (.inr ⟨token, rest, hc, by simpa using hinline⟩)⟩

theorem prependText_of_construct? {u x rest : Text} {token : Token}
    (h : construct? x = some (token, rest)) :
    prependText u (tokens x) = flushText u.reverse ++ tokens x := by
  rw [tokens_of_construct? h, prependText_of_not_text (construct?_not_text h)]

theorem prependText_of_stops {u y : Text} (h : Stops y) :
    prependText u (tokens y) = flushText u.reverse ++ tokens y := by
  obtain rfl | ⟨token, rest, hc, -⟩ := h
  · rw [tokens_nil]
    rfl
  · exact prependText_of_construct? hc

theorem AtConstruct.startsMarkup {y : Text} (h : AtConstruct y) : StartsMarkup y := by
  obtain rfl | ⟨token, rest, hc⟩ := h
  · exact .inl rfl
  · exact startsMarkup_of_construct? hc

theorem Inert.tokens {u y : Text} (h : Inert u y) (hy : AtConstruct y) :
    tokens (u ++ y) = flushText u.reverse ++ Markup.tokens y := by
  rw [tokens_append_of_stray h]
  obtain rfl | ⟨token, rest, hc⟩ := hy
  · exact prependText_of_stops (.inl rfl)
  · exact prependText_of_construct? hc

theorem isInline_of_mem_flushText {pending : Text} {token : Token} (h : token ∈ flushText pending) :
    token.isInline = true := by
  unfold flushText at h
  split at h
  · cases h
  · rw [List.mem_singleton.1 h]
    rfl

theorem flatMap_flushText (u : Text) :
    (flushText u.reverse).flatMap Token.inRun = reduce [] u := by
  by_cases hu : u = []
  · subst hu
    rw [reduce_eq, reduceAfter_nil]
    rfl
  · rw [flushText_reverse hu]
    simp [Token.inRun]

/-- A construct ends in a solid character, so trimming stops after it. -/
theorem trimEnd_append_inRun {y rest : Text} {token : Token}
    (h : construct? y = some (token, rest)) (u t : Text) :
    trimEnd (u ++ (token.inRun ++ t)) = u ++ (token.inRun ++ trimEnd t) := by
  obtain ⟨inner, hinner⟩ := inRun_of_construct? h
  have hlast := trimEnd_append_of_last (c := '>') rfl (u ++ '<' :: inner) t
  rw [hinner]
  simpa using hlast

theorem Stops.takeWhile {y : Text} (h : Stops y) :
    (tokens y).takeWhile Token.isInline = [] ∧ (tokens y).dropWhile Token.isInline = tokens y := by
  obtain rfl | ⟨token, rest, hc, hblock⟩ := h
  · rw [tokens_nil]
    exact ⟨rfl, rfl⟩
  · rw [tokens_of_construct? hc, List.takeWhile_cons_of_neg (by simp [hblock]),
      List.dropWhile_cons_of_neg (by simp [hblock])]
    exact ⟨rfl, rfl⟩

namespace Flow

variable {s y : Text} {ts : List Token}

theorem stops (h : Flow s ts y) : Stops y := by
  induction h with
  | stop _ hy => exact hy
  | tag _ _ _ _ ih => exact ih

theorem suffix (h : Flow s ts y) : y <:+ s := by
  induction h with
  | stop => exact List.suffix_append ..
  | tag _ hc _ _ ih => exact (ih.trans (suffix_of_construct? hc)).trans (List.suffix_append ..)

theorem isInline (h : Flow s ts y) : ∀ token ∈ ts, token.isInline = true := by
  induction h with
  | stop => exact fun token => isInline_of_mem_flushText
  | tag _ _ hinline _ ih =>
    intro token htoken
    obtain htoken | htoken := List.mem_append.1 htoken
    · exact isInline_of_mem_flushText htoken
    · obtain rfl | htoken := List.mem_cons.1 htoken
      · exact hinline
      · exact ih token htoken

/-- The tokens of a text are those of the run it starts with, and those of the rest. -/
theorem tokens (h : Flow s ts y) : Markup.tokens s = ts ++ Markup.tokens y := by
  induction h with
  | stop hstray hy => rw [hstray.tokens, prependText_of_stops hy]
  | tag hstray hc hinline hflow ih =>
    rw [hstray.tokens, prependText_of_construct? hc, tokens_of_construct? hc,
      tokensAfter_of_rawName?_none (rawName?_of_isInline hinline), ih]
    simp

theorem pieces (h : Flow s ts y) :
    Markup.pieces (Markup.tokens s) = runPiece ts ++ Markup.pieces (Markup.tokens y) := by
  obtain ⟨htake, hdrop⟩ := h.stops.takeWhile
  rw [pieces_split, h.tokens, List.takeWhile_append_of_pos h.isInline,
    List.dropWhile_append_of_pos h.isInline, htake, hdrop, List.append_nil]

theorem solid (h : Flow s ts y) :
    Text.solid s = Text.solid (ts.flatMap Token.inRun) ++ Text.solid y := by
  induction h with
  | stop => rw [solid_append, flatMap_flushText, reduce_eq, solid_reduceAfter]
  | tag _ hc _ _ ih =>
    rw [solid_append, solid_of_construct? hc, ih, List.flatMap_append, flatMap_flushText,
      List.flatMap_cons, solid_append, solid_append, reduce_eq, solid_reduceAfter]
    simp

/-- A shown run, with any blanks behind it, is read back as a run that is shown the same. -/
theorem read {b y' : Text} (h : Flow s ts y) (hb : AllBlank b) (hy' : Stops y')
    (hsolid : Text.solid y' = Text.solid y) :
    ∃ ts' q, AllBlank q ∧
      Flow (trimEnd (ts.flatMap Token.inRun) ++ (b ++ y')) ts' y' ∧
      ts'.flatMap Token.inRun = trimEnd (ts.flatMap Token.inRun) ++ q := by
  induction h with
  | @stop u y hstray hy =>
    rw [flatMap_flushText]
    have hecho : Echoes u (trimEnd (reduce [] u) ++ b) :=
      ((echoes_reduce u).trans (echoes_trimEnd _)).trans (echoes_append hb _)
    have hstray' := hstray.echo hecho hy.startsMarkup hy'.startsMarkup hsolid.symm
    have hreduce : trimEnd (reduce [] (trimEnd (reduce [] u) ++ b)) = trimEnd (reduce [] u) := by
      obtain ⟨q, hq, hu⟩ := exists_trimEnd (reduce [] u)
      rw [trimEnd_reduce_append hb, ← trimEnd_reduce_append hq, ← hu, reduce_reduce]
    obtain ⟨q, hq, hshown⟩ := exists_trimEnd (reduce [] (trimEnd (reduce [] u) ++ b))
    refine ⟨flushText (trimEnd (reduce [] u) ++ b).reverse, q, hq, ?_, ?_⟩
    · rw [← List.append_assoc]
      exact .stop hstray' hy'
    · rw [flatMap_flushText, hshown, hreduce]
  | @tag u x rest y token ts hstray hc hinline hflow ih =>
    obtain ⟨ts', q, hq, hflow', hshown⟩ := ih hsolid
    have htrim : trimEnd ((flushText u.reverse ++ token :: ts).flatMap Token.inRun) =
        reduce [] u ++ (token.inRun ++ trimEnd (ts.flatMap Token.inRun)) := by
      rw [List.flatMap_append, flatMap_flushText, List.flatMap_cons, trimEnd_append_inRun hc]
    have hstray' : Stray (reduce [] u)
        (token.inRun ++ (trimEnd (ts.flatMap Token.inRun) ++ (b ++ y'))) := by
      refine hstray.echo (echoes_reduce u) (startsMarkup_of_construct? hc) ?_ ?_
      · exact startsMarkup_of_construct? (construct?_inRun hc _)
      · rw [solid_of_construct? hc, hflow.solid]
        simp [hb.solid, hsolid]
    refine ⟨flushText (reduce [] u).reverse ++ token :: ts', q, hq, ?_, ?_⟩
    · rw [htrim, List.append_assoc, List.append_assoc]
      exact .tag hstray' (construct?_inRun hc _) hinline hflow'
    · rw [List.flatMap_append, flatMap_flushText, List.flatMap_cons, hshown, htrim, reduce_reduce]
      simp

end Flow

end Blockbook.Markup
