import Blockbook.Proofs.Slice
import Blockbook.Template.Token
import Mathlib.Data.List.Infix

/-!
# How a template is cut

Scanning carries the text that belongs to no tag along until it ends. What comes out of it is said
here without that text: a template is cut into segments one after the other, and a segment of plain
text reaches up to the next tag, comment or section.

* `scan_ok_iff`: scanning succeeds exactly where the text can be cut, with the segments in place.
* `Token.scan_ok_iff`: the tokens of a template are those of the segments it is cut into.
-/

namespace Blockbook.Template

/-- The characters of segments. -/
def Segment.sources (segments : List Segment) : Text := segments.flatMap Segment.source

/-- Segments one after the other, each with the place where it starts. -/
def place (p : Position) : List Segment → List (Position × Segment)
  | [] => []
  | segment :: segments => (p, segment) :: place (p.advance segment.source) segments

/-- No tag, comment or section starts in `u`, with `rest` after it. -/
def Plain (g : Grammar) (u rest : Text) : Prop :=
  ∀ v, v ≠ [] → v <:+ u → segment? g (v ++ rest) = .ok none

/-- Plain text ends here: there is no more text, or a tag, comment or section starts. -/
def EndsPlain (g : Grammar) (s : Text) : Prop :=
  s = [] ∨ ∃ segment rest, segment? g s = .ok (some (segment, rest))

/-- A text is cut into segments. -/
inductive Cut (g : Grammar) : Text → List Segment → Prop where
  | nil : Cut g [] []
  | text {u rest : Text} {segments : List Segment} : u ≠ [] → Plain g u rest → EndsPlain g rest →
      Cut g rest segments → Cut g (u ++ rest) (.text u :: segments)
  | segment {s rest : Text} {segment : Segment} {segments : List Segment} :
      segment? g s = .ok (some (segment, rest)) → Cut g rest segments → Cut g s (segment :: segments)

namespace Segment

theorem sources_cons (segment : Segment) (segments : List Segment) :
    sources (segment :: segments) = segment.source ++ sources segments := List.flatMap_cons

theorem sources_append (segments segments' : List Segment) :
    sources (segments ++ segments') = sources segments ++ sources segments' := List.flatMap_append

end Segment

theorem place_append (p : Position) (segments segments' : List Segment) :
    place p (segments ++ segments') =
      place p segments ++ place (p.advance (Segment.sources segments)) segments' := by
  induction segments generalizing p with
  | nil => rfl
  | cons segment segments ih =>
    rw [List.cons_append, place, place, ih, Segment.sources_cons, p.advance_append,
      List.cons_append]

theorem map_eq_ok_iff {ε α β : Type} {x : Except ε α} {f : α → β} {b : β} :
    x.map f = .ok b ↔ ∃ a, x = .ok a ∧ f a = b := by
  cases x <;> simp [Except.map]

theorem map_eq_error_iff {ε α β : Type} {x : Except ε α} {f : α → β} {e : ε} :
    x.map f = .error e ↔ x = .error e := by
  cases x <;> simp [Except.map]

variable {g : Grammar}

/-! ## One step -/

theorem scan_of_segment {s rest : Text} {segment : Segment}
    (h : segment? g s = .ok (some (segment, rest))) (p : Position) (pending : Text) :
    scan g p pending s =
      (scan g ((p.advance pending.reverse).advance segment.source) [] rest).map fun segments =>
        flushText p pending ++ (p.advance pending.reverse, segment) :: segments := by
  cases s with
  | nil => cases h
  | cons c cs =>
    rw [scan]
    split
    · next h' => rw [h] at h'; cases h'
    · next h' => rw [h] at h'; cases h'
    · next h' =>
      rw [h] at h'
      cases h'
      dsimp only
      cases scan g ((p.advance pending.reverse).advance segment.source) [] rest <;> rfl

theorem scan_of_none {c : Char} {cs : Text} (h : segment? g (c :: cs) = .ok none)
    (p : Position) (pending : Text) : scan g p pending (c :: cs) = scan g p (c :: pending) cs := by
  rw [scan]
  split
  · next h' => rw [h] at h'; cases h'
  · rfl
  · next h' => rw [h] at h'; cases h'

theorem scan_of_error {c : Char} {cs : Text} {unclosed : Unclosed}
    (h : segment? g (c :: cs) = .error unclosed) (p : Position) (pending : Text) :
    scan g p pending (c :: cs) = .error (unclosed.at (p.advance pending.reverse) (c :: cs)) := by
  rw [scan]
  split
  · next h' => rw [h] at h'; cases h'; rfl
  · next h' => rw [h] at h'; cases h'
  · next h' => rw [h] at h'; cases h'

/-- Text that has been passed over stands in front of the segments. -/
theorem scan_of_endsPlain {s : Text} (h : EndsPlain g s) (p : Position) (pending : Text) :
    scan g p pending s =
      (scan g (p.advance pending.reverse) [] s).map (flushText p pending ++ ·) := by
  obtain rfl | ⟨segment, rest, hsegment⟩ := h
  · rw [scan, scan]
    simp [flushText, Except.map]
  · have hplace : (p.advance pending.reverse).advance [].reverse = p.advance pending.reverse := rfl
    rw [scan_of_segment hsegment, scan_of_segment hsegment, hplace]
    cases scan g ((p.advance pending.reverse).advance segment.source) [] rest <;> rfl

theorem Plain.of_cons {c : Char} {u rest : Text} (h : Plain g (c :: u) rest) : Plain g u rest :=
  fun v hne hv => h v hne (hv.trans (List.suffix_cons c u))

theorem plain_nil (rest : Text) : Plain g [] rest :=
  fun _ hne hv => absurd (List.suffix_nil.1 hv) hne

theorem Plain.cons {c : Char} {u rest : Text} (h : Plain g u rest)
    (hc : segment? g (c :: (u ++ rest)) = .ok none) : Plain g (c :: u) rest := by
  intro v hne hv
  obtain rfl | hv := List.suffix_cons_iff.1 hv
  · exact hc
  · exact h v hne hv

/-- Plain text is passed over. -/
theorem scan_of_plain {u rest : Text} (h : Plain g u rest) (p : Position) (pending : Text) :
    scan g p pending (u ++ rest) = scan g p (u.reverse ++ pending) rest := by
  induction u generalizing pending with
  | nil => rfl
  | cons c cs ih =>
    have hnone := h (c :: cs) (List.cons_ne_nil c cs) (List.suffix_refl _)
    rw [List.cons_append] at hnone ⊢
    rw [scan_of_none hnone, ih h.of_cons]
    simp

theorem flushText_eq (p : Position) {u : Text} (h : u ≠ []) :
    flushText p u.reverse = [(p, .text u)] := by
  simp [flushText, h]

/-! ## The whole text -/

/-- Cut text is scanned as it is cut. -/
theorem Cut.scan {s : Text} {segments : List Segment} (h : Cut g s segments) (p : Position) :
    scan g p [] s = .ok (place p segments) := by
  induction h generalizing p with
  | nil =>
    rw [Template.scan]
    rfl
  | @text u rest segments hne hplain hends _ ih =>
    rw [scan_of_plain hplain, scan_of_endsPlain hends, List.append_nil, List.reverse_reverse, ih,
      flushText_eq p hne]
    rfl
  | @segment s rest segment segments hsegment _ ih =>
    rw [scan_of_segment hsegment, List.reverse_nil, ih]
    rfl

/-- Plain text in front of cut text. -/
theorem Cut.append {u rest : Text} {segments : List Segment} (h : Cut g rest segments)
    (hplain : Plain g u rest) (hends : EndsPlain g rest) (p : Position) :
    ∃ all, Cut g (u ++ rest) all ∧
      flushText p u.reverse ++ place (p.advance u) segments = place p all := by
  by_cases hu : u = []
  · exact ⟨segments, by rwa [hu], by rw [hu]; rfl⟩
  · exact ⟨.text u :: segments, .text hu hplain hends h, by rw [flushText_eq p hu]; rfl⟩

/-- Where scanning succeeds, what is left of the text starts with plain text and is cut after it. -/
theorem exists_cut_of_scan {p : Position} {pending s : Text} {found : List (Position × Segment)}
    (h : Template.scan g p pending s = .ok found) :
    ∃ u rest segments, s = u ++ rest ∧ Plain g u rest ∧ EndsPlain g rest ∧ Cut g rest segments ∧
      found = flushText p (u.reverse ++ pending) ++
        place (p.advance (pending.reverse ++ u)) segments := by
  induction hn : s.length using Nat.strong_induction_on generalizing p pending s found with
  | _ n ih =>
    cases s with
    | nil =>
      rw [Template.scan] at h
      cases h
      exact ⟨[], [], [], rfl, plain_nil _, .inl rfl, .nil, by simp [place]⟩
    | cons c cs =>
      cases hfirst : segment? g (c :: cs) with
      | error unclosed =>
        rw [scan_of_error hfirst] at h
        cases h
      | ok first =>
        cases first with
        | none =>
          rw [scan_of_none hfirst] at h
          obtain ⟨u, rest, segments, rfl, hplain, hends, hcut, rfl⟩ :=
            ih cs.length (by rw [← hn]; exact Nat.lt_succ_self _) h rfl
          exact ⟨c :: u, rest, segments, rfl, hplain.cons hfirst, hends, hcut, by simp⟩
        | some first =>
          obtain ⟨segment, rest⟩ := first
          rw [scan_of_segment hfirst] at h
          obtain ⟨after, hafter, rfl⟩ := map_eq_ok_iff.1 h
          obtain ⟨u, rest', segments, rfl, hplain, hends, hcut, rfl⟩ :=
            ih rest.length (hn ▸ segment?_length hfirst) hafter rfl
          obtain ⟨all, hall, hplace⟩ := hcut.append hplain hends
            ((p.advance pending.reverse).advance segment.source)
          refine ⟨[], c :: cs, segment :: all, rfl, plain_nil _, .inr ⟨_, _, hfirst⟩,
            .segment hfirst hall, ?_⟩
          rw [List.append_nil, List.reverse_nil, List.nil_append, hplace, List.append_nil]
          rfl

/-- Scanning succeeds exactly where the text can be cut, with the segments in place. -/
theorem scan_ok_iff {p : Position} {s : Text} {found : List (Position × Segment)} :
    Template.scan g p [] s = .ok found ↔
      ∃ segments, Cut g s segments ∧ found = place p segments := by
  constructor
  · intro h
    obtain ⟨u, rest, segments, rfl, hplain, hends, hcut, rfl⟩ := exists_cut_of_scan h
    obtain ⟨all, hall, hplace⟩ := hcut.append hplain hends p
    exact ⟨all, hall, by simpa using hplace⟩
  · rintro ⟨segments, hcut, rfl⟩
    exact hcut.scan p

theorem Cut.sources {s : Text} {segments : List Segment} (h : Cut g s segments) :
    Segment.sources segments = s := by
  induction h with
  | nil => rfl
  | text _ _ _ _ ih => rw [Segment.sources_cons, ih, Segment.source]
  | segment hsegment _ ih => rw [Segment.sources_cons, ih, ← segment?_source hsegment]

/-! ## Tokens -/

/-- The tokens of segments from a place on, where the first text may lose its first blanks. -/
def Token.ofPlaced (drops : Bool) (p : Position) (segments : List Segment) : List Token :=
  ((place p segments).foldl Progress.step ⟨[], drops⟩).tokens.reverse

/-- The tokens of a template are those of the segments it is cut into. -/
theorem Token.scan_ok_iff {source : Text} {ts : List Token} :
    Token.scan g source = .ok ts ↔
      ∃ segments, Cut g source segments ∧ ts = Token.ofPlaced false .start segments := by
  rw [Token.scan, map_eq_ok_iff]
  constructor
  · rintro ⟨found, hfound, rfl⟩
    obtain ⟨segments, hcut, rfl⟩ := Template.scan_ok_iff.1 hfound
    exact ⟨segments, hcut, rfl⟩
  · rintro ⟨segments, hcut, rfl⟩
    exact ⟨_, hcut.scan .start, rfl⟩

end Blockbook.Template
