import Blockbook.Proofs.Template.Builder
import Blockbook.Proofs.Template.Cut
import Blockbook.Proofs.Template.Draft

/-!
# Which templates are read

The builder takes in tokens one by one, and without places it is a draft that takes in the events
they stand for. So a template is read exactly where its tokens stand for well nested events.

* `Builder.step_ok_iff`: a token is accepted exactly where the event it stands for is a step.
* `ofTokens_ok_iff`: tokens build a tree exactly where the events they stand for run to that tree.
* `parse_ok_iff`: a template is read as a tree exactly where its tokens stand for events that denote
  that tree.
-/

namespace Blockbook.Template

/-! ## The builder without places -/

namespace Node

/-- An open block without its place. -/
def Frame.draft (frame : Frame) : Draft.Frame := ⟨frame.name, outlines frame.before⟩

namespace Builder

/-- The builder without places. -/
def draft (b : Builder) : Draft := ⟨outlines b.body, b.frames.map Frame.draft, b.defined⟩

theorem addText_step (b : Builder) (content : Text) :
    Draft.Step b.draft (.text content) (b.addText content).draft := by
  obtain ⟨body, frames, defined⟩ := b
  unfold addText
  split
  · next first nodes hbody =>
    obtain rfl : body = .text first :: nodes := hbody
    exact .join
  · next hbody =>
    refine .text ?_
    intro node hnode
    cases body with
    | nil => cases hnode
    | cons first nodes =>
      obtain rfl : outline first = node := by simpa [draft, outlines] using hnode
      cases first with
      | text content => exact absurd rfl (hbody content nodes)
      | output | block | parent => rfl

theorem closed_draft (b : Builder) (frame : Frame) (frames : List Frame) (span : Span) :
    draft ⟨.block frame.name b.body.reverse span :: frame.before, frames, b.defined⟩ =
      ⟨.block frame.name b.draft.body.reverse :: frame.draft.before, frames.map Frame.draft,
        b.draft.defined⟩ := by
  simp only [draft, Frame.draft, outlines, outline, outlines_eq_map, List.map_reverse]

/-- A token that is accepted does what the event it stands for does. -/
theorem Step.draft {g : Grammar} {token : Token} {b b' : Builder} (h : Step g b token b') :
    ∃ e, token.Means g e ∧ Draft.Step b.draft e b'.draft := by
  cases h with
  | @text b content span => exact ⟨_, .text content span, b.addText_step content⟩
  | output => exact ⟨_, .output .., .output⟩
  | opens hmeans hname => exact ⟨_, hmeans, .opens hname⟩
  | @closes body frame frames defined _ _ hmeans hname =>
    refine ⟨_, hmeans, Draft.step_closes_iff.2 ⟨frame.draft, _, rfl, hname, ?_⟩⟩
    exact closed_draft ⟨body, frame :: frames, defined⟩ frame frames _
  | parent hmeans hframes =>
    refine ⟨_, hmeans, Draft.step_parent_iff.2 ⟨?_, rfl⟩⟩
    simpa [Builder.draft] using hframes

/-- A token is accepted exactly where the event it stands for is a step. -/
theorem step_ok_iff {g : Grammar} {token : Token} {b : Builder} {d : Draft} :
    (∃ b', b.step g token = .ok b' ∧ b'.draft = d) ↔
      ∃ e, token.Means g e ∧ Draft.Step b.draft e d := by
  simp only [step_eq_ok_iff]
  constructor
  · rintro ⟨b', h, rfl⟩
    exact h.draft
  · rintro ⟨e, hmeans, hstep⟩
    cases hmeans with
    | text content span => exact ⟨_, .text, (b.addText_step content).eq hstep⟩
    | output trim body span => exact ⟨_, .output, Draft.Step.output.eq hstep⟩
    | opens trim span hspells hrole =>
      obtain ⟨hname, rfl⟩ := Draft.step_opens_iff.1 hstep
      exact ⟨_, .opens (.opens trim span hspells hrole) hname, rfl⟩
    | closes trim span hspells hrole =>
      obtain ⟨body, frames, defined⟩ := b
      obtain ⟨frame, frames', hframes, hname, rfl⟩ := Draft.step_closes_iff.1 hstep
      obtain ⟨first, rest, rfl, rfl, rfl⟩ := List.map_eq_cons_iff.1 hframes
      exact ⟨_, .closes (.closes trim span hspells hrole) hname,
        closed_draft ⟨body, first :: rest, defined⟩ first rest _⟩
    | parent trim span hspells hrole =>
      obtain ⟨hframes, rfl⟩ := Draft.step_parent_iff.1 hstep
      have hopen : b.frames ≠ [] := by simpa [draft] using hframes
      exact ⟨_, .parent (.parent trim span hspells hrole) hopen, rfl⟩

/-- Tokens are accepted exactly where the events they stand for are a run. -/
theorem foldlM_ok_iff {g : Grammar} {ts : List Token} {b : Builder} {d : Draft} :
    (∃ b', ts.foldlM (step g) b = .ok b' ∧ b'.draft = d) ↔
      ∃ es, List.Forall₂ (Token.Means g) ts es ∧ Draft.Run b.draft es d := by
  induction ts generalizing b with
  | nil =>
    constructor
    · rintro ⟨b', h, rfl⟩
      cases h
      exact ⟨[], .nil, .nil _⟩
    · rintro ⟨_, ⟨⟩, ⟨⟩⟩
      exact ⟨b, rfl, rfl⟩
  | cons token ts ih =>
    rw [List.foldlM_cons]
    constructor
    · rintro ⟨b', h, rfl⟩
      cases hfirst : b.step g token with
      | error e =>
        rw [hfirst] at h
        cases h
      | ok b₁ =>
        rw [hfirst] at h
        obtain ⟨e, hmeans, hstep⟩ := step_ok_iff.1 ⟨b₁, hfirst, rfl⟩
        obtain ⟨es, hts, hrun⟩ := ih.1 ⟨b', h, rfl⟩
        exact ⟨e :: es, .cons hmeans hts, .cons hstep hrun⟩
    · rintro ⟨es, hts, hrun⟩
      obtain ⟨e, es, hmeans, hrest, rfl⟩ := List.forall₂_cons_left_iff.1 hts
      obtain ⟨d₁, hstep, hrun⟩ := Draft.run_cons_iff.1 hrun
      obtain ⟨b₁, hfirst, rfl⟩ := step_ok_iff.2 ⟨e, hmeans, hstep⟩
      obtain ⟨b', h, rfl⟩ := ih.2 ⟨es, hrest, hrun⟩
      refine ⟨b', ?_, rfl⟩
      rw [hfirst]
      exact h

end Builder

/-- Tokens build a tree exactly where the events they stand for run to that tree. -/
theorem ofTokens_ok_iff {g : Grammar} {ts : List Token} {outline : List Outline} :
    (∃ nodes, ofTokens g ts = .ok nodes ∧ outlines nodes = outline) ↔
      ∃ es defined, List.Forall₂ (Token.Means g) ts es ∧
        Draft.Run .empty es ⟨outline.reverse, [], defined⟩ := by
  constructor
  · rintro ⟨nodes, h, rfl⟩
    unfold ofTokens at h
    split at h
    · next b hb =>
      unfold Builder.finish at h
      split at h
      · next hframes =>
        cases h
        obtain ⟨es, hts, hrun⟩ := Builder.foldlM_ok_iff.1 ⟨b, hb, rfl⟩
        have hdraft : b.draft = ⟨(outlines b.body.reverse).reverse, [], b.defined⟩ := by
          rw [Builder.draft, hframes, outlines_eq_map, outlines_eq_map, List.map_reverse,
            List.reverse_reverse]
          rfl
        rw [hdraft] at hrun
        exact ⟨es, b.defined, hts, hrun⟩
      · cases h
    · cases h
  · rintro ⟨es, defined, hts, hrun⟩
    have hstart : Builder.empty.draft = Draft.empty := rfl
    rw [← hstart] at hrun
    obtain ⟨b, hb, hdraft⟩ := Builder.foldlM_ok_iff.2 ⟨es, hts, hrun⟩
    obtain ⟨hbody, hframes, -⟩ := Draft.mk.inj hdraft
    refine ⟨b.body.reverse, ?_, ?_⟩
    · rw [ofTokens, hb]
      simp only [Builder.finish, List.map_eq_nil_iff.1 hframes]
    · rw [outlines_eq_map, List.map_reverse, ← outlines_eq_map, hbody, List.reverse_reverse]

end Node

/-! ## Texts of tokens -/

namespace Token

/-- A token is no empty text. -/
def Shows : Token → Prop
  | .text content _ => content ≠ []
  | .logic _ _ _ => True
  | .output _ _ _ => True

theorem shows_pushText {content : Text} {span : Span} {tokens : List Token}
    (h : ∀ t ∈ tokens, t.Shows) : ∀ t ∈ pushText content span tokens, t.Shows := by
  unfold pushText
  split
  · exact h
  · next hcontent => exact List.forall_mem_cons.2 ⟨hcontent, h⟩

theorem shows_trimLast {tokens : List Token} (h : ∀ t ∈ tokens, t.Shows) :
    ∀ t ∈ trimLast tokens, t.Shows := by
  unfold trimLast
  split
  · exact shows_pushText (List.forall_mem_cons.1 h).2
  · exact h

theorem Progress.shows_step {state : Progress} (h : ∀ t ∈ state.tokens, t.Shows)
    (segment : Position × Segment) : ∀ t ∈ (state.step segment).tokens, t.Shows := by
  have hbefore (trims : Bool) :
      ∀ t ∈ (if trims then trimLast state.tokens else state.tokens), t.Shows := by
    split
    · exact shows_trimLast h
    · exact h
  obtain ⟨p, segment⟩ := segment
  cases segment with
  | text source => exact shows_pushText h
  | comment source => exact h
  | logic tag => exact List.forall_mem_cons.2 ⟨trivial, hbefore _⟩
  | output tag => exact List.forall_mem_cons.2 ⟨trivial, hbefore _⟩
  | literal opening content closing => exact shows_pushText (hbefore _)

/-- No token of a template is an empty text. -/
theorem shows_of_scan {g : Grammar} {source : Text} {ts : List Token} (h : scan g source = .ok ts) :
    ∀ t ∈ ts, t.Shows := by
  have hfold (segments : List (Position × Segment)) (state : Progress)
      (hstate : ∀ t ∈ state.tokens, t.Shows) :
      ∀ t ∈ (segments.foldl Progress.step state).tokens, t.Shows := by
    induction segments generalizing state with
    | nil => exact hstate
    | cons segment segments ih => exact ih _ (Progress.shows_step hstate segment)
  obtain ⟨found, -, rfl⟩ := map_eq_ok_iff.1 h
  intro t ht
  exact hfold found ⟨[], false⟩ (List.forall_mem_nil _) t (List.mem_reverse.1 ht)

theorem text_ne_nil_of_means {g : Grammar} {ts : List Token} {es : List Event}
    (h : ∀ t ∈ ts, t.Shows) (hmeans : List.Forall₂ (Means g) ts es) (content : Text)
    (hmem : .text content ∈ es) : content ≠ [] := by
  induction hmeans with
  | nil => cases hmem
  | cons hfirst _ ih =>
    obtain ⟨hshows, hrest⟩ := List.forall_mem_cons.1 h
    obtain heq | hmem := List.mem_cons.1 hmem
    · subst heq
      cases hfirst
      exact hshows
    · exact ih hrest hmem

end Token

/-! ## Templates -/

/-- A template that is read has tokens that denote its tree. -/
theorem exists_denotes {g : Grammar} {source : Text} {nodes : List Node}
    (h : parse g source = .ok nodes) :
    ∃ ts es, Token.scan g source = .ok ts ∧ List.Forall₂ (Token.Means g) ts es ∧
      Denotes es (Node.outlines nodes) := by
  unfold parse at h
  split at h
  · next ts hscan =>
    obtain ⟨es, defined, hmeans, hrun⟩ := Node.ofTokens_ok_iff.1 ⟨nodes, h, rfl⟩
    have htext := Token.text_ne_nil_of_means (Token.shows_of_scan hscan) hmeans
    exact ⟨ts, es, hscan, hmeans, (Draft.run_iff_denotes htext).1 ⟨defined, hrun⟩⟩
  · cases h

/-- A template whose tokens denote a tree is read as that tree. -/
theorem exists_parse {g : Grammar} {source : Text} {ts : List Token} {es : List Event}
    {outline : List Outline} (hscan : Token.scan g source = .ok ts)
    (hmeans : List.Forall₂ (Token.Means g) ts es) (hdenotes : Denotes es outline) :
    ∃ nodes, parse g source = .ok nodes ∧ Node.outlines nodes = outline := by
  have htext := Token.text_ne_nil_of_means (Token.shows_of_scan hscan) hmeans
  obtain ⟨defined, hrun⟩ := (Draft.run_iff_denotes htext).2 hdenotes
  rw [parse, hscan]
  exact Node.ofTokens_ok_iff.2 ⟨es, defined, hmeans, hrun⟩

/-- A template is read as a tree exactly where its tokens stand for events that denote that tree. -/
theorem parse_ok_iff (g : Grammar) (source : Text) (outline : List Outline) :
    (∃ nodes, parse g source = .ok nodes ∧ Node.outlines nodes = outline) ↔
      ∃ ts es, Token.scan g source = .ok ts ∧ List.Forall₂ (Token.Means g) ts es ∧
        Denotes es outline := by
  constructor
  · rintro ⟨nodes, h, rfl⟩
    exact exists_denotes h
  · rintro ⟨ts, es, hscan, hmeans, hdenotes⟩
    exact exists_parse hscan hmeans hdenotes

end Blockbook.Template
