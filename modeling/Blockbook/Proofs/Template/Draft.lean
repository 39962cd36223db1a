import Blockbook.Proofs.Template.Outline

/-!
# Drafts of a tree

A draft is a tree that is being built from events: each `Draft.Step` adds a node, opens a block or
closes the innermost one. What a draft has taken in can be read off it, so the tree that a run ends
in is the one that the events denote. The other way round, every tree is built from its events.

* `Sound.step`: a step adds its event to what can be read off a draft, and keeps its nodes tidy.
* `run_allEvents`: the events of a tidy tree build that tree.
* `run_iff_denotes`: a run from the empty draft ends in the tree that its events denote.
-/

namespace Blockbook.Template

/-- A block whose end has not been seen: its name and the nodes before it, the last one first. -/
structure Draft.Frame where
  name : Text
  before : List Outline

/-- The nodes of the innermost open block so far, the last one first, the blocks around them from
the inside out, and the names of all blocks. -/
structure Draft where
  body : List Outline
  frames : List Draft.Frame
  defined : List Text

namespace Draft

/-- Nothing taken in yet. -/
def empty : Draft := ⟨[], [], []⟩

/-- What one event does to a draft. -/
inductive Step : Draft → Event → Draft → Prop where
  | join {first next : Text} {body : List Outline} {frames : List Frame} {defined : List Text} :
      Step ⟨.text first :: body, frames, defined⟩ (.text next)
        ⟨.text (first ++ next) :: body, frames, defined⟩
  | text {content : Text} {body : List Outline} {frames : List Frame} {defined : List Text} :
      (∀ node ∈ body.head?, node.isText = false) →
      Step ⟨body, frames, defined⟩ (.text content) ⟨.text content :: body, frames, defined⟩
  | output {expression : Text} {body : List Outline} {frames : List Frame} {defined : List Text} :
      Step ⟨body, frames, defined⟩ (.output expression)
        ⟨.output expression :: body, frames, defined⟩
  | opens {name : Text} {body : List Outline} {frames : List Frame} {defined : List Text} :
      name ∉ defined →
      Step ⟨body, frames, defined⟩ (.opens name) ⟨[], ⟨name, body⟩ :: frames, name :: defined⟩
  | closes {name : Text} {written : Option Text} {body before : List Outline} {frames : List Frame}
      {defined : List Text} : (∀ n ∈ written, n = name) →
      Step ⟨body, ⟨name, before⟩ :: frames, defined⟩ (.closes written)
        ⟨.block name body.reverse :: before, frames, defined⟩
  | parent {body : List Outline} {frames : List Frame} {defined : List Text} : frames ≠ [] →
      Step ⟨body, frames, defined⟩ .parent ⟨.parent :: body, frames, defined⟩

/-- What a list of events does to a draft. -/
inductive Run : Draft → List Event → Draft → Prop where
  | nil (d : Draft) : Run d [] d
  | cons {d d₁ d₂ : Draft} {e : Event} {es : List Event} : Step d e d₁ → Run d₁ es d₂ →
      Run d (e :: es) d₂

theorem Step.eq {d d₁ d₂ : Draft} {e : Event} (h₁ : Step d e d₁) (h₂ : Step d e d₂) : d₁ = d₂ := by
  cases h₁ with
  | join =>
    cases h₂ with
    | join => rfl
    | text h => cases h _ rfl
  | text h =>
    cases h₂ with
    | join => cases h _ rfl
    | text => rfl
  | output => cases h₂; rfl
  | opens => cases h₂; rfl
  | closes => cases h₂; rfl
  | parent => cases h₂; rfl

theorem step_opens_iff {d d' : Draft} {name : Text} :
    Step d (.opens name) d' ↔
      name ∉ d.defined ∧ d' = ⟨[], ⟨name, d.body⟩ :: d.frames, name :: d.defined⟩ := by
  constructor
  · rintro (_ | _ | _ | hname)
    exact ⟨hname, rfl⟩
  · rintro ⟨hname, rfl⟩
    exact .opens hname

theorem step_closes_iff {d d' : Draft} {written : Option Text} :
    Step d (.closes written) d' ↔ ∃ frame frames, d.frames = frame :: frames ∧
      (∀ n ∈ written, n = frame.name) ∧
      d' = ⟨.block frame.name d.body.reverse :: frame.before, frames, d.defined⟩ := by
  constructor
  · rintro (_ | _ | _ | _ | hname)
    exact ⟨_, _, rfl, hname, rfl⟩
  · obtain ⟨body, frames, defined⟩ := d
    rintro ⟨frame, frames, rfl, hname, rfl⟩
    exact .closes hname

theorem step_parent_iff {d d' : Draft} :
    Step d .parent d' ↔ d.frames ≠ [] ∧ d' = ⟨.parent :: d.body, d.frames, d.defined⟩ := by
  constructor
  · rintro (_ | _ | _ | _ | _ | hframes)
    exact ⟨hframes, rfl⟩
  · rintro ⟨hframes, rfl⟩
    exact .parent hframes

theorem run_cons_iff {d d' : Draft} {e : Event} {es : List Event} :
    Run d (e :: es) d' ↔ ∃ d₁, Step d e d₁ ∧ Run d₁ es d' := by
  constructor
  · rintro (_ | ⟨hstep, hrun⟩)
    exact ⟨_, hstep, hrun⟩
  · rintro ⟨d₁, hstep, hrun⟩
    exact .cons hstep hrun

theorem run_append_iff {d d' : Draft} {es es' : List Event} :
    Run d (es ++ es') d' ↔ ∃ d₁, Run d es d₁ ∧ Run d₁ es' d' := by
  induction es generalizing d with
  | nil =>
    constructor
    · exact fun h => ⟨d, .nil d, h⟩
    · rintro ⟨_, ⟨⟩, h⟩
      exact h
  | cons e es ih =>
    rw [List.cons_append, run_cons_iff]
    simp only [run_cons_iff, ih]
    constructor
    · rintro ⟨d₁, hstep, d₂, hrun, hrest⟩
      exact ⟨d₂, ⟨d₁, hstep, hrun⟩, hrest⟩
    · rintro ⟨d₂, ⟨d₁, hstep, hrun⟩, hrest⟩
      exact ⟨d₁, hstep, d₂, hrun, hrest⟩

/-! ## Joined texts -/

theorem step_text_append_iff {d d' : Draft} {first next : Text} :
    Step d (.text (first ++ next)) d' ↔
      ∃ d₁, Step d (.text first) d₁ ∧ Step d₁ (.text next) d' := by
  constructor
  · rintro (_ | hbody)
    · refine ⟨_, .join, ?_⟩
      rw [← List.append_assoc]
      exact .join
    · exact ⟨_, .text hbody, .join⟩
  · rintro ⟨d₁, hfirst, hnext⟩
    cases hfirst with
    | join =>
      cases hnext with
      | join =>
        rw [List.append_assoc]
        exact .join
      | text h => cases h _ rfl
    | text hbody =>
      cases hnext with
      | join => exact .text hbody
      | text h => cases h _ rfl

theorem run_join_iff {d d' : Draft} {e : Event} {es : List Event} :
    Run d (e.join es) d' ↔ Run d (e :: es) d' := by
  unfold Event.join
  split
  · simp only [run_cons_iff, step_text_append_iff]
    constructor
    · rintro ⟨d₂, ⟨d₁, hfirst, hnext⟩, hrun⟩
      exact ⟨d₁, hfirst, d₂, hnext, hrun⟩
    · rintro ⟨d₁, hfirst, d₂, hnext, hrun⟩
      exact ⟨d₂, ⟨d₁, hfirst, hnext⟩, hrun⟩
  · rfl

/-- Joining neighbouring texts does not change a run. -/
theorem run_joined_iff {d d' : Draft} {es : List Event} :
    Run d (Event.joined es) d' ↔ Run d es d' := by
  induction es generalizing d with
  | nil => rfl
  | cons e es ih =>
    rw [Event.joined, List.foldr_cons, ← Event.joined, run_join_iff, run_cons_iff, run_cons_iff]
    simp only [ih]

theorem step_of_marks {d d' : Draft} {e e' : Event} (h : e.Marks e') (hstep : Step d e' d') :
    Step d e d' := by
  cases h with
  | same => exact hstep
  | unnamed name =>
    obtain ⟨frame, frames, hframes, -, rfl⟩ := step_closes_iff.1 hstep
    exact step_closes_iff.2 ⟨frame, frames, hframes, by rintro _ ⟨⟩, rfl⟩

/-- The name at the end of a block may be left out. -/
theorem run_of_marks {d d' : Draft} {es es' : List Event} (h : List.Forall₂ Event.Marks es es')
    (hrun : Run d es' d') : Run d es d' := by
  induction h generalizing d with
  | nil => exact hrun
  | cons hmark _ ih =>
    obtain ⟨d₁, hstep, hrun⟩ := run_cons_iff.1 hrun
    exact .cons (step_of_marks hmark hstep) (ih hrun)

/-! ## What a draft has taken in -/

/-- The events that led to these nodes inside these open blocks. -/
def consumed (body : List Outline) : List Frame → List Event
  | [] => Outline.allEvents body.reverse
  | frame :: frames =>
    consumed frame.before frames ++ .opens frame.name :: Outline.allEvents body.reverse

/-- The nodes outside of all blocks, the last one first. -/
def root (body : List Outline) : List Frame → List Outline
  | [] => body
  | frame :: frames => root frame.before frames

/-- A draft holds what `es` asks for: its events can be read off it, its names are those of the
blocks that were opened, and its nodes are tidy. -/
structure Sound (es : List Event) (d : Draft) : Prop where
  traversal : List.Forall₂ Event.Marks es (consumed d.body d.frames)
  opened : d.defined.reverse = es.filterMap Event.opened?
  distinct : d.defined.Nodup
  inside : .parent ∉ root d.body d.frames
  tidy : Outline.AllTidy d.body
  tidyFrames : ∀ frame ∈ d.frames, Outline.AllTidy frame.before

theorem sound_empty : Sound [] .empty :=
  ⟨.nil, rfl, .nil, List.not_mem_nil, trivial, List.forall_mem_nil _⟩

theorem consumed_cons (node : Outline) (body : List Outline) (frames : List Frame) :
    consumed (node :: body) frames = consumed body frames ++ node.events := by
  have hbody : Outline.allEvents (node :: body).reverse =
      Outline.allEvents body.reverse ++ node.events := by
    rw [List.reverse_cons, Outline.allEvents_append, Outline.allEvents, Outline.allEvents,
      List.append_nil]
  cases frames with
  | nil => exact hbody
  | cons frame frames =>
    rw [consumed, consumed, hbody]
    simp

theorem not_mem_root_cons {node : Outline} {body : List Outline} {frames : List Frame}
    (h : .parent ∉ root body frames) (hnode : frames = [] → node ≠ .parent) :
    .parent ∉ root (node :: body) frames := by
  cases frames with
  | nil =>
    rw [root, List.mem_cons, not_or]
    exact ⟨(hnode rfl).symm, h⟩
  | cons frame frames => exact h

/-- A node that is no block adds its one event. -/
theorem Sound.push {es : List Event} {e : Event} {node : Outline} {d : Draft} (h : Sound es d)
    (hevents : node.events = [e]) (hopened : e.opened? = none) (htidy : node.Tidy)
    (hapart : ∀ next ∈ d.body.head?, node.Apart next) (hparent : d.frames = [] → node ≠ .parent) :
    Sound (es ++ [e]) ⟨node :: d.body, d.frames, d.defined⟩ where
  traversal := by
    rw [consumed_cons, hevents]
    exact List.rel_append h.traversal (.cons (.same e) .nil)
  opened := by
    rw [List.filterMap_append, h.opened, List.filterMap_cons, hopened, List.filterMap_nil,
      List.append_nil]
  distinct := h.distinct
  inside := not_mem_root_cons h.inside hparent
  tidy := ⟨htidy, hapart, h.tidy⟩
  tidyFrames := h.tidyFrames

theorem Sound.open {es : List Event} {name : Text} {d : Draft} (h : Sound es d)
    (hname : name ∉ d.defined) :
    Sound (es ++ [.opens name]) ⟨[], ⟨name, d.body⟩ :: d.frames, name :: d.defined⟩ where
  traversal := List.rel_append h.traversal (.cons (.same _) .nil)
  opened := by
    rw [List.filterMap_append, ← h.opened, List.reverse_cons]
    rfl
  distinct := List.nodup_cons.2 ⟨hname, h.distinct⟩
  inside := h.inside
  tidy := trivial
  tidyFrames := List.forall_mem_cons.2 ⟨h.tidy, h.tidyFrames⟩

theorem Sound.close {es : List Event} {name : Text} {written : Option Text}
    {body before : List Outline} {frames : List Frame} {defined : List Text}
    (h : Sound es ⟨body, ⟨name, before⟩ :: frames, defined⟩) (hname : ∀ n ∈ written, n = name) :
    Sound (es ++ [.closes written]) ⟨.block name body.reverse :: before, frames, defined⟩ where
  traversal := by
    have hmark : Event.Marks (.closes written) (.closes (some name)) := by
      cases written with
      | none => exact .unnamed name
      | some n =>
        rw [hname n rfl]
        exact .same _
    have hconsumed : consumed (.block name body.reverse :: before) frames =
        consumed body (⟨name, before⟩ :: frames) ++ [.closes (some name)] := by
      rw [consumed_cons, consumed, Outline.events]
      simp
    rw [hconsumed]
    exact List.rel_append h.traversal (.cons hmark .nil)
  opened := by
    rw [List.filterMap_append, ← h.opened]
    exact (List.append_nil _).symm
  distinct := h.distinct
  inside := not_mem_root_cons h.inside (by rintro - ⟨⟩)
  tidy := by
    refine ⟨Outline.allTidy_reverse.2 h.tidy, ?_, h.tidyFrames _ (List.mem_cons_self ..)⟩
    rintro next - ⟨⟨⟩, -⟩
  tidyFrames := fun frame hframe => h.tidyFrames frame (List.mem_cons_of_mem _ hframe)

theorem Sound.last_isText {es : List Event} {first : Text} {body : List Outline}
    {frames : List Frame} {defined : List Text}
    (h : Sound es ⟨.text first :: body, frames, defined⟩) : es.getLast? = some (.text first) := by
  have hlast := h.traversal
  rw [consumed_cons, Outline.events, ← List.forall₂_reverse_iff, List.reverse_append,
    List.reverse_singleton, List.singleton_append] at hlast
  obtain ⟨e, rest, hmark, -, hes⟩ := List.forall₂_cons_right_iff.1 hlast
  rw [List.getLast?_eq_head?_reverse, hes]
  cases hmark
  rfl

/-- A step adds its event to what can be read off a draft. -/
theorem Sound.step {es : List Event} {e : Event} {d d' : Draft} (h : Sound es d)
    (hstep : Step d e d') (htext : ∀ content, e = .text content → content ≠ [])
    (hapart : (es ++ [e]).IsChain Event.Apart) : Sound (es ++ [e]) d' := by
  cases hstep with
  | join =>
    -- The draft ends in a text, so the events would end in two texts.
    have hlast := (List.isChain_append.1 hapart).2.2 _ h.last_isText _ rfl
    exact absurd ⟨rfl, rfl⟩ hlast
  | @text content body frames defined hbody =>
    refine h.push rfl rfl (htext content rfl) ?_ (by rintro - ⟨⟩)
    rintro next hnext ⟨-, hnext'⟩
    rw [hbody next hnext] at hnext'
    cases hnext'
  | output =>
    refine h.push rfl rfl trivial ?_ (by rintro - ⟨⟩)
    rintro next - ⟨⟨⟩, -⟩
  | opens hname => exact h.open hname
  | closes hname => exact h.close hname
  | parent hframes =>
    refine h.push rfl rfl trivial ?_ fun hnil => absurd hnil hframes
    rintro next - ⟨⟨⟩, -⟩

/-- A run adds its events to what can be read off a draft. -/
theorem Sound.run {es es' : List Event} {d d' : Draft} (h : Sound es d) (hrun : Run d es' d')
    (htext : ∀ content, .text content ∈ es' → content ≠ [])
    (hapart : (es ++ es').IsChain Event.Apart) : Sound (es ++ es') d' := by
  induction hrun generalizing es with
  | nil => rwa [List.append_nil]
  | @cons d d₁ d₂ e es' hstep _ ih =>
    rw [List.append_cons] at hapart ⊢
    have hfirst := h.step hstep (fun content he => htext content (he ▸ List.mem_cons_self ..))
      (List.isChain_append.1 hapart).1
    exact ih hfirst (fun content hmem => htext content (List.mem_cons_of_mem e hmem)) hapart

theorem denotes_of_run {es : List Event} {nodes : List Outline} {defined : List Text}
    (htext : ∀ content, .text content ∈ es → content ≠ [])
    (hrun : Run .empty es ⟨nodes.reverse, [], defined⟩) : Denotes es nodes := by
  have hsound := sound_empty.run (run_joined_iff.2 hrun)
    (fun content => Event.text_ne_nil_of_joined htext) (Event.isChain_joined es)
  have htraversal := hsound.traversal
  rw [List.nil_append, consumed, List.reverse_reverse] at htraversal
  refine ⟨⟨?_, ?_, ?_⟩, htraversal⟩
  · rw [Outline.allNames_eq, ← Event.opened_of_marks htraversal]
    have hopened := hsound.opened
    rw [List.nil_append] at hopened
    rw [← hopened]
    exact List.nodup_reverse.2 hsound.distinct
  · exact fun hparent => hsound.inside (List.mem_reverse.2 hparent)
  · exact Outline.allTidy_reverse.1 hsound.tidy

/-! ## Every tree is built from its events -/

mutual

theorem run_events (node : Outline) {body : List Outline} {frames : List Frame}
    {defined : List Text} (htidy : node.Tidy) (hapart : ∀ next ∈ body.head?, node.Apart next)
    (hnames : (node.names.reverse ++ defined).Nodup) (hparent : node = .parent → frames ≠ []) :
    Run ⟨body, frames, defined⟩ node.events
      ⟨node :: body, frames, node.names.reverse ++ defined⟩ := by
  match node with
  | .text content =>
    refine .cons (.text ?_) (.nil _)
    intro next hnext
    by_contra hne
    exact hapart next hnext ⟨rfl, by simpa using hne⟩
  | .output expression => exact .cons .output (.nil _)
  | .parent => exact .cons (.parent (hparent rfl)) (.nil _)
  | .block name inner =>
    rw [Outline.names, List.reverse_cons, List.append_assoc, List.singleton_append] at hnames ⊢
    have hfresh : name ∉ defined :=
      (List.nodup_cons.1 (List.Nodup.of_append_right hnames)).1
    have hinner : Run ⟨[], ⟨name, body⟩ :: frames, name :: defined⟩ (Outline.allEvents inner)
        ⟨inner.reverse ++ [], ⟨name, body⟩ :: frames,
          (Outline.allNames inner).reverse ++ name :: defined⟩ :=
      run_allEvents inner htidy nofun hnames fun _ => List.cons_ne_nil _ _
    have hclose : Step
        ⟨inner.reverse ++ [], ⟨name, body⟩ :: frames,
          (Outline.allNames inner).reverse ++ name :: defined⟩ (.closes (some name))
        ⟨.block name inner :: body, frames,
          (Outline.allNames inner).reverse ++ name :: defined⟩ := by
      refine step_closes_iff.2 ⟨_, _, rfl, ?_, ?_⟩
      · rintro _ ⟨⟩
        rfl
      · rw [List.append_nil, List.reverse_reverse]
    exact .cons (.opens hfresh) (run_append_iff.2 ⟨_, hinner, .cons hclose (.nil _)⟩)

/-- The events of a tidy tree build that tree. -/
theorem run_allEvents (nodes : List Outline) {body : List Outline} {frames : List Frame}
    {defined : List Text} (htidy : Outline.AllTidy nodes)
    (hapart : ∀ last ∈ body.head?, ∀ first ∈ nodes.head?, Outline.Apart first last)
    (hnames : ((Outline.allNames nodes).reverse ++ defined).Nodup)
    (hparent : .parent ∈ nodes → frames ≠ []) :
    Run ⟨body, frames, defined⟩ (Outline.allEvents nodes)
      ⟨nodes.reverse ++ body, frames, (Outline.allNames nodes).reverse ++ defined⟩ := by
  match nodes with
  | [] => exact .nil _
  | node :: nodes =>
    obtain ⟨htidy, hnext, htail⟩ := htidy
    rw [Outline.allNames, List.reverse_append, List.append_assoc] at hnames ⊢
    rw [List.reverse_cons, List.append_assoc, List.singleton_append]
    refine run_append_iff.2 ⟨_, run_events node htidy ?_ (List.Nodup.of_append_right hnames) ?_,
      run_allEvents nodes htail ?_ hnames ?_⟩
    · exact fun last hlast => hapart last hlast node rfl
    · rintro rfl
      exact hparent (List.mem_cons_self ..)
    · rintro last ⟨⟩ first hfirst
      exact (hnext first hfirst).symm
    · exact fun hmem => hparent (List.mem_cons_of_mem node hmem)

end

/-- The events of a well formed tree build it from nothing. -/
theorem run_of_wellFormed {nodes : List Outline} (h : WellFormed nodes) :
    Run .empty (Outline.allEvents nodes) ⟨nodes.reverse, [], (Outline.allNames nodes).reverse⟩ := by
  have hnames : ((Outline.allNames nodes).reverse ++ []).Nodup := by
    rw [List.append_nil]
    exact List.nodup_reverse.2 h.distinct
  have hrun : Run .empty (Outline.allEvents nodes)
      ⟨nodes.reverse ++ [], [], (Outline.allNames nodes).reverse ++ []⟩ :=
    run_allEvents nodes h.tidy nofun hnames fun hparent => absurd hparent h.inside
  rwa [List.append_nil, List.append_nil] at hrun

theorem run_of_denotes {es : List Event} {nodes : List Outline} (h : Denotes es nodes) :
    Run .empty es ⟨nodes.reverse, [], (Outline.allNames nodes).reverse⟩ :=
  run_joined_iff.1 (run_of_marks h.traversal (run_of_wellFormed h.toWellFormed))

/-- A run from the empty draft ends in the tree that its events denote. -/
theorem run_iff_denotes {es : List Event} {nodes : List Outline}
    (htext : ∀ content, .text content ∈ es → content ≠ []) :
    (∃ defined, Run .empty es ⟨nodes.reverse, [], defined⟩) ↔ Denotes es nodes :=
  ⟨fun ⟨_, hrun⟩ => denotes_of_run htext hrun, fun h => ⟨_, run_of_denotes h⟩⟩

end Draft

end Blockbook.Template
