import Blockbook.Proofs.Template.Statement
import Mathlib.Data.List.Chain
import Mathlib.Data.List.Forall2
import Mathlib.Data.List.Nodup

/-!
# Trees and what they are read from

A tree of nodes without places is an `Outline`, and a token without its place and spelling is an
`Event`. `Token.Means` says which event a token stands for under a grammar, and `Denotes` says which
tree a list of events denotes: the one whose traversal goes through the same events.

* `Event.isChain_joined`: no two neighbours of joined events are text.
* `Denotes.allNames`: the blocks of a tree are those that its events open, in the same order.
-/

namespace Blockbook.Template

/-- A node without its place. -/
inductive Outline where
  | text (content : Text)
  | output (expression : Text)
  | block (name : Text) (body : List Outline)
  | parent
deriving Repr

/-- What a token stands for. -/
inductive Event where
  | text (content : Text)
  | output (expression : Text)
  | opens (name : Text)
  /-- The end of a block, with the name that is written there. -/
  | closes (name : Option Text)
  | parent
deriving DecidableEq, Repr

namespace Node

mutual

/-- A node without its place. -/
def outline : Node → Outline
  | .text content => .text content
  | .output expression _ => .output expression
  | .block name body _ => .block name (outlines body)
  | .parent _ => .parent

/-- A sequence of nodes without their places. -/
def outlines : List Node → List Outline
  | [] => []
  | node :: nodes => outline node :: outlines nodes

end

theorem outlines_eq_map (nodes : List Node) : outlines nodes = nodes.map outline := by
  induction nodes with
  | nil => rfl
  | cons node nodes ih => rw [outlines, ih, List.map_cons]

end Node

namespace Outline

def isText : Outline → Bool
  | .text _ => true
  | _ => false

mutual

/-- The events of a node, in the order of a walk through it. -/
def events : Outline → List Event
  | .text content => [.text content]
  | .output expression => [.output expression]
  | .block name body => .opens name :: (allEvents body ++ [.closes (some name)])
  | .parent => [.parent]

/-- The events of a sequence of nodes. -/
def allEvents : List Outline → List Event
  | [] => []
  | node :: nodes => events node ++ allEvents nodes

end

mutual

/-- The names of the blocks in a node, outer ones before inner ones. -/
def names : Outline → List Text
  | .block name body => name :: allNames body
  | _ => []

/-- The names of the blocks in a sequence of nodes. -/
def allNames : List Outline → List Text
  | [] => []
  | node :: nodes => names node ++ allNames nodes

end

/-- Not both of two neighbours are text. -/
def Apart (left right : Outline) : Prop := ¬(left.isText = true ∧ right.isText = true)

mutual

/-- No text in a node is empty or next to another text. -/
def Tidy : Outline → Prop
  | .text content => content ≠ []
  | .block _ body => AllTidy body
  | .output _ => True
  | .parent => True

/-- No text in a sequence of nodes is empty or next to another text. -/
def AllTidy : List Outline → Prop
  | [] => True
  | node :: nodes => Tidy node ∧ (∀ next ∈ nodes.head?, Apart node next) ∧ AllTidy nodes

end

theorem allEvents_append (l r : List Outline) :
    allEvents (l ++ r) = allEvents l ++ allEvents r := by
  induction l with
  | nil => rfl
  | cons node l ih => rw [List.cons_append, allEvents, ih, allEvents, List.append_assoc]

theorem Apart.symm {left right : Outline} (h : Apart left right) : Apart right left :=
  fun ⟨hright, hleft⟩ => h ⟨hleft, hright⟩

theorem allTidy_iff {nodes : List Outline} :
    AllTidy nodes ↔ (∀ node ∈ nodes, Tidy node) ∧ nodes.IsChain Apart := by
  induction nodes with
  | nil => simp [AllTidy]
  | cons node nodes ih =>
    rw [AllTidy, ih, List.forall_mem_cons, List.isChain_cons]
    tauto

theorem allTidy_reverse {nodes : List Outline} : AllTidy nodes.reverse ↔ AllTidy nodes := by
  have hflip : (fun left right => Apart right left) = Apart := by
    funext left right
    exact propext ⟨Apart.symm, Apart.symm⟩
  rw [allTidy_iff, allTidy_iff, List.isChain_reverse, hflip]
  simp only [List.mem_reverse]

theorem AllTidy.of_append {l r : List Outline} (h : AllTidy (l ++ r)) : AllTidy l ∧ AllTidy r := by
  rw [allTidy_iff, List.forall_mem_append, List.isChain_append] at h
  exact ⟨allTidy_iff.2 ⟨h.1.1, h.2.1⟩, allTidy_iff.2 ⟨h.1.2, h.2.2.1⟩⟩

end Outline

namespace Event

def isText : Event → Bool
  | .text _ => true
  | _ => false

/-- The name of the block that is opened. -/
def opened? : Event → Option Text
  | .opens name => some name
  | _ => none

/-- An event that is read marks an event of a tree. The end of a block may go without a name. -/
inductive Marks : Event → Event → Prop where
  | same (e : Event) : Marks e e
  | unnamed (name : Text) : Marks (.closes none) (.closes (some name))

/-- Puts an event in front of others, as one text if both are text. -/
def join : Event → List Event → List Event
  | .text content, .text next :: es => .text (content ++ next) :: es
  | e, es => e :: es

/-- Events with neighbouring texts joined. -/
def joined (es : List Event) : List Event := es.foldr join []

/-- Not both of two neighbours are text. -/
def Apart (left right : Event) : Prop := ¬(left.isText = true ∧ right.isText = true)

end Event

/-- What every tree of a template keeps to: its block names are distinct, calls of the parent stand
inside blocks, and no text is empty or next to another text. -/
structure WellFormed (nodes : List Outline) : Prop where
  distinct : (Outline.allNames nodes).Nodup
  inside : .parent ∉ nodes
  tidy : Outline.AllTidy nodes

/-- Events denote a tree: its traversal goes through them, with neighbouring texts joined. -/
structure Denotes (es : List Event) (nodes : List Outline) : Prop extends WellFormed nodes where
  traversal : List.Forall₂ Event.Marks (Event.joined es) (Outline.allEvents nodes)

/-- What a token stands for. A statement is one of the grammar and its argument fits its rule, and
one that opens a block names it. -/
inductive Token.Means (g : Grammar) : Token → Event → Prop where
  | text (content : Text) (span : Span) : Means g (.text content span) (.text content)
  | output (trim : Trim) (body : Text) (span : Span) :
    Means g (.output trim body span) (.output body)
  | opens {body name : Text} {rule : TagRule} (trim : Trim) (span : Span) :
      g.Spells body rule (some name) → rule.role = .opensBlock →
      Means g (.logic trim body span) (.opens name)
  | closes {body : Text} {rule : TagRule} {argument : Option Text} (trim : Trim) (span : Span) :
      g.Spells body rule argument → rule.role = .closesBlock →
      Means g (.logic trim body span) (.closes argument)
  | parent {body : Text} {rule : TagRule} {argument : Option Text} (trim : Trim) (span : Span) :
      g.Spells body rule argument → rule.role = .callsParent →
      Means g (.logic trim body span) .parent

/-! ## Joined texts -/

namespace Event

theorem joined_cons (e : Event) (es : List Event) : joined (e :: es) = e.join (joined es) := rfl

theorem isChain_join (e : Event) {es : List Event} (h : es.IsChain Apart) :
    (e.join es).IsChain Apart := by
  unfold join
  split
  · next content next es =>
    rw [List.isChain_cons] at h ⊢
    exact h
  · next hne =>
    rw [List.isChain_cons]
    refine ⟨?_, h⟩
    rintro first hfirst ⟨he, htext⟩
    obtain ⟨rest, rfl⟩ := List.head?_eq_some_iff.1 hfirst
    cases e <;> cases he
    cases first <;> cases htext
    exact hne _ _ _ rfl rfl

/-- No two neighbours of joined events are text. -/
theorem isChain_joined (es : List Event) : (joined es).IsChain Apart := by
  induction es with
  | nil => exact .nil
  | cons e es ih => exact isChain_join e ih

theorem text_ne_nil_of_joined {es : List Event} (h : ∀ content, .text content ∈ es → content ≠ [])
    {content : Text} (hmem : .text content ∈ joined es) : content ≠ [] := by
  induction es with
  | nil => cases hmem
  | cons e es ih =>
    have ih' := ih fun content hes => h content (List.mem_cons_of_mem e hes)
    rw [joined_cons] at hmem
    unfold join at hmem
    split at hmem
    · next first next rest hjoined =>
      obtain heq | hrest := List.mem_cons.1 hmem
      · obtain rfl := Event.text.inj heq
        have hfirst := h first (List.mem_cons_self ..)
        simp [hfirst]
      · exact ih' (hjoined ▸ List.mem_cons_of_mem _ hrest)
    · obtain heq | hrest := List.mem_cons.1 hmem
      · exact h content (heq ▸ List.mem_cons_self ..)
      · exact ih' hrest

end Event

/-! ## Opened blocks -/

namespace Outline

mutual

theorem names_eq (node : Outline) : names node = (events node).filterMap Event.opened? := by
  match node with
  | .text _ => rfl
  | .output _ => rfl
  | .parent => rfl
  | .block name body =>
    have hbody : (allEvents body ++ [Event.closes (some name)]).filterMap Event.opened? =
        allNames body := by
      rw [List.filterMap_append, ← allNames_eq body]
      exact List.append_nil _
    rw [names, events, List.filterMap_cons, hbody]
    rfl

/-- The names of blocks, read off the events. -/
theorem allNames_eq (nodes : List Outline) :
    allNames nodes = (allEvents nodes).filterMap Event.opened? := by
  match nodes with
  | [] => rfl
  | node :: nodes =>
    rw [allNames, names_eq node, allNames_eq nodes, allEvents, List.filterMap_append]

end

end Outline

theorem Event.opened_join (e : Event) (es : List Event) :
    (join e es).filterMap opened? = (e :: es).filterMap opened? := by
  unfold join
  split <;> rfl

theorem Event.opened_joined (es : List Event) :
    (joined es).filterMap opened? = es.filterMap opened? := by
  induction es with
  | nil => rfl
  | cons e es ih =>
    rw [joined, List.foldr_cons, opened_join, List.filterMap_cons, List.filterMap_cons]
    rw [joined] at ih
    rw [ih]

theorem Event.opened_of_marks {es es' : List Event} (h : List.Forall₂ Marks es es') :
    es.filterMap opened? = es'.filterMap opened? := by
  induction h with
  | nil => rfl
  | cons hmark _ ih =>
    cases hmark with
    | same e => rw [List.filterMap_cons, List.filterMap_cons, ih]
    | unnamed name => exact ih

/-- The blocks of a tree are those that its events open, in the same order. -/
theorem Denotes.allNames {es : List Event} {nodes : List Outline} (h : Denotes es nodes) :
    Outline.allNames nodes = es.filterMap Event.opened? := by
  rw [Outline.allNames_eq, ← Event.opened_of_marks h.traversal, Event.opened_joined]

end Blockbook.Template
