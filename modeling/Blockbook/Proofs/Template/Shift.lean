import Blockbook.Proofs.Slice
import Blockbook.Proofs.Template.Cut
import Blockbook.Template.Node

/-!
# Templates that start elsewhere

The place where a template starts has no part in how it is read. It only moves the places of the
tokens and of the nodes by as many bytes.

* `Token.map_shift_ofPlaced`: segments that start elsewhere give the same tokens elsewhere.
* `Node.ofTokens_shift`: tokens elsewhere build the same tree elsewhere.
-/

namespace Blockbook

/-- A span moved on by `n` bytes, without its line and column. -/
def Span.shift (n : Nat) (span : Span) : Span := ⟨span.start + n, span.stop + n, 0, 0⟩

theorem Span.shift_covering {m n : Nat} {p q : Position} (h : p.offset + m = q.offset + n)
    (s : Text) : (Span.covering p s).shift m = (Span.covering q s).shift n := by
  simp only [shift, start_covering, stop_covering, Span.mk.injEq, and_true]
  omega

namespace Template

/-! ## Tokens -/

namespace Token

/-- A token moved on by `n` bytes. -/
def shift (n : Nat) : Token → Token
  | .text content span => .text content (span.shift n)
  | .logic trim body span => .logic trim body (span.shift n)
  | .output trim body span => .output trim body (span.shift n)

theorem map_shift_pushText (n : Nat) (content : Text) (span : Span) (tokens : List Token) :
    (pushText content span tokens).map (shift n) =
      pushText content (span.shift n) (tokens.map (shift n)) := by
  unfold pushText
  split <;> rfl

theorem map_shift_trimLast (n : Nat) (tokens : List Token) :
    (trimLast tokens).map (shift n) = trimLast (tokens.map (shift n)) := by
  cases tokens with
  | nil => rfl
  | cons token tokens =>
    cases token with
    | text content span => exact map_shift_pushText n _ span tokens
    | logic | output => rfl

theorem map_shift_ite (n : Nat) (drops : Bool) (tokens : List Token) :
    (if drops then trimLast tokens else tokens).map (shift n) =
      if drops then trimLast (tokens.map (shift n)) else tokens.map (shift n) := by
  split
  · exact map_shift_trimLast n tokens
  · rfl

namespace Progress

/-- The tokens so far moved on by `n` bytes. -/
def shift (n : Nat) (state : Progress) : Progress :=
  ⟨state.tokens.map (Token.shift n), state.trimNext⟩

variable {m n : Nat} {p q : Position} {state state' : Progress}

theorem shift_step (hp : p.offset + m = q.offset + n) (h : state.shift m = state'.shift n)
    (segment : Segment) : (state.step (p, segment)).shift m = (state'.step (q, segment)).shift n := by
  obtain ⟨tokens, drops⟩ := state
  obtain ⟨tokens', drops'⟩ := state'
  obtain ⟨htokens, rfl⟩ := Progress.mk.inj h
  have hspan := Span.shift_covering hp
  cases segment with
  | text source => simp only [shift, step, map_shift_pushText, htokens, hspan]
  | comment source => simp only [shift, step, htokens]
  | logic tag =>
    simp only [shift, step, List.map_cons, map_shift_ite, htokens, Token.shift, hspan]
  | output tag =>
    simp only [shift, step, List.map_cons, map_shift_ite, htokens, Token.shift, hspan]
  | literal opening content closing =>
    have hplace : (p.advance opening.source).offset + m = (q.advance opening.source).offset + n := by
      rw [p.offset_advance, q.offset_advance]
      omega
    simp only [shift, step, map_shift_pushText, map_shift_ite, htokens, Span.shift_covering hplace]

theorem shift_run (hp : p.offset + m = q.offset + n) (h : state.shift m = state'.shift n)
    (segments : List Segment) :
    ((place p segments).foldl step state).shift m =
      ((place q segments).foldl step state').shift n := by
  induction segments generalizing p q state state' with
  | nil => exact h
  | cons segment segments ih =>
    refine ih ?_ (shift_step hp h segment)
    rw [p.offset_advance, q.offset_advance]
    omega

end Progress

/-- Segments that start elsewhere give the same tokens elsewhere. -/
theorem map_shift_ofPlaced {m n : Nat} {p q : Position} (hp : p.offset + m = q.offset + n)
    (drops : Bool) (segments : List Segment) :
    (ofPlaced drops p segments).map (shift m) = (ofPlaced drops q segments).map (shift n) := by
  have hrun : ((place p segments).foldl Progress.step ⟨[], drops⟩).shift m =
      ((place q segments).foldl Progress.step ⟨[], drops⟩).shift n :=
    Progress.shift_run hp rfl segments
  rw [ofPlaced, ofPlaced, List.map_reverse, List.map_reverse]
  exact congrArg List.reverse (congrArg Progress.tokens hrun)

end Token

/-! ## Nodes -/

/-- An error moved on by `n` bytes. -/
def ParseError.shift (n : Nat) (e : ParseError) : ParseError := { e with span := e.span.shift n }

namespace Node

mutual

/-- A node moved on by `n` bytes. -/
def shift (n : Nat) : Node → Node
  | .text content => .text content
  | .output expression span => .output expression (span.shift n)
  | .block name body span => .block name (shiftAll n body) (span.shift n)
  | .parent span => .parent (span.shift n)

/-- Nodes moved on by `n` bytes. -/
def shiftAll (n : Nat) : List Node → List Node
  | [] => []
  | node :: nodes => shift n node :: shiftAll n nodes

end

theorem shiftAll_eq_map (n : Nat) (nodes : List Node) : shiftAll n nodes = nodes.map (shift n) := by
  induction nodes with
  | nil => rfl
  | cons node nodes ih => rw [shiftAll, ih, List.map_cons]

/-- An open block moved on by `n` bytes. -/
def Frame.shift (n : Nat) (frame : Frame) : Frame :=
  ⟨frame.name, frame.span.shift n, shiftAll n frame.before⟩

namespace Builder

/-- A builder whose nodes are moved on by `n` bytes. -/
def shift (n : Nat) (b : Builder) : Builder :=
  ⟨shiftAll n b.body, b.frames.map (Frame.shift n), b.defined⟩

variable (n : Nat) (g : Grammar) (b : Builder)

theorem addText_shift (content : Text) :
    (b.shift n).addText content = (b.addText content).shift n := by
  obtain ⟨body, frames, defined⟩ := b
  cases body with
  | nil => rfl
  | cons node nodes =>
    cases node with
    | text previous => rfl
    | output | block | parent => rfl

theorem openBlock_shift (name : Option Text) (span : Span) :
    (b.shift n).openBlock name (span.shift n) = (b.openBlock name span).map (shift n) := by
  cases name with
  | none => rfl
  | some name =>
    by_cases hname : name ∈ b.defined
    · simp [openBlock, shift, hname, Except.map]
    · simp [openBlock, shift, hname, Except.map, shiftAll, Frame.shift]

theorem closeBlock_shift (name : Option Text) (span : Span) :
    (b.shift n).closeBlock name (span.shift n) = (b.closeBlock name span).map (shift n) := by
  obtain ⟨body, frames, defined⟩ := b
  cases frames with
  | nil => rfl
  | cons frame frames =>
    have hclosed : (⟨.block frame.name (shiftAll n body).reverse
          { frame.span.shift n with stop := (span.shift n).stop } :: shiftAll n frame.before,
        frames.map (Frame.shift n), defined⟩ : Builder) =
      shift n ⟨.block frame.name body.reverse { frame.span with stop := span.stop } :: frame.before,
        frames, defined⟩ := by
      simp only [shift, shiftAll, Node.shift, shiftAll_eq_map, List.map_reverse]
      rfl
    cases name with
    | none => exact congrArg Except.ok hclosed
    | some name =>
      by_cases hname : name = frame.name
      · simp only [closeBlock, shift, List.map_cons, Frame.shift, hname, ↓reduceIte]
        exact congrArg Except.ok hclosed
      · simp [closeBlock, shift, Frame.shift, hname, Except.map]

theorem callParent_shift (span : Span) :
    (b.shift n).callParent (span.shift n) = (b.callParent span).map (shift n) := by
  obtain ⟨body, frames, defined⟩ := b
  cases frames <;> rfl

theorem obey_shift (body : Text) (span : Span) :
    (b.shift n).obey g body (span.shift n) = (b.obey g body span).map (shift n) := by
  unfold obey
  split
  · rfl
  · split
    · rfl
    · split
      · rfl
      · split
        · rfl
        · split
          · exact openBlock_shift n b _ span
          · exact closeBlock_shift n b _ span
          · exact callParent_shift n b span

theorem step_shift (token : Token) :
    (b.shift n).step g (token.shift n) =
      ((b.step g token).map (shift n)).mapError (ParseError.shift n) := by
  cases token with
  | text content span => exact congrArg Except.ok (addText_shift n b content)
  | output trim body span => rfl
  | logic trim body span =>
    rw [Token.shift, step, step, obey_shift]
    cases b.obey g body span <;> rfl

theorem foldlM_shift (ts : List Token) :
    (ts.map (Token.shift n)).foldlM (step g) (b.shift n) =
      ((ts.foldlM (step g) b).map (shift n)).mapError (ParseError.shift n) := by
  induction ts generalizing b with
  | nil => rfl
  | cons token ts ih =>
    rw [List.map_cons, List.foldlM_cons, List.foldlM_cons, step_shift]
    cases b.step g token with
    | error e => rfl
    | ok b' => exact ih b'

end Builder

/-- Tokens elsewhere build the same tree elsewhere. -/
theorem ofTokens_shift (n : Nat) (g : Grammar) (ts : List Token) :
    ofTokens g (ts.map (Token.shift n)) =
      ((ofTokens g ts).map (shiftAll n)).mapError (ParseError.shift n) := by
  have hempty : Builder.empty.shift n = .empty := rfl
  unfold ofTokens
  rw [← hempty, Builder.foldlM_shift, hempty]
  cases ts.foldlM (Builder.step g) .empty with
  | error e => rfl
  | ok b =>
    obtain ⟨body, frames, defined⟩ := b
    cases frames with
    | nil =>
      have hnodes : (shiftAll n body).reverse = shiftAll n body.reverse := by
        simp only [shiftAll_eq_map, List.map_reverse]
      exact congrArg Except.ok hnodes
    | cons frame frames => rfl

/-- Tokens that are the same up to where they start build trees that are. -/
theorem exists_ofTokens_of_shift {m n : Nat} {g : Grammar} {ts ts' : List Token} {nodes : List Node}
    (h : ofTokens g ts = .ok nodes) (hts : ts'.map (Token.shift m) = ts.map (Token.shift n)) :
    ∃ nodes', ofTokens g ts' = .ok nodes' ∧ shiftAll m nodes' = shiftAll n nodes := by
  have heq := ofTokens_shift m g ts'
  rw [hts, ofTokens_shift, h] at heq
  cases hts' : ofTokens g ts' with
  | error e =>
    rw [hts'] at heq
    cases heq
  | ok nodes' =>
    rw [hts'] at heq
    exact ⟨nodes', rfl, (Except.ok.inj heq).symm⟩

end Node

end Template

end Blockbook
