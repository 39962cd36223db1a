import Blockbook.Proofs.Template.Builder

/-!
# The tokens of a block

What the builder knows of an open block depends on the tokens since its opening tag only. So the
tokens from the opening tag of a block up to its closing tag build that block on their own, wherever
they stand.

* `Within.step`: inside an open block, the blocks around it do not matter.
* `exists_tokens_of_inside`: every block of a tree has tokens that build it alone.
-/

namespace Blockbook.Template.Node

/-- A node of a tree: one of the nodes at its top, or a node in the body of one of its blocks. -/
inductive Inside (node : Node) : List Node → Prop where
  | here {nodes : List Node} : node ∈ nodes → Inside node nodes
  | deeper {nodes body : List Node} {name : Text} {span : Span} : .block name body span ∈ nodes →
      Inside node body → Inside node nodes

theorem Inside.mono {node : Node} {nodes nodes' : List Node} (h : Inside node nodes)
    (hsub : nodes ⊆ nodes') : Inside node nodes' := by
  cases h with
  | here hmem => exact .here (hsub hmem)
  | deeper hmem hbody => exact .deeper (hsub hmem) hbody

theorem inside_cons {node first : Node} {nodes : List Node} (h : Inside node (first :: nodes)) :
    node = first ∨ (∃ name body span, first = .block name body span ∧ Inside node body) ∨
      Inside node nodes := by
  cases h with
  | here hmem => exact (List.mem_cons.1 hmem).imp_right fun hmem => .inr (.here hmem)
  | deeper hmem hbody =>
    obtain heq | hmem := List.mem_cons.1 hmem
    · exact .inr (.inl ⟨_, _, _, heq.symm, hbody⟩)
    · exact .inr (.inr (.deeper hmem hbody))

namespace Builder

/-! ## Open blocks -/

variable {g : Grammar} {b b' : Builder} {token : Token}

/-- What text does to the innermost open block does not depend on the blocks around it. -/
theorem exists_addText (content : Text) (body : List Node) :
    ∃ joined rest, rest ⊆ body ∧ ∀ frames defined,
      addText content ⟨body, frames, defined⟩ = ⟨.text joined :: rest, frames, defined⟩ := by
  unfold addText
  dsimp only
  split
  · next previous nodes => exact ⟨_, nodes, List.subset_cons_self _ _, fun _ _ => rfl⟩
  · exact ⟨_, body, List.Subset.refl _, fun _ _ => rfl⟩

/-- What the builder would be, had it started at an open block. -/
inductive Within (frame : Frame) (outer : List Frame) : Builder → Builder → Prop where
  | intro {body : List Node} {defined defined' : List Text} (inner : List Frame) :
      defined ⊆ defined' →
      Within frame outer ⟨body, inner ++ [{ frame with before := [] }], defined⟩
        ⟨body, inner ++ frame :: outer, defined'⟩

variable {frame : Frame} {outer inner : List Frame} {alone alone' : Builder}

theorem Within.eq_of_frames (h : Within frame outer alone b) (hopen : b.frames = frame :: outer) :
    alone = ⟨b.body, [{ frame with before := [] }], alone.defined⟩ := by
  obtain ⟨inner, -⟩ := h
  obtain rfl : inner = [] := by simpa using hopen
  rfl

/-- A token inside an open block does the same, whatever stands around the block. -/
theorem Within.step (h : Within frame outer alone b) (hstep : Step g b token b')
    (hopen : b'.frames = inner ++ frame :: outer) :
    ∃ alone', Step g alone token alone' ∧ Within frame outer alone' b' := by
  obtain @⟨body, defined, defined', above, hsub⟩ := h
  generalize hframes : above ++ frame :: outer = frames at hstep
  cases hstep with
  | @text _ content =>
    obtain ⟨joined, rest, -, hadd⟩ := exists_addText content body
    refine ⟨_, .text, ?_⟩
    rw [hadd, hadd, ← hframes]
    exact .intro above hsub
  | output =>
    subst hframes
    exact ⟨_, .output, .intro above hsub⟩
  | opens hmeans hname =>
    subst hframes
    refine ⟨_, .opens hmeans fun hmem => hname (hsub hmem), ?_⟩
    exact .intro (_ :: above) (List.cons_subset_cons _ hsub)
  | closes hmeans hname =>
    cases above with
    | nil =>
      -- The block itself would be closed, and what is open would be shorter than `outer`.
      obtain ⟨-, rfl⟩ := List.cons.inj hframes
      have hlength := congrArg List.length hopen
      simp at hlength
      omega
    | cons first above =>
      obtain ⟨rfl, rfl⟩ := List.cons.inj hframes
      exact ⟨_, .closes hmeans hname, .intro above hsub⟩
  | parent hmeans hne =>
    subst hframes
    exact ⟨_, .parent hmeans (by simp), .intro above hsub⟩

/-- A block that is open after a token was open before it, or the token opened it. -/
theorem Step.frames_cases (h : Step g b token b') (hopen : b'.frames = inner ++ frame :: outer) :
    (∃ inner', b.frames = inner' ++ frame :: outer) ∨
      ∃ name, token.Means g (.opens name) ∧ frame = ⟨name, token.span, b.body⟩ ∧
        b' = ⟨[], frame :: outer, name :: b.defined⟩ := by
  cases h with
  | @text _ content =>
    obtain ⟨joined, rest, -, hadd⟩ := exists_addText content b.body
    rw [hadd] at hopen
    exact .inl ⟨inner, hopen⟩
  | output => exact .inl ⟨inner, hopen⟩
  | @opens _ _ name hmeans hname =>
    cases inner with
    | nil =>
      obtain ⟨rfl, rfl⟩ := List.cons.inj hopen
      exact .inr ⟨name, hmeans, rfl, rfl⟩
    | cons first inner => exact .inl ⟨inner, (List.cons.inj hopen).2⟩
  | @closes _ first => exact .inl ⟨first :: inner, congrArg (first :: ·) hopen⟩
  | parent => exact .inl ⟨inner, hopen⟩

/-- The tokens since the opening tag of an open block build all there is of it. -/
theorem After.exists_within {ts : List Token} (h : After g ts b)
    (hopen : b.frames = inner ++ frame :: outer) :
    ∃ front opening rest name alone, ts = front ++ opening :: rest ∧
      opening.Means g (.opens name) ∧ frame.span = opening.span ∧
      After g (opening :: rest) alone ∧ Within frame outer alone b := by
  induction h generalizing inner frame outer with
  | nil => simp [Builder.empty] at hopen
  | @concat ts token b b' hafter hstep ih =>
    obtain ⟨inner', hbefore⟩ | ⟨name, hmeans, rfl, rfl⟩ := hstep.frames_cases hopen
    · obtain ⟨front, opening, rest, name, alone, rfl, hmeans, hspan, halone, hwithin⟩ := ih hbefore
      obtain ⟨alone', hstep', hwithin'⟩ := hwithin.step hstep hopen
      exact ⟨front, opening, rest ++ [token], name, alone', by simp, hmeans, hspan,
        halone.concat hstep', hwithin'⟩
    · have hfirst : Step g .empty token ⟨[], [⟨name, token.span, []⟩], [name]⟩ :=
        .opens hmeans List.not_mem_nil
      exact ⟨ts, token, [], name, _, rfl, hmeans, rfl, .concat .nil hfirst,
        .intro [] (by simp)⟩

/-! ## Closed blocks -/

/-- All nodes so far, in no particular order. -/
def nodes (b : Builder) : List Node := b.body ++ b.frames.flatMap Frame.before

/-- A block that is there after a token was there before it, or the token closed it. -/
theorem Step.inside_cases {name : Text} {body : List Node} {span : Span} (h : Step g b token b')
    (hinside : Inside (.block name body span) b'.nodes) :
    Inside (.block name body span) b.nodes ∨
      ∃ frame outer written, b.frames = frame :: outer ∧ token.Means g (.closes written) ∧
        (∀ n ∈ written, n = frame.name) ∧ name = frame.name ∧ body = b.body.reverse ∧
        span = { frame.span with stop := token.span.stop } := by
  cases h with
  | @text _ content =>
    obtain ⟨joined, rest, hrest, hadd⟩ := exists_addText content b.body
    rw [hadd] at hinside
    obtain h | ⟨_, _, _, h, -⟩ | hinside := inside_cons hinside
    · cases h
    · cases h
    · refine .inl (hinside.mono (List.append_subset.2 ⟨?_, List.subset_append_right ..⟩))
      exact List.subset_append_of_subset_left _ hrest
  | output =>
    obtain h | ⟨_, _, _, h, -⟩ | hinside := inside_cons hinside
    · cases h
    · cases h
    · exact .inl hinside
  | opens => exact .inl hinside
  | @closes nodes frame outer _ _ written hmeans hname =>
    obtain h | ⟨_, _, _, h, hbody⟩ | hinside := inside_cons hinside
    · obtain ⟨rfl, rfl, rfl⟩ := Node.block.inj h
      exact .inr ⟨frame, outer, written, rfl, hmeans, hname, rfl, rfl, rfl⟩
    · obtain ⟨-, rfl, -⟩ := Node.block.inj h
      refine .inl (hbody.mono fun node hnode => ?_)
      exact List.mem_append_left _ (List.mem_reverse.1 hnode)
    · exact .inl (hinside.mono (List.subset_append_right nodes _))
  | parent =>
    obtain h | ⟨_, _, _, h, -⟩ | hinside := inside_cons hinside
    · cases h
    · cases h
    · exact .inl hinside

/-- The tokens from the opening tag of a block up to its closing tag build it alone. -/
theorem After.exists_tokens {ts : List Token} {name : Text} {body : List Node} {span : Span}
    (h : After g ts b) (hinside : Inside (.block name body span) b.nodes) :
    ∃ front opening rest closing back name' written defined,
      ts = front ++ opening :: (rest ++ closing :: back) ∧ opening.Means g (.opens name') ∧
      closing.Means g (.closes written) ∧ span.start = opening.span.start ∧
      span.stop = closing.span.stop ∧
      After g (opening :: (rest ++ [closing])) ⟨[.block name body span], [], defined⟩ := by
  induction h with
  | nil => obtain ⟨⟨⟩⟩ | ⟨⟨⟩, -⟩ := hinside
  | @concat ts token b b' hafter hstep ih =>
    obtain hinside | ⟨frame, outer, written, hopen, hcloses, hwritten, rfl, rfl, rfl⟩ :=
      hstep.inside_cases hinside
    · obtain ⟨front, opening, rest, closing, back, name', written, defined, rfl, hrest⟩ :=
        ih hinside
      exact ⟨front, opening, rest, closing, back ++ [token], name', written, defined, by simp,
        hrest⟩
    · have hinner : b.frames = [] ++ frame :: outer := hopen
      obtain ⟨front, opening, rest, name', alone, rfl, hopens, hspan, halone, hwithin⟩ :=
        hafter.exists_within hinner
      rw [hwithin.eq_of_frames hopen] at halone
      have hclosed := halone.concat (.closes hcloses hwritten)
      have hstart : frame.span.start = opening.span.start := congrArg Span.start hspan
      exact ⟨front, opening, rest, token, [], name', written, _, by simp, hopens, hcloses, hstart,
        rfl, hclosed⟩

end Builder

/-! ## The tree -/

/-- Every block of a tree has tokens that build it alone. -/
theorem exists_tokens_of_inside {g : Grammar} {ts : List Token} {nodes body : List Node}
    {name : Text} {span : Span} (h : ofTokens g ts = .ok nodes)
    (hinside : Inside (.block name body span) nodes) :
    ∃ front opening rest closing back name' written,
      ts = front ++ opening :: (rest ++ closing :: back) ∧ opening.Means g (.opens name') ∧
      closing.Means g (.closes written) ∧ span.start = opening.span.start ∧
      span.stop = closing.span.stop ∧
      ofTokens g (opening :: (rest ++ [closing])) = .ok [.block name body span] := by
  obtain ⟨defined, hafter⟩ := ofTokens_eq_ok_iff.1 h
  have hnodes : Inside (.block name body span) (Builder.nodes ⟨nodes.reverse, [], defined⟩) :=
    hinside.mono fun node hnode => List.mem_append_left _ (List.mem_reverse.2 hnode)
  obtain ⟨front, opening, rest, closing, back, name', written, defined', hts, hopens, hcloses,
    hstart, hstop, halone⟩ := hafter.exists_tokens hnodes
  exact ⟨front, opening, rest, closing, back, name', written, hts, hopens, hcloses, hstart, hstop,
    ofTokens_eq_ok_iff.2 ⟨defined', halone⟩⟩

end Blockbook.Template.Node
