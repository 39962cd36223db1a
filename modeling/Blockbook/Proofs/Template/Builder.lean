import Blockbook.Proofs.Template.Outline

/-!
# What the builder does

What one token does to the builder is said here as a relation, places included, and so is what a
list of tokens does.

* `Builder.step_eq_ok_iff`: a token is accepted as the statement that it spells.
* `ofTokens_eq_ok_iff`: tokens build a tree where they leave no block open.
-/

namespace Blockbook.Template.Node

namespace Builder

/-! ## What a token does -/

/-- What one token does to the builder. -/
inductive Step (g : Grammar) : Builder → Token → Builder → Prop where
  | text {b : Builder} {content : Text} {span : Span} :
      Step g b (.text content span) (b.addText content)
  | output {b : Builder} {trim : Trim} {body : Text} {span : Span} :
      Step g b (.output trim body span) { b with body := .output body span :: b.body }
  | opens {b : Builder} {token : Token} {name : Text} : token.Means g (.opens name) →
      name ∉ b.defined →
      Step g b token ⟨[], ⟨name, token.span, b.body⟩ :: b.frames, name :: b.defined⟩
  | closes {body : List Node} {frame : Frame} {frames : List Frame} {defined : List Text}
      {token : Token} {written : Option Text} : token.Means g (.closes written) →
      (∀ name ∈ written, name = frame.name) →
      Step g ⟨body, frame :: frames, defined⟩ token
        ⟨.block frame.name body.reverse { frame.span with stop := token.span.stop } :: frame.before,
          frames, defined⟩
  | parent {b : Builder} {token : Token} : token.Means g .parent → b.frames ≠ [] →
      Step g b token { b with body := .parent token.span :: b.body }

variable {g : Grammar} {b b' : Builder} {token : Token}

theorem openBlock_eq_ok_iff {argument : Option Text} {span : Span} :
    b.openBlock argument span = .ok b' ↔ ∃ name, argument = some name ∧ name ∉ b.defined ∧
      b' = ⟨[], ⟨name, span, b.body⟩ :: b.frames, name :: b.defined⟩ := by
  cases argument with
  | none => simp [openBlock]
  | some name =>
    by_cases hname : name ∈ b.defined
    · simp [openBlock, hname]
    · simp [openBlock, hname, eq_comm (b := b')]

theorem closeBlock_eq_ok_iff {argument : Option Text} {span : Span} :
    b.closeBlock argument span = .ok b' ↔ ∃ frame frames, b.frames = frame :: frames ∧
      (∀ name ∈ argument, name = frame.name) ∧
      b' = ⟨.block frame.name b.body.reverse { frame.span with stop := span.stop } :: frame.before,
        frames, b.defined⟩ := by
  obtain ⟨body, frames, defined⟩ := b
  cases frames with
  | nil => simp [closeBlock]
  | cons frame frames =>
    cases argument with
    | none => simp [closeBlock, eq_comm]
    | some name =>
      by_cases hname : name = frame.name
      · simp [closeBlock, hname, eq_comm]
      · simp [closeBlock, hname]

theorem callParent_eq_ok_iff {span : Span} :
    b.callParent span = .ok b' ↔
      b.frames ≠ [] ∧ b' = { b with body := .parent span :: b.body } := by
  by_cases hframes : b.frames = []
  · simp [callParent, hframes]
  · simp [callParent, hframes, eq_comm (b := b')]

/-- A statement is obeyed if the grammar spells it and what it does succeeds. -/
theorem obey_ok_iff {body : Text} {span : Span} :
    b.obey g body span = .ok b' ↔ ∃ rule argument, g.Spells body rule argument ∧
      (match rule.role with
        | .opensBlock => b.openBlock argument span
        | .closesBlock => b.closeBlock argument span
        | .callsParent => b.callParent span) = .ok b' := by
  constructor
  · intro h
    unfold obey at h
    split at h
    · cases h
    · split at h
      · cases h
      · next name written hcall =>
        split at h
        · cases h
        · next rule htag =>
          split at h
          · cases h
          · next argument harg =>
            have hfits := TagRule.argument?_eq_ok_iff.1 harg
            exact ⟨rule, argument, Grammar.spells_iff.2 ⟨name, written, hcall, htag, hfits⟩, h⟩
  · rintro ⟨rule, argument, hspells, h⟩
    obtain ⟨name, written, hcall, htag, hfits⟩ := Grammar.spells_iff.1 hspells
    have hbody : body ≠ [] := by
      rintro rfl
      cases hcall
    rw [obey, if_neg hbody]
    simp only [hcall, htag, TagRule.argument?_eq_ok_iff.2 hfits]
    exact h

theorem step_logic_ok_iff {trim : Trim} {body : Text} {span : Span} :
    b.step g (.logic trim body span) = .ok b' ↔ b.obey g body span = .ok b' := by
  rw [step]
  cases b.obey g body span with
  | ok b'' => simp [Except.mapError]
  | error fault => simp [Except.mapError]

/-- A token is accepted as the statement that it spells. -/
theorem step_eq_ok_iff : b.step g token = .ok b' ↔ Step g b token b' := by
  constructor
  · intro h
    cases token with
    | text content span =>
      cases h
      exact .text
    | output trim body span =>
      cases h
      exact .output
    | logic trim body span =>
      obtain ⟨rule, argument, hspells, h⟩ := obey_ok_iff.1 (step_logic_ok_iff.1 h)
      cases hrole : rule.role with
      | opensBlock =>
        rw [hrole] at h
        obtain ⟨name, rfl, hname, rfl⟩ := openBlock_eq_ok_iff.1 h
        exact .opens (.opens trim span hspells hrole) hname
      | closesBlock =>
        rw [hrole] at h
        obtain ⟨nodes, frames, defined⟩ := b
        obtain ⟨frame, frames, rfl, hname, rfl⟩ := closeBlock_eq_ok_iff.1 h
        exact .closes (.closes trim span hspells hrole) hname
      | callsParent =>
        rw [hrole] at h
        obtain ⟨hframes, rfl⟩ := callParent_eq_ok_iff.1 h
        exact .parent (.parent trim span hspells hrole) hframes
  · intro h
    cases h with
    | text => rfl
    | output => rfl
    | opens hmeans hname =>
      cases hmeans with
      | opens trim span hspells hrole =>
        refine step_logic_ok_iff.2 (obey_ok_iff.2 ⟨_, _, hspells, ?_⟩)
        rw [hrole]
        exact openBlock_eq_ok_iff.2 ⟨_, rfl, hname, rfl⟩
    | closes hmeans hname =>
      cases hmeans with
      | closes trim span hspells hrole =>
        refine step_logic_ok_iff.2 (obey_ok_iff.2 ⟨_, _, hspells, ?_⟩)
        rw [hrole]
        exact closeBlock_eq_ok_iff.2 ⟨_, _, rfl, hname, rfl⟩
    | parent hmeans hframes =>
      cases hmeans with
      | parent trim span hspells hrole =>
        refine step_logic_ok_iff.2 (obey_ok_iff.2 ⟨_, _, hspells, ?_⟩)
        rw [hrole]
        exact callParent_eq_ok_iff.2 ⟨hframes, rfl⟩

/-- The builder after some tokens. -/
inductive After (g : Grammar) : List Token → Builder → Prop where
  | nil : After g [] .empty
  | concat {ts : List Token} {token : Token} {b b' : Builder} : After g ts b →
      Step g b token b' → After g (ts ++ [token]) b'

theorem foldlM_concat_eq_ok_iff {ts : List Token} :
    (ts ++ [token]).foldlM (step g) b = .ok b' ↔
      ∃ b₁, ts.foldlM (step g) b = .ok b₁ ∧ Step g b₁ token b' := by
  have hlast (b₁ : Builder) : [token].foldlM (step g) b₁ = b₁.step g token := by
    rw [List.foldlM_cons]
    cases b₁.step g token <;> rfl
  rw [List.foldlM_append]
  cases ts.foldlM (step g) b with
  | error e => exact ⟨nofun, nofun⟩
  | ok b₁ =>
    have hbind : (Except.ok b₁ >>= fun b₁ => [token].foldlM (step g) b₁) = b₁.step g token :=
      hlast b₁
    simp only [hbind, step_eq_ok_iff, Except.ok.injEq, exists_eq_left']

theorem foldlM_eq_ok_iff {ts : List Token} : ts.foldlM (step g) .empty = .ok b ↔ After g ts b := by
  constructor
  · intro h
    induction ts using List.reverseRecOn generalizing b with
    | nil =>
      cases h
      exact .nil
    | append_singleton ts token ih =>
      obtain ⟨b₁, hts, hstep⟩ := foldlM_concat_eq_ok_iff.1 h
      exact .concat (ih hts) hstep
  · intro h
    induction h with
    | nil => rfl
    | concat _ hstep ih => exact foldlM_concat_eq_ok_iff.2 ⟨_, ih, hstep⟩

end Builder

theorem ofTokens_eq_ok_iff {g : Grammar} {ts : List Token} {nodes : List Node} :
    ofTokens g ts = .ok nodes ↔ ∃ defined, Builder.After g ts ⟨nodes.reverse, [], defined⟩ := by
  simp only [← Builder.foldlM_eq_ok_iff]
  constructor
  · intro h
    unfold ofTokens at h
    split at h
    · next b hb =>
      unfold Builder.finish at h
      split at h
      · next hframes =>
        cases h
        refine ⟨b.defined, ?_⟩
        rw [List.reverse_reverse, ← hframes]
        exact hb
      · cases h
    · cases h
  · rintro ⟨defined, h⟩
    rw [ofTokens, h]
    exact congrArg _ (List.reverse_reverse nodes)

end Blockbook.Template.Node
