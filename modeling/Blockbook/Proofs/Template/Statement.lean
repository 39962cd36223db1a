import Blockbook.Proofs.Blank
import Blockbook.Template.Node
import Mathlib.Data.List.TakeWhile

/-!
# Statements of a template

The body of a tag spells a statement if it starts with the name of a rule and goes on with an
argument that fits the rule. Between them stand blanks, which no identifier holds, so the name and
the argument of a body are the only ones it can be taken apart into.

* `isBlank_of_continuesIdentifier`: no character of an identifier is blank.
* `TagRule.argument?_eq_ok_iff`: a rule takes an argument exactly where the argument fits it.
* `Grammar.spells_iff`: the statement that a body spells is the one that is read from it.
-/

namespace Blockbook

namespace Template

open Text

/-- A text is an identifier from its first to its last character. -/
def IsIdentifier (name : Text) : Prop :=
  ∃ c cs, name = c :: cs ∧ startsIdentifier c = true ∧ ∀ d ∈ cs, continuesIdentifier d = true

/-- What may be written after the name of a statement, and the name that it gives. -/
inductive TagRule.Fits (rule : TagRule) : Text → Option Text → Prop where
  | bare : rule.argument ≠ .required → Fits rule [] none
  | named {name : Text} : rule.argument ≠ .forbidden → IsIdentifier name →
    Fits rule name (some name)

/-- A body spells a statement of the grammar: its name, and what fits its rule, with blanks after
each. -/
def Grammar.Spells (g : Grammar) (body : Text) (rule : TagRule) (argument : Option Text) : Prop :=
  ∃ gap written tail, body = rule.name ++ (gap ++ (written ++ tail)) ∧ IsIdentifier rule.name ∧
    g.tag? rule.name = some rule ∧ (∀ c ∈ gap, separatesArgument c = true) ∧ AllBlank tail ∧
    (written ≠ [] → gap ≠ []) ∧ rule.Fits written argument

/-! ## Identifiers -/

/-- No character of an identifier is blank. -/
theorem isBlank_of_continuesIdentifier {c : Char} (h : continuesIdentifier c = true) :
    isBlank c = false := by
  have hletters : alphabeticRanges.areDisjoint blankRanges = true := by decide +kernel
  have hdigits : decimalDigitRanges.areDisjoint blankRanges = true := by decide +kernel
  have hnumbers : otherNumberRanges.areDisjoint blankRanges = true := by decide +kernel
  rw [continuesIdentifier, Bool.or_eq_true, Bool.or_eq_true, isNumeric, Bool.or_eq_true] at h
  obtain (hc | hc | hc) | hc := h
  · exact CodeRanges.not_contains_of_areDisjoint hletters hc
  · exact CodeRanges.not_contains_of_areDisjoint hdigits hc
  · exact CodeRanges.not_contains_of_areDisjoint hnumbers hc
  · obtain rfl : c = '_' := by simpa using hc
    rfl

theorem continuesIdentifier_of_starts {c : Char} (h : startsIdentifier c = true) :
    continuesIdentifier c = true := by
  rw [startsIdentifier, Bool.or_eq_true] at h
  rw [continuesIdentifier, Bool.or_eq_true, Bool.or_eq_true]
  exact h.imp_left .inl

theorem isBlank_of_separatesArgument {c : Char} (h : separatesArgument c = true) :
    isBlank c = true := by
  have hc : ((c = ' ' ∨ c = '\t') ∨ c = '\r') ∨ c = '\n' := by simpa [separatesArgument] using h
  rcases hc with ((rfl | rfl) | rfl) | rfl <;> rfl

namespace IsIdentifier

variable {name : Text}

theorem ne_nil (h : IsIdentifier name) : name ≠ [] := by
  obtain ⟨c, cs, rfl, -⟩ := h
  exact List.cons_ne_nil c cs

theorem continues (h : IsIdentifier name) : ∀ c ∈ name, continuesIdentifier c = true := by
  obtain ⟨c, cs, rfl, hc, hcs⟩ := h
  exact List.forall_mem_cons.2 ⟨continuesIdentifier_of_starts hc, hcs⟩

theorem trimEnd_eq (h : IsIdentifier name) : trimEnd name = name := by
  obtain rfl | ⟨front, c, rfl⟩ := List.eq_nil_or_concat name
  · rfl
  · rw [List.concat_eq_append] at h ⊢
    exact trimEnd_of_last_not_blank (isBlank_of_continuesIdentifier (h.continues c (by simp))) front

end IsIdentifier

/-- The identifier in front of a text whose next character cannot go on with it. -/
theorem identifier?_append {name rest : Text} (h : IsIdentifier name)
    (hrest : ∀ c ∈ rest.head?, continuesIdentifier c = false) :
    identifier? (name ++ rest) = some (name, rest) := by
  obtain ⟨c, cs, rfl, hc, hcs⟩ := h
  have hstop : rest.takeWhile continuesIdentifier = [] ∧
      rest.dropWhile continuesIdentifier = rest := by
    cases rest with
    | nil => exact ⟨rfl, rfl⟩
    | cons d ds => simp [hrest d rfl]
  rw [List.cons_append, identifier?, if_pos hc, List.takeWhile_append_of_pos hcs,
    List.dropWhile_append_of_pos hcs, hstop.1, hstop.2, List.append_nil]

theorem identifier?_cases {s name rest : Text} (h : identifier? s = some (name, rest)) :
    s = name ++ rest ∧ IsIdentifier name ∧ ∀ c ∈ rest.head?, continuesIdentifier c = false := by
  cases s with
  | nil => cases h
  | cons c cs =>
    rw [identifier?] at h
    split at h
    · next hc =>
      obtain ⟨rfl, rfl⟩ : c :: cs.takeWhile continuesIdentifier = name ∧
          cs.dropWhile continuesIdentifier = rest := by simpa using h
      refine ⟨?_, ⟨c, _, rfl, hc, fun d hd => List.mem_takeWhile_imp hd⟩, ?_⟩
      · rw [List.cons_append, List.takeWhile_append_dropWhile]
      · intro d hd
        have hnot := List.head?_dropWhile_not continuesIdentifier cs
        rw [hd] at hnot
        simpa using hnot
    · cases h

theorem identifier?_eq_some_nil_iff {s name : Text} :
    identifier? s = some (name, []) ↔ s = name ∧ IsIdentifier name := by
  constructor
  · intro h
    obtain ⟨hs, hname, -⟩ := identifier?_cases h
    rw [List.append_nil] at hs
    exact ⟨hs, hname⟩
  · rintro ⟨rfl, hname⟩
    have hread : identifier? (s ++ []) = some (s, []) := identifier?_append hname (by rintro _ ⟨⟩)
    rwa [List.append_nil] at hread

theorem isIdentifier_iff {name : Text} :
    IsIdentifier name ↔ identifier? name = some (name, []) := by
  rw [identifier?_eq_some_nil_iff, eq_self_iff_true, true_and]

instance (name : Text) : Decidable (IsIdentifier name) := decidable_of_iff' _ isIdentifier_iff

/-! ## Arguments -/

/-- A rule takes an argument exactly where the argument fits it. -/
theorem TagRule.argument?_eq_ok_iff {rule : TagRule} {written : Text} {argument : Option Text} :
    rule.argument? written = .ok argument ↔ rule.Fits written argument := by
  obtain ⟨name, role, kind⟩ := rule
  constructor
  · intro h
    unfold argument? at h
    split at h
    · next hnil =>
      subst hnil
      cases kind with
      | required => cases h
      | forbidden | optional =>
        cases h
        exact .bare (by simp)
    · cases kind with
      | forbidden => cases h
      | required | optional =>
        simp only at h
        split at h
        · next hid =>
          cases h
          obtain ⟨rfl, hname⟩ := identifier?_eq_some_nil_iff.1 hid
          exact .named (by simp) hname
        · cases h
        · cases h
  · rintro (hkind | ⟨hkind, hname⟩)
    · cases kind with
      | required => exact absurd rfl hkind
      | forbidden | optional => rfl
    · rw [argument?, if_neg hname.ne_nil, identifier?_eq_some_nil_iff.2 ⟨rfl, hname⟩]
      cases kind with
      | forbidden => exact absurd rfl hkind
      | required | optional => rfl

/-- What fits a rule is nothing or an identifier. -/
theorem TagRule.Fits.isIdentifier {rule : TagRule} {written : Text} {argument : Option Text}
    (h : rule.Fits written argument) (hne : written ≠ []) : IsIdentifier written := by
  cases h with
  | bare => exact absurd rfl hne
  | named _ hname => exact hname

/-! ## Names and arguments -/

/-- What stands after the name of a statement comes down to what is written there. -/
theorem trimEnd_argument {gap written tail : Text} (hgap : ∀ c ∈ gap, separatesArgument c = true)
    (htail : AllBlank tail) (hwritten : written ≠ [] → IsIdentifier written) :
    trimEnd ((gap ++ (written ++ tail)).dropWhile separatesArgument) = written := by
  rw [List.dropWhile_append_of_pos hgap]
  cases written with
  | nil =>
    rw [List.nil_append, trimEnd_eq_nil_iff]
    exact fun c hc => htail c ((List.dropWhile_suffix _).subset hc)
  | cons c cs =>
    have hname := hwritten (List.cons_ne_nil c cs)
    have hc : separatesArgument c = false := by
      by_contra hsep
      have hblank := isBlank_of_separatesArgument (by simpa using hsep)
      rw [isBlank_of_continuesIdentifier (hname.continues c (by simp))] at hblank
      cases hblank
    rw [List.cons_append, List.dropWhile_cons_of_neg (by simp [hc]), ← List.cons_append,
      trimEnd_append_of_allBlank htail, hname.trimEnd_eq]

/-- The statement that a body spells is the one that is read from it. -/
theorem Grammar.spells_iff {g : Grammar} {body : Text} {rule : TagRule} {argument : Option Text} :
    g.Spells body rule argument ↔
      ∃ name written, call? body = some (name, written) ∧ g.tag? name = some rule ∧
        rule.Fits written argument := by
  constructor
  · rintro ⟨gap, written, tail, rfl, hname, htag, hgap, htail, hne, hfits⟩
    refine ⟨rule.name, written, ?_, htag, hfits⟩
    have hstop : ∀ c ∈ (gap ++ (written ++ tail)).head?, continuesIdentifier c = false := by
      intro c hc
      by_contra hid
      have hsolid := isBlank_of_continuesIdentifier (by simpa using hid)
      have hblank : isBlank c = true := by
        cases gap with
        | cons d ds =>
          obtain rfl : d = c := by simpa using hc
          exact isBlank_of_separatesArgument (hgap d (by simp))
        | nil =>
          obtain rfl : written = [] := by_contra fun h => hne h rfl
          exact htail c (List.mem_of_mem_head? hc)
      rw [hsolid] at hblank
      cases hblank
    rw [call?, identifier?_append hname hstop]
    exact congrArg (fun w => some (rule.name, w)) (trimEnd_argument hgap htail hfits.isIdentifier)
  · rintro ⟨name, written, hcall, htag, hfits⟩
    obtain ⟨⟨name', rest⟩, hid, heq⟩ := Option.map_eq_some_iff.1 hcall
    obtain ⟨rfl, rfl⟩ := Prod.mk.inj heq
    obtain ⟨rfl, hname, hstop⟩ := identifier?_cases hid
    obtain rfl : rule.name = name' := by simpa using List.find?_some htag
    obtain ⟨tail, htail, hrest⟩ := exists_trimEnd (rest.dropWhile separatesArgument)
    refine ⟨rest.takeWhile separatesArgument, _, tail, ?_, hname, htag, ?_, htail, ?_, hfits⟩
    · rw [← hrest, List.takeWhile_append_dropWhile]
    · exact fun c hc => List.mem_takeWhile_imp hc
    · intro hwritten hgap
      -- Without blanks the argument would go on with the name.
      obtain ⟨c, cs, hc, hstart, -⟩ := hfits.isIdentifier hwritten
      have hfront : rest = c :: (cs ++ tail) := by
        have hsplit := List.takeWhile_append_dropWhile (p := separatesArgument) (l := rest)
        rw [hgap, List.nil_append, hrest, hc] at hsplit
        exact hsplit.symm
      have hgoes := hstop c (by rw [hfront]; rfl)
      rw [continuesIdentifier_of_starts hstart] at hgoes
      cases hgoes

end Template

end Blockbook
