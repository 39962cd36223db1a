import Blockbook.Proofs.Json.ReadBack

/-!
# Written JSON is one line

A line feed of a string or of a key is escaped, and nothing else that is written holds one. So a
value takes one line of a text, whatever it is, and lines of values can be told apart.
-/

namespace Blockbook.Json

theorem newline_not_mem_escapeChar (c : Char) : '\n' ∉ escapeChar c := by
  by_cases hletter : c ∈ ['"', '\\', '\x08', '\x0c', '\n', '\r', '\t']
  · simp only [List.mem_cons, List.not_mem_nil, or_false] at hletter
    obtain rfl | rfl | rfl | rfl | rfl | rfl | rfl := hletter <;> decide
  · simp only [List.mem_cons, List.not_mem_nil, or_false, not_or] at hletter
    obtain ⟨h₁, h₂, h₃, h₄, h₅, h₆, h₇⟩ := hletter
    simp only [escapeChar, if_neg h₁, if_neg h₂, if_neg h₃, if_neg h₄, if_neg h₅, if_neg h₆,
      if_neg h₇]
    split
    · next hcontrol =>
      have hdigits : ∀ n < 0x20, '\n' ∉ ['\\', 'u'] ++ hex4 n := by decide
      exact hdigits c.toNat hcontrol
    · rw [List.mem_singleton]
      exact Ne.symm h₅

theorem newline_not_mem_writeString (t : Text) : '\n' ∉ writeString t := by
  simp only [writeString, List.cons_append, List.mem_cons, List.mem_append, List.mem_flatMap,
    List.not_mem_nil, or_false, not_or]
  refine ⟨by decide, ?_, by decide⟩
  rintro ⟨c, -, hmem⟩
  exact newline_not_mem_escapeChar c hmem

/-! ## Numbers -/

theorem IsDigits.newline_not_mem {ds : Text} (h : IsDigits ds) : '\n' ∉ ds :=
  fun hmem => absurd (h.all _ hmem) (by decide)

theorem Numeral.WellFormed.newline_not_mem {n : Numeral} (h : n.WellFormed) : '\n' ∉ n.text := by
  have hfraction : '\n' ∉ fractionText n.fraction := by
    cases hf : n.fraction with
    | none => exact List.not_mem_nil
    | some ds => simp [fractionText, (h.fraction ds hf).newline_not_mem]
  have hexponent : '\n' ∉ exponentText n.exponent := by
    cases he : n.exponent with
    | none => exact List.not_mem_nil
    | some e =>
      obtain ⟨negative, ds⟩ := e
      cases negative <;> simp [exponentText, (h.exponent _ he).newline_not_mem]
  have hunsigned : '\n' ∉ n.unsignedText := by
    simp [unsignedText, h.whole.newline_not_mem, hfraction, hexponent]
  unfold text
  split
  · simp [hunsigned]
  · exact hunsigned

theorem newline_not_mem_writeNumber (n : Number) : '\n' ∉ n.write := by
  rw [Number.write_eq]
  exact n.wellFormed_numeral.newline_not_mem

/-! ## Values -/

mutual

/-- A value is written on one line. -/
theorem newline_not_mem_write (j : Json) : '\n' ∉ write j := by
  match j with
  | .null | .bool true | .bool false | .array [] | .object [] | .unreadable => simp [write]
  | .number n => exact newline_not_mem_writeNumber n
  | .string t => exact newline_not_mem_writeString t
  | .array (item :: items) =>
    simp [write, newline_not_mem_write item, newline_not_mem_writeItems items]
  | .object ((key, value) :: members) =>
    simp [write, newline_not_mem_writeString key, newline_not_mem_write value,
      newline_not_mem_writeMembers members]

theorem newline_not_mem_writeItems (items : List Json) : '\n' ∉ writeItems items := by
  match items with
  | [] => simp [writeItems]
  | item :: items =>
    simp [writeItems, newline_not_mem_write item, newline_not_mem_writeItems items]

theorem newline_not_mem_writeMembers (members : List (Text × Json)) :
    '\n' ∉ writeMembers members := by
  match members with
  | [] => simp [writeMembers]
  | (key, value) :: members =>
    simp [writeMembers, newline_not_mem_writeString key, newline_not_mem_write value,
      newline_not_mem_writeMembers members]

end

end Blockbook.Json
