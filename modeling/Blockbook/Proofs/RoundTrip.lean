import Blockbook.Proofs.Component.Wire
import Blockbook.Proofs.Story.Wire
import Blockbook.Proofs.Template.Wire

/-!
# Every record survives a reading and a writing

A record that was read from a text is written as a text that is read as the same record, members
that are not declared and the form of every set included.
-/

namespace Blockbook

open Json Template

/-- Each record of the library that was read from a text with whole numbers is read from its own
text, and that text is written again as it is. -/
theorem records_survive :
    Span.form.Survives ∧ TokenKind.form.Survives ∧ Node.form.Survives ∧ Fragment.form.Survives ∧
      Slot.form.Survives ∧ TemplateFile.form.Survives ∧ Descriptor.form.Survives ∧
      Tags.form.Survives ∧ DescriptorSet.form.Survives ∧ ComponentDoc.form.Survives ∧
      DocumentedComponent.form.Survives ∧ Story.Component.form.Survives ∧
      Story.Options.form.Survives :=
  ⟨Span.keeps.survives, TokenKind.keeps.survives, Node.keeps.survives, Fragment.keeps.survives,
    Slot.keeps.survives, TemplateFile.keeps.survives, Descriptor.keeps.survives,
    Tags.keeps.survives, DescriptorSet.keeps.survives, ComponentDoc.keeps.survives,
    (DocumentedComponent.keeps (by decide)).survives, (Story.Component.keeps (by decide)).survives,
    (Story.Options.keeps (by decide)).survives⟩

/-- A component with slots under keys, fields that are not declared and not sorted, and numbers at
both ends of what is whole. -/
def unsortedDoc : Text :=
  "\x7b\"z\": -0, \"slots\": \x7b\"b\": \x7b\"x\": 18446744073709551615\x7d, " ++
    "\"a\": \x7b\"tags\": []\x7d\x7d, " ++
    "\"y\": \x7b\"d\": null, \"c\": -9223372036854775808\x7d\x7d"

theorem records_survive_unsortedDoc :
    (∀ j, parse unsortedDoc = some j → ∀ n ∈ j.numbers, n.IsWhole) ∧
      ∃ c, DocumentedComponent.form.read? unsortedDoc = some c ∧
        DocumentedComponent.form.read? (DocumentedComponent.form.write c) = some c ∧
        DocumentedComponent.form.rewrite? (DocumentedComponent.form.write c) =
          some (DocumentedComponent.form.write c) := by
  have hnumbers : (parse unsortedDoc).map numbers = some [.double Number.negativeZero,
      .int 18446744073709551615, .int (-9223372036854775808)] := by decide +kernel
  have hwhole : ∀ j, parse unsortedDoc = some j → ∀ n ∈ j.numbers, n.IsWhole := by
    intro j hj
    rw [hj, Option.map_some, Option.some_inj] at hnumbers
    rw [hnumbers]
    simp [Number.IsWhole, wordBound]
  have hsome : (DocumentedComponent.form.read? unsortedDoc).isSome = true := by decide +kernel
  obtain ⟨c, hc⟩ := Option.isSome_iff_exists.1 hsome
  obtain ⟨-, -, -, -, -, -, -, -, -, -, hsurvives, -⟩ := records_survive
  exact ⟨hwhole, c, hc, hsurvives unsortedDoc c hwhole hc⟩

end Blockbook
