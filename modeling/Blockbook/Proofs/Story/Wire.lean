import Blockbook.Proofs.Json.Record
import Blockbook.Story.Wire

/-!
# Story options survive being written and read

Components and options of stories that were read are kept. A field that was not given is written
with its default, which may lie deeper than what was read, so there has to be room for it.
-/

namespace Blockbook.Story

open Json

variable {depth : Nat}

/-- The members of a table may be put in order after the default is chosen. -/
theorem withDefault_table (arrange : List (Text × Json) → List (Text × Json))
    (harrange : arrange [] = []) (value : Option Json) :
    (Field.withDefault [] (valueForm.table arrange)).ofJson? value =
      (Json.withDefault [] (members? canonical?) value).map arrange := by
  cases value with
  | none => exact congrArg some harrange.symm
  | some j => rfl

namespace Component

def form : Form Component := ⟨toJson, ofJson?⟩

def parts : List (RecordPart Component) :=
  [.of "name" name (.withDefault [] textForm), .of "extends" extends? (.optional textForm),
    .of "props" props (.withDefault [] (valueForm.table mergeMembers))]

theorem toJson_eq (c : Component) : c.toJson = .object (given (RecordPart.written parts c)) := by
  simp only [parts, RecordPart.given_written_cons, RecordPart.given_written_nil, List.append_nil,
    RecordPart.of, Field.withDefault, Form.toJson_table_value]
  rfl

theorem ofJson?_eq_some_iff (j : Json) (c : Component) :
    ofJson? j = some c ↔ RecordPart.ReadFields parts j c := by
  have hprops := withDefault_table mergeMembers rfl
  constructor
  · intro h
    rw [ofJson?] at h
    split at h
    · next hfields =>
      simp only [Option.bind_eq_bind, Option.bind_eq_some_iff] at h
      obtain ⟨_, hname, _, hextends, _, hfound, ⟨⟩⟩ := h
      have hprops := (hprops _).trans (Option.map_eq_some_iff.2 ⟨_, hfound, rfl⟩)
      exact ⟨_, hfields, .cons hname (.cons hextends (.cons hprops .nil))⟩
    · cases h
  · rintro ⟨values, hfields, hall⟩
    match values, hall with
    | _, .cons hname (.cons hextends (.cons hread .nil)) =>
      obtain ⟨_, hfound, hmerge⟩ := Option.map_eq_some_iff.1 ((hprops _).symm.trans hread)
      change fields? ["name", "extends", "props"] j = _ at hfields
      simp only [ofJson?, hfields, Option.bind_eq_bind, Option.bind_eq_some_iff]
      exact ⟨_, hname, _, hextends, _, hfound, hmerge ▸ rfl⟩

theorem keeps (hdepth : depth + 2 ≤ depthLimit) : form.Keeps depth := by
  have hname : textForm.Kept (depth + 1) [] := ⟨rfl, rfl⟩
  have hprops : (valueForm.table mergeMembers).Kept (depth + 1) [] :=
    Form.kept_table_nil rfl hdepth
  refine Form.keeps_of_parts parts (by decide) toJson_eq ofJson?_eq_some_iff ?_
  simp [parts, RecordPart.keeps_of, keeps_text.withDefault hname, keeps_optional_text,
    keeps_value.merged.withDefault hprops]

/-- A component of which nothing is known is kept wherever there is room for it. -/
theorem kept_named_nil (hdepth : depth + 2 ≤ depthLimit) : form.Kept depth (named []) := by
  refine ⟨rfl, reread_object (by omega) (List.forall_mem_cons.2 ⟨rfl, ?_⟩)⟩
  exact List.forall_mem_singleton.2 (reread_object hdepth (List.forall_mem_nil _))

end Component

namespace Options

def form : Form Options := ⟨toJson, ofJson?⟩

def parts : List (RecordPart Options) :=
  [.of "component" component (.withDefault (.named []) Component.form),
    .of "title" title (.nullable textForm),
    .of "additionalComponents" additional (.withDefault [] Component.form.list),
    .of "template" template (.nullable textForm),
    .of "argTypes" argTypes (.withDefault [] (valueForm.table sortMembers)),
    .of "figmaUrl" designUrl (.nullable textForm)]

theorem textOrNull_eq (t : Option Text) : textOrNull t = (t.map textForm.toJson).getD .null := by
  cases t <;> rfl

theorem toJson_eq (o : Options) : o.toJson = .object (given (RecordPart.written parts o)) := by
  simp only [toJson, textOrNull_eq, parts, RecordPart.given_written_cons,
    RecordPart.given_written_nil, List.append_nil, RecordPart.of, Field.withDefault,
    Form.toJson_table_value]
  rfl

theorem ofJson?_eq_some_iff (j : Json) (o : Options) :
    ofJson? j = some o ↔ RecordPart.ReadFields parts j o := by
  have htypes := withDefault_table sortMembers rfl
  constructor
  · intro h
    rw [ofJson?] at h
    split at h
    · next hfields =>
      simp only [Option.bind_eq_bind, Option.bind_eq_some_iff] at h
      obtain ⟨_, hcomponent, _, htitle, _, hadditional, _, htemplate, _, hfound, _, hurl, ⟨⟩⟩ := h
      have htypes := (htypes _).trans (Option.map_eq_some_iff.2 ⟨_, hfound, rfl⟩)
      exact ⟨_, hfields, .cons hcomponent (.cons htitle (.cons hadditional (.cons htemplate
        (.cons htypes (.cons hurl .nil)))))⟩
    · cases h
  · rintro ⟨values, hfields, hall⟩
    match values, hall with
    | _, .cons hcomponent (.cons htitle (.cons hadditional (.cons htemplate
        (.cons hread (.cons hurl .nil))))) =>
      obtain ⟨_, hfound, hsort⟩ := Option.map_eq_some_iff.1 ((htypes _).symm.trans hread)
      change fields? ["component", "title", "additionalComponents", "template", "argTypes",
        "figmaUrl"] j = _ at hfields
      simp only [ofJson?, hfields, Option.bind_eq_bind, Option.bind_eq_some_iff]
      exact ⟨_, hcomponent, _, htitle, _, hadditional, _, htemplate, _, hfound, _, hurl,
        hsort ▸ rfl⟩

theorem keeps (hdepth : depth + 4 ≤ depthLimit) : form.Keeps depth := by
  have hcomponent : Component.form.Keeps (depth + 1) := Component.keeps (by omega)
  have hadditional : Component.form.Keeps (depth + 2) := Component.keeps hdepth
  have hnone : Component.form.list.Kept (depth + 1) [] := Form.kept_list_nil (by omega)
  have htypes : (valueForm.table sortMembers).Kept (depth + 1) [] :=
    Form.kept_table_nil rfl (by omega)
  refine Form.keeps_of_parts parts (by decide) toJson_eq ofJson?_eq_some_iff ?_
  simp [parts, RecordPart.keeps_of, keeps_nullable_text,
    hcomponent.withDefault (Component.kept_named_nil (by omega)),
    hadditional.list.withDefault hnone, keeps_value.sorted.withDefault htypes]

end Options

end Blockbook.Story
