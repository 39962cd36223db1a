import Blockbook.Module.Load
import Blockbook.Proofs.Module.Declare
import Blockbook.Proofs.Module.Import
import Blockbook.Proofs.Module.Inject

/-!
# A loaded registration

A module that registers a component under a name comes out of loading with the component bound to a
name of its own, the ends of calls closed, and the documentation of the component appended. The
passes each search the text that the pass before has changed, and find what was written for them:
the name of the component where the call was, and the export where the name is.

* `exists_closeCalls_object`: the declared module up to the name of its component.
* `findExportName?_append`, `inject_append`: what is found in it.
* `process_registration`: the loaded module.
-/

namespace Blockbook.Module

/-! ## The declared object -/

/-- An object that starts with the name of a component. -/
def namedObject (name rest : Text) : Text := "\x7b \n  name: '" ++ (name ++ ("'," ++ rest))

theorem exportOpening_append (name rest : Text) :
    exportOpening name ++ rest = "export default " ++ namedObject name rest := by
  have hopening : ("export default \x7b \n  name: '" : Text) =
      "export default " ++ "\x7b \n  name: '" := by decide
  unfold exportOpening namedObject
  rw [hopening]
  simp only [List.append_assoc]

theorem binding_append (p name rest : Text) :
    p ++ "const __twigdocComponent = \x7b \n  name: '" ++ name ++ "'," ++ rest =
      p ++ ("const __twigdocComponent = " ++ namedObject name rest) := by
  have hopening : ("const __twigdocComponent = \x7b \n  name: '" : Text) =
      "const __twigdocComponent = " ++ "\x7b \n  name: '" := by decide
  unfold namedObject
  rw [hopening]
  simp only [List.append_assoc]

/-- Closing a module keeps the start of the object it declares, whatever the object is assigned to
and whatever stands before it. -/
theorem exists_closeCalls_object (p : Text) {name : Text} (hname : '\n' ∉ name) (rest : Text) :
    ∃ q, (¬("export" : Text) <:+: p → ¬("export" : Text) <:+: q) ∧
      ∀ c word, c ∉ ("\n\x7d);" : Text) → '\n' ∉ word →
        closeCalls (p ++ (c :: word ++ namedObject name rest)) =
          q ++ (c :: word ++ namedObject name (closeCalls rest)) := by
  have hobject : closeCalls (namedObject name rest) = namedObject name (closeCalls rest) := by
    have hline : firstLine ("  name: '" ++ (name ++ ("'," ++ rest))) ≠ "\x7d);" := by
      rw [firstLine_append (by decide)]
      exact fun h => absurd (List.cons.inj h).1 (by decide)
    show closeCalls ("\x7b " ++ '\n' :: ("  name: '" ++ (name ++ ("'," ++ rest)))) = _
    rw [closeCalls_append_of_not_mem (by decide), closeCalls_cons _ hline,
      closeCalls_append_of_not_mem (by decide), closeCalls_append_of_not_mem hname,
      closeCalls_append_of_not_mem (by decide)]
    rfl
  obtain ⟨q, -, hmark, hclose⟩ := closeCalls_append p
  refine ⟨q, hmark 'e' "xport" (by decide) (by decide), fun c word hc hword => ?_⟩
  rw [List.cons_append, hclose c _ hc, closeCalls_append_of_not_mem hword, hobject,
    List.cons_append]

/-! ## The name of the component -/

theorem exportName?_eq {name : Text} (hne : name ≠ []) (hname : ∀ c ∈ name, isQuote c = false)
    (rest : Text) : exportName? ("export default " ++ namedObject name rest) = some name := by
  have hexport : Text.after? "export" ("export default " ++ namedObject name rest) =
      some (" default " ++ namedObject name rest) := Text.after?_eq_some_iff.2 rfl
  have hblank : Text.trimStart (" default " ++ namedObject name rest) =
      "default " ++ namedObject name rest := rfl
  have hdefault : Text.after? "default" ("default " ++ namedObject name rest) =
      some (" " ++ namedObject name rest) := Text.after?_eq_some_iff.2 rfl
  have hbrace : Text.after? ['{'] (Text.trimStart (" " ++ namedObject name rest)) =
      some (" \n  name: '" ++ (name ++ ("'," ++ rest))) := Text.after?_eq_some_iff.2 rfl
  have hfield : Text.after? "name:" (Text.trimStart (" \n  name: '" ++ (name ++ ("'," ++ rest)))) =
      some (" '" ++ (name ++ ("'," ++ rest))) := Text.after?_eq_some_iff.2 rfl
  have hquoted : quoted? (Text.trimStart (" '" ++ (name ++ ("'," ++ rest)))) =
      some (name, ',' :: rest) := quoted?_append rfl rfl hne hname (',' :: rest)
  have hlength : ("default " ++ namedObject name rest).length ≠
      (" default " ++ namedObject name rest).length := by simp
  simp only [exportName?, hexport, hblank, hdefault, hbrace, hfield, hquoted, if_neg hlength,
    Option.bind_eq_bind, Option.bind_some, Option.pure_def]

theorem exportName?_eq_none {s : Text} (h : ¬("export" : Text) <+: s) : exportName? s = none := by
  rw [exportName?, Text.after?_eq_none_iff.2 h]
  rfl

/-- The name of a module is found in its first export. -/
theorem findExportName?_append {q s name : Text} (hq : ¬("export" : Text) <:+: q)
    (h : exportName? ('e' :: s) = some name) : findExportName? (q ++ 'e' :: s) = some name := by
  induction q with
  | nil => rw [List.nil_append, findExportName?, h]
  | cons c cs ih =>
    have hnone : exportName? (c :: (cs ++ 'e' :: s)) = none :=
      exportName?_eq_none (Text.not_prefix_append (by decide) (List.cons_ne_nil c cs) hq s)
    rw [List.infix_cons_iff, not_or] at hq
    rw [List.cons_append, findExportName?, hnone]
    exact ih hq.2

/-! ## The documentation of the component -/

/-- The line that assigns the documentation of a component to a property of it. -/
def assignmentLine (property name : Text) (fragments : List Fragment) (slots : List Slot) : Text :=
  "__twigdocComponent." ++ property ++ " = " ++
    ((ComponentDoc.bare name).merge fragments slots).toJson.write ++ ";\n"

/-- A module with the documentation of the component it binds: after an empty line, one line that
assigns the documentation and one that exports the component. -/
def documented (code property name : Text) (fragments : List Fragment) (slots : List Slot) : Text :=
  endLine code ++ "\n" ++ assignmentLine property name fragments slots ++
    "export default __twigdocComponent;\n"

/-- What follows a module whose only component is its default export. -/
theorem withDocuments_default {c : DocumentedComponent} (h : c.doc.isDefaultExport = true)
    (code property : Text) :
    withDocuments code [c] property =
      endLine code ++ "\n" ++
        ("__twigdocComponent." ++ property ++ " = " ++ c.toJson.write ++ ";\n") ++
        "export default __twigdocComponent;\n" := by
  simp [withDocuments, documentLines, assignment, target, h]

theorem withDocuments_bare (code property name : Text) (fragments : List Fragment)
    (slots : List Slot) :
    withDocuments code [(ComponentDoc.bare name).merge fragments slots] property =
      documented code property name fragments slots := by
  unfold documented assignmentLine
  exact withDocuments_default rfl code property

/-- The component that a module exports first is bound and documented. -/
theorem inject_append {q property : Text} (hproperty : isProperty property = true)
    (hq : ¬("export" : Text) <:+: q) (rest name : Text) (fragments : List Fragment)
    (slots : List Slot) :
    inject (q ++ ("export default " ++ rest)) [(ComponentDoc.bare name).merge fragments slots]
        property =
      .ok (documented (q ++ ("const __twigdocComponent = " ++ rest)) property name fragments
        slots) := by
  have hdefault : ((ComponentDoc.bare name).merge fragments slots).doc.isDefaultExport = true := rfl
  rw [← withDocuments_bare]
  refine inject_of_some hproperty ?_
  rw [List.any_cons, hdefault, Bool.true_or, if_pos rfl, bindDefault?_append hq]

/-! ## The loaded module -/

namespace Loader

variable {m : Type → Type} [Monad m]

/-- Loading `content` gives `code` with the ends of calls closed, and after it the documentation of
a component with what the template holds. An error of the template is passed on, and without a
template the documentation has no blocks and no slots. -/
structure Documents (l : Loader) (read : Text → m (Except ReadError Text))
    (path content name code : Text) : Prop where
  loaded : l.process read content path = do
    let found ← l.template read (declare content) path
    return ⟨found.records, found.result.map fun (fragments, slots) =>
      documented (closeLines code) l.options.injectAt name fragments slots⟩
  untemplated : findImport? l.options.templateExtension (declare content) path = none →
    l.process read content path =
      pure ⟨[], .ok (documented (closeLines code) l.options.injectAt name [] [])⟩

/-- A module whose component is declared by an export is loaded with the component bound instead. -/
theorem documents_of_declare [LawfulMonad m] {l : Loader} (hdocs : l.docs = .exportName)
    (hproperty : isProperty l.options.injectAt = true) (read : Text → m (Except ReadError Text))
    {path content p name rest : Text} (hp : ¬("export" : Text) <:+: p) (hne : name ≠ [])
    (hname : ∀ c ∈ name, c ≠ '\n' ∧ isQuote c = false)
    (hdeclare : declare content = closeCalls (p ++ ("export default " ++ namedObject name rest))) :
    l.Documents read path content name
      (p ++ ("const __twigdocComponent = " ++ namedObject name rest)) := by
  have hline : '\n' ∉ name := fun hmem => (hname _ hmem).1 rfl
  obtain ⟨q, hq, hclose⟩ := exists_closeCalls_object p hline rest
  have hsource : declare content =
      q ++ ("export default " ++ namedObject name (closeCalls rest)) := by
    rw [hdeclare]
    exact hclose 'e' "xport default " (by decide) (by decide)
  have hcode : closeLines (p ++ ("const __twigdocComponent = " ++ namedObject name rest)) =
      q ++ ("const __twigdocComponent = " ++ namedObject name (closeCalls rest)) := by
    rw [← closeCalls_eq_closeLines]
    exact hclose 'c' "onst __twigdocComponent = " (by decide) (by decide)
  have hfound : findExportName? (declare content) = some name := by
    rw [hsource]
    exact findExportName?_append (hq hp) (exportName?_eq hne (fun c hc => (hname c hc).2) _)
  have hdoc : l.docs.docs (declare content) path = .ok [ComponentDoc.bare name] := by
    rw [hdocs, DocSource.docs, bareDoc?, hfound]
    rfl
  have hfinish : ∀ fragments slots,
      l.finish (declare content) [ComponentDoc.bare name] fragments slots =
        .ok (documented (closeLines (p ++ ("const __twigdocComponent = " ++
          namedObject name rest))) l.options.injectAt name fragments slots) := by
    intro fragments slots
    rw [finish, List.map_singleton, hsource, inject_append hproperty (hq hp), hcode]
    rfl
  have hloaded : l.process read content path = do
      let found ← l.template read (declare content) path
      return ⟨found.records, found.result.map fun (fragments, slots) =>
        documented (closeLines (p ++ ("const __twigdocComponent = " ++ namedObject name rest)))
          l.options.injectAt name fragments slots⟩ := by
    unfold process
    simp only [hdoc]
    refine bind_congr fun found => ?_
    obtain ⟨records, _ | ⟨fragments, slots⟩⟩ := found
    · rfl
    · simp only [hfinish]
      rfl
  refine ⟨hloaded, fun hnone => ?_⟩
  have htemplate : l.template read (declare content) path = pure ⟨[], .ok ([], [])⟩ := by
    rw [template, hnone]
  rw [hloaded, htemplate, pure_bind]
  rfl

/-- A module that registers a component under a name, or extends another component under it, is
loaded with the component bound where the call was, its name and base as fields, and with its
documentation after it. -/
theorem process_registration [LawfulMonad m] (l : Loader) (hdocs : l.docs = .exportName)
    (hproperty : isProperty l.options.injectAt = true) (read : Text → m (Except ReadError Text))
    (path p name rest : Text) (hp : ¬("export" : Text) <:+: p) (hne : name ≠ [])
    (hname : ∀ c ∈ name, c ≠ '\n' ∧ c ≠ '\'' ∧ c ≠ '"') (hrest : '\'' ∉ firstLine rest) :
    (¬("Component.register(" : Text) <:+: p →
      l.Documents read path (p ++ "Component.register('" ++ name ++ "', \x7b" ++ rest) name
        (p ++ "const __twigdocComponent = \x7b \n  name: '" ++ name ++ "'," ++ rest)) ∧
    ∀ base : Text, '\n' ∉ base → '\'' ∉ base → ¬("Component.extend(" : Text) <:+: p →
      ¬("Component.register" : Text) <:+:
        p ++ "Component.extend('" ++ name ++ "', '" ++ base ++ "', \x7b" ++ rest →
      l.Documents read path
        (p ++ "Component.extend('" ++ name ++ "', '" ++ base ++ "', \x7b" ++ rest) name
        (p ++ "const __twigdocComponent = \x7b \n  name: '" ++ name ++ "',\n  extends: '" ++ base ++
          "'," ++ rest) := by
  have hline : '\n' ∉ name := fun hmem => (hname _ hmem).1 rfl
  have hquotes : ∀ c ∈ name, c ≠ '\n' ∧ isQuote c = false := fun c hc => by
    obtain ⟨hnewline, hsingle, hdouble⟩ := hname c hc
    exact ⟨hnewline, by simp [isQuote, hsingle, hdouble]⟩
  have hrest : quotes rest = 0 := List.count_eq_zero.2 hrest
  constructor
  · intro hregister
    have hdeclare := declare_register hregister hline hrest
    rw [exportOpening_append] at hdeclare
    rw [binding_append]
    refine documents_of_declare hdocs hproperty read hp hne hquotes ?_
    simpa only [List.append_assoc] using hdeclare
  · intro base hbase hquote hextend hregister
    simp only [List.append_assoc] at hregister
    have hdeclare := declare_extend hextend hregister hline hbase hquote hrest
    have hopening : extendOpening name base ++ rest =
        exportOpening name ++ ("\n  extends: '" ++ (base ++ ("'," ++ rest))) := by
      unfold extendOpening
      simp only [List.append_assoc]
    have hfields : p ++ "const __twigdocComponent = \x7b \n  name: '" ++ name ++
        "',\n  extends: '" ++ base ++ "'," ++ rest =
        p ++ ("const __twigdocComponent = " ++ namedObject name
          ("\n  extends: '" ++ (base ++ ("'," ++ rest)))) := by
      have hcomma : ("',\n  extends: '" : Text) = "'," ++ "\n  extends: '" := by decide
      rw [← binding_append, hcomma]
      simp only [List.append_assoc]
    rw [hopening, exportOpening_append] at hdeclare
    rw [hfields]
    refine documents_of_declare hdocs hproperty read hp hne hquotes ?_
    simpa only [List.append_assoc] using hdeclare

/-- A loader that knows a component by its name, and its slots by the template. -/
def byTemplate : Loader := ⟨.default, .exportName, Slot.scan, "card"⟩

/-- A template with a block around a slot. -/
def cardTemplate : TemplateFile :=
  ⟨"src/./card.html.twig",
    "\x7b% block sw_card %\x7d<slot name=\"title\"></slot>\x7b% endblock %\x7d"⟩

/-- The template is the only file. -/
def cardFiles (path : Text) : Id (Except ReadError Text) :=
  if path = cardTemplate.path then .ok cardTemplate.content else .error .notFound

/-- The documentation of a card that has the block and the slot of its template. -/
def cardDocumentation : Text :=
  "__twigdocComponent.__docgenInfo = \x7b\"displayName\":\"sw-card\"," ++
    "\"exportName\":\"default\",\"props\":[],\"events\":[]," ++
    "\"slots\":[\x7b\"name\":\"title\",\"default\":false\x7d]," ++
    "\"twigBlocks\":[\x7b\"name\":\"sw_card\"," ++
    "\"code\":\"<slot name=\\\"title\\\"></slot>\"\x7d]\x7d;\n" ++
    "export default __twigdocComponent;\n"

/-- A card that imports its template, registered and as an extension of another component. -/
theorem process_registration_card :
    (Id.run (byTemplate.process cardFiles
        ("import template from './card.html.twig';\n" ++ "Component.register('" ++ "sw-card" ++
          "', \x7b" ++ "\n  template\n\x7d);") "src/card.js")).result =
      .ok ("import template from './card.html.twig';\n" ++
        "const __twigdocComponent = \x7b \n  name: 'sw-card',\n  template\n\x7d;\n\n" ++
        cardDocumentation) ∧
    (Id.run (byTemplate.process cardFiles
        ("import template from './card.html.twig';\n" ++ "Component.extend('" ++ "sw-card" ++
          "', '" ++ "sw-base" ++ "', \x7b" ++ "\n  template\n\x7d);") "src/card.js")).result =
      .ok ("import template from './card.html.twig';\n" ++
        "const __twigdocComponent = \x7b \n  name: 'sw-card',\n  extends: 'sw-base',\n" ++
        "  template\n\x7d;\n\n" ++ cardDocumentation) := by
  have hparts : (byTemplate.takeApart "src/card.js" cardTemplate).result =
      .ok ([⟨"sw_card", "<slot name=\"title\"></slot>"⟩], [Slot.of "title" []]) := by
    decide +kernel
  have hlines : assignmentLine "__docgenInfo" "sw-card"
      [⟨"sw_card", "<slot name=\"title\"></slot>"⟩] [Slot.of "title" []] ++
        "export default __twigdocComponent;\n" = cardDocumentation := by decide +kernel
  -- Both modules import the template, so it is taken apart and written once for the two.
  have hload : ∀ content code bound : Text,
      byTemplate.Documents cardFiles "src/card.js" content "sw-card" code →
      findImport? byTemplate.options.templateExtension (declare content) "src/card.js" =
        some cardTemplate.path →
      endLine (closeLines code) ++ "\n" = bound →
      (Id.run (byTemplate.process cardFiles content "src/card.js")).result =
        .ok (bound ++ cardDocumentation) := by
    rintro content code bound hdocuments himport rfl
    rw [hdocuments.loaded, template, himport]
    change (byTemplate.takeApart "src/card.js" cardTemplate).result.map _ = _
    rw [hparts, ← hlines, ← List.append_assoc]
    rfl
  obtain ⟨hregister, hextend⟩ := process_registration byTemplate rfl (by decide) cardFiles
    "src/card.js" "import template from './card.html.twig';\n" "sw-card" "\n  template\n\x7d);"
    (by decide) (by decide) (by simp) (by decide)
  constructor
  · exact hload _ _ _ (hregister (by decide)) (by decide +kernel) (by decide +kernel)
  · have hextend := hextend "sw-base" (by decide) (by decide) (by decide) (by decide +kernel)
    exact hload _ _ _ hextend (by decide +kernel) (by decide +kernel)

end Loader

end Blockbook.Module
