import Blockbook.Module.Inject
import Blockbook.Proofs.Json.OneLine
import Blockbook.Proofs.Search
import Blockbook.Proofs.Split

/-!
# Injected documentation can be read line by line

Each component has a name to assign its documentation to, so each gets one assignment, and an
assignment takes one line because the text of a value does. What the module held before is kept, up
to its first default export, which is bound to a name if a component is the default export.

* `isProperty_iff`: the names that documentation can be assigned to.
* `inject_eq`: the three outcomes, with the text of the module that comes out.
* `inject_lines`: what is appended, as lines.
-/

namespace Blockbook.Module

/-! ## Names of properties -/

/-- A character that a property name starts with. -/
def StartsName (c : Char) : Prop := c.isAlpha = true ∨ c = '_' ∨ c = '$'

/-- A property name: a letter, `_` or `$`, and after it any of these and digits, all of ASCII. -/
def IsPropertyName (property : Text) : Prop :=
  ∃ c cs, property = c :: cs ∧ StartsName c ∧ ∀ d ∈ cs, StartsName d ∨ d.isDigit = true

theorem isNameStart_iff (c : Char) : isNameStart c = true ↔ StartsName c := by
  have hletter : c.isAlpha = (decide ('A' ≤ c ∧ c ≤ 'Z') ||
      (decide ('a' ≤ c) && decide (c ≤ 'z'))) := rfl
  simp only [isNameStart, StartsName, hletter, Bool.or_eq_true, Bool.and_eq_true,
    decide_eq_true_eq]
  tauto

theorem isNameChar_iff (c : Char) :
    (isNameStart c || ('0' ≤ c && c ≤ '9')) = true ↔ StartsName c ∨ c.isDigit = true := by
  rw [Bool.or_eq_true, isNameStart_iff]
  simp [Char.isDigit, Char.le_def]

theorem isProperty_iff (property : Text) :
    isProperty property = true ↔ IsPropertyName property := by
  cases property with
  | nil => simp [isProperty, IsPropertyName]
  | cons c cs =>
    rw [isProperty, Bool.and_eq_true, isNameStart_iff, List.all_eq_true]
    simp only [isNameChar_iff, IsPropertyName, List.cons.injEq]
    constructor
    · rintro ⟨hc, hcs⟩
      exact ⟨c, cs, ⟨rfl, rfl⟩, hc, hcs⟩
    · rintro ⟨d, ds, ⟨rfl, rfl⟩, hc, hcs⟩
      exact ⟨hc, hcs⟩

theorem IsPropertyName.newline_not_mem {property : Text} (h : IsPropertyName property) :
    '\n' ∉ property := by
  obtain ⟨c, cs, rfl, hc, hcs⟩ := h
  rw [List.mem_cons, not_or]
  constructor
  · rintro rfl
    simp [StartsName] at hc
  · intro hmem
    have hnewline := hcs '\n' hmem
    simp [StartsName] at hnewline

/-! ## Where documentation goes -/

/-- Whether one of the components is the default export of its module. -/
def HasDefault (components : List DocumentedComponent) : Prop :=
  ∃ c ∈ components, c.doc.isDefaultExport = true

/-- The name that a component has in its module. -/
def target (c : DocumentedComponent) : Text :=
  if c.doc.isDefaultExport then "__twigdocComponent" else c.doc.exportName.getD []

/-- The assignment of a component's documentation to a property of the component. -/
def assignment (property : Text) (c : DocumentedComponent) : Text :=
  target c ++ "." ++ property ++ " = " ++ c.toJson.write ++ ";"

theorem target?_eq (c : DocumentedComponent) : target? c = some (target c) := by
  unfold target? target
  split
  · rfl
  · next hdefault =>
    -- A component without a name would be the default export.
    cases hname : c.doc.exportName with
    | none => simp [ComponentDoc.isDefaultExport, hname] at hdefault
    | some name => rfl

theorem filterMap_assignment? (property : Text) (components : List DocumentedComponent) :
    components.filterMap (assignment? property) =
      (components.map (assignment property)).map (· ++ ['\n']) := by
  have hline : assignment? property = some ∘ fun c => assignment property c ++ ['\n'] := by
    funext c
    simp [assignment?, target?_eq, assignment]
  rw [hline, List.filterMap_eq_map, List.map_map]
  rfl

theorem newline_not_mem_assignment {property : Text} (hproperty : IsPropertyName property)
    {c : DocumentedComponent} (hname : ∀ name ∈ c.doc.exportName, '\n' ∉ name) :
    '\n' ∉ assignment property c := by
  have htarget : '\n' ∉ target c := by
    unfold target
    split
    · decide
    · cases hc : c.doc.exportName with
      | none => exact List.not_mem_nil
      | some name => exact hname name hc
  simp [assignment, htarget, hproperty.newline_not_mem, Json.newline_not_mem_write]

/-! ## The module before its documentation -/

/-- A text that ends with a line feed. -/
def endLine (s : Text) : Text := if s.getLast? = some '\n' then s else s ++ "\n"

theorem closeModule_eq (s : Text) : closeModule s = endLine s ++ "\n" := by
  rw [closeModule, endLine]
  split
  · rfl
  · rw [List.append_assoc]; rfl

theorem componentBinding_eq : componentBinding = ("__twigdocComponent" : Text) := rfl

/-- The first export of a module is bound, if nothing before it says `export`. -/
theorem bindDefault?_append {q : Text} (hq : ¬("export" : Text) <:+: q) (rest : Text) :
    bindDefault? (q ++ ("export default " ++ rest)) =
      some (q ++ ("const __twigdocComponent = " ++ rest)) := by
  have hmark : ("export default " : Text) = 'e' :: "xport" ++ " default " := by decide
  have hbreak : Text.breakOn? "export default " (q ++ ("export default " ++ rest)) =
      some (q, rest) := by
    rw [hmark]
    exact Text.breakOn?_mark (by decide) hq _ rest
  unfold bindDefault?
  rw [hbreak, componentBinding_eq]
  simp

/-- A module whose first default export is bound to a name instead. -/
def Rebound (source code : Text) : Prop :=
  ∃ before rest, Text.FirstAt "export default " source before rest ∧
    code = before ++ "const __twigdocComponent = " ++ rest

/-- The module that documentation is appended to. -/
structure Prepared (source : Text) (components : List DocumentedComponent) (code : Text) :
    Prop where
  rebound : HasDefault components → Rebound source code
  kept : ¬HasDefault components → code = source

theorem bindDefault?_eq_none_iff {source : Text} :
    bindDefault? source = none ↔ ¬("export default " : Text) <:+: source := by
  rw [bindDefault?, Option.map_eq_none_iff, Text.breakOn?_eq_none_iff]

theorem rebound_of_bindDefault? {source code : Text} (h : bindDefault? source = some code) :
    Rebound source code := by
  obtain ⟨⟨before, rest⟩, hbreak, rfl⟩ := Option.map_eq_some_iff.1 h
  refine ⟨before, rest, Text.firstAt_of_breakOn? hbreak, ?_⟩
  simp [componentBinding_eq]

/-! ## The module with its documentation -/

/-- The lines that documentation adds to a module after an empty one. -/
def documentLines (components : List DocumentedComponent) (property : Text) : List Text :=
  components.map (assignment property) ++
    if components.any (·.doc.isDefaultExport) then ["export default __twigdocComponent;".toList]
    else []

/-- A module followed by the documentation of components. -/
def withDocuments (code : Text) (components : List DocumentedComponent) (property : Text) : Text :=
  if components = [] then code
  else endLine code ++ "\n" ++ (documentLines components property).flatMap (· ++ ['\n'])

theorem any_isDefaultExport_iff {components : List DocumentedComponent} :
    components.any (·.doc.isDefaultExport) = true ↔ HasDefault components := List.any_eq_true

theorem newline_not_mem_documentLines {components : List DocumentedComponent} {property : Text}
    (hproperty : IsPropertyName property)
    (hnames : ∀ c ∈ components, ∀ name ∈ c.doc.exportName, '\n' ∉ name) :
    ∀ line ∈ documentLines components property, '\n' ∉ line := by
  refine List.forall_mem_append.2 ⟨List.forall_mem_map.2 fun c hc => ?_, ?_⟩
  · exact newline_not_mem_assignment hproperty (hnames c hc)
  · split
    · exact List.forall_mem_singleton.2 (by decide)
    · exact List.forall_mem_nil _

/-- The module that is prepared gets the documentation of its components. -/
theorem inject_of_some {source code property : Text} {components : List DocumentedComponent}
    (hproperty : isProperty property = true)
    (hcode : (if components.any (·.doc.isDefaultExport) then bindDefault? source
      else some source) = some code) :
    inject source components property = .ok (withDocuments code components property) := by
  have hexport : ("export default " ++ componentBinding ++ ";\n" : Text) =
      "export default __twigdocComponent;" ++ ['\n'] := by decide
  unfold inject withDocuments
  rw [if_neg (by rw [hproperty]; decide)]
  simp only [hcode, filterMap_assignment?, hexport, closeModule_eq]
  cases components with
  | nil => rfl
  | cons c cs =>
    rw [if_neg (List.cons_ne_nil c cs), documentLines, List.flatMap_append, List.flatMap_def]
    simp only [List.map_cons, List.append_assoc]
    split <;> rfl

/-- Documentation is appended to the prepared module, unless the property has no name or there is no
default export to bind. -/
theorem inject_eq (source : Text) (components : List DocumentedComponent) (property : Text) :
    (¬IsPropertyName property ∧
      inject source components property = .error (.invalidProperty property)) ∨
    (IsPropertyName property ∧ HasDefault components ∧ ¬("export default " : Text) <:+: source ∧
      inject source components property = .error (.missingDefaultExport property)) ∨
    (IsPropertyName property ∧ (HasDefault components → ("export default " : Text) <:+: source) ∧
      ∃ code, Prepared source components code ∧
        inject source components property = .ok (withDocuments code components property)) := by
  by_cases hproperty : IsPropertyName property
  · have hvalid : isProperty property = true := (isProperty_iff property).2 hproperty
    by_cases hdefault : HasDefault components
    · have hany := any_isDefaultExport_iff.2 hdefault
      cases hbind : bindDefault? source with
      | none =>
        refine .inr (.inl ⟨hproperty, hdefault, bindDefault?_eq_none_iff.1 hbind, ?_⟩)
        simp [inject, hvalid, hany, hbind]
      | some code =>
        have hfound : ("export default " : Text) <:+: source := by
          by_contra habsent
          rw [bindDefault?_eq_none_iff.2 habsent] at hbind
          cases hbind
        refine .inr (.inr ⟨hproperty, fun _ => hfound, code, ⟨?_, ?_⟩, ?_⟩)
        · exact fun _ => rebound_of_bindDefault? hbind
        · exact fun h => absurd hdefault h
        · exact inject_of_some hvalid (by rw [if_pos hany, hbind])
    · have hany : ¬components.any (·.doc.isDefaultExport) = true :=
        fun h => hdefault (any_isDefaultExport_iff.1 h)
      refine .inr (.inr ⟨hproperty, fun h => absurd h hdefault, source, ⟨?_, ?_⟩, ?_⟩)
      · exact fun h => absurd h hdefault
      · exact fun _ => rfl
      · exact inject_of_some hvalid (if_neg hany)
  · have hinvalid : isProperty property = false := by
      rw [← Bool.not_eq_true, isProperty_iff]
      exact hproperty
    exact .inl ⟨hproperty, by simp [inject, hinvalid]⟩

/-- The module `code` is `source` with the documentation of components after it. Nothing changes
without components. Else the prepared module, ended by a line feed, is followed by an empty line and
by lines of which each but the last is the assignment of one component; the last exports the default
export again, if a component is that. -/
structure Injected (source : Text) (components : List DocumentedComponent) (property code : Text) :
    Prop where
  unchanged : components = [] → code = source
  appended : components ≠ [] → ∃ before after, Prepared source components before ∧
    code = endLine before ++ "\n" ++ after ∧
    Text.splitOn '\n' after = documentLines components property ++ [[]]

theorem injected_withDocuments {source code property : Text}
    {components : List DocumentedComponent} (hproperty : IsPropertyName property)
    (hnames : ∀ c ∈ components, ∀ name ∈ c.doc.exportName, '\n' ∉ name)
    (hcode : Prepared source components code) :
    Injected source components property (withDocuments code components property) := by
  refine ⟨fun hnil => ?_, fun hne => ?_⟩
  · have hnone : ¬HasDefault components := by
      rintro ⟨c, hc, -⟩
      rw [hnil] at hc
      cases hc
    rw [withDocuments, if_pos hnil, hcode.kept hnone]
  · refine ⟨code, (documentLines components property).flatMap (· ++ ['\n']), hcode, ?_, ?_⟩
    · rw [withDocuments, if_neg hne]
    · exact Text.splitOn_ended (newline_not_mem_documentLines hproperty hnames)

/-- Documentation can be injected exactly if the property has a name and there is a default export
to bind where one is needed. It adds one line for each component, in order, and changes nothing else
but the first default export. The text of a component takes one line whatever its fields are. -/
theorem inject_lines (source : Text) (components : List DocumentedComponent) (property : Text)
    (hnames : ∀ c ∈ components, ∀ name ∈ c.doc.exportName, '\n' ∉ name) :
    (inject source components property = .error (.invalidProperty property) ↔
      ¬IsPropertyName property) ∧
    (inject source components property = .error (.missingDefaultExport property) ↔
      IsPropertyName property ∧ HasDefault components ∧
        ¬("export default " : Text) <:+: source) ∧
    (IsPropertyName property → (HasDefault components → ("export default " : Text) <:+: source) →
      ∃ code, inject source components property = .ok code ∧
        Injected source components property code) ∧
    ∀ c : DocumentedComponent, '\n' ∉ c.toJson.write := by
  refine and_assoc.1 (and_assoc.1 ⟨?_, fun c => Json.newline_not_mem_write c.toJson⟩)
  obtain ⟨hname, heq⟩ | ⟨hname, hdefault, hmissing, heq⟩ | ⟨hname, hfound, code, hcode, heq⟩ :=
    inject_eq source components property
  · simp [heq, hname]
  · refine ⟨⟨?_, ?_⟩, fun _ h => absurd (h hdefault) hmissing⟩
    · simp [heq, hname]
    · exact ⟨fun _ => ⟨hname, hdefault, hmissing⟩, fun _ => heq⟩
  · have hinjected := injected_withDocuments hname hnames hcode
    refine ⟨⟨?_, ?_⟩, fun _ _ => ⟨_, heq, hinjected⟩⟩
    · simp [heq, hname]
    · rw [heq]
      exact ⟨by simp, fun h => absurd (hfound h.2.1) h.2.2⟩

/-- A named export whose description takes two lines, before two that are the default export. -/
def mixedComponents : List DocumentedComponent :=
  [⟨{ ComponentDoc.bare "card" with
      exportName := some "Card".toList, description := some "a\nb".toList }, [⟨"x", "<p>\n"⟩]⟩,
    ⟨ComponentDoc.bare "base", []⟩,
    ⟨{ ComponentDoc.bare "list" with exportName := none }, []⟩]

theorem inject_lines_mixedComponents :
    (∀ c ∈ mixedComponents, ∀ name ∈ c.doc.exportName, '\n' ∉ name) ∧
      ∃ code, inject "export default \x7b\x7d;" mixedComponents "__meta" = .ok code ∧
        Injected "export default \x7b\x7d;" mixedComponents "__meta" code := by
  have hnames : ∀ c ∈ mixedComponents, ∀ name ∈ c.doc.exportName, '\n' ∉ name := by decide
  obtain ⟨-, -, hinjected, -⟩ :=
    inject_lines "export default \x7b\x7d;" mixedComponents "__meta" hnames
  have hproperty : IsPropertyName "__meta" := (isProperty_iff _).1 (by decide)
  exact ⟨hnames, hinjected hproperty fun _ => by decide⟩

end Blockbook.Module
