import Blockbook.Proofs.Json.Record
import Blockbook.Template.Wire

/-!
# Templates survive being written and read

Spans, kinds and nodes that were read are kept. A node is an object with one member, and what the
member holds has a form of its own, so the law on nodes is one lemma on such objects (`kept_tagged`)
and an induction on how deep blocks nest.
-/

namespace Blockbook

open Json

variable {depth : Nat}

namespace Span

def form : Form Span := ⟨toJson, ofJson?⟩

def parts : List (RecordPart Span) :=
  [.of "start" start (.required (natForm wordBound)),
    .of "end" stop (.required (natForm wordBound)),
    .of "line" line (.required uint32Form),
    .of "column" column (.required uint32Form)]

theorem ofJson?_eq_some_iff (j : Json) (s : Span) :
    ofJson? j = some s ↔ RecordPart.ReadFields parts j s := by
  constructor
  · intro h
    rw [ofJson?] at h
    split at h
    · next hfields =>
      simp only [Option.bind_eq_bind, Option.bind_eq_some_iff] at h
      obtain ⟨_, hstart, _, hstop, _, hline, _, hcolumn, ⟨⟩⟩ := h
      exact ⟨_, hfields, .cons hstart (.cons hstop (.cons hline (.cons hcolumn .nil)))⟩
    · cases h
  · rintro ⟨values, hfields, hall⟩
    match values, hall with
    | _, .cons hstart (.cons hstop (.cons hline (.cons hcolumn .nil))) =>
      change fields? ["start", "end", "line", "column"] j = _ at hfields
      simp only [ofJson?, hfields, Option.bind_eq_bind, Option.bind_eq_some_iff]
      exact ⟨_, hstart, _, hstop, _, hline, _, hcolumn, rfl⟩

theorem keeps : form.Keeps depth := by
  have hword : ∀ depth, (natForm wordBound).Keeps depth := fun _ => keeps_nat le_rfl
  refine Form.keeps_of_parts parts (by decide) (fun _ => rfl) ofJson?_eq_some_iff ?_
  simp [parts, RecordPart.keeps_of, (hword _).required, keeps_uint32.required]

end Span

namespace Template

namespace TokenKind

def form : Form TokenKind := ⟨toJson, ofJson?⟩

theorem ofName?_name (kind : TokenKind) : ofName? kind.name = some kind := by
  rcases kind with _ | _ | ⟨_ | _, _ | _⟩ | ⟨_ | _, _ | _⟩ | _ <;> rfl

theorem keeps : form.Keeps depth :=
  fun _ kind _ _ => ⟨ofName?_name kind, rfl⟩

end TokenKind

namespace Node

def form : Form Node := ⟨toJson, ofJson?⟩

/-- Nodes whose blocks nest no deeper than the fuel says. -/
def formWithin (fuel : Nat) : Form Node := ⟨toJson, ofJsonWithin? fuel⟩

/-- What an expression holds: its text and where it stands. -/
def outputForm : Form (Text × Span) where
  toJson := fun (expression, span) =>
    .object [("expression".toList, .string expression), ("span".toList, span.toJson)]
  ofJson? := fun j =>
    match fields? ["expression", "span"] j with
    | some [expression, span] => do
      let expression ← Json.required text? expression
      let span ← Json.required Span.ofJson? span
      return (expression, span)
    | _ => none

/-- What a block holds: its name, its body and where it stands. -/
def blockForm (fuel : Nat) : Form (Text × List Node × Span) where
  toJson := fun (name, body, span) =>
    .object [("name".toList, .string name), ("body".toList, .array (allToJson body)),
      ("span".toList, span.toJson)]
  ofJson? := fun j =>
    match fields? ["name", "body", "span"] j with
    | some [name, body, span] => do
      let name ← Json.required text? name
      let body ← Json.required (list? (ofJsonWithin? fuel)) body
      let span ← Json.required Span.ofJson? span
      return (name, body, span)
    | _ => none

theorem allToJson_eq_map (nodes : List Node) : allToJson nodes = nodes.map toJson := by
  induction nodes with
  | nil => rfl
  | cons node nodes ih => rw [allToJson, ih, List.map_cons]

theorem keeps_output : outputForm.Keeps depth := by
  refine Form.keeps_of_parts [.of "expression" Prod.fst (.required textForm),
    .of "span" Prod.snd (.required Span.form)] (by decide) (fun _ => rfl) (fun j r => ?_) ?_
  · exact RecordPart.readFields_pair_iff "expression" "span" textForm Span.form Prod.mk
      (fun _ _ _ => Prod.ext_iff) j r
  · simp [RecordPart.keeps_of, keeps_text.required, Span.keeps.required]

theorem keeps_block {fuel : Nat} (h : (formWithin fuel).Keeps (depth + 2)) :
    (blockForm fuel).Keeps depth := by
  refine Form.keeps_of_parts [.of "name" (·.1) (.required textForm),
    .of "body" (·.2.1) (.required (formWithin fuel).list),
    .of "span" (·.2.2) (.required Span.form)]
    (by decide : ["name", "body", "span"].Nodup) (fun r => ?_) (fun j r => ?_) ?_
  · simp only [blockForm, allToJson_eq_map]
    rfl
  · constructor
    · intro h
      simp only [blockForm] at h
      split at h
      · next hfields =>
        simp only [Option.bind_eq_bind, Option.bind_eq_some_iff] at h
        obtain ⟨_, hname, _, hbody, _, hspan, ⟨⟩⟩ := h
        exact ⟨_, hfields, .cons hname (.cons hbody (.cons hspan .nil))⟩
      · cases h
    · rintro ⟨values, hfields, hall⟩
      match values, hall with
      | _, .cons hname (.cons hbody (.cons hspan .nil)) =>
        change fields? ["name", "body", "span"] j = _ at hfields
        simp only [blockForm, hfields, Option.bind_eq_bind, Option.bind_eq_some_iff]
        exact ⟨_, hname, _, hbody, _, hspan, rfl⟩
  · simp [RecordPart.keeps_of, keeps_text.required, Span.keeps.required, h.list.required]

/-- What the object of a node holds under each name. -/
theorem ofJsonWithin?_object (fuel : Nat) (key : Text) (value : Json) :
    ofJsonWithin? (fuel + 1) (.object [(key, value)]) =
      if key = "Text" then (textForm.ofJson? value).map .text
      else if key = "Output" then (outputForm.ofJson? value).map fun (e, span) => .output e span
      else if key = "Block" then
        ((blockForm fuel).ofJson? value).map fun (name, body, span) => .block name body span
      else if key = "Parent" then (Span.form.ofJson? value).map .parent
      else none := by
  simp only [ofJsonWithin?, outputForm, blockForm]
  split
  · rfl
  split
  · generalize fields? _ value = values
    split <;> simp [*]
  split
  · generalize fields? _ value = values
    split <;> simp [*]
  · rfl

/-- A node is kept if what its object holds is. -/
theorem kept_tagged {β : Type} {g : Form β} {make : β → Node} {key : Text} {fuel : Nat}
    {value : Json} {node : Node} (hkeeps : g.Keeps (depth + 1))
    (hto : ∀ b, toJson (make b) = .object [(key, g.toJson b)])
    (hof : ∀ v, ofJsonWithin? (fuel + 1) (.object [(key, v)]) = (g.ofJson? v).map make)
    (hfits : Fits depth (.object [(key, value)])) (h : (g.ofJson? value).map make = some node) :
    (formWithin (fuel + 1)).Kept depth node := by
  obtain ⟨b, hb, rfl⟩ := Option.map_eq_some_iff.1 h
  obtain ⟨hdepth, hmember⟩ := fits_object_iff.1 hfits
  have hkept := hkeeps value b (hmember _ List.mem_cons_self) hb
  constructor
  · show ofJsonWithin? (fuel + 1) (toJson (make b)) = some (make b)
    rw [hto, hof, hkept.read, Option.map_some]
  · show reread depth (toJson (make b)) = toJson (make b)
    rw [hto]
    exact reread_object hdepth (List.forall_mem_singleton.2 hkept.back)

theorem keeps_within (fuel : Nat) : (formWithin fuel).Keeps depth := by
  induction fuel generalizing depth with
  | zero => exact fun _ _ _ h => nomatch h
  | succ fuel ih =>
    intro j node hfits h
    have hobject := ofJsonWithin?_object fuel
    match j with
    | .object [(key, value)] =>
      change ofJsonWithin? (fuel + 1) _ = _ at h
      rw [hobject] at h
      split at h
      · next hkey =>
        subst hkey
        exact kept_tagged keeps_text (fun _ => rfl) (fun v => hobject _ v) hfits h
      split at h
      · next hkey =>
        subst hkey
        exact kept_tagged keeps_output (fun _ => rfl) (fun v => hobject _ v) hfits h
      split at h
      · next hkey =>
        subst hkey
        exact kept_tagged (keeps_block ih) (fun _ => rfl) (fun v => hobject _ v) hfits h
      split at h
      · next hkey =>
        subst hkey
        exact kept_tagged Span.keeps (fun _ => rfl) (fun v => hobject _ v) hfits h
      · cases h
    | .object [] | .object (_ :: _ :: _) | .null | .bool _ | .number _ | .string _ | .array _
    | .unreadable => cases h

theorem keeps : form.Keeps depth := keeps_within 128

end Node

end Template

end Blockbook
