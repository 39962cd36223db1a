import Blockbook.Json.Reader
import Blockbook.Proofs.Json.Canonical

/-!
# Forms that survive being written and read

A form says how the values of a type are written as JSON and how they are read. Many JSON values may
be read as the same value, so what a form keeps is said of values that were read: written again,
such a value is read as itself, and its JSON comes back from its text.

* `Form.Keeps`: the law on JSON values inside a number of arrays and objects.
* `Form.Survives`: what it says of texts.
* `Keeps.survives`: the law on values gives the law on texts.

The rest of the module builds forms from forms: lists, tables, and the fields of records (`Field`),
which may be left out.
-/

namespace Blockbook.Json

/-- How the values of a type are written as JSON and read. -/
structure Form (α : Type) where
  toJson : α → Json
  ofJson? : Json → Option α

namespace Form

variable {α : Type}

/-- The value of a text. -/
def read? (f : Form α) (s : Text) : Option α := (parse s).bind f.ofJson?

/-- The text of a value. -/
def write (f : Form α) (a : α) : Text := (f.toJson a).write

/-- The text of the value that a text has. -/
def rewrite? (f : Form α) (s : Text) : Option Text := (f.read? s).map f.write

/-- A value that was read from a text with whole numbers is read from its own text, which is written
in no other way. -/
def Survives (f : Form α) : Prop :=
  ∀ s a, (∀ j, parse s = some j → ∀ n ∈ j.numbers, n.IsWhole) → f.read? s = some a →
    f.read? (f.write a) = some a ∧ f.rewrite? (f.write a) = some (f.write a)

/-- A value is read from its JSON, which comes back from its text. -/
structure Kept (f : Form α) (depth : Nat) (a : α) : Prop where
  read : f.ofJson? (f.toJson a) = some a
  back : reread depth (f.toJson a) = f.toJson a

/-- Every value that was read is kept. -/
def Keeps (f : Form α) (depth : Nat) : Prop :=
  ∀ j a, Fits depth j → f.ofJson? j = some a → f.Kept depth a

/-- A value that is made from one of another form, and written and read as that one, is kept if that
one is. -/
theorem Kept.map {β : Type} {f : Form α} {g : Form β} {depth : Nat} {b : β} {make : β → α}
    (h : g.Kept depth b) (hto : f.toJson (make b) = g.toJson b)
    (hof : f.ofJson? (g.toJson b) = (g.ofJson? (g.toJson b)).map make) :
    f.Kept depth (make b) :=
  ⟨by rw [hto, hof, h.read, Option.map_some], by rw [hto, h.back]⟩

theorem Keeps.survives {f : Form α} (h : f.Keeps 0) : f.Survives := by
  intro s a hwhole hread
  obtain ⟨j, hj, ha⟩ := Option.bind_eq_some_iff.1 hread
  have hkept := h j a (fits_of_parse hj (hwhole j hj)) ha
  have hagain : f.read? (f.write a) = some a := by
    rw [read?, write, parse_write, hkept.back, Option.bind_some, hkept.read]
  exact ⟨hagain, by rw [rewrite?, hagain, Option.map_some]⟩

end Form

/-! ## Texts, truth values, numbers and values as they are -/

/-- A text. -/
def textForm : Form Text := ⟨.string, text?⟩

/-- A truth value. -/
def boolForm : Form Bool := ⟨.bool, bool?⟩

/-- A natural number below a bound. -/
def natForm (bound : Nat) : Form Nat := ⟨.ofNat, natBelow? bound⟩

/-- A number of 32 bits. -/
def uint32Form : Form UInt32 := ⟨fun n => .ofNat n.toNat, uint32?⟩

/-- Any value, in canonical form. -/
def valueForm : Form Json := ⟨id, canonical?⟩

section Plain

variable {depth : Nat}

theorem keeps_text : textForm.Keeps depth :=
  fun _ _ _ _ => ⟨rfl, rfl⟩

theorem keeps_bool : boolForm.Keeps depth :=
  fun _ _ _ _ => ⟨rfl, rfl⟩

theorem lt_of_natBelow? {bound n : Nat} {j : Json} (h : natBelow? bound j = some n) :
    n < bound := by
  unfold natBelow? at h
  split at h
  · split at h
    · cases h
      assumption
    · cases h
  · cases h

theorem keeps_nat {bound : Nat} (hbound : bound ≤ wordBound) : (natForm bound).Keeps depth := by
  intro j n _ h
  have hn : n < bound := lt_of_natBelow? h
  exact ⟨if_pos hn, reread_number ⟨by omega, by omega⟩⟩

theorem keeps_uint32 : uint32Form.Keeps depth := by
  intro j word hfits h
  obtain ⟨n, hn, rfl⟩ := Option.map_eq_some_iff.1 h
  have hkept : (natForm UInt32.size).Kept depth n := keeps_nat (by decide) j n hfits hn
  refine hkept.map ?_ rfl
  exact congrArg Json.ofNat (UInt32.toNat_ofNat_of_lt' (lt_of_natBelow? hn))

theorem keeps_value : valueForm.Keeps depth :=
  fun j _ hfits h => ⟨canonical?_canonical j h, reread_canonical j hfits h⟩

end Plain

/-! ## Lists and tables -/

section Parts

variable {α β : Type} {depth : Nat} {f : Form α}

theorem exists_of_mem_mapM {read : β → Option α} {items : List β} {found : List α}
    (h : items.mapM read = some found) : ∀ a ∈ found, ∃ item ∈ items, read item = some a := by
  induction items generalizing found with
  | nil => cases h; exact List.forall_mem_nil _
  | cons item items ih =>
    rw [List.mapM_cons] at h
    obtain ⟨a, ha, h⟩ := Option.bind_eq_some_iff.1 h
    obtain ⟨rest, hrest, h⟩ := Option.bind_eq_some_iff.1 h
    cases h
    refine List.forall_mem_cons.2 ⟨⟨item, List.mem_cons_self, ha⟩, fun b hb => ?_⟩
    obtain ⟨found, hmem, hb⟩ := ih hrest b hb
    exact ⟨found, List.mem_cons_of_mem _ hmem, hb⟩

theorem mapM_map_of_forall {read : β → Option α} {write : α → β} {values : List α}
    (h : ∀ a ∈ values, read (write a) = some a) :
    (values.map write).mapM read = some values := by
  induction values with
  | nil => rfl
  | cons a values ih =>
    rw [List.forall_mem_cons] at h
    rw [List.map_cons, List.mapM_cons, h.1, ih h.2]
    rfl

/-- The values of a list, in order. -/
def Form.list (f : Form α) : Form (List α) :=
  ⟨fun values => .array (values.map f.toJson), list? f.ofJson?⟩

theorem Form.Keeps.list (h : f.Keeps (depth + 1)) : f.list.Keeps depth := by
  intro j values hfits hread
  cases j with
  | array items =>
    obtain ⟨hdepth, hitems⟩ := fits_array_iff.1 hfits
    have hkept : ∀ a ∈ values, f.Kept (depth + 1) a := by
      intro a ha
      obtain ⟨item, hitem, ha⟩ := exists_of_mem_mapM hread a ha
      exact h item a (hitems item hitem) ha
    refine ⟨mapM_map_of_forall fun a ha => (hkept a ha).read, reread_array hdepth ?_⟩
    exact List.forall_mem_map.2 fun a ha => (hkept a ha).back
  | _ => cases hread

/-- A list without values is kept wherever there is room for it. -/
theorem Form.kept_list_nil (hdepth : depth + 1 ≤ depthLimit) : f.list.Kept depth [] :=
  ⟨rfl, reread_array hdepth (List.forall_mem_nil _)⟩

/-- The values of a table with their keys. How the members are put in order is a parameter. -/
def Form.table (f : Form α) (arrange : List (Text × α) → List (Text × α)) :
    Form (List (Text × α)) :=
  ⟨fun entries => .object (entries.map fun (key, a) => (key, f.toJson a)),
    fun j => (members? f.ofJson? j).map arrange⟩

/-- Values in canonical form are written as they are. -/
theorem Form.toJson_table_value (arrange : List (Text × Json) → List (Text × Json))
    (entries : List (Text × Json)) :
    (valueForm.table arrange).toJson entries = .object entries :=
  congrArg Json.object (List.map_id entries)

/-- A table keeps its values if members in order stay as they are and ordering invents none. -/
theorem Form.Keeps.table {arrange : List (Text × α) → List (Text × α)} (h : f.Keeps (depth + 1))
    (hagain : ∀ entries, arrange (arrange entries) = arrange entries)
    (hmem : ∀ entries, ∀ entry ∈ arrange entries, entry ∈ entries) :
    (f.table arrange).Keeps depth := by
  intro j entries hfits hread
  cases j with
  | object members =>
    obtain ⟨hdepth, hmembers⟩ := fits_object_iff.1 hfits
    obtain ⟨found, hfound, rfl⟩ := Option.map_eq_some_iff.1 hread
    have hkept : ∀ entry ∈ arrange found, f.Kept (depth + 1) entry.2 := by
      intro entry hentry
      obtain ⟨member, hmember, hread⟩ := exists_of_mem_mapM hfound entry (hmem found entry hentry)
      obtain ⟨a, ha, rfl⟩ := Option.map_eq_some_iff.1 hread
      exact h member.2 a (hmembers member hmember) ha
    have hread : members? f.ofJson? (.object ((arrange found).map fun (key, a) =>
        (key, f.toJson a))) = some (arrange found) :=
      mapM_map_of_forall fun entry hentry => by
        dsimp only
        rw [(hkept entry hentry).read, Option.map_some]
    refine ⟨?_, reread_object hdepth ?_⟩
    · exact Option.map_eq_some_iff.2 ⟨arrange found, hread, hagain found⟩
    · exact List.forall_mem_map.2 fun entry hentry => (hkept entry hentry).back
  | _ => cases hread

/-- A table without entries is kept wherever there is room for it. -/
theorem Form.kept_table_nil {arrange : List (Text × α) → List (Text × α)}
    (harrange : arrange [] = []) (hdepth : depth + 1 ≤ depthLimit) :
    (f.table arrange).Kept depth [] :=
  ⟨congrArg some harrange, reread_object hdepth (List.forall_mem_nil _)⟩

theorem Form.Keeps.merged (h : f.Keeps (depth + 1)) : (f.table mergeMembers).Keeps depth :=
  h.table (fun entries => mergeMembers_of_nodup (nodup_mergeMembers entries))
    fun _ _ => mem_of_mem_mergeMembers

theorem Form.Keeps.sorted (h : f.Keeps (depth + 1)) : (f.table sortMembers).Keeps depth :=
  h.table (fun entries => sortMembers_of_sorted (sorted_sortMembers entries))
    fun _ _ => mem_of_mem_sortMembers

end Parts

/-! ## Fields -/

/-- How a field of a record is written, if it is, and read, if it is given. -/
structure Field (α : Type) where
  toJson? : α → Option Json
  ofJson? : Option Json → Option α

namespace Field

variable {α : Type}

/-- The value of a field is read from its JSON, which comes back from its text. -/
structure Kept (f : Field α) (depth : Nat) (a : α) : Prop where
  read : f.ofJson? (f.toJson? a) = some a
  back : ∀ j ∈ f.toJson? a, reread depth j = j

/-- Every value that was read is kept. -/
def Keeps (f : Field α) (depth : Nat) : Prop :=
  ∀ given a, (∀ j ∈ given, Fits depth j) → f.ofJson? given = some a → f.Kept depth a

/-- A field that has to be given. -/
def required (f : Form α) : Field α := ⟨fun a => some (f.toJson a), Json.required f.ofJson?⟩

/-- A field that is always written and has a value when it is not given. -/
def withDefault (default : α) (f : Form α) : Field α :=
  ⟨fun a => some (f.toJson a), Json.withDefault default f.ofJson?⟩

/-- A field that is written only if there is a value. -/
def optional (f : Form α) : Field (Option α) :=
  ⟨fun a => a.map f.toJson, Json.withDefault none (optional? f.ofJson?)⟩

/-- A field that is written as `null` if there is no value. -/
def nullable (f : Form α) : Field (Option α) :=
  ⟨fun a => some ((a.map f.toJson).getD .null), Json.withDefault none (optional? f.ofJson?)⟩

end Field

section Fields

variable {α : Type} {depth : Nat} {f : Form α}

theorem Form.Kept.field {a : α} (h : f.Kept depth a) (default : α) :
    (Field.withDefault default f).Kept depth a :=
  ⟨h.read, fun _ hj => Option.some_inj.1 hj ▸ h.back⟩

theorem Form.Keeps.required (h : f.Keeps depth) : (Field.required f).Keeps depth := by
  intro given a hfits hread
  cases given with
  | none => cases hread
  | some j =>
    have hkept := h j a (hfits j rfl) hread
    exact ⟨hkept.read, fun _ hj => Option.some_inj.1 hj ▸ hkept.back⟩

theorem Form.Keeps.withDefault {default : α} (h : f.Keeps depth) (hdefault : f.Kept depth default) :
    (Field.withDefault default f).Keeps depth := by
  intro given a hfits hread
  cases given with
  | none =>
    cases hread
    exact hdefault.field default
  | some j => exact (h j a (hfits j rfl) hread).field default

theorem optional?_of_ne_null {j : Json} (h : j ≠ .null) (read : Json → Option α) :
    optional? read j = (read j).map some := by
  cases j <;> trivial

/-- A value that may be missing was read as any value is, if there is one. -/
theorem exists_of_optional {read : Json → Option α} {given : Option Json} {a : α}
    (h : Json.withDefault none (optional? read) given = some (some a)) :
    ∃ j ∈ given, read j = some a := by
  cases given with
  | none => cases h
  | some j =>
    refine ⟨j, rfl, ?_⟩
    cases j with
    | null => cases h
    | _ => exact Option.map_injective (Option.some_injective α) h

theorem Form.Keeps.optional (h : f.Keeps depth) (hnull : ∀ a, f.toJson a ≠ .null) :
    (Field.optional f).Keeps depth := by
  intro given a hfits hread
  cases a with
  | none => exact ⟨rfl, fun _ hj => nomatch hj⟩
  | some a =>
    obtain ⟨j, hj, hread⟩ := exists_of_optional hread
    have hkept := h j a (hfits j hj) hread
    refine ⟨?_, fun _ hj => Option.some_inj.1 hj ▸ hkept.back⟩
    show optional? f.ofJson? (f.toJson a) = some (some a)
    rw [optional?_of_ne_null (hnull a), hkept.read, Option.map_some]

theorem Form.Keeps.nullable (h : f.Keeps depth) (hnull : ∀ a, f.toJson a ≠ .null) :
    (Field.nullable f).Keeps depth := by
  intro given a hfits hread
  have hkept := h.optional hnull given a hfits hread
  cases a with
  | none => exact ⟨rfl, fun _ hj => Option.some_inj.1 hj ▸ rfl⟩
  | some a => exact ⟨hkept.read, hkept.back⟩

theorem keeps_optional_text : (Field.optional textForm).Keeps depth :=
  keeps_text.optional fun _ => Json.noConfusion

theorem keeps_nullable_text : (Field.nullable textForm).Keeps depth :=
  keeps_text.nullable fun _ => Json.noConfusion

end Fields

end Blockbook.Json
