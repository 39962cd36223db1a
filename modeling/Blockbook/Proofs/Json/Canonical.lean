import Blockbook.Proofs.Json.Members
import Blockbook.Proofs.Json.ReadBack

/-!
# Values that come back from their text

A value in canonical form stands for itself. It also comes back from its text as it is, if its
numbers are whole and it lies no deeper than the limit; and a value that was read from a text lies
no deeper.

* `canonical?_canonical`: a canonical form is its own canonical form.
* `Fits`: what a value needs, unreadable parts aside, to come back from its text.
* `reread_canonical`: the canonical form of a value that fits comes back from its text.
* `fits_of_parse`: a value that was read fits, if its numbers are whole.
-/

namespace Blockbook.Json

/-! ## Canonical values -/

theorem canonicalItems?_cons_iff {item : Json} {items found : List Json} :
    canonicalItems? (item :: items) = some found ↔ ∃ first rest, canonical? item = some first ∧
      canonicalItems? items = some rest ∧ found = first :: rest := by
  rw [canonicalItems?]
  cases canonical? item <;> cases canonicalItems? items <;> simp [eq_comm]

theorem canonicalMembers?_cons_iff {key : Text} {value : Json}
    {members found : List (Text × Json)} :
    canonicalMembers? ((key, value) :: members) = some found ↔ ∃ first rest,
      canonical? value = some first ∧ canonicalMembers? members = some rest ∧
      found = (key, first) :: rest := by
  rw [canonicalMembers?]
  cases canonical? value <;> cases canonicalMembers? members <;> simp [eq_comm]

theorem canonicalMembers?_append_iff {front rest found : List (Text × Json)} :
    canonicalMembers? (front ++ rest) = some found ↔ ∃ x y, canonicalMembers? front = some x ∧
      canonicalMembers? rest = some y ∧ found = x ++ y := by
  induction front generalizing found with
  | nil => simp [canonicalMembers?, eq_comm]
  | cons member front ih =>
    obtain ⟨key, value⟩ := member
    simp only [List.cons_append, canonicalMembers?_cons_iff, ih]
    constructor
    · rintro ⟨first, _, hfirst, ⟨x, y, hx, hy, rfl⟩, rfl⟩
      exact ⟨_, y, ⟨first, x, hfirst, hx, rfl⟩, hy, rfl⟩
    · rintro ⟨_, y, ⟨first, x, hfirst, hx, rfl⟩, hy, rfl⟩
      exact ⟨first, _, hfirst, ⟨x, y, hx, hy, rfl⟩, rfl⟩

theorem canonicalItems?_of_forall {items : List Json}
    (h : ∀ item ∈ items, canonical? item = some item) : canonicalItems? items = some items := by
  induction items with
  | nil => rfl
  | cons item items ih =>
    rw [List.forall_mem_cons] at h
    exact canonicalItems?_cons_iff.2 ⟨item, items, h.1, ih h.2, rfl⟩

theorem canonicalMembers?_of_forall {members : List (Text × Json)}
    (h : ∀ member ∈ members, canonical? member.2 = some member.2) :
    canonicalMembers? members = some members := by
  induction members with
  | nil => rfl
  | cons member members ih =>
    rw [List.forall_mem_cons] at h
    exact canonicalMembers?_cons_iff.2 ⟨member.2, members, h.1, ih h.2, rfl⟩

/-- Members in canonical form are their own canonical form. -/
theorem canonicalMembers?_eq_of_forall {members : List (Text × Json)}
    (h : ∀ member ∈ members, canonical? member.2 = some member.2) (hsorted : SortedKeys members) :
    canonical? (.object members) = some (.object members) := by
  rw [canonical?, canonicalMembers?_of_forall h, Option.map_some, sortMembers_of_sorted hsorted]

mutual

/-- A canonical form is its own canonical form. -/
theorem canonical?_canonical (j : Json) {found : Json} (h : canonical? j = some found) :
    canonical? found = some found := by
  match j with
  | .null | .bool _ | .number _ | .string _ => cases h; rfl
  | .unreadable => cases h
  | .array items =>
    obtain ⟨ws, hws, rfl⟩ := Option.map_eq_some_iff.1 h
    rw [canonical?, canonicalItems?_of_forall (canonicalItems?_canonical items hws),
      Option.map_some]
  | .object members =>
    obtain ⟨ws, hws, rfl⟩ := Option.map_eq_some_iff.1 h
    have hall := canonicalMembers?_canonical members hws
    exact canonicalMembers?_eq_of_forall (fun m hm => hall m (mem_of_mem_sortMembers hm))
      (sorted_sortMembers ws)

theorem canonicalItems?_canonical (items : List Json) {found : List Json}
    (h : canonicalItems? items = some found) : ∀ item ∈ found, canonical? item = some item := by
  match items with
  | [] => cases h; exact fun _ hmem => absurd hmem List.not_mem_nil
  | item :: items =>
    obtain ⟨first, rest, hfirst, hrest, rfl⟩ := canonicalItems?_cons_iff.1 h
    exact List.forall_mem_cons.2 ⟨canonical?_canonical item hfirst,
      canonicalItems?_canonical items hrest⟩

theorem canonicalMembers?_canonical (members : List (Text × Json)) {found : List (Text × Json)}
    (h : canonicalMembers? members = some found) :
    ∀ member ∈ found, canonical? member.2 = some member.2 := by
  match members with
  | [] => cases h; exact fun _ hmem => absurd hmem List.not_mem_nil
  | (key, value) :: members =>
    obtain ⟨first, rest, hfirst, hrest, rfl⟩ := canonicalMembers?_cons_iff.1 h
    exact List.forall_mem_cons.2 ⟨canonical?_canonical value hfirst,
      canonicalMembers?_canonical members hrest⟩

end

/-! ## Values that fit -/

mutual

/-- The numbers in a value, in order. -/
def numbers : Json → List Number
  | .number n => [n]
  | .array items => itemNumbers items
  | .object members => memberNumbers members
  | _ => []

def itemNumbers : List Json → List Number
  | [] => []
  | item :: items => numbers item ++ itemNumbers items

def memberNumbers : List (Text × Json) → List Number
  | [] => []
  | (_, value) :: members => numbers value ++ memberNumbers members

end

mutual

/-- A value inside `depth` arrays and objects has whole numbers only, and nothing in it lies deeper
than the limit. Unreadable parts do not count. -/
def Fits (depth : Nat) : Json → Prop
  | .number n => n.IsWhole
  | .array items => depth + 1 ≤ depthLimit ∧ FitsItems (depth + 1) items
  | .object members => depth + 1 ≤ depthLimit ∧ FitsMembers (depth + 1) members
  | _ => True

def FitsItems (depth : Nat) : List Json → Prop
  | [] => True
  | item :: items => Fits depth item ∧ FitsItems depth items

def FitsMembers (depth : Nat) : List (Text × Json) → Prop
  | [] => True
  | (_, value) :: members => Fits depth value ∧ FitsMembers depth members

end

section Fits

variable {depth : Nat}

theorem fitsItems_iff {items : List Json} :
    FitsItems depth items ↔ ∀ item ∈ items, Fits depth item := by
  induction items with
  | nil => simp [FitsItems]
  | cons item items ih => rw [FitsItems, ih, List.forall_mem_cons]

theorem fitsMembers_iff {members : List (Text × Json)} :
    FitsMembers depth members ↔ ∀ member ∈ members, Fits depth member.2 := by
  induction members with
  | nil => simp [FitsMembers]
  | cons member members ih => rw [FitsMembers, ih, List.forall_mem_cons]

theorem fits_array_iff {items : List Json} :
    Fits depth (.array items) ↔
      depth + 1 ≤ depthLimit ∧ ∀ item ∈ items, Fits (depth + 1) item := by
  rw [Fits, fitsItems_iff]

theorem fits_object_iff {members : List (Text × Json)} :
    Fits depth (.object members) ↔
      depth + 1 ≤ depthLimit ∧ ∀ member ∈ members, Fits (depth + 1) member.2 := by
  rw [Fits, fitsMembers_iff]

/-! ## Values that come back -/

theorem reread_number {n : Number} (h : n.IsWhole) : reread depth (.number n) = .number n :=
  Number.ofNumeral_numeral h

theorem reread_array {items : List Json} (hdepth : depth + 1 ≤ depthLimit)
    (h : ∀ item ∈ items, reread (depth + 1) item = item) :
    reread depth (.array items) = .array items := by
  have hitems : rereadItems (depth + 1) items = items := by
    induction items with
    | nil => rfl
    | cons item items ih =>
      rw [List.forall_mem_cons] at h
      rw [rereadItems, h.1, ih h.2]
  rw [reread, if_pos hdepth, hitems]

theorem reread_object {members : List (Text × Json)} (hdepth : depth + 1 ≤ depthLimit)
    (h : ∀ member ∈ members, reread (depth + 1) member.2 = member.2) :
    reread depth (.object members) = .object members := by
  have hmembers : rereadMembers (depth + 1) members = members := by
    induction members with
    | nil => rfl
    | cons member members ih =>
      rw [List.forall_mem_cons] at h
      rw [rereadMembers, h.1, ih h.2]
  rw [reread, if_pos hdepth, hmembers]

mutual

/-- The canonical form of a value that fits comes back from its text. -/
theorem reread_canonical (j : Json) {found : Json} {depth : Nat} (hfits : Fits depth j)
    (h : canonical? j = some found) : reread depth found = found := by
  match j with
  | .null | .bool _ | .string _ => cases h; rfl
  | .number n => cases h; exact reread_number hfits
  | .unreadable => cases h
  | .array items =>
    obtain ⟨ws, hws, rfl⟩ := Option.map_eq_some_iff.1 h
    exact reread_array hfits.1 (rereadItems_canonical items hfits.2 hws)
  | .object members =>
    obtain ⟨ws, hws, rfl⟩ := Option.map_eq_some_iff.1 h
    have hall := rereadMembers_canonical members hfits.2 hws
    exact reread_object hfits.1 fun m hm => hall m (mem_of_mem_sortMembers hm)

theorem rereadItems_canonical (items : List Json) {found : List Json} {depth : Nat}
    (hfits : FitsItems depth items) (h : canonicalItems? items = some found) :
    ∀ item ∈ found, reread depth item = item := by
  match items with
  | [] => cases h; exact fun _ hmem => absurd hmem List.not_mem_nil
  | item :: items =>
    obtain ⟨first, rest, hfirst, hrest, rfl⟩ := canonicalItems?_cons_iff.1 h
    exact List.forall_mem_cons.2 ⟨reread_canonical item hfits.1 hfirst,
      rereadItems_canonical items hfits.2 hrest⟩

theorem rereadMembers_canonical (members : List (Text × Json)) {found : List (Text × Json)}
    {depth : Nat} (hfits : FitsMembers depth members) (h : canonicalMembers? members = some found) :
    ∀ member ∈ found, reread depth member.2 = member.2 := by
  match members with
  | [] => cases h; exact fun _ hmem => absurd hmem List.not_mem_nil
  | (key, value) :: members =>
    obtain ⟨first, rest, hfirst, hrest, rfl⟩ := canonicalMembers?_cons_iff.1 h
    exact List.forall_mem_cons.2 ⟨reread_canonical value hfits.1 hfirst,
      rereadMembers_canonical members hfits.2 hrest⟩

end

/-! ## Texts that have a value -/

/-- The text of a value inside `depth` arrays and objects has a value itself. -/
def Readable (depth : Nat) (j : Json) : Prop := (canonical? (reread depth j)).isSome = true

theorem readable_array_iff {items : List Json} :
    Readable depth (.array items) ↔
      depth + 1 ≤ depthLimit ∧ ∀ item ∈ items, Readable (depth + 1) item := by
  have hitems : (canonicalItems? (rereadItems (depth + 1) items)).isSome = true ↔
      ∀ item ∈ items, Readable (depth + 1) item := by
    induction items with
    | nil => simp [rereadItems, canonicalItems?]
    | cons item items ih =>
      rw [List.forall_mem_cons, ← ih, Readable, rereadItems, canonicalItems?]
      cases canonical? (reread (depth + 1) item) <;>
        cases canonicalItems? (rereadItems (depth + 1) items) <;> simp
  rw [← hitems, Readable, reread]
  split
  · next h => simp [canonical?, h]
  · next h => simp [canonical?, h]

theorem readable_object_iff {members : List (Text × Json)} :
    Readable depth (.object members) ↔
      depth + 1 ≤ depthLimit ∧ ∀ member ∈ members, Readable (depth + 1) member.2 := by
  have hmembers : (canonicalMembers? (rereadMembers (depth + 1) members)).isSome = true ↔
      ∀ member ∈ members, Readable (depth + 1) member.2 := by
    induction members with
    | nil => simp [rereadMembers, canonicalMembers?]
    | cons member members ih =>
      rw [List.forall_mem_cons, ← ih, Readable, rereadMembers, canonicalMembers?]
      cases canonical? (reread (depth + 1) member.2) <;>
        cases canonicalMembers? (rereadMembers (depth + 1) members) <;> simp
  rw [← hmembers, Readable, reread]
  split
  · next h => simp [canonical?, h]
  · next h => simp [canonical?, h]

end Fits

/-! ## Values that were read -/

theorem mem_itemNumbers {n : Number} {items : List Json} :
    n ∈ itemNumbers items ↔ ∃ item ∈ items, n ∈ numbers item := by
  induction items with
  | nil => simp [itemNumbers]
  | cons item items ih => simp [itemNumbers, ih]

theorem mem_memberNumbers {n : Number} {members : List (Text × Json)} :
    n ∈ memberNumbers members ↔ ∃ member ∈ members, n ∈ numbers member.2 := by
  induction members with
  | nil => simp [memberNumbers]
  | cons member members ih => simp [memberNumbers, ih]

theorem map_snd_of_keyedMembers? {members : List (List Unit16 × Json)} {found : List (Text × Json)}
    (h : keyedMembers? members = some found) : found.map Prod.snd = members.map Prod.snd := by
  fun_induction keyedMembers? members generalizing found with
  | case1 => cases h; rfl
  | case2 key value members k ms hms hkey ih =>
    cases h
    rw [List.map_cons, List.map_cons, ih hms]
  | case3 => cases h

section OfParts

variable {depth : Nat}

theorem fits_ofNumeral (n : Numeral) (h : ∀ m ∈ numbers (ofNumeral n), m.IsWhole) :
    Fits depth (ofNumeral n) := by
  rw [ofNumeral] at h ⊢
  split
  · next v hv =>
    rw [hv] at h
    exact h v (List.mem_singleton.2 rfl)
  · trivial

theorem fits_ofItems {items : List Json}
    (hitems : (∀ item ∈ items, ∀ n ∈ numbers item, n.IsWhole) →
      ∀ item ∈ items, Fits (depth + 1) item)
    (h : ∀ n ∈ numbers (ofItems (depth + 1) items), n.IsWhole) :
    Fits depth (ofItems (depth + 1) items) := by
  rw [ofItems] at h ⊢
  split
  · next hdepth =>
    rw [if_pos hdepth, numbers] at h
    refine fits_array_iff.2 ⟨hdepth, hitems fun item hitem n hn => ?_⟩
    exact h n (mem_itemNumbers.2 ⟨item, hitem, hn⟩)
  · trivial

theorem fits_ofMembers {members : List (List Unit16 × Json)}
    (hmembers : (∀ member ∈ members, ∀ n ∈ numbers member.2, n.IsWhole) →
      ∀ member ∈ members, Fits (depth + 1) member.2)
    (h : ∀ n ∈ numbers (ofMembers (depth + 1) members), n.IsWhole) :
    Fits depth (ofMembers (depth + 1) members) := by
  rw [ofMembers] at h ⊢
  split
  · next found hfound =>
    rw [hfound] at h
    have hvalues := map_snd_of_keyedMembers? hfound
    split
    · next hdepth =>
      simp only [if_pos hdepth, numbers] at h
      have hwhole : ∀ member ∈ members, ∀ n ∈ numbers member.2, n.IsWhole := by
        intro member hmember n hn
        have hmem : member.2 ∈ found.map Prod.snd := hvalues ▸ List.mem_map_of_mem hmember
        obtain ⟨m, hm, heq⟩ := List.mem_map.1 hmem
        exact h n (mem_memberNumbers.2 ⟨m, hm, heq ▸ hn⟩)
      refine fits_object_iff.2 ⟨hdepth, fun m hm => ?_⟩
      have hmem : m.2 ∈ members.map Prod.snd := hvalues ▸ List.mem_map_of_mem hm
      obtain ⟨member, hmember, heq⟩ := List.mem_map.1 hmem
      exact heq ▸ hmembers hwhole member hmember
    · trivial
  · trivial

end OfParts

mutual

theorem fits_of_parseValue? (fuel depth : Nat) {s rest : Text} {j : Json}
    (h : parseValue? fuel depth s = some (j, rest)) (hwhole : ∀ n ∈ numbers j, n.IsWhole) :
    Fits depth j := by
  match fuel with
  | 0 => cases h
  | fuel + 1 =>
    rw [parseValue?] at h
    split at h
    · cases h; trivial
    · cases h; trivial
    · cases h; trivial
    · obtain ⟨⟨units, r⟩, -, heq⟩ := Option.map_eq_some_iff.1 h
      cases heq
      rw [ofUnits]
      split <;> trivial
    · split at h
      · cases h
        exact fits_ofItems (fun _ _ hmem => absurd hmem List.not_mem_nil) hwhole
      · obtain ⟨⟨items, r⟩, hitems, heq⟩ := Option.map_eq_some_iff.1 h
        cases heq
        exact fits_ofItems (fits_of_parseItems? fuel (depth + 1) hitems) hwhole
    · split at h
      · cases h
        exact fits_ofMembers (fun _ _ hmem => absurd hmem List.not_mem_nil) hwhole
      · obtain ⟨⟨members, r⟩, hmembers, heq⟩ := Option.map_eq_some_iff.1 h
        cases heq
        exact fits_ofMembers (fits_of_parseMembers? fuel (depth + 1) hmembers) hwhole
    · obtain ⟨⟨n, r⟩, -, heq⟩ := Option.map_eq_some_iff.1 h
      cases heq
      exact fits_ofNumeral n hwhole
    · obtain ⟨⟨n, r⟩, -, heq⟩ := Option.map_eq_some_iff.1 h
      cases heq
      exact fits_ofNumeral n hwhole

theorem fits_of_parseItems? (fuel depth : Nat) {s rest : Text} {items : List Json}
    (h : parseItems? fuel depth s = some (items, rest))
    (hwhole : ∀ item ∈ items, ∀ n ∈ numbers item, n.IsWhole) : ∀ item ∈ items, Fits depth item := by
  match fuel with
  | 0 => cases h
  | fuel + 1 =>
    rw [parseItems?] at h
    split at h
    · cases h
    · next item s' hitem =>
      split at h
      · cases h
        rw [List.forall_mem_singleton] at hwhole ⊢
        exact fits_of_parseValue? fuel depth hitem hwhole
      · obtain ⟨⟨items, r⟩, hitems, heq⟩ := Option.map_eq_some_iff.1 h
        cases heq
        rw [List.forall_mem_cons] at hwhole ⊢
        exact ⟨fits_of_parseValue? fuel depth hitem hwhole.1,
          fits_of_parseItems? fuel depth hitems hwhole.2⟩
      · cases h

theorem fits_of_parseMembers? (fuel depth : Nat) {s rest : Text}
    {members : List (List Unit16 × Json)} (h : parseMembers? fuel depth s = some (members, rest))
    (hwhole : ∀ member ∈ members, ∀ n ∈ numbers member.2, n.IsWhole) :
    ∀ member ∈ members, Fits depth member.2 := by
  match fuel with
  | 0 => cases h
  | fuel + 1 =>
    rw [parseMembers?] at h
    split at h
    · split at h
      · cases h
      · split at h
        · split at h
          · cases h
          · next value s' hvalue =>
            split at h
            · cases h
              rw [List.forall_mem_singleton] at hwhole ⊢
              exact fits_of_parseValue? fuel depth hvalue hwhole
            · obtain ⟨⟨members, r⟩, hmembers, heq⟩ := Option.map_eq_some_iff.1 h
              cases heq
              rw [List.forall_mem_cons] at hwhole ⊢
              exact ⟨fits_of_parseValue? fuel depth hvalue hwhole.1,
                fits_of_parseMembers? fuel depth hmembers hwhole.2⟩
            · cases h
        · cases h
    · cases h

end

/-- A value that was read from a text fits, if its numbers are whole. -/
theorem fits_of_parse {s : Text} {j : Json} (h : parse s = some j)
    (hwhole : ∀ n ∈ j.numbers, n.IsWhole) : Fits 0 j := by
  rw [parse] at h
  split at h
  · next value rest hvalue =>
    split at h
    · cases h
      exact fits_of_parseValue? _ 0 hvalue hwhole
    · cases h
  · cases h

end Blockbook.Json
