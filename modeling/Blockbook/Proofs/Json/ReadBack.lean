import Blockbook.Json.Printer
import Blockbook.Proofs.Json.Numeral

/-!
# Written JSON is read back

The text of every value is well formed, and what it is read as can be said on the value: strings and
the order of items and members come back as they are, a number as its numeral says, and what lies
too deep comes back unreadable.

* `reread`: what the text of a value is read as.
* `parse_write`: the text of a value is read as `reread` says.
-/

namespace Blockbook.Json

/-! ## Strings -/

/-- The unit that a character is read as after it was written. -/
def unitOf (c : Char) : Unit16 :=
  if c.toNat < 0x20 ∧ c ∉ ['\x08', '\x0c', '\n', '\r', '\t'] then .unit c.toNat else .char c

/-- The four digits of a small number, as values. -/
theorem map_hexDigit?_hex4 :
    ∀ n < 0x20, (hex4 n).map hexDigit? = [some 0, some 0, some (n / 16), some (n % 16)] := by
  decide

theorem stringUnits?_hex4 {n : Nat} (hn : n < 0x20) (seen : List Unit16) (s : Text) :
    stringUnits? seen ('\\' :: 'u' :: (hex4 n ++ s)) = stringUnits? (.unit n :: seen) s := by
  have hdigits := map_hexDigit?_hex4 n hn
  rcases hhex : hex4 n with _ | ⟨a, _ | ⟨b, _ | ⟨c, _ | ⟨d, _ | _⟩⟩⟩⟩ <;> simp [hhex] at hdigits
  obtain ⟨ha, hb, hc, hd⟩ := hdigits
  have hvalue : ((0 * 16 + 0) * 16 + n / 16) * 16 + n % 16 = n := by omega
  simp only [List.cons_append, List.nil_append, stringUnits?, ha, hb, hc, hd, hvalue]

/-- A written character is read as its unit. -/
theorem stringUnits?_escapeChar (c : Char) (seen : List Unit16) (s : Text) :
    stringUnits? seen (escapeChar c ++ s) = stringUnits? (unitOf c :: seen) s := by
  by_cases hletter : c ∈ ['"', '\\', '\x08', '\x0c', '\n', '\r', '\t']
  · simp only [List.mem_cons, List.not_mem_nil, or_false] at hletter
    obtain rfl | rfl | rfl | rfl | rfl | rfl | rfl := hletter <;> rfl
  · simp only [List.mem_cons, List.not_mem_nil, or_false, not_or] at hletter
    obtain ⟨h₁, h₂, h₃, h₄, h₅, h₆, h₇⟩ := hletter
    simp only [escapeChar, if_neg h₁, if_neg h₂, if_neg h₃, if_neg h₄, if_neg h₅, if_neg h₆,
      if_neg h₇]
    split
    · next h =>
      rw [List.append_assoc, List.cons_append, List.cons_append, List.nil_append,
        stringUnits?_hex4 h, unitOf, if_pos ⟨h, by simp_all⟩]
    · next h =>
      rw [unitOf, if_neg fun hc => h hc.1, List.singleton_append, stringUnits?.eq_def]
      split <;> simp_all

theorem decodeUnits?_unitOf (c : Char) (units : List Unit16) :
    decodeUnits? (unitOf c :: units) = (decodeUnits? units).map (c :: ·) := by
  unfold unitOf
  split
  · next h =>
    have hlead : isLead c.toNat = false := by simp [isLead]; omega
    have htrail : isTrail c.toNat = false := by simp [isTrail]; omega
    have hc : Char.ofNat c.toNat = c := Char.ofNat_toNat c
    rcases units with _ | ⟨_ | _, units⟩ <;> simp [decodeUnits?, hlead, htrail, hc]
  · rw [decodeUnits?]

theorem stringUnits?_flatMap (t : Text) (seen : List Unit16) (rest : Text) :
    stringUnits? seen (t.flatMap escapeChar ++ '"' :: rest) =
      some (seen.reverse ++ t.map unitOf, rest) := by
  induction t generalizing seen with
  | nil => simp [stringUnits?]
  | cons c cs ih =>
    rw [List.flatMap_cons, List.append_assoc, stringUnits?_escapeChar, ih]
    simp

theorem decodeUnits?_map (t : Text) : decodeUnits? (t.map unitOf) = some t := by
  induction t with
  | nil => rfl
  | cons c cs ih => rw [List.map_cons, decodeUnits?_unitOf, ih]; rfl

/-- A string is read as far as it is written. -/
theorem stringUnits?_writeString (t rest : Text) :
    ∃ s, writeString t ++ rest = '"' :: s ∧
      stringUnits? [] s = some (t.map unitOf, rest) := by
  refine ⟨t.flatMap escapeChar ++ '"' :: rest, by simp [writeString], ?_⟩
  rw [stringUnits?_flatMap]
  rfl

/-! ## Values -/

mutual

/-- What the text of a value inside `depth` arrays and objects is read as. -/
def reread (depth : Nat) : Json → Json
  | .null => .null
  | .bool b => .bool b
  | .number n => ofNumeral n.numeral
  | .string t => .string t
  | .array items =>
    if depth + 1 ≤ depthLimit then .array (rereadItems (depth + 1) items) else .unreadable
  | .object members =>
    if depth + 1 ≤ depthLimit then .object (rereadMembers (depth + 1) members) else .unreadable
  | .unreadable => .null

def rereadItems (depth : Nat) : List Json → List Json
  | [] => []
  | item :: items => reread depth item :: rereadItems depth items

def rereadMembers (depth : Nat) : List (Text × Json) → List (Text × Json)
  | [] => []
  | (key, value) :: members => (key, reread depth value) :: rereadMembers depth members

end

theorem rereadMembers_append (depth : Nat) (front rest : List (Text × Json)) :
    rereadMembers depth (front ++ rest) =
      rereadMembers depth front ++ rereadMembers depth rest := by
  induction front with
  | nil => rfl
  | cons member front ih =>
    rw [List.cons_append, rereadMembers, ih, rereadMembers, List.cons_append]

/-- The text of a value starts with a character that is no blank and closes nothing. -/
theorem exists_write (j : Json) :
    ∃ c s, write j = c :: s ∧ isSpace c = false ∧ c ≠ ']' := by
  cases j with
  | number n =>
    obtain ⟨c, cs, hcs⟩ := List.exists_cons_of_ne_nil n.wellFormed_numeral.whole.ne_nil
    have hc : isDigit c = true := n.wellFormed_numeral.whole.all c (by simp [hcs])
    rw [write, Number.write_eq, Numeral.text, Numeral.unsignedText, hcs]
    split
    · exact ⟨_, _, rfl, rfl, by decide⟩
    · exact ⟨_, _, rfl, isSpace_of_isDigit hc, by rintro rfl; cases hc⟩
  | null => exact ⟨_, _, rfl, rfl, by decide⟩
  | unreadable => exact ⟨_, _, rfl, rfl, by decide⟩
  | bool b => cases b <;> exact ⟨_, _, rfl, rfl, by decide⟩
  | string t => exact ⟨_, _, rfl, rfl, by decide⟩
  | array items => cases items <;> exact ⟨_, _, rfl, rfl, by decide⟩
  | object members => rcases members with _ | ⟨⟨_, _⟩, _⟩ <;> exact ⟨_, _, rfl, rfl, by decide⟩

theorem length_write (j : Json) : 0 < (write j).length := by
  obtain ⟨c, s, hw, -⟩ := exists_write j
  simp [hw]

theorem length_writeItems (items : List Json) : 0 < (writeItems items).length := by
  cases items <;> simp [writeItems]

theorem length_writeMembers (members : List (Text × Json)) : 0 < (writeMembers members).length := by
  rcases members with _ | ⟨⟨_, _⟩, _⟩ <;> simp [writeMembers]

theorem endsValue_writeItems (items : List Json) (rest : Text) :
    EndsValue (writeItems items ++ rest) := by
  cases items <;> simp [EndsValue, writeItems]

theorem endsValue_writeMembers (members : List (Text × Json)) (rest : Text) :
    EndsValue (writeMembers members ++ rest) := by
  rcases members with _ | ⟨⟨_, _⟩, _⟩ <;> simp [EndsValue, writeMembers]

/-- A member as it is read: its key in units, and its value. -/
def spelled (member : Text × Json) : List Unit16 × Json := (member.1.map unitOf, member.2)

theorem keyedMembers?_map (members : List (Text × Json)) :
    keyedMembers? (members.map spelled) = some members := by
  induction members with
  | nil => rfl
  | cons member members ih =>
    rw [List.map_cons, spelled, keyedMembers?, decodeUnits?_map, ih]

section Step

variable {fuel depth : Nat} {s t : Text}

theorem parseValue?_array {c : Char} (hspace : isSpace c = false) (hclose : c ≠ ']') :
    parseValue? (fuel + 1) depth ('[' :: c :: s) =
      (parseItems? fuel (depth + 1) (c :: s)).map fun (items, rest) =>
        (ofItems (depth + 1) items, rest) := by
  have hopen : skipSpace ('[' :: c :: s) = '[' :: c :: s := rfl
  have hfirst : skipSpace (c :: s) = c :: s := by simp [skipSpace, hspace]
  rw [parseValue?, hopen]
  simp only [hfirst]
  split
  · next heq => exact absurd (List.cons.inj heq).1 hclose
  · rfl

theorem parseValue?_object :
    parseValue? (fuel + 1) depth ('{' :: '"' :: s) =
      (parseMembers? fuel (depth + 1) ('"' :: s)).map fun (members, rest) =>
        (ofMembers (depth + 1) members, rest) := by
  rw [parseValue?, show skipSpace ('{' :: '"' :: s) = '{' :: '"' :: s from rfl]
  rfl

theorem parseMembers?_key {key : List Unit16} (h : stringUnits? [] s = some (key, ':' :: t)) :
    parseMembers? (fuel + 1) depth ('"' :: s) =
      match parseValue? fuel depth t with
      | none => none
      | some (value, t) =>
        match skipSpace t with
        | '}' :: t => some ([(key, value)], t)
        | ',' :: t =>
          (parseMembers? fuel depth t).map fun (members, rest) => ((key, value) :: members, rest)
        | _ => none := by
  rw [parseMembers?, show skipSpace ('"' :: s) = '"' :: s from rfl]
  simp only [h]
  rfl

end Step

mutual

/-- A value is read as far as it is written. -/
theorem parseValue?_write (j : Json) (fuel depth : Nat) (rest : Text)
    (hfuel : 2 * (write j).length ≤ fuel) (hrest : EndsValue rest) :
    parseValue? fuel depth (write j ++ rest) = some (reread depth j, rest) := by
  match fuel, j with
  | 0, j =>
    have := length_write j
    omega
  | fuel + 1, .null | fuel + 1, .unreadable | fuel + 1, .bool true | fuel + 1, .bool false =>
    simp [write, parseValue?, skipSpace, isSpace, reread]
  | fuel + 1, .number n => exact parseValue?_number n hrest fuel depth
  | fuel + 1, .string t =>
    obtain ⟨s, hs, hunits⟩ := stringUnits?_writeString t rest
    rw [write, hs]
    simp [parseValue?, skipSpace, isSpace, hunits, ofUnits, decodeUnits?_map, reread]
  | fuel + 1, .array [] =>
    simp [write, parseValue?, skipSpace, isSpace, reread, ofItems, rereadItems]
  | fuel + 1, .array (item :: items) =>
    obtain ⟨c, s, hw, hspace, hclose⟩ := exists_write item
    simp only [write, List.length_cons, List.length_append] at hfuel
    have hitems := parseItems?_write item items fuel (depth + 1) rest (by omega)
    rw [hw, List.cons_append] at hitems
    rw [write, List.append_assoc, hw, List.cons_append, List.cons_append,
      parseValue?_array hspace hclose, hitems]
    rfl
  | fuel + 1, .object [] =>
    simp [write, parseValue?, skipSpace, isSpace, reread, ofMembers, keyedMembers?, rereadMembers]
  | fuel + 1, .object ((key, value) :: members) =>
    obtain ⟨s, hs, -⟩ := stringUnits?_writeString key
      (':' :: (write value ++ (writeMembers members ++ rest)))
    simp only [write, List.length_cons, List.length_append] at hfuel
    have hmembers := parseMembers?_write key value members fuel (depth + 1) rest (by omega)
    rw [hs] at hmembers
    simp only [write, List.append_assoc, List.cons_append, hs]
    rw [parseValue?_object, hmembers]
    simp only [Option.map_some, ofMembers, keyedMembers?_map, reread]

/-- Items are read as far as they are written. -/
theorem parseItems?_write (item : Json) (items : List Json) (fuel depth : Nat) (rest : Text)
    (hfuel : 2 * ((write item).length + (writeItems items).length) ≤ fuel) :
    parseItems? fuel depth (write item ++ (writeItems items ++ rest)) =
      some (rereadItems depth (item :: items), rest) := by
  have hpos := length_writeItems items
  match fuel, items with
  | 0, items => omega
  | fuel + 1, [] =>
    have hitem := parseValue?_write item fuel depth _ (by omega) (endsValue_writeItems [] rest)
    rw [parseItems?, hitem]
    rfl
  | fuel + 1, next :: items =>
    have hitem := parseValue?_write item fuel depth _ (by omega)
      (endsValue_writeItems (next :: items) rest)
    simp only [writeItems, List.length_cons, List.length_append] at hfuel
    have hitems := parseItems?_write next items fuel depth rest (by omega)
    rw [parseItems?, hitem]
    simp [writeItems, skipSpace, isSpace, hitems, rereadItems]

/-- Members are read as far as they are written. -/
theorem parseMembers?_write (key : Text) (value : Json) (members : List (Text × Json))
    (fuel depth : Nat) (rest : Text)
    (hfuel : 2 * ((write value).length + (writeMembers members).length) ≤ fuel) :
    parseMembers? fuel depth
        (writeString key ++ ':' :: (write value ++ (writeMembers members ++ rest))) =
      some ((rereadMembers depth ((key, value) :: members)).map spelled, rest) := by
  obtain ⟨s, hs, hunits⟩ := stringUnits?_writeString key
    (':' :: (write value ++ (writeMembers members ++ rest)))
  have hpos := length_writeMembers members
  match fuel, members with
  | 0, members => omega
  | fuel + 1, [] =>
    have hvalue := parseValue?_write value fuel depth _ (by omega) (endsValue_writeMembers [] rest)
    rw [hs, parseMembers?_key hunits, hvalue]
    rfl
  | fuel + 1, (nextKey, nextValue) :: members =>
    have hvalue := parseValue?_write value fuel depth _ (by omega)
      (endsValue_writeMembers ((nextKey, nextValue) :: members) rest)
    simp only [writeMembers, List.length_cons, List.length_append] at hfuel
    have hmembers := parseMembers?_write nextKey nextValue members fuel depth rest (by omega)
    rw [hs, parseMembers?_key hunits, hvalue]
    simp [writeMembers, skipSpace, isSpace, hmembers, rereadMembers, spelled]

end

/-- The text of a value is read as `reread` says. -/
theorem parse_write (j : Json) : parse (write j) = some (reread 0 j) := by
  have hread := parseValue?_write j (2 * (write j).length + 2) 0 [] (by omega)
    (by simp [EndsValue])
  rw [List.append_nil] at hread
  rw [parse, hread]
  rfl

end Blockbook.Json
