import Blockbook.Slot.Basic
import Blockbook.Text.Blank
import Blockbook.Text.Word

/-!
# Slots of a template

Slots are found in the text of a template, without reading it as markup. A slot tag ends at the next
`>`. Its attributes are those whose value stands in double quotes and is either a word or an object
between braces on one line; whatever else is written is passed over.
-/

namespace Blockbook.Slot

/-- The attribute part of a slot tag whose name has just been taken, and what follows the tag. -/
def tagRest? : Text → Option (Text × Text)
  | [] => none
  | c :: cs =>
    if c = '>' then some ([], cs)
    else if Text.isBlank c || c = '/' then
      (Text.breakOn? ['>'] cs).map fun (inner, rest) => (c :: inner, rest)
    else none

/-- The attribute part of the slot tag at the front of a text, and what follows the tag. -/
def tag? (s : Text) : Option (Text × Text) :=
  (Text.after? "<slot" s).bind tagRest?

theorem length_of_tag? {s attributes rest : Text} (h : tag? s = some (attributes, rest)) :
    rest.length < s.length := by
  obtain ⟨t, ht, hr⟩ := Option.bind_eq_some_iff.1 h
  have hs : s.length = ("<slot".toList : Text).length + t.length := by
    rw [Text.after?_eq_some_iff.1 ht, List.length_append]
  have hlt : rest.length < t.length := by
    unfold tagRest? at hr
    split at hr
    · simp at hr
    · split at hr
      · simp only [Option.some.injEq, Prod.mk.injEq] at hr
        obtain ⟨-, rfl⟩ := hr
        simp
      · split at hr
        · obtain ⟨⟨inner, rest'⟩, hb, he⟩ := Option.map_eq_some_iff.1 hr
          simp only [Prod.mk.injEq] at he
          obtain ⟨-, rfl⟩ := he
          simp [Text.eq_of_breakOn? hb]
          omega
        · simp at hr
  omega

/-- The attribute parts of all slot tags of a template. -/
def tags (s : Text) : List Text :=
  match s with
  | [] => []
  | c :: cs =>
    match _h : tag? (c :: cs) with
    | some (attributes, rest) => attributes :: tags rest
    | none => tags cs
termination_by s.length
decreasing_by
  · exact length_of_tag? ‹_›
  · simp

/-- A character of an attribute name or of a plain value. -/
def isAttributeChar (c : Char) : Bool := Text.isWord c || c = '|' || c = '-'

/-- A word that ends at a double quote, and what follows the quote. -/
def wordValue? (s : Text) : Option (Text × Text) :=
  match s.takeWhile isAttributeChar, s.dropWhile isAttributeChar with
  | c :: cs, '"' :: rest => some (c :: cs, rest)
  | _, _ => none

/-- An object between braces that ends at the last brace and double quote of the line, and what
follows the quote. -/
def objectValue? : Text → Option (Text × Text)
  | '{' :: s =>
    let line := s.takeWhile (· ≠ '\n')
    (Text.breakOnLast? ['}', '"'] line).map fun (inner, rest) =>
      ('{' :: inner ++ ['}'], rest ++ s.dropWhile (· ≠ '\n'))
  | _ => none

/-- The value after an attribute name, and what follows it. -/
def value? : Text → Option (Text × Text)
  | '=' :: '"' :: s => (wordValue? s).or (objectValue? s)
  | _ => none

/-- The attributes of a tag, in order, each a name and its value. The fuel bounds the steps, of
which each takes a character at least. -/
def attributes : Nat → Text → List (Text × Text)
  | 0, _ => []
  | fuel + 1, s =>
    match s.dropWhile (fun c => !isAttributeChar c) with
    | [] => []
    | s =>
      let name := s.takeWhile isAttributeChar
      let rest := s.dropWhile isAttributeChar
      match value? rest with
      | some (value, rest) => (name, value) :: attributes fuel rest
      | none => attributes fuel rest

/-- The names in an object that is bound as a whole: what stands between its commas. -/
def bindings (value : Text) : List Text :=
  let inner := match value with
    | '{' :: s => if s.getLast? = some '}' then s.dropLast else value
    | _ => value
  ((Text.splitOn ',' inner).map Text.trim).filter (! ·.isEmpty)

/-- The slot of a tag. Its `name` is the slot's name, an object that is bound hands out its entries,
and any other attribute hands out a value under its own name. -/
def ofAttributes (attributes : List (Text × Text)) : Slot :=
  let name := attributes.foldl (fun name (key, value) => if key = "name" then value else name)
    defaultName
  let scope := attributes.flatMap fun (key, value) =>
    if key = "name" then []
    else if key = "v-bind" then bindings value
    else [key]
  of name scope

/-- The slot of a tag with an attribute part. -/
def ofTag (s : Text) : Slot := ofAttributes (attributes (s.length + 1) s)

/-- The slots that a template declares, in order. -/
def scan (template : Text) : List Slot := (tags template).map ofTag

end Blockbook.Slot
