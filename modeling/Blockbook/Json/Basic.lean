import Blockbook.Text.Basic

/-!
# JSON values

A JSON value keeps the members of an object in the order in which they were written, with
repetitions. Text that is well formed and yet has no value (a number too large, half of a surrogate
pair, nesting too deep) is `unreadable`: a reader that skips it goes on, a reader that wants it
fails.

`canonical?` is the form of a value that stands for itself: members sorted by key, and of a repeated
key the last member only.
-/

namespace Blockbook

/-- A number: an integer, or a double given by its bits. -/
inductive Json.Number where
  | int (n : Int)
  | double (bits : UInt64)
deriving DecidableEq, Repr

/-- A JSON value. -/
inductive Json where
  | null
  | bool (b : Bool)
  | number (n : Json.Number)
  | string (t : Text)
  | array (items : List Json)
  | object (members : List (Text × Json))
  /-- Well-formed text that has no value. -/
  | unreadable
deriving Repr

namespace Json

/-- A member put into its place among members sorted by key, instead of one with the same key. -/
def insertMember {α : Type} (key : Text) (value : α) : List (Text × α) → List (Text × α)
  | [] => [(key, value)]
  | (k, v) :: members =>
    if key = k then (key, value) :: members
    else if key < k then (key, value) :: (k, v) :: members
    else (k, v) :: insertMember key value members

/-- A member put at the end, or in the place of one with the same key. -/
def putMember {α : Type} (key : Text) (value : α) : List (Text × α) → List (Text × α)
  | [] => [(key, value)]
  | (k, v) :: members =>
    if key = k then (key, value) :: members else (k, v) :: putMember key value members

/-- Members sorted by key, of a repeated key the last one. -/
def sortMembers {α : Type} (members : List (Text × α)) : List (Text × α) :=
  members.foldl (fun sorted (key, value) => insertMember key value sorted) []

/-- Members in order of first occurrence, of a repeated key the last value. -/
def mergeMembers {α : Type} (members : List (Text × α)) : List (Text × α) :=
  members.foldl (fun merged (key, value) => putMember key value merged) []

mutual

/-- The value with the members of every object sorted by key and without repetitions. There is none
if some part is unreadable. -/
def canonical? : Json → Option Json
  | .null => some .null
  | .bool b => some (.bool b)
  | .number n => some (.number n)
  | .string t => some (.string t)
  | .array items => (canonicalItems? items).map .array
  | .object members => (canonicalMembers? members).map fun ms => .object (sortMembers ms)
  | .unreadable => none

def canonicalItems? : List Json → Option (List Json)
  | [] => some []
  | item :: items =>
    match canonical? item, canonicalItems? items with
    | some item, some items => some (item :: items)
    | _, _ => none

def canonicalMembers? : List (Text × Json) → Option (List (Text × Json))
  | [] => some []
  | (key, value) :: members =>
    match canonical? value, canonicalMembers? members with
    | some value, some members => some ((key, value) :: members)
    | _, _ => none

end

/-- The member of an object with a key. -/
def get? (key : Text) : Json → Option Json
  | .object members => (members.find? (·.1 = key)).map (·.2)
  | _ => none

/-- A text value from a literal. -/
def ofString (s : String) : Json := .string s.toList

/-- An integer value. -/
def ofNat (n : Nat) : Json := .number (.int n)

end Json

end Blockbook
