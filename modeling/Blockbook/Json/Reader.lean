import Blockbook.Json.Basic

/-!
# Records read from JSON

A reader takes a JSON value to a value of some type, or refuses it. A record is read from an object,
and a record whose fields are all declared also from an array of their values in order. A declared
field may be given once.
-/

namespace Blockbook.Json

/-- The text of a string. -/
def text? : Json → Option Text
  | .string t => some t
  | _ => none

def bool? : Json → Option Bool
  | .bool b => some b
  | _ => none

/-- A natural number below a bound. -/
def natBelow? (bound : Nat) : Json → Option Nat
  | .number (.int (.ofNat n)) => if n < bound then some n else none
  | _ => none

/-- A number of 32 bits. -/
def uint32? (j : Json) : Option UInt32 := (natBelow? UInt32.size j).map .ofNat

/-- The items of an array, each read on its own. -/
def list? {α : Type} (read : Json → Option α) : Json → Option (List α)
  | .array items => items.mapM read
  | _ => none

/-- The members of an object, each value read on its own. -/
def members? {α : Type} (read : Json → Option α) : Json → Option (List (Text × α))
  | .object members => members.mapM fun (key, value) => (read value).map fun a => (key, a)
  | _ => none

/-- A value that may also be missing, which is written `null`. -/
def optional? {α : Type} (read : Json → Option α) : Json → Option (Option α)
  | .null => some none
  | j => (read j).map some

/-- The value of a declared field, if it is given. A field that is given twice is refused. -/
def field? (members : List (Text × Json)) (name : Text) : Option (Option Json) :=
  match members.filter (·.1 = name) with
  | [] => some none
  | [(_, value)] => some (some value)
  | _ => none

/-- The members that are no declared field. -/
def others (declared : List Text) (members : List (Text × Json)) : List (Text × Json) :=
  members.filter fun (key, _) => !declared.contains key

/-- The values of declared fields, by name from an object or in order from an array. -/
def fields? (declared : List Text) : Json → Option (List (Option Json))
  | .object members => declared.mapM (field? members)
  | .array items =>
    if items.length ≤ declared.length then
      some (items.map some ++ List.replicate (declared.length - items.length) none)
    else none
  | _ => none

/-- A field that has to be given. -/
def required {α : Type} (read : Json → Option α) : Option Json → Option α
  | some j => read j
  | none => none

/-- A field that has a value when it is not given. -/
def withDefault {α : Type} (default : α) (read : Json → Option α) : Option Json → Option α
  | some j => read j
  | none => some default

/-- A member that is written only if there is a value. -/
def member? (name : String) : Option Json → List (Text × Json)
  | some value => [(name.toList, value)]
  | none => []

end Blockbook.Json
