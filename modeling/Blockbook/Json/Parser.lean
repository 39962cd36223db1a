import Blockbook.Json.Number

/-!
# Read JSON

`parse` takes a whole text as one JSON value, blanks around it apart. Comments, trailing commas and
raw control characters in strings are refused. What is well formed and has no value becomes
`Json.unreadable`; an array or object below the depth limit is the usual case.
-/

namespace Blockbook.Json

/-- How many arrays and objects may lie inside each other. -/
def depthLimit : Nat := 127

/-- A character of a string: itself, or a unit of sixteen bits written in hexadecimal. -/
inductive Unit16 where
  | char (c : Char)
  | unit (n : Nat)
deriving DecidableEq, Repr

def isLead (n : Nat) : Bool := 0xD800 ≤ n && n ≤ 0xDBFF

def isTrail (n : Nat) : Bool := 0xDC00 ≤ n && n ≤ 0xDFFF

/-- The text that units spell. Two halves of a surrogate pair make one character, and a half that
stands alone makes none. -/
def decodeUnits? : List Unit16 → Option Text
  | [] => some []
  | .char c :: units => (decodeUnits? units).map (c :: ·)
  | .unit lead :: .unit trail :: units =>
    if isLead lead then
      if isTrail trail then
        (decodeUnits? units).map
          (Char.ofNat (0x10000 + (lead - 0xD800) * 0x400 + (trail - 0xDC00)) :: ·)
      else none
    else if isTrail lead then none
    else (decodeUnits? (.unit trail :: units)).map (Char.ofNat lead :: ·)
  | .unit n :: units =>
    if isLead n || isTrail n then none else (decodeUnits? units).map (Char.ofNat n :: ·)

def hexDigit? (c : Char) : Option Nat :=
  if '0' ≤ c ∧ c ≤ '9' then some (c.toNat - '0'.toNat)
  else if 'a' ≤ c ∧ c ≤ 'f' then some (c.toNat - 'a'.toNat + 10)
  else if 'A' ≤ c ∧ c ≤ 'F' then some (c.toNat - 'A'.toNat + 10)
  else none

/-- The character that a backslash and a letter stand for. -/
def escape? : Char → Option Char
  | '"' => some '"'
  | '\\' => some '\\'
  | '/' => some '/'
  | 'b' => some '\x08'
  | 'f' => some '\x0c'
  | 'n' => some '\n'
  | 'r' => some '\r'
  | 't' => some '\t'
  | _ => none

/-- The units of a string after its first quote, and what follows its last one. The units of `seen`,
the last one first, come before them. -/
def stringUnits? (seen : List Unit16) : Text → Option (List Unit16 × Text)
  | [] => none
  | '"' :: s => some (seen.reverse, s)
  | '\\' :: 'u' :: a :: b :: c :: d :: s =>
    match hexDigit? a, hexDigit? b, hexDigit? c, hexDigit? d with
    | some a, some b, some c, some d =>
      stringUnits? (.unit (((a * 16 + b) * 16 + c) * 16 + d) :: seen) s
    | _, _, _, _ => none
  | '\\' :: c :: s =>
    match escape? c with
    | some c => stringUnits? (.char c :: seen) s
    | none => none
  | c :: s => if c = '\\' || c.toNat < 0x20 then none else stringUnits? (.char c :: seen) s

/-- A blank between the parts of a JSON text. -/
def isSpace (c : Char) : Bool := c = ' ' || c = '\n' || c = '\t' || c = '\r'

def skipSpace (s : Text) : Text := s.dropWhile isSpace

/-- Digits at the front of a text, at least one. -/
def digits? (s : Text) : Option (Text × Text) :=
  match s.takeWhile isDigit with
  | [] => none
  | ds => some (ds, s.dropWhile isDigit)

/-- The digits before the point: a zero alone, or digits that do not start with one. -/
def wholeDigits? (s : Text) : Option (Text × Text) :=
  match digits? s with
  | some ('0' :: _ :: _, _) => none
  | found => found

/-- The digits after a point, if there is one. -/
def fractionDigits? : Text → Option (Option Text × Text)
  | '.' :: s => (digits? s).map fun (ds, rest) => (some ds, rest)
  | s => some (none, s)

/-- The sign and digits of an exponent; without a sign it is positive. -/
def exponentDigits? : Text → Option ((Bool × Text) × Text)
  | '+' :: s => (digits? s).map fun (ds, rest) => ((false, ds), rest)
  | '-' :: s => (digits? s).map fun (ds, rest) => ((true, ds), rest)
  | s => (digits? s).map fun (ds, rest) => ((false, ds), rest)

/-- The exponent, if there is one. -/
def exponent? : Text → Option (Option (Bool × Text) × Text)
  | 'e' :: s => (exponentDigits? s).map fun (e, rest) => (some e, rest)
  | 'E' :: s => (exponentDigits? s).map fun (e, rest) => (some e, rest)
  | s => some (none, s)

/-- The number at the front of a text, after its sign. -/
def numeral? (negative : Bool) (s : Text) : Option (Numeral × Text) :=
  match wholeDigits? s with
  | none => none
  | some (whole, s) =>
    match fractionDigits? s with
    | none => none
    | some (fraction, s) =>
      match exponent? s with
      | none => none
      | some (exponent, s) => some (⟨negative, whole, fraction, exponent⟩, s)

/-- The value of a number, as JSON. -/
def ofNumeral (n : Numeral) : Json :=
  match n.value? with
  | some v => .number v
  | none => .unreadable

/-- The value of a string, as JSON. -/
def ofUnits (units : List Unit16) : Json :=
  match decodeUnits? units with
  | some t => .string t
  | none => .unreadable

/-- The items of an array that lies at `depth`, as JSON. -/
def ofItems (depth : Nat) (items : List Json) : Json :=
  if depth ≤ depthLimit then .array items else .unreadable

/-- A key that has no value makes the members unreadable. -/
def keyedMembers? : List (List Unit16 × Json) → Option (List (Text × Json))
  | [] => some []
  | (key, value) :: members =>
    match decodeUnits? key, keyedMembers? members with
    | some key, some members => some ((key, value) :: members)
    | _, _ => none

/-- The members of an object that lies at `depth`, as JSON. -/
def ofMembers (depth : Nat) (members : List (List Unit16 × Json)) : Json :=
  match keyedMembers? members with
  | some members => if depth ≤ depthLimit then .object members else .unreadable
  | none => .unreadable

mutual

/-- The value at the front of a text, inside `depth` arrays and objects. -/
def parseValue? : Nat → Nat → Text → Option (Json × Text)
  | 0, _, _ => none
  | fuel + 1, depth, s =>
    match skipSpace s with
    | 'n' :: 'u' :: 'l' :: 'l' :: s => some (.null, s)
    | 't' :: 'r' :: 'u' :: 'e' :: s => some (.bool true, s)
    | 'f' :: 'a' :: 'l' :: 's' :: 'e' :: s => some (.bool false, s)
    | '"' :: s => (stringUnits? [] s).map fun (units, rest) => (ofUnits units, rest)
    | '[' :: s =>
      match skipSpace s with
      | ']' :: s => some (ofItems (depth + 1) [], s)
      | s =>
        (parseItems? fuel (depth + 1) s).map fun (items, rest) =>
          (ofItems (depth + 1) items, rest)
    | '{' :: s =>
      match skipSpace s with
      | '}' :: s => some (ofMembers (depth + 1) [], s)
      | s =>
        (parseMembers? fuel (depth + 1) s).map fun (members, rest) =>
          (ofMembers (depth + 1) members, rest)
    | '-' :: s => (numeral? true s).map fun (n, rest) => (ofNumeral n, rest)
    | s => (numeral? false s).map fun (n, rest) => (ofNumeral n, rest)

/-- One or more items and the bracket that closes the array. -/
def parseItems? : Nat → Nat → Text → Option (List Json × Text)
  | 0, _, _ => none
  | fuel + 1, depth, s =>
    match parseValue? fuel depth s with
    | none => none
    | some (item, s) =>
      match skipSpace s with
      | ']' :: s => some ([item], s)
      | ',' :: s => (parseItems? fuel depth s).map fun (items, rest) => (item :: items, rest)
      | _ => none

/-- One or more members and the brace that closes the object. -/
def parseMembers? : Nat → Nat → Text → Option (List (List Unit16 × Json) × Text)
  | 0, _, _ => none
  | fuel + 1, depth, s =>
    match skipSpace s with
    | '"' :: s =>
      match stringUnits? [] s with
      | none => none
      | some (key, s) =>
        match skipSpace s with
        | ':' :: s =>
          match parseValue? fuel depth s with
          | none => none
          | some (value, s) =>
            match skipSpace s with
            | '}' :: s => some ([(key, value)], s)
            | ',' :: s =>
              (parseMembers? fuel depth s).map fun (members, rest) =>
                ((key, value) :: members, rest)
            | _ => none
        | _ => none
    | _ => none

end

/-- The value that a whole text spells. Each character costs two steps at most. -/
def parse (s : Text) : Option Json :=
  match parseValue? (2 * s.length + 2) 0 s with
  | some (value, rest) => if skipSpace rest = [] then some value else none
  | none => none

end Blockbook.Json
