import Blockbook.Json.Number

/-!
# Written JSON

A value is written without blanks, or over several lines with two spaces a level. Quotes,
backslashes and control characters of a string are escaped, and no others. A value that is
unreadable is written as `null`.
-/

namespace Blockbook.Json

/-- The last four hexadecimal digits of a number. -/
def hex4 (n : Nat) : Text :=
  let digits := Text.hex n
  List.replicate (4 - digits.length) '0' ++ digits

/-- A character as it is written between quotes. -/
def escapeChar (c : Char) : Text :=
  if c = '"' then ['\\', '"']
  else if c = '\\' then ['\\', '\\']
  else if c = '\x08' then ['\\', 'b']
  else if c = '\x0c' then ['\\', 'f']
  else if c = '\n' then ['\\', 'n']
  else if c = '\r' then ['\\', 'r']
  else if c = '\t' then ['\\', 't']
  else if c.toNat < 0x20 then ['\\', 'u'] ++ hex4 c.toNat
  else [c]

/-- A string between quotes. -/
def writeString (t : Text) : Text := '"' :: t.flatMap escapeChar ++ ['"']

mutual

/-- A value on one line, without blanks. -/
def write : Json → Text
  | .null => "null"
  | .bool true => "true"
  | .bool false => "false"
  | .number n => n.write
  | .string t => writeString t
  | .array [] => "[]"
  | .array (item :: items) => '[' :: write item ++ writeItems items
  | .object [] => ['{', '}']
  | .object ((key, value) :: members) =>
    '{' :: writeString key ++ ':' :: write value ++ writeMembers members
  | .unreadable => "null"

/-- The items after the first one, and the bracket that closes the array. -/
def writeItems : List Json → Text
  | [] => [']']
  | item :: items => ',' :: write item ++ writeItems items

/-- The members after the first one, and the brace that closes the object. -/
def writeMembers : List (Text × Json) → Text
  | [] => ['}']
  | (key, value) :: members =>
    ',' :: writeString key ++ ':' :: write value ++ writeMembers members

end

/-- A line break, with the indentation of a depth. -/
def newLine (depth : Nat) : Text := '\n' :: List.replicate (2 * depth) ' '

mutual

/-- A value over several lines, inside `depth` arrays and objects. -/
def writePretty (depth : Nat) : Json → Text
  | .array [] => "[]"
  | .array (item :: items) =>
    '[' :: newLine (depth + 1) ++ writePretty (depth + 1) item ++ writePrettyItems depth items
  | .object [] => ['{', '}']
  | .object ((key, value) :: members) =>
    '{' :: newLine (depth + 1) ++ writeString key ++ ':' :: ' ' :: writePretty (depth + 1) value ++
      writePrettyMembers depth members
  | .null => "null"
  | .bool true => "true"
  | .bool false => "false"
  | .number n => n.write
  | .string t => writeString t
  | .unreadable => "null"

def writePrettyItems (depth : Nat) : List Json → Text
  | [] => newLine depth ++ [']']
  | item :: items =>
    ',' :: newLine (depth + 1) ++ writePretty (depth + 1) item ++ writePrettyItems depth items

def writePrettyMembers (depth : Nat) : List (Text × Json) → Text
  | [] => newLine depth ++ ['}']
  | (key, value) :: members =>
    ',' :: newLine (depth + 1) ++ writeString key ++ ':' :: ' ' :: writePretty (depth + 1) value ++
      writePrettyMembers depth members

end

/-- A value over several lines. -/
def pretty (j : Json) : Text := writePretty 0 j

end Blockbook.Json
