import Blockbook.Json.Basic
import Blockbook.Json.Number

/-!
# Pointers into JSON

A pointer names a place inside a value: a slash before each step, `~1` for a slash and `~0` for a
tilde inside a step. A step into an array is an index without sign and leading zeros.
-/

namespace Blockbook.Json

/-- Writes `meaning` wherever a tilde and `code` stand. -/
def undoTilde (code meaning : Char) : Text → Text
  | '~' :: c :: s =>
    if c = code then meaning :: undoTilde code meaning s else '~' :: undoTilde code meaning (c :: s)
  | c :: s => c :: undoTilde code meaning s
  | [] => []

/-- A step of a pointer with its two escapes undone. Slashes come first, so that `~01` is `~1`. -/
def unescapeStep (step : Text) : Text := undoTilde '0' '~' (undoTilde '1' '/' step)

/-- The index that a step spells. -/
def index? (step : Text) : Option Nat :=
  match step with
  | [] => none
  | '0' :: _ :: _ => none
  | _ =>
    if step.all isDigit then
      let n := Numeral.natValue step
      if n < wordBound then some n else none
    else none

/-- The value one step further. -/
def step? (step : Text) : Json → Option Json
  | .object members => (members.find? (·.1 = step)).map (·.2)
  | .array items => (index? step).bind (items[·]?)
  | _ => none

/-- The value at a sequence of steps. -/
def follow? (j : Json) (steps : List Text) : Option Json :=
  steps.foldl (fun found step => found.bind (step? step)) (some j)

/-- The value at a pointer. The empty pointer is the value itself. -/
def pointer? (pointer : Text) (j : Json) : Option Json :=
  match pointer with
  | [] => some j
  | '/' :: rest => follow? j ((Text.splitOn '/' rest).map unescapeStep)
  | _ => none

end Blockbook.Json
