import Blockbook.Text.Basic

/-!
# Paths

Paths are text with slashes between their parts. A part that is empty or a single dot names no step
of its own, except a dot at the very start.
-/

namespace Blockbook.Path

/-- A path that starts at the root. -/
def isAbsolute (path : Text) : Bool := path.head? = some '/'

/-- Whether a path starts with a dot as its first part. -/
def startsWithDot : Text → Bool
  | ['.'] => true
  | '.' :: '/' :: _ => true
  | _ => false

/-- How many characters at the start of a path are not part of a step: the root, or a first dot. -/
def headLength (path : Text) : Nat :=
  if isAbsolute path then 1 else if startsWithDot path then 1 else 0

/-- Splits a reversed text at its first slash: the last part of a path, reversed, and the reversed
text before it without that slash. -/
def cutLast (body : Text) : Text × Text :=
  (body.takeWhile (· ≠ '/'), (body.dropWhile (· ≠ '/')).drop 1)

/-- A part that names no step. -/
def isIdle (part : Text) : Bool := part = [] || part = ['.']

/-- A reversed path body without the idle parts at its end. -/
def dropIdle (body : Text) : Text :=
  match body with
  | [] => []
  | c :: cs =>
    let cut := cutLast (c :: cs)
    if isIdle cut.1 then dropIdle cut.2 else c :: cs
termination_by body.length
decreasing_by
  unfold cutLast
  by_cases h : c = '/'
  · simp [h]
  · have := (List.dropWhile_sublist (l := cs) (fun d => decide (d ≠ '/'))).length_le
    simp [h] at this ⊢
    omega

/-- The body of a path, reversed and without idle parts at its end. -/
def reversedBody (path : Text) : Text := dropIdle (path.drop (headLength path)).reverse

/-- The last step of a path, unless it leads up. -/
def fileName? (path : Text) : Option Text :=
  let last := (cutLast (reversedBody path)).1.reverse
  if last = [] || last = ['.', '.'] then none else some last

/-- The last step of a path without its extension. A dot at the start begins no extension. -/
def fileStem? (path : Text) : Option Text :=
  (fileName? path).map fun name =>
    match Text.breakOnLast? ['.'] name with
    | some ([], _) => name
    | some (stem, _) => stem
    | none => name

/-- The path without its last step; empty if there is none. -/
def parent (path : Text) : Text :=
  let start := path.take (headLength path)
  match reversedBody path with
  | [] => []
  | body => start ++ (dropIdle (cutLast body).2).reverse

/-- A path taken from inside a directory. -/
def join (directory path : Text) : Text :=
  if isAbsolute path then path
  else if directory = [] || directory.getLast? = some '/' then directory ++ path
  else directory ++ '/' :: path

end Blockbook.Path
