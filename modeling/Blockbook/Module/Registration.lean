import Blockbook.Text.Basic

/-!
# Registration calls

A module may declare its component by a call that registers it under a name or extends another one.
`Module.declare` turns such a call into a default export that carries the name as a field. It works
on the text, line by line, and leaves a module without such a call as it is.
-/

namespace Blockbook.Module

/-- How a module declares its component. -/
inductive Registration where
  | register
  | extend
  | override
deriving DecidableEq, Repr

/-- The kind of call that a module holds; of several kinds the first one counts. -/
def Registration.detect? (source : Text) : Option Registration :=
  if Text.contains source "Component.register" then some .register
  else if Text.contains source "Component.extend" then some .extend
  else if Text.contains source "Component.override" then some .override
  else none

/-- The longest stretch of a line, from its start, after which `tail` matches. -/
def longest? {α : Type} (tail : Text → Option α) (s : Text) : Option (Text × α) :=
  match s with
  | [] => (tail []).map fun a => ([], a)
  | c :: cs =>
    if c = '\n' then (tail (c :: cs)).map fun a => ([], a)
    else
      match longest? tail cs with
      | some (before, a) => some (c :: before, a)
      | none => (tail (c :: cs)).map fun a => ([], a)

/-- What follows one character of a line. -/
def anyChar? : Text → Option Text
  | c :: s => if c = '\n' then none else some s
  | [] => none

/-- The quote that ends a name, an optional comma, one more character and `mark`. A comma that may
be either is tried as the optional one first. -/
def nameEnd? {α : Type} (mark : Text) (next : Text → Option α) (s : Text) : Option α :=
  match s with
  | '\'' :: s =>
    let rest? (s : Text) : Option α := ((anyChar? s).bind (Text.after? mark)).bind next
    match s with
    | ',' :: t => (rest? t).or (rest? s)
    | _ => rest? s
  | _ => none

/-- The name in a call that registers a component, and what follows the opening brace. -/
def registerCall? (s : Text) : Option (Text × Text) :=
  (Text.after? "Component.register('" s).bind (longest? (nameEnd? ['{'] some))

/-- The two names in a call that extends a component, and what follows the opening brace. -/
def extendCall? (s : Text) : Option (Text × Text × Text) :=
  (Text.after? "Component.extend('" s).bind
    (longest? (nameEnd? ['\''] (longest? (nameEnd? ['{'] some))))

/-- Replaces the first stretch of a text that `call?` takes; it gives what to write instead and what
follows. -/
def replaceFirst (call? : Text → Option (Text × Text)) (s : Text) : Text :=
  match call? s with
  | some (written, rest) => written ++ rest
  | none =>
    match s with
    | [] => []
    | c :: cs => c :: replaceFirst call? cs

/-- The start of an exported object with a name. -/
def exportOpening (name : Text) : Text :=
  "export default \x7b \n  name: '" ++ name ++ "',"

/-- The start of an exported object with a name and the name of what it extends. -/
def extendOpening (name base : Text) : Text :=
  exportOpening name ++ "\n  extends: '" ++ base ++ "',"

/-- Closes the object where the call was closed: a line that holds nothing but the end of a call
loses its parenthesis. The first line of a module is no such line. -/
def closeCalls : Text → Text
  | [] => []
  | '\n' :: '}' :: ')' :: ';' :: s =>
    if s = [] || s.head? = some '\n' then '\n' :: '}' :: ';' :: closeCalls s
    else '\n' :: '}' :: ')' :: ';' :: closeCalls s
  | c :: s => c :: closeCalls s

/-- Declares the component of a module by a default export. -/
def declare (source : Text) : Text :=
  match Registration.detect? source with
  | some .register =>
    closeCalls (replaceFirst
      (fun s => (registerCall? s).map fun (name, rest) => (exportOpening name, rest)) source)
  | some .extend =>
    closeCalls (replaceFirst
      (fun s => (extendCall? s).map fun (name, base, rest) => (extendOpening name base, rest))
      source)
  | some .override => source
  | none => source

end Blockbook.Module
