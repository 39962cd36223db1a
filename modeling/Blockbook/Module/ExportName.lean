import Blockbook.Component.Doc
import Blockbook.Module.Import

/-!
# The name of an exported component

The name of a component is the `name` field at the start of the default export, and for want of one
the name of the module's file.
-/

namespace Blockbook.Module

/-- The name in a default export at the front of a text. -/
def exportName? (s : Text) : Option Text := do
  let s ← Text.after? "export" s
  let t := Text.trimStart s
  if t.length = s.length then failure
  let s ← Text.after? "default" t
  let s ← Text.after? ['{'] (Text.trimStart s)
  let s ← Text.after? "name:" (Text.trimStart s)
  let (name, _) ← quoted? (Text.trimStart s)
  return name

/-- The name in the first default export of a module that starts with one. -/
def findExportName? (s : Text) : Option Text :=
  match exportName? s with
  | some name => some name
  | none =>
    match s with
    | [] => none
    | _ :: cs => findExportName? cs

/-- The documentation of a module of which only the name is looked up. -/
def bareDoc? (source path : Text) : Option ComponentDoc :=
  ((findExportName? source).or (Path.fileStem? path)).map ComponentDoc.bare

end Blockbook.Module
