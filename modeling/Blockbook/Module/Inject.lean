import Blockbook.Component.Wire

/-!
# Injected documentation

The documentation of a module's components is appended to the module, one assignment a component.
The default export has no name to assign to, so it is bound to one first and exported again at the
end.
-/

namespace Blockbook.Module

/-- Why documentation cannot be injected. -/
inductive InjectError where
  | missingDefaultExport (property : Text)
  | invalidProperty (property : Text)
deriving DecidableEq, Repr

def InjectError.message : InjectError → Text
  | .missingDefaultExport property =>
    "Cannot inject '" ++ property ++ "': the module has no default export"
  | .invalidProperty property => "Invalid injection property '" ++ property ++ "'"

/-- The name that the default export is bound to. -/
def componentBinding : Text := "__twigdocComponent"

def isNameStart (c : Char) : Bool :=
  ('a' ≤ c && c ≤ 'z') || ('A' ≤ c && c ≤ 'Z') || c = '_' || c = '$'

/-- Whether a text can stand after a dot as the name of a property. -/
def isProperty : Text → Bool
  | [] => false
  | c :: cs => isNameStart c && cs.all fun d => isNameStart d || ('0' ≤ d && d ≤ '9')

/-- The name that a component's documentation is assigned to. -/
def target? (c : DocumentedComponent) : Option Text :=
  if c.doc.isDefaultExport then some componentBinding else c.doc.exportName

/-- The line that assigns a component's documentation to a property of the component. -/
def assignment? (property : Text) (c : DocumentedComponent) : Option Text :=
  (target? c).map fun name => name ++ "." ++ property ++ " = " ++ c.toJson.write ++ ";\n"

/-- The module with its first default export bound to a name. -/
def bindDefault? (source : Text) : Option Text :=
  (Text.breakOn? "export default " source).map fun (before, rest) =>
    before ++ "const " ++ componentBinding ++ " = " ++ rest

/-- The module with an empty line at its end. -/
def closeModule (source : Text) : Text :=
  if source.getLast? = some '\n' then source ++ ['\n'] else source ++ ['\n', '\n']

/-- Appends the documentation of components to a module. -/
def inject (source : Text) (components : List DocumentedComponent) (property : Text) :
    Except InjectError Text :=
  if !isProperty property then .error (.invalidProperty property)
  else
    let rebinds := components.any (·.doc.isDefaultExport)
    match if rebinds then bindDefault? source else some source with
    | none => .error (.missingDefaultExport property)
    | some code =>
      match components.filterMap (assignment? property) with
      | [] => .ok code
      | assignments =>
        let reexport : Text :=
          if rebinds then "export default " ++ componentBinding ++ ";\n" else ""
        .ok (closeModule code ++ assignments.flatten ++ reexport)

end Blockbook.Module
