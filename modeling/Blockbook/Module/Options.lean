import Blockbook.Json.Parser
import Blockbook.Json.Reader
import Blockbook.Module.Import

/-!
# Options for loading modules

Where the documentation of a component goes, which import is its template, and which modules are
passed through.
-/

namespace Blockbook.Module

/-- Options for loading modules. -/
structure Options where
  /-- The property that documentation is assigned to. -/
  injectAt : Text
  templateExtension : Text
  /-- A module whose path contains one of these is passed through. -/
  skipPatterns : List Text
deriving DecidableEq, Repr

namespace Options

/-- The options when nothing is said. -/
def default : Options := ⟨"__docgenInfo", Module.templateExtension, [".stories.js"]⟩

/-- Whether the module at a path is passed through, as one without a path is. -/
def skips (o : Options) (path : Text) : Bool :=
  path.isEmpty || o.skipPatterns.any (Text.contains path)

def toJson (o : Options) : Json :=
  .object [("injectAt".toList, .string o.injectAt),
    ("templateExtension".toList, .string o.templateExtension),
    ("skipPatterns".toList, .array (o.skipPatterns.map .string))]

/-- Options that are not given keep their default. -/
def ofJson? (j : Json) : Option Options :=
  match Json.fields? ["injectAt", "templateExtension", "skipPatterns"] j with
  | some [injectAt, extension, skipPatterns] => do
    let injectAt ← Json.withDefault default.injectAt Json.text? injectAt
    let extension ← Json.withDefault default.templateExtension Json.text? extension
    let skipPatterns ← Json.withDefault default.skipPatterns (Json.list? Json.text?) skipPatterns
    return ⟨injectAt, extension, skipPatterns⟩
  | _ => none

/-- The options of a JSON text. -/
def ofText? (s : Text) : Option Options := (Json.parse s).bind ofJson?

end Options

end Blockbook.Module
