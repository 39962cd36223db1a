import Blockbook.File.Basic
import Blockbook.Log
import Blockbook.Module.ExportName
import Blockbook.Module.Inject
import Blockbook.Module.Options
import Blockbook.Module.Registration
import Blockbook.Slot.Scan

/-!
# Loaded modules

Loading takes a component's module and gives it back with its documentation injected: the component
is declared by a default export, its template is looked up and taken apart, and what is found is
merged into what is known about the component. A module that cannot be loaded is passed through with
a warning.

Files are read through a function in any monad, so that loading runs on a tree in memory as well as
on the file system.
-/

namespace Blockbook.Module

/-- Why a module could not be loaded. -/
inductive LoadError where
  | template (e : Template.ParseError)
  | unreadable (path : Text) (e : ReadError)
  | noName (path : Text)
  | inject (e : InjectError)
deriving DecidableEq, Repr

def LoadError.message : LoadError → Text
  | .template e => e.message
  | .unreadable path e => "Failed to read template " ++ path ++ ": " ++ e.message
  | .noName path => "Docgen failed: no component name found in " ++ path
  | .inject e => e.message

/-- Where the documentation of a script comes from. -/
inductive DocSource where
  /-- Only the name is looked up in the script. -/
  | exportName
  /-- The documentation is given, whatever the script. -/
  | fixed (docs : List ComponentDoc)

/-- The documentation of a script. -/
def DocSource.docs (d : DocSource) (source path : Text) : Except LoadError (List ComponentDoc) :=
  match d with
  | .fixed docs => .ok docs
  | .exportName =>
    match bareDoc? source path with
    | some doc => .ok [doc]
    | none => .error (.noName path)

/-- How modules are loaded. -/
structure Loader where
  options : Options
  docs : DocSource
  /-- Finds the slots of a template. -/
  scanSlots : Text → List Slot
  /-- The name under which a template is filed. -/
  templateId : Text

/-- A result and the records of the way to it. -/
structure Logged (α : Type) where
  records : List LogRecord
  result : Except LoadError α

namespace Loader

/-- The fragments and slots of a template file. -/
def takeApart (l : Loader) (path : Text) (file : TemplateFile) :
    Logged (List Fragment × List Slot) :=
  let reading : LogRecord := ⟨.debug, "Reading template " ++ file.path⟩
  let extracting : LogRecord :=
    ⟨.debug, "Extracting blocks of " ++ file.path ++ " for " ++ path⟩
  match extract .structural file.content with
  | .error e => ⟨[reading, extracting], .error (.template e)⟩
  | .ok fragments =>
    let extracted : LogRecord :=
      ⟨.debug, "Extracted " ++ Text.ofNat fragments.length ++ " block(s) from template " ++
        l.templateId⟩
    ⟨[reading, extracting, extracted], .ok (fragments, l.scanSlots file.content)⟩

/-- The fragments and slots of the template that a module imports; without a template there are
none. -/
def template {m : Type → Type} [Monad m] (l : Loader) (read : Text → m (Except ReadError Text))
    (source path : Text) : m (Logged (List Fragment × List Slot)) :=
  match findImport? l.options.templateExtension source path with
  | none => pure ⟨[], .ok ([], [])⟩
  | some file => do
    match ← read file with
    | .error e => return ⟨[⟨.debug, "Reading template " ++ file⟩], .error (.unreadable file e)⟩
    | .ok content => return l.takeApart path ⟨file, content⟩

/-- The module with the documentation of its components injected. -/
def finish (l : Loader) (source : Text) (docs : List ComponentDoc) (fragments : List Fragment)
    (slots : List Slot) : Except LoadError Text :=
  (inject source (docs.map (·.merge fragments slots)) l.options.injectAt).mapError .inject

/-- Loads a module, up to the first error. -/
def process {m : Type → Type} [Monad m] (l : Loader) (read : Text → m (Except ReadError Text))
    (content path : Text) : m (Logged Text) :=
  let source := declare content
  match l.docs.docs source path with
  | .error e => pure ⟨[], .error e⟩
  | .ok docs => do
    let found ← l.template read source path
    match found.result with
    | .error e => return ⟨found.records, .error e⟩
    | .ok (fragments, slots) => return ⟨found.records, l.finish source docs fragments slots⟩

/-- A loaded module, the warnings about it and the records of the way to it. -/
structure Loaded where
  code : Text
  warnings : List Text
  records : List LogRecord

/-- The warning about a module that could not be loaded. -/
def warning (path : Text) (e : LoadError) : Text :=
  "[twigdoc-loader] failed to parse the component file " ++ path ++ ": " ++ e.message

/-- Loads a module, or passes it through: silently if the options say so, and with a warning if it
cannot be loaded. -/
def load {m : Type → Type} [Monad m] (l : Loader) (read : Text → m (Except ReadError Text))
    (content path : Text) : m Loaded :=
  if l.options.skips path then pure ⟨content, [], [⟨.debug, "Skipping " ++ path⟩]⟩
  else do
    let processed ← l.process read content path
    match processed.result with
    | .ok code => return ⟨code, [], processed.records⟩
    | .error e =>
      let warning := warning path e
      return ⟨content, [warning], processed.records ++ [⟨.warn, warning⟩]⟩

end Loader

end Blockbook.Module
