import Blockbook.Command.Arguments
import Blockbook.Module.Load
import Blockbook.Panel.Table

/-!
# Runs of the program

What a call prints and how it ends. Files are read through a function in any monad, and the names of
rows and templates, which are random in a page, are given from outside.
-/

namespace Blockbook.Command

/-- What a run needs from outside. -/
structure Environment (m : Type → Type) where
  read : Text → m (Except ReadError Text)
  rowKey : Nat → Text
  templateId : Text
  /-- The limit for log records, if one is set. -/
  logLimit : Option Text

/-- What a run prints, and its exit code. -/
structure Output where
  exit : Nat
  stdout : Text
  stderr : List Text
deriving DecidableEq, Repr

/-- Why a run fails. -/
inductive Failure where
  | unreadable (path : Text) (e : ReadError)
  | badOptions
  | unreadableDocs (path : Text) (e : ReadError)
  | badDocs (path : Text)
  | badTemplate (path : Text) (e : Template.ParseError)
  | badJson (path : Text)
deriving DecidableEq, Repr

/-- The wording of a failure. What is wrong with a JSON text is not told. -/
def Failure.message : Failure → Text
  | .unreadable path e => "Failed to read " ++ path ++ ": " ++ e.message
  | .badOptions => "Invalid loader options: ..."
  | .unreadableDocs path e =>
    "Failed to load docgen output " ++ path ++ ": I/O error while reading docgen output: " ++
      e.message ++ ": " ++ e.message
  | .badDocs path => "Failed to load docgen output " ++ path ++ ": Invalid docgen JSON: ..."
  | .badTemplate path e => "Failed to extract blocks from " ++ path ++ ": " ++ e.message
  | .badJson path => "Invalid JSON in " ++ path ++ ": ..."

/-- What an action leaves behind. -/
structure Outcome where
  records : List LogRecord
  /-- Warnings that are also in the log. -/
  warnings : List Text
  result : Except Failure Text

def Outcome.fail (failure : Failure) : Outcome := ⟨[], [], .error failure⟩

variable {m : Type → Type} [Monad m]

/-- The options of a call. -/
def loadOptions? (injectAt options : Option Text) : Option Module.Options := do
  let read ← match options with
    | some s => Module.Options.ofText? s
    | none => some .default
  return match injectAt with
    | some injectAt => { read with injectAt }
    | none => read

/-- The documentation in a file, or the name of the module if there is no file. -/
def docSource (env : Environment m) (docs : Option Text) :
    m (Except Failure Module.DocSource) := do
  match docs with
  | none => return .ok .exportName
  | some path =>
    match ← env.read path with
    | .error e => return .error (.unreadableDocs path e)
    | .ok text =>
      match ComponentDoc.listOfText? text with
      | some docs => return .ok (.fixed docs)
      | none => return .error (.badDocs path)

/-- Loads a module and prints it. -/
def runLoad (env : Environment m) (file : Text) (injectAt docs options : Option Text) :
    m Outcome := do
  match loadOptions? injectAt options with
  | none => return .fail .badOptions
  | some options =>
    match ← env.read file with
    | .error e => return .fail (.unreadable file e)
    | .ok content =>
      match ← docSource env docs with
      | .error failure => return .fail failure
      | .ok docs =>
        let loader : Module.Loader := ⟨options, docs, Slot.scan, env.templateId⟩
        let loaded ← loader.load env.read content file
        return ⟨loaded.records, loaded.warnings, .ok loaded.code⟩

/-- A fragment for people to read. -/
def showFragment (f : Fragment) : Text :=
  let shown : Text := if f.isEmpty then "(empty block)" else f.code
  "== " ++ f.name ++ " ==\n" ++ shown ++ "\n"

/-- Prints the fragments of a template. -/
def runBlocks (env : Environment m) (file : Text) (json : Bool) : m Outcome := do
  match ← env.read file with
  | .error e => return .fail (.unreadable file e)
  | .ok content =>
    match extract .structural content with
    | .error e => return .fail (.badTemplate file e)
    | .ok fragments =>
      let record : LogRecord :=
        ⟨.debug, "Extracted " ++ Text.ofNat fragments.length ++ " block(s) from template " ++
          env.templateId⟩
      let printed : Text :=
        if json then (Json.array (fragments.map Fragment.toJson)).pretty ++ "\n"
        else fragments.flatMap showFragment
      return ⟨[record], [], .ok printed⟩

/-- Prints the slots of a template. -/
def runSlots (env : Environment m) (file : Text) : m Outcome := do
  match ← env.read file with
  | .error e => return .fail (.unreadable file e)
  | .ok content =>
    return ⟨[], [], .ok ((Json.array ((Slot.scan content).map Slot.toJson)).pretty ++ "\n")⟩

/-- Prints the panel for a story or for the documentation of a component. -/
def runPanel (env : Environment m) (file : Text) : m Outcome := do
  match ← env.read file with
  | .error e => return .fail (.unreadable file e)
  | .ok content =>
    match (Json.parse content).bind Json.canonical? with
    | none => return .fail (.badJson file)
    | some value =>
      let fragments := Panel.fragments Panel.defaultProperty (Panel.wrapStory value)
      let record : LogRecord :=
        ⟨.debug, "Rendering " ++ Text.ofNat fragments.length ++ " twig block(s)"⟩
      return ⟨[record], [], .ok (Panel.render env.rowKey fragments)⟩

/-- Does what a call asks for. -/
def act (env : Environment m) : Action → m Outcome
  | .load file injectAt docs options => runLoad env file injectAt docs options
  | .blocks file json => runBlocks env file json
  | .slots file => runSlots env file
  | .panel file => runPanel env file

/-- Text with its letters of ASCII in lower case. -/
def lower (s : Text) : Text := s.map Markup.lowerAscii

/-- The rank up to which records are shown. A limit that is not known shows errors only. -/
def limitRank (limit : Option Text) : Nat :=
  match limit with
  | none => LogLevel.info.rank
  | some word =>
    let levels : List LogLevel := [.error, .warn, .info, .debug, .trace]
    if lower word = "off" then 0
    else
      match levels.find? (fun level => lower level.name = lower word) with
      | some level => level.rank
      | none => LogLevel.error.rank

/-- The rank for a call: quiet goes before verbose, and both go before the limit that is set. -/
def Call.rank (call : Call) (limit : Option Text) : Nat :=
  if call.quiet then LogLevel.warn.rank
  else if call.verbose then LogLevel.debug.rank
  else limitRank limit

/-- A record as it is shown, further lines of its message indented. -/
def showRecord (record : LogRecord) : Text :=
  record.level.name ++ " " ++ Text.substitute '\n' "\n    " record.message

/-- What an outcome prints. Warnings that the log does not show are shown on their own. -/
def Outcome.output (o : Outcome) (rank : Nat) : Output :=
  let logged := (o.records.filter (·.level.rank ≤ rank)).map showRecord
  let warned := if rank < LogLevel.warn.rank then o.warnings else []
  let lines (texts : List Text) : List Text := texts.flatMap (Text.splitOn '\n')
  match o.result with
  | .ok printed => ⟨0, printed, lines (logged ++ warned)⟩
  | .error failure => ⟨1, [], lines (logged ++ warned ++ ["Error: " ++ failure.message])⟩

/-- The name and version of the program. -/
def versionLine : Text := "twigdoc 0.1.0\n"

/-- Runs the program. -/
def run (env : Environment m) (args : List Text) : m Output := do
  match parse args with
  | .error .help => return ⟨0, [], []⟩
  | .error .version => return ⟨0, versionLine, []⟩
  | .error .usage => return ⟨2, [], []⟩
  | .ok call => return (← act env call.action).output (call.rank env.logLimit)

end Blockbook.Command
