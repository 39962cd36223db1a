import Blockbook.Text.Basic

/-!
# Command line arguments

A call names a command, the file it works on, and options. Options start with dashes and may stand
anywhere; single letters can be joined behind one dash, a value follows its option or an equals
sign, and after two dashes alone nothing is an option. Arguments are taken in order, and the first
one that asks for help or the version, or that does not fit, decides.
-/

namespace Blockbook.Command

/-- What the program can do. -/
inductive Verb where
  | load
  | blocks
  | slots
  | panel
deriving DecidableEq, Repr

namespace Verb

def all : List Verb := [.load, .blocks, .slots, .panel]

def name : Verb → Text
  | .load => "load"
  | .blocks => "blocks"
  | .slots => "slots"
  | .panel => "panel"

def ofName? (name : Text) : Option Verb := all.find? (·.name = name)

/-- The options without a value that a command knows beside those that every command knows. -/
def flags : Verb → List Text
  | .blocks => ["json"]
  | _ => []

/-- The options with a value that a command knows, and whether the value may be empty. -/
def valued : Verb → List (Text × Bool)
  | .load => [("inject-at", true), ("docgen", false), ("options", true)]
  | _ => []

end Verb

/-- Why the arguments do not lead to a run. -/
inductive Stop where
  | help
  | version
  | usage
deriving DecidableEq, Repr

/-- What has been given so far, to the program or to one of its commands. -/
structure Given where
  flags : List Text
  values : List (Text × Text)
  files : List Text
deriving Repr

namespace Given

def nothing : Given := ⟨[], [], []⟩

/-- A flag counts once. -/
def addFlag (g : Given) (name : Text) : Except Stop Given :=
  if g.flags.contains name then .error .usage else .ok { g with flags := name :: g.flags }

/-- An option has one value. -/
def addValue (g : Given) (name value : Text) (mayBeEmpty : Bool) : Except Stop Given :=
  if g.values.any (·.1 = name) then .error .usage
  else if value.isEmpty && !mayBeEmpty then .error .usage
  else .ok { g with values := (name, value) :: g.values }

/-- A command works on one file. -/
def addFile (g : Given) (path : Text) : Except Stop Given :=
  if path.isEmpty || !g.files.isEmpty then .error .usage else .ok { g with files := [path] }

def value? (g : Given) (name : Text) : Option Text :=
  (g.values.find? (·.1 = name)).map (·.2)

end Given

/-- The options that are known wherever an argument stands. -/
def globalFlags : List (Char × Text) := [('v', "verbose"), ('q', "quiet")]

/-- Where an argument stands: before the command's name or after it. -/
structure Level where
  /-- The flags that are known only here. -/
  flags : List Text
  valued : List (Text × Bool)
  knowsVersion : Bool

def Level.program : Level := ⟨[], [], true⟩

def Level.ofVerb (verb : Verb) : Level := ⟨verb.flags, verb.valued, false⟩

/-- Takes single letters that are joined behind one dash. -/
def shorts (level : Level) (given : Given) : Text → Except Stop Given
  | [] => .ok given
  | c :: cs =>
    if c = 'h' then .error .help
    else if c = 'V' && level.knowsVersion then .error .version
    else
      match globalFlags.find? (·.1 = c) with
      | some (_, name) =>
        match given.addFlag name with
        | .ok given => shorts level given cs
        | .error stop => .error stop
      | none => .error .usage

/-- Takes an option that is written out and has no value. -/
def longFlag (level : Level) (given : Given) (name : Text) : Except Stop Given :=
  if name = "help" then .error .help
  else if name = "version" && level.knowsVersion then .error .version
  else if globalFlags.any (·.2 = name) || level.flags.contains name then given.addFlag name
  else .error .usage

/-- Whether an argument starts with a dash and is more than that. -/
def isDashed : Text → Bool
  | '-' :: _ :: _ => true
  | _ => false

/-- The name of an option that is written out, and the value after an equals sign. -/
def longParts (body : Text) : Text × Option Text :=
  match Text.breakOn? ['='] body with
  | some (name, value) => (name, some value)
  | none => (body, none)

/-- Takes the arguments of a command. -/
def takeArguments (level : Level) (given : Given) : List Text → Except Stop Given
  | [] => .ok given
  | ['-', '-'] :: files => files.foldlM Given.addFile given
  | ('-' :: '-' :: body) :: args =>
    let (name, value?) := longParts body
    match level.valued.find? (·.1 = name), value?, args with
    | some (_, mayBeEmpty), some value, args =>
      match given.addValue name value mayBeEmpty with
      | .ok given => takeArguments level given args
      | .error stop => .error stop
    | some (_, mayBeEmpty), none, value :: args =>
      if isDashed value then .error .usage
      else
        match given.addValue name value mayBeEmpty with
        | .ok given => takeArguments level given args
        | .error stop => .error stop
    | some _, none, [] => .error .usage
    | none, some _, _ => .error .usage
    | none, none, args =>
      match longFlag level given name with
      | .ok given => takeArguments level given args
      | .error stop => .error stop
  | ('-' :: c :: cs) :: args =>
    match shorts level given (c :: cs) with
    | .ok given => takeArguments level given args
    | .error stop => .error stop
  | file :: args =>
    match given.addFile file with
    | .ok given => takeArguments level given args
    | .error stop => .error stop

/-- What a call asks for. -/
inductive Action where
  | load (file : Text) (injectAt docs options : Option Text)
  | blocks (file : Text) (json : Bool)
  | slots (file : Text)
  | panel (file : Text)
deriving DecidableEq, Repr

/-- A call that can be run. -/
structure Call where
  action : Action
  verbose : Bool
  quiet : Bool
deriving DecidableEq, Repr

/-- The call of a command with all that was given, before and after its name. -/
def Call.of (verb : Verb) (before after : Given) : Except Stop Call :=
  match after.files with
  | [file] =>
    let action := match verb with
      | .load =>
        .load file (after.value? "inject-at") (after.value? "docgen") (after.value? "options")
      | .blocks => .blocks file (after.flags.contains "json")
      | .slots => .slots file
      | .panel => .panel file
    let given (name : Text) : Bool := before.flags.contains name || after.flags.contains name
    .ok ⟨action, given "verbose", given "quiet"⟩
  | _ => .error .usage

/-- What the command `help` asks for: help on the program or on one command. -/
def helpStop : List Text → Stop
  | [] => .help
  | [name] => if name = "help" || (Verb.ofName? name).isSome then .help else .usage
  | _ => .usage

/-- Takes the arguments of the program. -/
def parseFrom (before : Given) : List Text → Except Stop Call
  | [] => .error .usage
  | ('-' :: '-' :: body) :: args =>
    match longParts body with
    | (name, none) =>
      match longFlag .program before name with
      | .ok before => parseFrom before args
      | .error stop => .error stop
    | (_, some _) => .error .usage
  | ('-' :: c :: cs) :: args =>
    match shorts .program before (c :: cs) with
    | .ok before => parseFrom before args
    | .error stop => .error stop
  | name :: args =>
    match Verb.ofName? name with
    | some verb =>
      match takeArguments (.ofVerb verb) .nothing args with
      | .ok after => Call.of verb before after
      | .error stop => .error stop
    | none => if name = "help" then .error (helpStop args) else .error .usage

/-- The call that arguments spell. -/
def parse (args : List Text) : Except Stop Call := parseFrom .nothing args

end Blockbook.Command
