import BlogTheme.Text.Blank
import BlogTheme.Text.Decimal

/-!
# Arguments of the command line

The arguments are a command, `render` or `check`, and options with values. Some
options may stand before the command or after it; one after it goes before one in
front of it. `Command.parse` gives the command that arguments ask for, or nothing if
they are misused.
-/

namespace BlogTheme

open BlogTheme.Text

/-- An option of the command line. -/
inductive CommandOption where
  | logLevel
  | config
  | theme
  | template
  | data
  | output
  | assetBase
  | maxDepth
  deriving DecidableEq, Repr

namespace CommandOption

/-- The name of an option, which stands after two hyphens. -/
def name : CommandOption → String
  | logLevel => "log-level"
  | config => "config"
  | theme => "theme"
  | template => "template"
  | data => "data"
  | output => "output"
  | assetBase => "asset-base"
  | maxDepth => "max-depth"

/-- The letter of an option, which stands after one hyphen. -/
def letter? : CommandOption → Option Char
  | template => some 't'
  | data => some 'd'
  | output => some 'o'
  | _ => none

/-- The options that may stand anywhere. -/
def common : List CommandOption := [logLevel, config, theme]

/-- The options of `render` alone. -/
def ofRender : List CommandOption := [template, data, output, assetBase, maxDepth]

/-- Whether an option may have this value: a path is not empty, and a number is
one. -/
def accepts : CommandOption → (value : String) → Bool
  | config, value => !value.isEmpty
  | theme, value => !value.isEmpty
  | data, value => !value.isEmpty
  | output, value => !value.isEmpty
  | maxDepth, value => (readNat64? value.toList).isSome
  | _, _ => true

end CommandOption

namespace Command

/-- Options with their values, none twice. -/
abbrev OptionValues := List (CommandOption × String)

namespace OptionValues

/-- The value of an option. -/
def get? (given : OptionValues) (o : CommandOption) : Option String :=
  given.lookup o

/-- Adds the value of an option that has none yet. -/
def add? (given : OptionValues) (o : CommandOption) (value : String) : Option OptionValues :=
  if (given.get? o).isSome || !o.accepts value then none else some ((o, value) :: given)

end OptionValues

/-- How a reading of arguments ends early. -/
inductive Stop where
  | misuse
  | help
  | version
  deriving DecidableEq, Repr

/-- Where in the arguments an option stands. -/
structure Level where
  options : List CommandOption
  /-- Whether the program may be asked for its version. -/
  hasVersion : Bool

namespace Level

/-- In front of the command. -/
def top : Level := { options := CommandOption.common, hasVersion := true }

/-- After the command `check`. -/
def check : Level := { options := CommandOption.common, hasVersion := false }

/-- After the command `render`. -/
def render : Level :=
  { options := CommandOption.ofRender ++ CommandOption.common, hasVersion := false }

end Level

/-- What an argument is. -/
inductive Argument where
  /-- An option, with its value if that is part of the argument. -/
  | option (o : CommandOption) (value : Option String)
  /-- Two hyphens, after which no options follow. -/
  | separator
  | stop (reason : Stop)
  | plain
  deriving DecidableEq, Repr

namespace Argument

/-- An argument of two hyphens and these characters. -/
def long (level : Level) (cs : List Char) : Argument :=
  let name := String.ofList (cs.takeWhile (· != '='))
  let value := (cs.dropWhile (· != '=')).tail?.map String.ofList
  match level.options.find? fun o => o.name == name with
  | some o => .option o value
  | none =>
    if value.isSome then .stop .misuse
    else if name == "help" then .stop .help
    else if name == "version" && level.hasVersion then .stop .version
    else .stop .misuse

/-- An argument of one hyphen and these characters. -/
def short (level : Level) (letter : Char) (cs : List Char) : Argument :=
  match level.options.find? fun o => o.letter? == some letter with
  | some o =>
    match cs with
    | [] => .option o none
    | '=' :: cs => .option o (some (String.ofList cs))
    | cs => .option o (some (String.ofList cs))
  | none =>
    if letter == 'h' then .stop .help
    else if letter == 'V' && level.hasVersion then .stop .version
    else .stop .misuse

/-- What an argument is at a level. -/
def of (level : Level) (arg : String) : Argument :=
  match arg.toList with
  | ['-', '-'] => .separator
  | '-' :: '-' :: cs => long level cs
  | '-' :: c :: cs => short level c cs
  | _ => .plain

end Argument

/-- Reads the options at the start of the arguments, up to the first argument that
is none. -/
def OptionValues.read (level : Level) (given : OptionValues) :
    List String → Except Stop (OptionValues × List String)
  | [] => .ok (given, [])
  | arg :: args =>
    match Argument.of level arg with
    | .stop reason => .error reason
    | .plain => .ok (given, arg :: args)
    | .separator => if args.isEmpty then .ok (given, []) else .error .misuse
    | .option o (some value) =>
      match given.add? o value with
      | some given => read level given args
      | none => .error .misuse
    | .option o none =>
      match args with
      | [] => .error .misuse
      | value :: args =>
        match Argument.of level value, given.add? o value with
        | .plain, some given => read level given args
        | _, _ => .error .misuse

/-- What the arguments ask for, besides help and the version. -/
inductive Task where
  | check
  | render (template data : String) (output assetBase : Option String) (maxDepth : Option Nat)
  deriving DecidableEq, Repr

end Command

open Command (Task) in
/-- A task, with the file of settings and the folder of the theme it names. -/
structure Command where
  task : Task
  config : String
  theme : Option String
  deriving DecidableEq, Repr

namespace Command

/-- The file of settings that is read if no other is named. -/
def usualConfig : String := "plume.toml"

/-- A task with the common options that stand after it and in front of it. -/
def ofTask (task : Task) (after before : OptionValues) : Command where
  task := task
  config := ((after.get? .config).or (before.get? .config)).getD usualConfig
  theme := (after.get? .theme).or (before.get? .theme)

/-- The task of the options after `render`, two of which have to be there. -/
def renderTask? (given : OptionValues) : Option Task := do
  return .render (← given.get? .template) (← given.get? .data) (given.get? .output)
    (given.get? .assetBase) ((given.get? .maxDepth).bind fun v => readNat64? v.toList)

/-- Whether there is help on these arguments. -/
def hasHelp (args : List String) : Bool :=
  [[], ["render"], ["check"], ["help"]].contains args

/-- The command that arguments ask for. -/
def parse (args : List String) : Except Stop Command := do
  let (before, args) ← OptionValues.read .top [] args
  match args with
  | "check" :: args =>
    let (after, rest) ← OptionValues.read .check [] args
    if rest.isEmpty then return ofTask .check after before else throw .misuse
  | "render" :: args =>
    let (after, rest) ← OptionValues.read .render [] args
    match renderTask? after with
    | some task => if rest.isEmpty then return ofTask task after before else throw .misuse
    | none => throw .misuse
  | "help" :: args => throw (if hasHelp args then .help else .misuse)
  | _ => throw .misuse

end Command

end BlogTheme
