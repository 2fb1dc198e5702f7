import RouterConf.Dnsmasq.Settings

/-!
# Command line arguments

A command line names a command, its source, and switches in any order. A switch is a flag, or takes
a value that follows it as the next argument or after an equals sign. After two dashes alone all
arguments are taken as they are. No switch may be given twice.
-/

namespace RouterConf

inductive Argument where
  | flag (name : String)
  | option (name value : String)
  | positional (value : String)
  deriving DecidableEq, Repr

structure Switches where
  flags : List String
  options : List String

namespace Arguments

/-- A switch cut at its first equals sign: the name, and the value if there is a sign. -/
def cut (argument : String) : String × Option String :=
  let cs := argument.toList
  let name := cs.takeWhile (· ≠ '=')
  match cs.dropWhile (· ≠ '=') with
  | [] => (argument, none)
  | _ :: value => (String.ofList name, some (String.ofList value))

/-- Whether an argument looks like a switch: a single dash does not. -/
def isSwitch (argument : String) : Bool :=
  argument.toList.head? = some '-' && argument ≠ "-"

/-- The arguments of a command; none if one of them is unknown or lacks its value. -/
def items (s : Switches) : List String → Option (List Argument)
  | [] => some []
  | argument :: rest =>
    -- From here on nothing is a switch.
    if argument = "--" then some (rest.map .positional)
    else if isSwitch argument then
      match cut argument with
      | (name, some value) =>
        if s.options.contains name then (items s rest).map (.option name value :: ·) else none
      | (name, none) =>
        if s.flags.contains name then (items s rest).map (.flag name :: ·)
        else if s.options.contains name then
          match rest with
          | [] => none
          | value :: rest =>
            -- A value that looks like a switch has to be written after an equals sign.
            if isSwitch value then none else (items s rest).map (.option name value :: ·)
        else none
    else (items s rest).map (.positional argument :: ·)

def switchName? : Argument → Option String
  | .flag name => some name
  | .option name _ => some name
  | .positional _ => none

def isDistinct (arguments : List Argument) : Bool :=
  decide (arguments.filterMap switchName?).Nodup

def hasFlag (arguments : List Argument) (name : String) : Bool :=
  arguments.contains (.flag name)

def value? (arguments : List Argument) (name : String) : Option String :=
  arguments.findSome? fun
    | .option n value => if n = name then some value else none
    | _ => none

/-- The one source that is given; the empty path is none. -/
def source? (arguments : List Argument) : Option Path :=
  match arguments.filterMap fun
    | .positional value => some value
    | _ => none with
  | [source] => if source.isEmpty then none else some source
  | _ => none

end Arguments

/-- What a command line asks for. -/
inductive Invocation where
  | version
  | help
  | sections (source : Path) (json : Bool)
  | apply (source : Path) (settings : Settings) (execute json : Bool)
  | revert (source : Path) (settings : Settings) (execute json : Bool)
  deriving DecidableEq, Repr

namespace Invocation

open Arguments

def sectionsSwitches : Switches :=
  { flags := ["--json"], options := [] }

def applySwitches : Switches :=
  { flags := ["--json", "--execute"]
    options := ["--write-dir", "--dnsmasq-bin", "--template-dir"] }

def revertSwitches : Switches :=
  { flags := ["--json", "--execute"], options := ["--write-dir"] }

/-- The write directory: the one given, or that of the environment, or the standard one. -/
def writeDir? (environment : Option Path) (arguments : List Argument) : Option Path :=
  let chosen := (value? arguments "--write-dir" <|> environment).getD ({} : Settings).writeDir
  if chosen.isEmpty then none else some chosen

/-- The arguments of a command, none of its switches given twice. -/
def understood (s : Switches) (arguments : List String) : Option (List Argument) :=
  (items s arguments).filter isDistinct

/-- What the arguments ask for, if they can be understood. `environment` is the write directory that
the environment sets. -/
def ofArguments? (environment : Option Path) : List String → Option Invocation
  | [] => none
  | command :: rest =>
    match command with
    | "sections" => do
      let a ← understood sectionsSwitches rest
      return .sections (← source? a) (hasFlag a "--json")
    | "apply" => do
      let a ← understood applySwitches rest
      let templateDir := value? a "--template-dir"
      if templateDir = some "" then none
      else
        let settings : Settings :=
          { writeDir := ← writeDir? environment a
            program := (value? a "--dnsmasq-bin").getD ({} : Settings).program
            templateDir }
        return .apply (← source? a) settings (hasFlag a "--execute") (hasFlag a "--json")
    | "revert" => do
      let a ← understood revertSwitches rest
      let settings : Settings := { writeDir := ← writeDir? environment a }
      return .revert (← source? a) settings (hasFlag a "--execute") (hasFlag a "--json")
    | "--version" => some .version
    | "--help" => some .help
    | "help" => some .help
    | other =>
      match other.toList with
      | '-' :: 'V' :: _ => some .version
      | '-' :: 'h' :: _ => some .help
      | _ => none

end Invocation

end RouterConf
