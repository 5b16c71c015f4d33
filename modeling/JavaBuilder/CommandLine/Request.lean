import JavaBuilder.Project.Settings

/-!
# Requests

What the arguments of the program ask for. An option is given by its name after two dashes, with its
value after an equals sign or in the next argument, or by one letter after a dash. Letters without a
value may share a dash, and the last of them may have one. Only the count of `verbose` may be given
more than once, and it may also stand before the command.

Arguments are looked at in order, so a request for help that comes before a mistake is granted.
-/

namespace JavaBuilder.CommandLine

open Disk Java

/-- What a command is about. -/
structure Target where
  /-- Where the descriptors are. -/
  input : FilePath
  /-- The source root of generated files. -/
  output : Option FilePath
  /-- The configuration to use. -/
  config : Option FilePath
  /-- Which descriptors are meant. -/
  filter : Option String
  level : Option Level
  guava : Bool
deriving DecidableEq, Repr

/-- A command. -/
inductive Command where
  /-- Generate builders. -/
  | generate (target : Target) (watch dryRun : Bool)
  /-- Write a new configuration. -/
  | init (output : FilePath) (force : Bool)
  /-- Compare generated files with what would be generated. -/
  | check (target : Target)
deriving DecidableEq, Repr

/-- The name and version of the program. -/
def versionText : String := "buildergen 0.1.0"

/-- What is asked for. -/
inductive Request where
  | run (command : Command)
  | version
  | help
deriving DecidableEq, Repr

/-- Why arguments ask for nothing. -/
inductive UsageFault where
  | missingCommand
  | unknownCommand (name : String)
  | unexpected (argument : String)
  | missingValue (option : String)
  | unwantedValue (option : String)
  | invalidValue (option value : String)
  | repeated (option : String)
deriving DecidableEq, Repr

def UsageFault.message : UsageFault → String
  | missingCommand => "a command is required: generate, init or check"
  | unknownCommand name => "unrecognized command '" ++ name ++ "'"
  | unexpected argument => "unexpected argument '" ++ argument ++ "'"
  | missingValue option => "a value is required for '--" ++ option ++ "'"
  | unwantedValue option => "no value is wanted for '--" ++ option ++ "'"
  | invalidValue option value => "invalid value '" ++ value ++ "' for '--" ++ option ++ "'"
  | repeated option => "the argument '--" ++ option ++ "' cannot be used multiple times"

/-! ## Options -/

inductive Taking where
  /-- Nothing: it is on or off. -/
  | nothing
  /-- Nothing: it counts how often it is given. -/
  | count
  | path
  | text
  | level
deriving DecidableEq, Repr

/-- An option. -/
structure Opt where
  name : String
  letter : Option Char
  takes : Taking
deriving DecidableEq, Repr

namespace Opt

variable (o : Opt)

def wantsValue : Bool := o.takes ≠ .nothing ∧ o.takes ≠ .count

/-- A value is one that the option takes. -/
def takesValue (value : String) : Bool :=
  match o.takes with
  | .path => value ≠ ""
  | .level => (Level.ofText? value).isSome
  | _ => true

end Opt

/-- The options that every command has. -/
def commonOptions : List Opt := [⟨"verbose", some 'v', .count⟩, ⟨"help", some 'h', .nothing⟩]

/-- The options before the command. -/
def rootOptions : List Opt := commonOptions ++ [⟨"version", some 'V', .nothing⟩]

/-- The options of what a command is about. -/
def targetOptions : List Opt :=
  commonOptions ++
    [⟨"input", some 'i', .path⟩, ⟨"output", some 'o', .path⟩, ⟨"config", some 'c', .path⟩,
      ⟨"filter", none, .text⟩, ⟨"source-level", none, .level⟩, ⟨"guava", none, .nothing⟩]

def generateOptions : List Opt :=
  targetOptions ++ [⟨"watch", some 'w', .nothing⟩, ⟨"dry-run", none, .nothing⟩]

def initOptions : List Opt :=
  commonOptions ++ [⟨"output", some 'o', .path⟩, ⟨"force", none, .nothing⟩]

/-- The options that were given, and their values. -/
abbrev Given := List (String × String)

/-- Why reading arguments ends early. -/
inductive Stop where
  | fault (f : UsageFault)
  | help
  | version
deriving DecidableEq, Repr

/-- Take an option into account. -/
def give (given : Given) (o : Opt) (value : String) : Except Stop Given :=
  if o.takes ≠ .count ∧ (given.lookup o.name).isSome then throw (.fault (.repeated o.name))
  else if o.name = "help" then throw .help
  else if o.name = "version" then throw .version
  else if !o.takesValue value then throw (.fault (.invalidValue o.name value))
  else return (o.name, value) :: given

/-! ## Reading arguments -/

/-- Letters after a dash. If the last one wants a value and has none, it is what comes with the
options given so far. -/
def readLetters (options : List Opt) (given : Given) : List Char → Except Stop (Given × Option Opt)
  | [] => return (given, none)
  | c :: cs =>
    match options.find? fun o ↦ o.letter = some c with
    | none => throw (.fault (.unexpected ("-" ++ String.singleton c)))
    | some o =>
      if o.wantsValue then
        match cs with
        | [] => return (given, some o)
        | '=' :: value => return (← give given o (String.ofList value), none)
        | value => return (← give given o (String.ofList value), none)
      else do readLetters options (← give given o "") cs

/-- A name after two dashes, perhaps with a value. If the option wants one and has none, it is what
comes with the options given so far. -/
def readName (options : List Opt) (given : Given) (cs : List Char) :
    Except Stop (Given × Option Opt) :=
  let name := String.ofList (cs.takeWhile (· ≠ '='))
  match options.find? fun o ↦ o.name = name, cs.dropWhile (· ≠ '=') with
  | none, _ => throw (.fault (.unexpected ("--" ++ name)))
  | some o, [] => if o.wantsValue then return (given, some o) else return (← give given o "", none)
  | some o, _ :: value =>
    if o.wantsValue then return (← give given o (String.ofList value), none)
    else throw (.fault (.unwantedValue name))

/-- An argument that may be a value. -/
def isPlain (argument : String) : Bool :=
  argument.toList.head? ≠ some '-' || argument = "-"

/-- Options up to the first argument that is none, and the arguments from there on. Two dashes end
the options, and nothing may follow them. -/
def readOptions (options : List Opt) (given : Given) :
    List String → Except Stop (Given × List String)
  | [] => return (given, [])
  | argument :: rest =>
    if isPlain argument then return (given, argument :: rest)
    else do
      let (given, waiting) ←
        match argument.toList with
        | ['-', '-'] =>
          match rest with
          | [] => return (given, [])
          | a :: _ => throw (.fault (.unexpected a))
        | '-' :: '-' :: cs => readName options given cs
        | cs => readLetters options given cs.tail
      match waiting with
      | none => readOptions options given rest
      | some o =>
        match rest with
        | value :: rest =>
          if isPlain value then do readOptions options (← give given o value) rest
          else throw (.fault (.missingValue o.name))
        | [] => throw (.fault (.missingValue o.name))

/-- The options of a command, which has nothing else. -/
def readCommandOptions (options : List Opt) (arguments : List String) : Except Stop Given := do
  match ← readOptions options [] arguments with
  | (given, []) => return given
  | (_, a :: _) => throw (.fault (.unexpected a))

/-! ## Requests -/

def Given.has (g : Given) (name : String) : Bool := (g.lookup name).isSome

def Given.path? (g : Given) (name : String) : Option FilePath := (g.lookup name).map FilePath.mk

/-- What options say a command is about. -/
def Target.ofGiven (g : Given) : Target where
  input := (g.path? "input").getD ⟨"."⟩
  output := g.path? "output"
  config := g.path? "config"
  filter := g.lookup "filter"
  level := (g.lookup "source-level").bind Level.ofText?
  guava := g.has "guava"

def commandNames : List String := ["generate", "init", "check", "help"]

def Request.ofCommand (name : String) (arguments : List String) : Except Stop Request :=
  match name with
  | "generate" => do
    let g ← readCommandOptions generateOptions arguments
    return .run (.generate (.ofGiven g) (g.has "watch") (g.has "dry-run"))
  | "init" => do
    let g ← readCommandOptions initOptions arguments
    return .run (.init ((g.path? "output").getD ⟨Project.Settings.fileName⟩) (g.has "force"))
  | "check" => do return .run (.check (.ofGiven (← readCommandOptions targetOptions arguments)))
  | "help" =>
    match arguments with
    | [] => throw .help
    | [topic] => throw (if topic ∈ commandNames then .help else .fault (.unknownCommand topic))
    | _ :: a :: _ => throw (.fault (.unknownCommand a))
  | _ => throw (.fault (.unknownCommand name))

def Request.ofArguments (arguments : List String) : Except UsageFault Request :=
  let request : Except Stop Request := do
    match ← readOptions rootOptions [] arguments with
    | (_, []) => throw (.fault .missingCommand)
    | (_, name :: rest) => Request.ofCommand name rest
  match request with
  | .ok r => return r
  | .error (.fault f) => throw f
  | .error .help => return .help
  | .error .version => return .version

end JavaBuilder.CommandLine
