import ProgramFacts.Text.Number

/-!
# Command-line arguments

A command says what to do, and a verbosity how much to tell about it.  Both are read off the
arguments of a command line; `Invocation.ofArguments?` refuses what does not fit the commands.
-/

namespace ProgramFacts

/-! ## Verbosity -/

/-- The least severity of messages that are logged. -/
inductive LogLevel where
  | error
  | info
  | debug
  deriving DecidableEq, Repr

def LogLevel.name : LogLevel → String
  | error => "ERROR"
  | info => "INFO"
  | debug => "DEBUG"

/-- The wishes of the user on how much to tell. -/
structure Verbosity where
  verbose : Bool
  quiet : Bool
  deriving DecidableEq, Repr

namespace Verbosity

/-- The level to log at; the wish for quiet wins. -/
def level (v : Verbosity) : LogLevel :=
  if v.quiet then .error else if v.verbose then .debug else .info

/-- Whether to report on progress. -/
def reports (v : Verbosity) : Bool :=
  !v.quiet

end Verbosity

/-! ## Commands -/

/-- A command with its arguments. -/
inductive Command where
  /-- Encodes the programs at a path and writes their facts to a directory. -/
  | generate (input output : String) (settings : Option String) (workers : Option Nat)
  /-- Shows the relations of the schema, or writes them to a file. -/
  | schema (format : String) (output : Option String)
  /-- Writes the standard settings to a file. -/
  | initSettings (output : String)
  deriving DecidableEq, Repr

/-- What a command line asks for. -/
inductive Invocation where
  | command (verbosity : Verbosity) (command : Command)
  | version
  | help
  deriving DecidableEq, Repr

/-! ## Options

Options are written with one dash and a letter or with two dashes and a name.  A value follows as
the next argument or is attached, after an equals sign if need be; letters without values may share
a dash.  An option is given at most once, and two dashes alone end the options.
-/

namespace Arguments

/-- What an option takes. -/
inductive OptionKind where
  | flag
  | text
  /-- A path, which is not empty. -/
  | path
  | count
  /-- A flag that asks for help instead of a command. -/
  | help
  /-- A flag that asks for the version instead of a command. -/
  | version
  deriving DecidableEq, Repr

/-- An option of a command. -/
structure OptionSpec where
  name : String
  letter : Char
  kind : OptionKind
  deriving DecidableEq, Repr

/-- Why the reading of arguments ends early. -/
inductive Stop where
  | refused
  | help
  | version
  deriving DecidableEq, Repr

/-- The options given so far, with their values. -/
abbrev Given := List (String × String)

def countBound : Nat :=
  UInt64.size

/-- The count that a text denotes; a plus sign may stand in front. -/
def count? (s : String) : Option Nat :=
  let digits := match s.toList with
    | '+' :: rest => rest
    | cs => cs
  if digits.isEmpty then none
  else (Text.number? 10 digits).bind fun n => if n < countBound then some n else none

namespace OptionKind

def takesValue : OptionKind → Bool
  | text => true
  | path => true
  | count => true
  | _ => false

def accepts (value : String) : OptionKind → Bool
  | path => value ≠ ""
  | count => (count? value).isSome
  | _ => true

end OptionKind

/-- Whether an argument is an option rather than a value. -/
def isOption (argument : String) : Bool :=
  argument ≠ "-" && argument.toList.head? = some '-'

/-- Takes note of an option and its value. -/
def give (spec : OptionSpec) (value : String) (given : Given) : Except Stop Given :=
  match spec.kind with
  | .help => .error .help
  | .version => .error .version
  | kind =>
    if (given.lookup spec.name).isSome || !kind.accepts value then .error .refused
    else .ok ((spec.name, value) :: given)

/-- Takes note of an option whose value is the next argument. -/
def giveNext (spec : OptionSpec) (given : Given) :
    List String → Except Stop (Given × List String)
  | [] => .error .refused
  | value :: rest =>
    if isOption value then .error .refused
    else (give spec value given).map fun given => (given, rest)

/-- Reads the letters after a dash.  The rest of the letters is the value of one that takes one. -/
def readLetters (specs : List OptionSpec) (rest : List String) :
    Given → List Char → Except Stop (Given × List String)
  | given, [] => .ok (given, rest)
  | given, c :: cs =>
    match specs.find? fun spec => spec.letter = c with
    | none => .error .refused
    | some spec =>
      if spec.kind.takesValue then
        match cs with
        | [] => giveNext spec given rest
        | '=' :: value => (give spec (String.ofList value) given).map fun given => (given, rest)
        | value => (give spec (String.ofList value) given).map fun given => (given, rest)
      else
        match give spec "" given with
        | .error stop => .error stop
        | .ok given => readLetters specs rest given cs

/-- Reads the name after two dashes, and the value that is attached to it or follows. -/
def readName (specs : List OptionSpec) (rest : List String) (given : Given) (cs : List Char) :
    Except Stop (Given × List String) :=
  let name := String.ofList (cs.takeWhile (· ≠ '='))
  match specs.find? fun spec => spec.name = name with
  | none => .error .refused
  | some spec =>
    match cs.dropWhile (· ≠ '='), spec.kind.takesValue with
    | [], true => giveNext spec given rest
    | [], false => (give spec "" given).map fun given => (given, rest)
    | _ :: value, true =>
      (give spec (String.ofList value) given).map fun given => (given, rest)
    | _ :: _, false => .error .refused

/--
Reads at most a given number of options, and answers what is given and what follows.  After two
dashes alone nothing may follow.
-/
def readOptionsUpTo (specs : List OptionSpec) :
    Nat → Given → List String → Except Stop (Given × List String)
  | _, given, [] => .ok (given, [])
  | 0, given, arguments => .ok (given, arguments)
  | bound + 1, given, argument :: rest =>
    if !isOption argument then
      .ok (given, argument :: rest)
    else
      let read : Except Stop (Given × List String) := match argument.toList with
        | ['-', '-'] => if rest.isEmpty then .ok (given, []) else .error .refused
        | '-' :: '-' :: cs => readName specs rest given cs
        | cs => readLetters specs rest given (cs.drop 1)
      match read with
      | .error stop => .error stop
      | .ok (given, rest) => readOptionsUpTo specs bound given rest

/-- Reads options up to the first argument that is none. -/
def readOptions (specs : List OptionSpec) (arguments : List String) :
    Except Stop (Given × List String) :=
  readOptionsUpTo specs arguments.length [] arguments

/-! ## The options of the commands -/

/-- The options that may stand before a command and after it. -/
def commonOptions : List OptionSpec :=
  [⟨"verbose", 'v', .flag⟩, ⟨"quiet", 'q', .flag⟩, ⟨"help", 'h', .help⟩]

/-- The options that may stand before a command. -/
def leadingOptions : List OptionSpec :=
  commonOptions ++ [⟨"version", 'V', .version⟩]

def optionsOf? (command : String) : Option (List OptionSpec) :=
  if command = "generate" then
    some (commonOptions ++
      [⟨"input", 'i', .path⟩, ⟨"output", 'o', .path⟩, ⟨"config", 'c', .path⟩,
      ⟨"workers", 'w', .count⟩])
  else if command = "schema" then
    some (commonOptions ++ [⟨"format", 'f', .text⟩, ⟨"output", 'o', .path⟩])
  else if command = "init-config" then
    some (commonOptions ++ [⟨"output", 'o', .path⟩])
  else
    none

/-- The command of a name with the given options; `none` if a required one is missing. -/
def command? (name : String) (given : Given) : Option Command :=
  if name = "generate" then do
    return .generate (← given.lookup "input") (← given.lookup "output") (given.lookup "config")
      ((given.lookup "workers").bind count?)
  else if name = "schema" then
    some (.schema ((given.lookup "format").getD "text") (given.lookup "output"))
  else
    some (.initSettings ((given.lookup "output").getD "ir-facts.toml"))

def hasFlag (given : Given) (name : String) : Bool :=
  (given.lookup name).isSome

/-- Whether options contradict each other. -/
def conflicts (given : Given) : Bool :=
  hasFlag given "verbose" && hasFlag given "quiet"

/-- What is asked for by options before a command, its name and its options. -/
def invocation? (leading : Given) (name : String) (given : Given) : Option Invocation :=
  if conflicts leading || conflicts given then
    none
  else
    (command? name given).map fun command =>
      let all := leading ++ given
      .command ⟨hasFlag all "verbose", hasFlag all "quiet"⟩ command

/-- Reads the name of a command and its options. -/
def readCommand (leading : Given) : List String → Except Stop Invocation
  | [] => .error .refused
  | ["help"] => .error .help
  | ["help", name] =>
    if (optionsOf? name).isSome || name = "help" then .error .help else .error .refused
  | name :: arguments =>
    match optionsOf? name with
    | none => .error .refused
    | some specs =>
      match readOptions specs arguments with
      | .error stop => .error stop
      | .ok (given, rest) =>
        match invocation? leading name given with
        | some invocation => if rest.isEmpty then .ok invocation else .error .refused
        | none => .error .refused

/-- Reads the options before a command, its name and its options. -/
def readInvocation (arguments : List String) : Except Stop Invocation :=
  match readOptions leadingOptions arguments with
  | .error stop => .error stop
  | .ok (leading, rest) => readCommand leading rest

end Arguments

/-- What a command line asks for; `none` if it does not fit. -/
def Invocation.ofArguments? (arguments : List String) : Option Invocation :=
  match Arguments.readInvocation arguments with
  | .ok invocation => some invocation
  | .error .help => some .help
  | .error .version => some .version
  | .error .refused => none

end ProgramFacts
