import CodeGraph.Reading.Numeral

/-!
# Command-line arguments

A command and its options. Options may stand before and after other arguments, short ones may be
joined, a value may be attached, and of a repeated option the last value counts. After `--` nothing
is an option.

## Main definitions

* `OptionSpec`: a known option.
* `Arguments.parse`: options and positional arguments of a list.
* `Command`, `Command.parse`: the commands.
-/

namespace CodeGraph.Cli

/-- A known option: its name, its letter, and whether it takes a value. -/
structure OptionSpec where
  name : String
  letter : Option Char := none
  takesValue : Bool := false
deriving DecidableEq, Repr, Inhabited

/-- One argument that sets options: flags, and then perhaps an option with its attached value. -/
structure Setting where
  flags : List String := []
  valued : Option (String × Option String) := none
deriving DecidableEq, Repr, Inhabited

/-- Options with their values, and the other arguments, both in order. -/
structure Arguments where
  options : List (String × Option String) := []
  positional : List String := []
deriving DecidableEq, Repr, Inhabited

namespace OptionSpec

/-- The setting of an option by its name, perhaps with a value after an equals sign. -/
def ofName? (specs : List OptionSpec) (name : String) (value : Option String) : Option Setting := do
  let spec ← specs.find? (·.name = name)
  if spec.takesValue then some { valued := some (name, value) }
  else if value.isNone then some { flags := [name] }
  else none

/-- The setting of joined letters; the first one that takes a value takes the rest. -/
def ofLetters? (specs : List OptionSpec) : List Char → Option Setting
  | [] => some {}
  | c :: cs => do
    let spec ← specs.find? (·.letter = some c)
    if spec.takesValue then
      some { valued := some (spec.name, if cs.isEmpty then none else some (String.ofList cs)) }
    else
      let rest ← ofLetters? specs cs
      some { rest with flags := spec.name :: rest.flags }

/-- The setting of an argument that starts with a hyphen. -/
def setting? (specs : List OptionSpec) (arg : String) : Option Setting :=
  match arg.toList with
  | '-' :: '-' :: cs =>
    let body := String.ofList cs
    ofName? specs (Text.beforeChar '=' body) (Text.after? "=" body)
  | _ :: cs => ofLetters? specs cs
  | [] => none

end OptionSpec

namespace Arguments

/-- Whether an argument sets options: it starts with a hyphen and has more than that. -/
def isSetting (arg : String) : Bool :=
  Text.startsWith "-" arg && arg ≠ "-"

/-- The arguments with further options before the others. -/
def withOptions (a : Arguments) (options : List (String × Option String)) : Arguments :=
  { a with options := options ++ a.options }

/-- Options and positional arguments, or none if an option is unknown or lacks its value. -/
def parse (specs : List OptionSpec) : List String → Option Arguments
  | [] => some {}
  | arg :: rest =>
    if arg = "--" then some { positional := rest }
    else if isSetting arg then
      match OptionSpec.setting? specs arg with
      | none => none
      | some s =>
        let flags := s.flags.map fun f => (f, none)
        match s.valued with
        | none => (parse specs rest).map (·.withOptions flags)
        | some (name, some value) =>
          (parse specs rest).map (·.withOptions (flags ++ [(name, some value)]))
        | some (name, none) =>
          match rest with
          | [] => none
          | value :: rest =>
            (parse specs rest).map (·.withOptions (flags ++ [(name, some value)]))
    else (parse specs rest).map fun a => { a with positional := arg :: a.positional }

/-- Whether a flag is set. -/
def flag (a : Arguments) (name : String) : Bool :=
  a.options.any (·.1 = name)

/-- The last value of an option. -/
def value? (a : Arguments) (name : String) : Option String :=
  (a.options.reverse.lookup name).join

end Arguments

/-- The options of every command. -/
def commonOptions : List OptionSpec :=
  [{ name := "humanize", letter := some 'H' },
   { name := "verbose", letter := some 'v' },
   { name := "help" }]

/-- The options of an ingestion. -/
def ingestOptions : List OptionSpec :=
  [{ name := "config", letter := some 'c', takesValue := true },
   { name := "dir-filter", letter := some 'd', takesValue := true },
   { name := "ext", letter := some 'e', takesValue := true },
   { name := "workers", letter := some 'w', takesValue := true },
   { name := "graph", letter := some 'g' },
   { name := "output", letter := some 'o', takesValue := true },
   { name := "metrics-port", takesValue := true }]
  ++ commonOptions

/-- What an ingestion is asked to do. -/
structure IngestArguments where
  path : String
  config : Option String := none
  directoryFilter : Option String := none
  extensions : Option String := none
  workers : Option Int := none
  graph : Bool := false
  output : Option String := none
  humanize : Bool := false
deriving DecidableEq, Repr, Inhabited

/-- The commands. -/
inductive Command where
  | help
  | ingest (arguments : IngestArguments)
  | languages (humanize : Bool)
deriving DecidableEq, Repr, Inhabited

namespace Command

/-- A whole number of an option that may be missing. -/
def number? (value : Option String) : Option (Option Int) :=
  match value with
  | none => some none
  | some s => (Numeral.wholeNumber s).toOption.map some

/-- The ingestion that arguments ask for. -/
def ingest? (a : Arguments) : Option Command := do
  let workers ← number? (a.value? "workers")
  let _ ← number? (a.value? "metrics-port")
  match a.positional with
  | [path] => some (.ingest {
      path
      config := a.value? "config"
      directoryFilter := a.value? "dir-filter"
      extensions := a.value? "ext"
      workers
      graph := a.flag "graph"
      output := a.value? "output"
      humanize := a.flag "humanize" })
  | _ => none

/-- The listing of languages that arguments ask for. -/
def languages? (a : Arguments) : Option Command :=
  if a.positional.isEmpty then some (.languages (a.flag "humanize")) else none

/-- A command with options; help comes before all other complaints about arguments. -/
def withOptions (specs : List OptionSpec) (read : Arguments → Option Command)
    (args : List String) : Option Command := do
  let a ← Arguments.parse specs args
  if a.flag "help" then some .help else read a

/-- The command of a name. -/
def named (name : String) (args : List String) : Option Command :=
  if name = "ingest" then withOptions ingestOptions ingest? args
  else if name = "languages" then withOptions commonOptions languages? args
  else none

/-- The command of a list of arguments, or none for a usage error. -/
def parse : List String → Option Command
  | [] => none
  | arg :: args =>
    if arg = "--help" then some .help
    else if arg = "--" then
      match args with
      | [] => none
      | name :: args => named name args
    else if Arguments.isSetting arg then none
    else named arg args

end Command

end CodeGraph.Cli
