import OlmProvision.Log
import OlmProvision.Text.Integer

/-
The command line of the provisioning program.

The program takes options, then a subcommand with options of its own:

* `--log-level <LEVEL>` (default `info`), `--kubeconfig <PATH>` and `--config <PATH>`;
* `resolve --product|-p <PRODUCT>`;
* `run --manifest|-m <PATH> [--scale <REPLICAS>] [--keep]`;
* `teardown --manifest|-m <PATH>`;
* `help [SUBCOMMAND]`, the help of the program or of one subcommand.

An option's value follows it after `=` (`--config=c.yaml`, `-p=kafka`), right after a one-letter
name (`-pkafka`), or as the next argument when that argument is not an option, even when it
names a subcommand (`--config run run` reads the configuration from `run`); a lone `-` is a
value. One-letter options without values can be written together (`-hV`). After `--` only
positional arguments may follow, and no command takes any.

Arguments are read from left to right. `--help`/`-h` asks for help and `--version`/`-V` (of the
program only) for the version as soon as they are read, and so does `help`. A manifest path must
not be empty, which is checked as soon as it is read; the other values (a log level, a 32-bit
replica count) are checked only once all arguments are read, so `--scale x --help` still prints
the help. Once a command's arguments are read, each option that takes a value must have one, the
required ones must be there, and each option may have been given at most once, except the
manifest path, where the last one given counts. Anything the program does not accept is a usage
error, which ends the program with status 2.
-/
namespace OlmProvision.Command

/-- The most detailed level a log filter lets through; `off` lets nothing through. -/
inductive LevelFilter where
  | off
  | upTo (level : LogLevel)
deriving DecidableEq, Repr, Inhabited

namespace LevelFilter

/-- The filter named `word`, in any case. -/
def read? (word : String) : Option LevelFilter :=
  if String.ofList (word.toList.map Char.toLower) == "off" then some .off
  else (LogLevel.ofName? word).map .upTo

/-- Whether the filter lets a record at `level` through. -/
def allows (f : LevelFilter) (level : LogLevel) : Bool :=
  match f with
  | .off => false
  | .upTo l => level.rank ≤ l.rank

end LevelFilter

/-- What the program is asked to do. -/
inductive Subcommand where
  /-- Print the subscription parameters resolved for a product. -/
  | resolve (product : String)
  /-- Subscribe to a product's operator, deploy the product, optionally scale it, and remove
  everything again unless `keep`. -/
  | run (manifest : String) (scale : Option Int) (keep : Bool)
  /-- Remove what a kept run left behind. -/
  | teardown (manifest : String)
deriving Repr, Inhabited

/-- A command line the program accepts. -/
structure Arguments where
  logLevel : LevelFilter := .upTo .info
  kubeconfig : Option String := none
  config : Option String := none
  command : Subcommand
deriving Repr, Inhabited

/-- How reading a command line ends. -/
inductive Parsed where
  | accepted (a : Arguments)
  /-- Help was asked for, on the program (`none`) or on a subcommand. -/
  | help (subcommand : Option String)
  | version
  | usageError
deriving Repr, Inhabited

/-- What an option's value must be. -/
inductive ValueKind where
  /-- The name of a log level filter. -/
  | level
  /-- A replica count. -/
  | replicas
  /-- A path, which must not be empty. -/
  | path
  /-- Any text, the empty one included. -/
  | text
deriving DecidableEq, Repr, Inhabited

/-- A replica count: a 32-bit signed decimal number. -/
def readReplicas (s : String) : Option Int :=
  match Text.readSigned 32 s with
  | .ok n => some n
  | .error _ => none

/-- Whether `v` is a value of the kind. -/
def ValueKind.accepts : ValueKind → String → Bool
  | .level, v => (LevelFilter.read? v).isSome
  | .replicas, v => (readReplicas v).isSome
  | .path, v => !v.isEmpty
  | .text, _ => true

/-- An option: its long name, its one-letter name, the name and kind of its value if it takes
one, what it does, whether the command needs it, and the value it has when it is not given. -/
structure OptionSpec where
  long : String
  short : Option Char
  value : Option (String × ValueKind)
  about : String
  required : Bool
  default : Option String
deriving Repr, Inhabited

/-- Whether a value of this kind is checked as soon as it is read rather than once all
arguments are read. -/
def ValueKind.checkedAtOnce : ValueKind → Bool
  | .path => true
  | _ => false

/-- Whether the option may be given again, its last value counting. -/
def OptionSpec.repeatable (o : OptionSpec) : Bool :=
  match o.value with
  | some (_, kind) => kind.checkedAtOnce
  | none => false

/-- Why reading options stopped early. -/
inductive Interruption where
  | help
  | version
  | usageError
deriving DecidableEq, Repr, Inhabited

/-- Options given, by long name, with their values, in the order given. An option that takes a
value but was left without one has `none`. -/
abbrev Given := List (String × Option String)

/-- How reading the arguments of a command ends when nothing interrupts it. -/
inductive Scan where
  /-- The arguments ran out. -/
  | finished (given : Given)
  /-- A subcommand was named; the arguments after its name are its own. -/
  | subcommand (given : Given) (name : String) (rest : List String)
deriving Repr, Inhabited

/-- Whether an argument looks like an option rather than a value. -/
def looksLikeOption (arg : String) : Bool := arg.startsWith "-" && arg != "-"

/-- Record an option as it is read. Help and version interrupt at once, and so does a value
that is checked at once and is not of the option's kind. -/
def record (given : Given) (spec : OptionSpec) (value : Option String) :
    Except Interruption Given :=
  if spec.long == "help" then .error .help
  else if spec.long == "version" then .error .version
  else match spec.value, value with
    | some (_, kind), some v =>
      if !kind.checkedAtOnce || kind.accepts v then .ok (given ++ [(spec.long, value)])
      else .error .usageError
    | _, _ => .ok (given ++ [(spec.long, value)])

/-- `given`, with the option that waited for a value recorded without one. -/
def closeAwaiting (awaiting : Option OptionSpec) (given : Given) : Given :=
  match awaiting with
  | some spec => given ++ [(spec.long, none)]
  | none => given

/-- Read a cluster of one-letter options, the text after a single dash. Letters without values
are read one after another; the first letter that takes a value takes the rest of the cluster,
after an optional `=`, or, when nothing follows it, the next argument (answered as the option
that waits). -/
def scanShort (specs : List OptionSpec) :
    List Char → Given → Except Interruption (Given × Option OptionSpec)
  | [], given => .ok (given, none)
  | c :: tail, given =>
    match specs.find? (·.short == some c) with
    | none => .error .usageError
    | some spec =>
      if spec.value.isSome then
        match tail with
        | [] => .ok (given, some spec)
        | '=' :: v => do return (← record given spec (some (String.ofList v)), none)
        | v => do return (← record given spec (some (String.ofList v)), none)
      else do scanShort specs tail (← record given spec none)

/-- Read the arguments of a command with options `specs` and subcommands `isSubcommand`.

An option's value follows it after `=`, or is the next argument when that argument is not an
option; otherwise the option is left without a value. The first subcommand name that is not an
option's value ends the command's own arguments. After `--` only positional arguments follow,
and no command takes any. -/
def scanArgs (specs : List OptionSpec) (isSubcommand : String → Bool) :
    Option OptionSpec → List String → Given → Except Interruption Scan
  | awaiting, [], given => .ok (.finished (closeAwaiting awaiting given))
  | awaiting, arg :: rest, given =>
    if arg == "--" then
      if rest.isEmpty then .ok (.finished (closeAwaiting awaiting given)) else .error .usageError
    else if arg.startsWith "--" then
      let given := closeAwaiting awaiting given
      let body := arg.toList.drop 2
      let name := String.ofList (body.takeWhile (· != '='))
      let inline := if body.contains '=' then some (String.ofList ((body.dropWhile (· != '=')).drop 1))
        else none
      match specs.find? (·.long == name) with
      | none => .error .usageError
      | some spec =>
        if spec.value.isSome then
          match inline with
          | some v => do scanArgs specs isSubcommand none rest (← record given spec (some v))
          | none => scanArgs specs isSubcommand (some spec) rest given
        else if inline.isSome then .error .usageError
        else do scanArgs specs isSubcommand none rest (← record given spec none)
    else if looksLikeOption arg then
      match scanShort specs (arg.toList.drop 1) (closeAwaiting awaiting given) with
      | .error e => .error e
      | .ok (given, next) => scanArgs specs isSubcommand next rest given
    else
      match awaiting with
      | some spec => do scanArgs specs isSubcommand none rest (← record given spec (some arg))
      | none =>
        if isSubcommand arg then .ok (.subcommand given arg rest) else .error .usageError

/-- Whether options read are acceptable once reading ends: each that takes a value given one,
and each given at most once unless it is repeatable. -/
def wellFormed (specs : List OptionSpec) : Given → Bool
  | [] => true
  | (name, value) :: rest =>
    let spec := specs.find? (·.long == name)
    (!(rest.any (·.1 == name)) || spec.any OptionSpec.repeatable) &&
      (value.isSome || !(spec.any (·.value.isSome))) &&
      wellFormed specs rest

/-- The option asking for help. -/
def helpOption : OptionSpec := ⟨"help", some 'h', none, "Print help information", false, none⟩

/-- The options of the program itself, in the order the help lists them. -/
def programOptions : List OptionSpec :=
  [⟨"config", none, some ("CONFIG", .text),
    "Path to a YAML configuration file. Environment variables prefixed with `OLMSYS_` take " ++
    "precedence over its values", false, none⟩,
   helpOption,
   ⟨"kubeconfig", none, some ("KUBECONFIG", .text),
    "Path to the kubeconfig file. Also can be passed with the KUBECONFIG environment variable",
    false, none⟩,
   ⟨"log-level", none, some ("LOG_LEVEL", .level),
    "Set logging verbosity [trace|debug|info|warn|error]. If the environment variable " ++
    "`RUST_LOG` is present, it overrides the default logging behavior. See " ++
    "https://docs.rs/env_logger/latest", false, some "info"⟩,
   ⟨"version", some 'V', none, "Print version information", false, none⟩]

/-- A subcommand: its name, what it does, and its options in the order the help lists them. -/
structure SubcommandSpec where
  name : String
  about : String
  options : List OptionSpec
deriving Repr, Inhabited

/-- The subcommands of the program, by name. -/
def subcommands : List SubcommandSpec :=
  [⟨"resolve", "Print the OLM subscription parameters resolved for a product",
    [helpOption, ⟨"product", some 'p', some ("PRODUCT", .text),
      "The product identifier used as the configuration key prefix, e.g. `kafka`", true, none⟩]⟩,
   ⟨"run", "Subscribe to a product's operator and deploy the product",
    [helpOption,
     ⟨"keep", none, none, "Leave the product and its subscription in the cluster", false, none⟩,
     ⟨"manifest", some 'm', some ("MANIFEST", .path), "Path to the product manifest YAML file",
      true, none⟩,
     ⟨"scale", none, some ("SCALE", .replicas),
      "Scale the primary resource to this many replicas once it is ready", false, none⟩]⟩,
   ⟨"teardown", "Remove a product and its operator subscription left behind by an earlier run",
    [helpOption, ⟨"manifest", some 'm', some ("MANIFEST", .path),
      "Path to the product manifest YAML file used for the run", true, none⟩]⟩]

/-- The options of a subcommand. -/
def subcommandOptions (name : String) : Option (List OptionSpec) :=
  (subcommands.find? (·.name == name)).map (·.options)

/-- Whether `name` names a subcommand, the one asking for help included. -/
def isProgramSubcommand (name : String) : Bool :=
  name == "help" || subcommands.any (·.name == name)

/-- The value last given for `name`. -/
def Given.value? (given : Given) (name : String) : Option String :=
  ((given.reverse.find? (·.1 == name)).bind Prod.snd)

/-- Whether `name` was given. -/
def Given.has (given : Given) (name : String) : Bool := given.any (·.1 == name)

/-- The subcommand `name` with its options. -/
def subcommandOf (name : String) (given : Given) : Option Subcommand :=
  match name with
  | "resolve" => (given.value? "product").map .resolve
  | "run" => do
    let manifest ← given.value? "manifest"
    let scale ← match given.value? "scale" with
      | some s => (readReplicas s).map some
      | none => some none
    return .run manifest scale (given.has "keep")
  | "teardown" => (given.value? "manifest").map .teardown
  | _ => none

/-- The help asked for by the `help` subcommand with arguments `topic`: the program's, or that
of the one subcommand named. -/
def helpTopic : List String → Parsed
  | [] => .help none
  | [name] => if isProgramSubcommand name then .help (some name) else .usageError
  | _ => .usageError

/-- Read a command line, without the program's name. -/
def parse (args : List String) : Parsed :=
  match scanArgs programOptions isProgramSubcommand none args [] with
  | .error .help => .help none
  | .error .version => .version
  | .error .usageError => .usageError
  | .ok (.finished _) => .usageError
  | .ok (.subcommand global name rest) =>
    if name == "help" then helpTopic rest
    else
    match subcommandOptions name with
    | none => .usageError
    | some specs =>
      match scanArgs specs (fun _ => false) none rest [] with
      | .error .help => .help (some name)
      | .error _ => .usageError
      | .ok (.subcommand ..) => .usageError
      | .ok (.finished own) =>
        if !(wellFormed specs own && wellFormed programOptions global) then .usageError
        else
          let level := match global.value? "log-level" with
            | some word => LevelFilter.read? word
            | none => some (.upTo .info)
          match level, subcommandOf name own with
          | some l, some command =>
            .accepted { logLevel := l, kubeconfig := global.value? "kubeconfig",
                        config := global.value? "config", command := command }
          | _, _ => .usageError

end OlmProvision.Command
