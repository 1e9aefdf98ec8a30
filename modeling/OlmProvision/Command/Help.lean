import OlmProvision.Command.Arguments

/-
The help and version texts of the command line program.

A help page has a title line (the command's name and, for the program itself, its version),
what the command does, a usage line, and its listings: positional arguments, options and
subcommands. A listing puts each entry's description in one column, four places right of the
longest entry. Options are listed by their one-letter name (lower case first), or by their long
name where they have none, in alphabetical order; subcommands by name.

Pages are laid out for 100 columns. A description that would reach the last column is filled
into lines first fit: as many whole words as fit go on each line, a word is never split, and
further lines are indented to the description's column.
-/
namespace OlmProvision.Command

/-- The width help pages are laid out for. -/
def helpWidth : Nat := 100

/-- `n` spaces. -/
def spaces (n : Nat) : String := String.ofList (List.replicate n ' ')

/-- Fill the words of `text` into lines of at most `width` columns, first fit; a word longer
than the width stands on a line of its own. -/
def fillLines (width : Nat) (text : String) : List String :=
  let step := fun (acc : List String × Option String) (word : String) =>
    match acc.2 with
    | none => (acc.1, some word)
    | some line =>
      if line.length + 1 + word.length ≤ width then (acc.1, some (line ++ " " ++ word))
      else (acc.1 ++ [line], some word)
  let (done, last) := (text.splitOn " ").foldl step ([], none)
  done ++ last.toList

/-- A description starting at `column`, wrapped when it would reach the last column. -/
def describe (column : Nat) (about : String) : String :=
  if column + about.length ≥ helpWidth then
    ("\n" ++ spaces column).intercalate (fillLines (helpWidth - column) about)
  else about

/-- The text an option is listed by, without its one-letter name: `--long <VALUE>`. -/
def OptionSpec.flag (o : OptionSpec) : String :=
  "--" ++ o.long ++ (o.value.map (fun v => " <" ++ v.1 ++ ">")).getD ""

/-- The key options are listed in order of: the one-letter name in lower case, marked `0` when
it is a lower case letter and `1` otherwise, or else the long name. -/
def OptionSpec.listingKey (o : OptionSpec) : String :=
  match o.short with
  | some c => String.ofList [c.toLower, if c.isLower then '0' else '1']
  | none => o.long

/-- What the help says of an option: what it does and its value when it is not given. -/
def OptionSpec.description (o : OptionSpec) : String :=
  match o.default with
  | some d => o.about ++ " [default: " ++ d ++ "]"
  | none => o.about

/-- The listing of options. -/
def optionListing (options : List OptionSpec) : String :=
  let options := options.mergeSort (fun a b => decide (a.listingKey ≤ b.listingKey))
  let longest := options.foldl (fun m o => max m o.flag.length) 2
  let column := longest + 12
  "\n".intercalate (options.map fun o =>
    let lead := "    " ++ (match o.short with
      | some c => "-" ++ c.toString ++ ", "
      | none => "    ") ++ o.flag
    lead ++ spaces (column - lead.length) ++ describe column o.description)

/-- The listing of named entries, such as subcommands or positional arguments. -/
def namedListing (entries : List (String × String)) : String :=
  let longest := entries.foldl (fun m e => max m e.1.length) 2
  let column := longest + 8
  "\n".intercalate (entries.map fun (name, about) =>
    "    " ++ name ++ spaces (column - 4 - name.length) ++ describe column about)

/-- A help page. -/
structure HelpPage where
  title : String
  about : String
  usage : String
  arguments : List (String × String) := []
  options : List OptionSpec := []
  subcommands : List (String × String) := []

/-- A help page as printed. -/
def HelpPage.render (p : HelpPage) : String :=
  let listings :=
    (if p.arguments.isEmpty then [] else ["ARGS:\n" ++ namedListing p.arguments]) ++
    (if p.options.isEmpty then [] else ["OPTIONS:\n" ++ optionListing p.options]) ++
    (if p.subcommands.isEmpty then []
     else ["SUBCOMMANDS:\n" ++ namedListing (p.subcommands.mergeSort (fun a b => decide (a.1 ≤ b.1)))])
  p.title ++ "\n" ++ p.about ++ "\n\nUSAGE:\n    " ++ p.usage ++ "\n\n" ++
    "\n\n".intercalate listings ++ "\n"

/-- The program's name. -/
def programName : String := "olmsys"

/-- The program's version. -/
def programVersion : String := "0.0.1"

/-- What `--version` prints. -/
def versionText : String := programName ++ " " ++ programVersion ++ "\n"

/-- What the `help` subcommand does. -/
def helpSubcommandAbout : String := "Print this message or the help of the given subcommand(s)"

/-- The usage line of a subcommand: `[OPTIONS]` when it has an option that is neither required
nor help, then its required options. -/
def SubcommandSpec.usage (s : SubcommandSpec) : String :=
  let optional := s.options.filter (fun o => o.long != "help" && !o.required)
  " ".intercalate ([programName, s.name] ++ (if optional.isEmpty then [] else ["[OPTIONS]"]) ++
    (s.options.filter (·.required)).map OptionSpec.flag)

/-- The help page of the program, or of the subcommand named. -/
def helpPage : Option String → HelpPage
  | none =>
    { title := programName ++ " " ++ programVersion
      about := "The command line interface for provisioning operators and their products " ++
        "through OLM"
      usage := programName ++ " [OPTIONS] <SUBCOMMAND>"
      options := programOptions
      subcommands := ("help", helpSubcommandAbout) :: subcommands.map (fun s => (s.name, s.about)) }
  | some "help" =>
    { title := programName ++ "-help "
      about := helpSubcommandAbout
      usage := programName ++ " help [SUBCOMMAND]..."
      arguments := [("<SUBCOMMAND>...", "The subcommand whose help message to display")] }
  | some name =>
    match subcommands.find? (·.name == name) with
    | some s =>
      { title := programName ++ "-" ++ s.name ++ " "
        about := s.about
        usage := s.usage
        options := s.options }
    | none => { title := programName ++ "-" ++ name ++ " ", about := "", usage := programName }

/-- The help text of the program, or of the subcommand named. -/
def helpText (subcommand : Option String) : String := (helpPage subcommand).render

/-- What the program prints for a command line it does not accept. -/
def usageErrorText : String :=
  "error: The arguments are not valid\n\nUSAGE:\n    " ++ (helpPage none).usage ++
    "\n\nFor more information try --help\n"

end OlmProvision.Command
