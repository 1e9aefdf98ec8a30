import OlmProvision.Command.Arguments
import OlmProvision.Text.Blank
import OlmProvision.Pattern.Compile

/-
Which log records the command line program prints, and how.

A filter is a list of directives. A directive lets the records whose target starts with its
own target (every record, for a directive without one) through up to its level. The directive
with the longest target that matches decides, the later one among directives of equal length;
a record no directive matches is not printed, and a filter without directives prints errors.

Without a `RUST_LOG` variable the filter holds one directive per part of the program, at the
`--log-level`. With one, the variable is the filter: directives separated by commas, each a
level, a target, or `target=level`; an unknown level after `=` is ignored with a warning, and a
bare word that is no level names a target with every level. Text after a `/` is a pattern: only
records whose message it matches somewhere are printed, and a pattern that is refused is
ignored with a warning printed after those of the directives. More than one `/` makes the whole
specification ignored.

A printed record is `[<time> <LEVEL> <target>] <message>`, the level left-aligned in five
columns, the time in whole seconds, and every further line of the message indented by four
spaces.
-/
namespace OlmProvision.Command

/-- One directive of a log filter. -/
structure LogDirective where
  target : Option String
  level : LevelFilter
deriving Repr, Inhabited

/-- The targets the program's own parts write under. -/
def programTargets : List String := ["olmsys", "olm_provisioner", "olmsys_model"]

/-- The filter of a `--log-level`. -/
def levelDirectives (f : LevelFilter) : List LogDirective :=
  programTargets.map (fun t => ⟨some t, f⟩)

/-- A comma-separated part of a filter specification, or the warning it is ignored with. -/
def readDirective (part : String) : Except String LogDirective :=
  match part.splitOn "=" with
  | [word] =>
    match LevelFilter.read? word with
    | some l => .ok ⟨none, l⟩
    | none => .ok ⟨some word, .upTo .trace⟩
  | [word, level] =>
    let level := Text.trim level
    if level.isEmpty then .ok ⟨some word, .upTo .trace⟩
    else
      match LevelFilter.read? level with
      | some l => .ok ⟨some word, l⟩
      | none => .error ("warning: invalid logging spec '" ++ level ++ "', ignoring it")
  | _ => .error ("warning: invalid logging spec '" ++ part ++ "', ignoring it")

/-- A log filter: its directives, and the pattern messages must match, if any. -/
structure LogFilter where
  directives : List LogDirective
  pattern : Option Pattern.Hir

/-- The filter of a specification, and the warnings printed while reading it. -/
def readSpec (spec : String) : LogFilter × List String :=
  match spec.splitOn "/" with
  | modules :: rest =>
    if rest.length > 1 then
      (⟨[], none⟩, ["warning: invalid logging spec '" ++ spec ++ "', ignoring it (too many '/'s)"])
    else
      let parts := (modules.splitOn ",").map Text.trim |>.filter (!·.isEmpty)
      let (ds, ws) := parts.foldl (fun (ds, ws) part =>
        match readDirective part with
        | .ok d => (ds ++ [d], ws)
        | .error w => (ds, ws ++ [w])) ([], [])
      match rest with
      | [text] =>
        match Pattern.compile text with
        | .ok h => (⟨ds, some h⟩, ws)
        | .error e => (⟨ds, none⟩, ws ++ ["warning: invalid regex filter - " ++ e])
      | _ => (⟨ds, none⟩, ws)
  | [] => (⟨[], none⟩, [])

/-- The length a directive is ordered by: its target's. -/
def LogDirective.reach (d : LogDirective) : Nat := (d.target.map String.length).getD 0

/-- Whether the directive's target covers `target`. -/
def LogDirective.covers (d : LogDirective) (target : String) : Bool :=
  match d.target with
  | some t => target.startsWith t
  | none => true

/-- The directive that decides a record of `target`: the one with the longest covering target,
the last among equals. -/
def decidingDirective (ds : List LogDirective) (target : String) : Option LogDirective :=
  ds.foldl (fun best d =>
    if d.covers target then
      match best with
      | some b => if b.reach ≤ d.reach then some d else some b
      | none => some d
    else best) none

/-- Whether the filter `ds` prints a record. -/
def LogDirective.prints (ds : List LogDirective) (r : LogRecord) : Bool :=
  let ds := if ds.isEmpty then [⟨none, .upTo .error⟩] else ds
  match decidingDirective ds r.source.target with
  | some d => d.level.allows r.level
  | none => false

/-- Whether a filter prints a record: its directives let it through, and its pattern, if any,
matches the message. -/
def LogFilter.prints (f : LogFilter) (r : LogRecord) : Bool :=
  LogDirective.prints f.directives r && f.pattern.all (·.matches r.message)

/-- The level as printed, left-aligned in five columns. -/
def paddedLabel (l : LogLevel) : String :=
  let label := l.label
  label ++ String.ofList (List.replicate (5 - label.length) ' ')

/-- A record as printed at time `stamp`. -/
def formatRecord (stamp : String) (r : LogRecord) : String :=
  "[" ++ stamp ++ " " ++ paddedLabel r.level ++ " " ++ r.source.target ++ "] " ++
    "\n    ".intercalate (r.message.splitOn "\n") ++ "\n"

end OlmProvision.Command
