/-
Log records of the provisioner.

A record has the part of the program that wrote it, a level and a message. Levels are ordered
from the most severe, `error`, to the least, `trace`; a reader at some level sees the records at
that level or more severe. Each part of the program writes under a target, the path of its
module; filters that select records by part match a prefix of the target.
-/
namespace OlmProvision

/-- The level of a log record. -/
inductive LogLevel where
  | error
  | warn
  | info
  | debug
  | trace
deriving DecidableEq, Repr, Inhabited

namespace LogLevel

/-- The severity rank: 1 for `error` up to 5 for `trace`. -/
def rank : LogLevel → Nat
  | .error => 1
  | .warn => 2
  | .info => 3
  | .debug => 4
  | .trace => 5

/-- The upper-case label of a level. -/
def label : LogLevel → String
  | .error => "ERROR"
  | .warn => "WARN"
  | .info => "INFO"
  | .debug => "DEBUG"
  | .trace => "TRACE"

/-- The level named `word`, in any case. -/
def ofName? (word : String) : Option LogLevel :=
  match String.ofList (word.toList.map Char.toLower) with
  | "error" => some .error
  | "warn" => some .warn
  | "info" => some .info
  | "debug" => some .debug
  | "trace" => some .trace
  | _ => none

end LogLevel

/-- The part of the program that writes a record. -/
inductive LogSource where
  | catalog
  | wait
  | failFast
  | lifecycle
  | orchestrator
  | subscription
  /-- The cluster client. -/
  | client
  /-- The command line program. -/
  | command
deriving DecidableEq, Repr, Inhabited

/-- The target a part of the program writes under. -/
def LogSource.target : LogSource → String
  | .catalog => "olm_provisioner::catalog"
  | .wait => "olm_provisioner::wait"
  | .failFast => "olm_provisioner::fail_fast"
  | .lifecycle => "olm_provisioner::lifecycle"
  | .orchestrator => "olm_provisioner::orchestrator"
  | .subscription => "olm_provisioner::subscription"
  | .client => "olmsys_model::clients::kube_platform"
  | .command => "olmsys::run"

/-- A log record. -/
structure LogRecord where
  source : LogSource
  level : LogLevel
  message : String
deriving Repr, Inhabited

/-- The records a reader at `level` sees (none for `none`, the level `off`). -/
def visibleLogs (level : Option LogLevel) (records : List LogRecord) : List LogRecord :=
  match level with
  | none => []
  | some l => records.filter (fun r => r.level.rank ≤ l.rank)

end OlmProvision
