import OlmProvision.Client.Error
import OlmProvision.Model.Event
import OlmProvision.Log
import OlmProvision.Text.Duration

/-
The narrow view of a cluster the provisioner needs: generic object calls, label-selected pod
queries and the namespace event stream.

A platform is a record of calls over a world: the cluster state `σ` together with the virtual
time that has passed, the log records written so far, the time the process started and the
wall-clock time. Calls may change the cluster and write log records; they never move the
virtual time. Every call answers with a value or a client error.

- `create` refuses an object whose name is taken with a conflict error;
- `replace` refuses a missing object with a not-found error;
- `get` answers `none` for a missing object;
- `delete` answers whether there was an object to delete;
- `patchMerge` applies a JSON merge patch.
-/
namespace OlmProvision

/-- A pod as the provisioner sees it. -/
structure Pod where
  name : String
  namespaceName : String
  labels : List (String × String)
  phase : Option String
  deletionTimestamp : Option Timestamp
deriving Inhabited

/-- The world calls run in: the cluster, the virtual time passed, the log records written
(newest first), the process start and the wall-clock time. -/
structure World (σ : Type) where
  cluster : σ
  elapsed : Duration
  logs : List LogRecord
  start : Timestamp
  now : Timestamp

/-- A computation over a world. -/
abbrev Step (σ α : Type) := StateM (World σ) α

namespace Step

/-- Write a log record. -/
def log {σ : Type} (source : LogSource) (level : LogLevel) (message : String) : Step σ Unit :=
  modify (fun w => { w with logs := ⟨source, level, message⟩ :: w.logs })

/-- Let `d` of virtual time pass. -/
def sleep {σ : Type} (d : Duration) : Step σ Unit :=
  modify (fun w => { w with elapsed := w.elapsed + d })

/-- The virtual time passed. -/
def elapsed {σ : Type} : Step σ Duration := do return (← get).elapsed

/-- Run a change of the cluster state. -/
def onCluster {σ α : Type} (f : σ → α × σ) : Step σ α := do
  let w ← get
  let (a, c) := f w.cluster
  set { w with cluster := c }
  return a

end Step

/-- A result of a platform call. -/
abbrev Call (σ α : Type) := Step σ (Except ClientError α)

/-- A call that fails with `e` without touching the world. -/
def Call.fail {σ α : Type} (e : ClientError) : Call σ α :=
  (pure (.error e) : Step σ (Except ClientError α))

/-- A cluster as the provisioner sees it. -/
structure Platform (σ : Type) where
  create : ApiResource → String → DynamicObject → Call σ DynamicObject
  replace : ApiResource → String → DynamicObject → Call σ DynamicObject
  get : ApiResource → String → String → Call σ (Option DynamicObject)
  list : ApiResource → String → Option String → Call σ (List DynamicObject)
  delete : ApiResource → String → String → Call σ Bool
  patchMerge : ApiResource → String → String → Json → Call σ DynamicObject
  listPods : String → String → Call σ (List Pod)
  listEvents : String → Call σ (List ClusterEvent)

end OlmProvision
