import OlmProvision.Client.Platform
import OlmProvision.Provision.Error

/-
Detecting unrecoverable failures that the cluster reports while a wait is in progress.

Before the first mutating call of a provisioning attempt a baseline is captured from the
namespace's event stream: the latest event time there (the process start when there is none)
and the ids of the events already present. A guard built on that baseline reports the
earliest event that its policy finds fatal and that happened at or after the baseline; an
event that was already present only counts once it was updated past the reference time.
Among events of the same time the one listed first wins.

Only `Warning` events are ever fatal: their reason must be one of the policy's reasons, and
when the policy is scoped to an application, the involved object's name must start with the
application's prefix.
-/
namespace OlmProvision

/-- Event reasons that indicate a deployment cannot succeed without intervention. -/
def defaultFatalReasons : List String :=
  ["Failed", "ErrImagePull", "ImagePullBackOff", "InvalidImageName", "BackOff",
    "CrashLoopBackOff", "FailedScheduling", "FailedCreate", "FailedMount", "FailedAttachVolume",
    "InstallComponentFailed", "InstallCheckFailed"]

/-- Which events are fatal. -/
structure FailFastPolicy where
  reasons : List String
  objectPrefix : Option String
deriving Inhabited

namespace FailFastPolicy

/-- The default policy: the default reasons, for every object. -/
def default : FailFastPolicy := ⟨defaultFatalReasons, none⟩

/-- Only consider events of objects whose name starts with `prefix`. -/
def forApp (p : FailFastPolicy) (pfx : String) : FailFastPolicy := { p with objectPrefix := some pfx }

/-- Also treat `reason` as fatal. -/
def withReason (p : FailFastPolicy) (reason : String) : FailFastPolicy :=
  if p.reasons.contains reason then p else { p with reasons := p.reasons ++ [reason] }

/-- No longer treat `reason` as fatal. -/
def withoutReason (p : FailFastPolicy) (reason : String) : FailFastPolicy :=
  { p with reasons := p.reasons.filter (· != reason) }

/-- Whether `e` is fatal under the policy. -/
def isFatal (p : FailFastPolicy) (e : ClusterEvent) : Bool :=
  e.severity == .warning && p.reasons.contains e.reason &&
    (match p.objectPrefix with
     | some pfx => e.involvedName.startsWith pfx
     | none => true)

end FailFastPolicy

/-- The point in a namespace's event history before which nothing counts as a new failure. -/
structure FailFastBaseline where
  namespaceName : String
  reference : Timestamp
  knownEvents : List String
deriving Inhabited

namespace FailFastBaseline

/-- The latest time among `events`, or `start` when there are none. -/
def latest (start : Timestamp) : List ClusterEvent → Timestamp
  | [] => start
  | e :: rest => rest.foldl (fun t x => if decide (t < x.timestamp) then x.timestamp else t)
      e.timestamp

/-- The baseline of `namespaceName` holding `events`, with `start` the process start. -/
def fromEvents (start : Timestamp) (namespaceName : String) (events : List ClusterEvent) :
    FailFastBaseline :=
  ⟨namespaceName, latest start events, events.map (·.id)⟩

/-- Whether `e` happened at or after the baseline. -/
def precedes (b : FailFastBaseline) (e : ClusterEvent) : Bool :=
  if b.knownEvents.contains e.id then decide (b.reference < e.timestamp)
  else decide (b.reference ≤ e.timestamp)

end FailFastBaseline

/-- The earliest of `events`; the first one among equals. -/
def earliestEvent : List ClusterEvent → Option ClusterEvent
  | [] => none
  | e :: rest =>
    some (rest.foldl (fun best x => if decide (x.timestamp < best.timestamp) then x else best) e)

/-- The baseline of `ns`, from its current events. -/
def captureBaseline {σ : Type} (platform : Platform σ) (ns : String) :
    Step σ (Except ProvisionError FailFastBaseline) := do
  match ← platform.listEvents ns with
  | .error e => return .error (.client ("list events in '" ++ ns ++ "'") e)
  | .ok events =>
    let start := (← get).start
    let baseline := FailFastBaseline.fromEvents start ns events
    Step.log .failFast .debug ("captured fail-fast baseline for '" ++ ns ++ "' at " ++
      baseline.reference.toRfc3339)
    return .ok baseline

/-- A guard: a baseline and the policy it applies. -/
structure FailFastGuard where
  baseline : FailFastBaseline
  policy : FailFastPolicy
deriving Inhabited

namespace FailFastGuard

/-- The fatal events among `events`. -/
def fatalAmong (g : FailFastGuard) (events : List ClusterEvent) : List ClusterEvent :=
  events.filter (fun e => g.policy.isFatal e && g.baseline.precedes e)

/-- The fatal event that should abort a wait, if there is one. An event query that fails is
logged and reports nothing. -/
def fatalEvent {σ : Type} (g : FailFastGuard) (platform : Platform σ) :
    Step σ (Option ClusterEvent) := do
  match ← platform.listEvents g.baseline.namespaceName with
  | .error e =>
    Step.log .failFast .warn ("Unable to list events in '" ++ g.baseline.namespaceName ++ "', ignoring: " ++
      (e.display?.getD "<undecodable answer>"))
    return none
  | .ok events => return earliestEvent (g.fatalAmong events)

end FailFastGuard

end OlmProvision
