import OlmProvision.Client.Platform
import OlmProvision.Config.Source
import OlmProvision.Provision.Error

/-
Bounded polling of cluster state.

Every wait evaluates a predicate at a fixed interval until it holds, the timeout runs out, or
an optional fail-fast check reports a fatal cluster event. The predicate is evaluated at least
once; an error from it is logged and counts as "not yet". After each evaluation that does not
hold, the check runs, then the wait gives up if the timeout has passed, and otherwise sleeps
for the interval, cut short to the time left, so a wait never outlives its timeout.

Wait timings come from configuration: `<product>.wait.<field>`, then `wait.<field>`, each a
number of seconds, and a default otherwise. A zero poll interval is a configuration error.
-/
namespace OlmProvision

/-- A provisioning computation: it runs over a world and may fail with a provisioner error.
Changes to the world made before an error are kept, as the cluster keeps them. -/
abbrev Run (σ α : Type) := ExceptT ProvisionError (Step σ) α

namespace Run

/-- A platform call; its error becomes a client error of `action`. -/
def call {σ α : Type} (action : String) (c : Call σ α) : Run σ α := do
  match ← (c : Step σ (Except ClientError α)) with
  | .ok v => pure v
  | .error e => throw (.client action e)

/-- Write a log record. -/
def log {σ : Type} (source : LogSource) (level : LogLevel) (message : String) : Run σ Unit :=
  ExceptT.lift (Step.log source level message)

/-- A computation as a wait predicate: an error counts as "not yet" and is reported by its
text. -/
def predicate {σ : Type} (r : Run σ Bool) : Step σ (Except String Bool) := do
  match ← r.run with
  | .ok b => return .ok b
  | .error e => return .error (e.message?.getD "")

end Run

/-- A provisioning computation that also changes a local state `μ`, such as a manager's or an
orchestrator's own fields. Changes to `μ` made before an error are kept. -/
abbrev Tracked (μ σ α : Type) := ExceptT ProvisionError (StateT μ (Step σ)) α

namespace Tracked

/-- A provisioning computation that leaves the local state alone. -/
def lift {μ σ α : Type} (r : Run σ α) : Tracked μ σ α := ExceptT.mk (StateT.lift r.run)

instance {μ σ : Type} : MonadLift (Run σ) (Tracked μ σ) := ⟨lift⟩

/-- A computation over the world alone. -/
def step {μ σ α : Type} (s : Step σ α) : Tracked μ σ α := ExceptT.lift (StateT.lift s)

/-- Fail with `e` when the result is an error. -/
def ofExcept {μ σ α : Type} (r : Except ProvisionError α) : Tracked μ σ α :=
  match r with
  | .ok v => pure v
  | .error e => throw e

/-- Run a computation on a part `ν` of the local state, read with `get` and written back with
`put`, also when it fails. -/
def focus {μ ν σ α : Type} (read : μ → ν) (write : μ → ν → μ) (t : Tracked ν σ α) :
    Tracked μ σ α :=
  ExceptT.mk (fun m => do
    let (r, n) ← t.run.run (read m)
    return (r, write m n))

/-- Write a log record. -/
def log {μ σ : Type} (source : LogSource) (level : LogLevel) (message : String) :
    Tracked μ σ Unit :=
  step (Step.log source level message)

/-- The local state. -/
def current {μ σ : Type} : Tracked μ σ μ := ExceptT.lift StateT.get

/-- Replace the local state. -/
def put {μ σ : Type} (m : μ) : Tracked μ σ Unit := ExceptT.lift (StateT.set m)

/-- Change the local state. -/
def update {μ σ : Type} (f : μ → μ) : Tracked μ σ Unit :=
  ExceptT.lift (StateT.modifyGet (fun m => ((), f m)))

end Tracked

/-- The result of a wait. -/
inductive Outcome where
  | success
  | timedOut
  | failFast (event : ClusterEvent)
deriving Inhabited

/-- The parameters of one wait. -/
structure WaitSpec where
  description : String
  timeout : Duration
  pollInterval : Duration
  logLevel : LogLevel := .info
deriving Inhabited

namespace WaitSpec

/-- A bound on the number of evaluations: enough for every wait that ends, since each
evaluation after the first follows a sleep of the interval or of the time left. A wait with
a zero interval and a positive timeout only ends when its predicate holds. -/
def evaluationBound (spec : WaitSpec) : Nat :=
  if spec.pollInterval.nanos = 0 then
    (if spec.timeout.nanos = 0 then 1 else 1000000)
  else spec.timeout.nanos / spec.pollInterval.nanos + 2

end WaitSpec

namespace Outcome

/-- The outcome as a result of `stage`. -/
def intoResult (o : Outcome) (stage : Stage) (spec : WaitSpec) : Except ProvisionError Unit :=
  match o with
  | .success => .ok ()
  | .timedOut => .error (.timedOut stage spec.description spec.timeout)
  | .failFast event => .error (.failFastAbort stage spec.description event)

/-- Whether the outcome is a success. -/
def isSuccess : Outcome → Bool
  | .success => true
  | _ => false

end Outcome

/-- Poll `predicate` under `spec`, with the fail-fast check `guard`. The predicate answers
whether it holds, or the text of its error. -/
def waitFor {σ : Type} (spec : WaitSpec) (predicate : Step σ (Except String Bool))
    (guard : Option (Step σ (Option ClusterEvent))) : Step σ Outcome := do
  let start ← Step.elapsed
  Step.log .wait spec.logLevel ("Waiting up to " ++ spec.timeout.text ++ " for " ++ spec.description)
  loop start spec.evaluationBound
where
  /-- The evaluations left, at most `fuel`. -/
  loop (start : Duration) : Nat → Step σ Outcome
    | 0 => return .timedOut
    | fuel + 1 => do
      match ← predicate with
      | .ok true =>
        let now ← Step.elapsed
        Step.log .wait spec.logLevel ("Done waiting for " ++ spec.description ++ " after " ++
          (now - start).text)
        return .success
      | .ok false => Step.log .wait .trace (spec.description ++ " is not there yet")
      | .error e => Step.log .wait .warn ("Error while checking " ++ spec.description ++ ": " ++ e)
      let fatal ← match guard with
        | some g => g
        | none => pure none
      match fatal with
      | some event =>
        let now ← Step.elapsed
        Step.log .wait .warn ("Giving up on " ++ spec.description ++ " after " ++ (now - start).text ++
          ": " ++ event.display)
        return .failFast event
      | none =>
        let now ← Step.elapsed
        let passed := now - start
        if spec.timeout ≤ passed then
          Step.log .wait .warn ("Timed out after " ++ passed.text ++ " waiting for " ++ spec.description)
          return .timedOut
        else
          Step.sleep (Duration.min spec.pollInterval (spec.timeout - passed))
          loop start fuel

/-- Wait timings. -/
structure WaitPolicy where
  pollInterval : Duration
  subscribeTimeout : Duration
  deployTimeout : Duration
  scaleTimeout : Duration
  undeployTimeout : Duration
deriving DecidableEq, Repr

namespace WaitPolicy

/-- The default timings: poll every 5 s; 300 s to subscribe, scale and undeploy; 600 s to
deploy. -/
def default : WaitPolicy :=
  { pollInterval := .ofSecs 5, subscribeTimeout := .ofSecs 300, deployTimeout := .ofSecs 600,
    scaleTimeout := .ofSecs 300, undeployTimeout := .ofSecs 300 }

instance : Inhabited WaitPolicy := ⟨default⟩

/-- One timing: the product key, then the global key, then `fallback`. -/
def seconds (config : ConfigSource) (product field : String) (fallback : Duration) :
    Except ProvisionError Duration := do
  let productKey := product ++ ".wait." ++ field
  match ← (config.seconds productKey).mapError .configurationValue with
  | some d => return d
  | none =>
    match ← (config.seconds ("wait." ++ field)).mapError .configurationValue with
    | some d => return d
    | none => return fallback

/-- The timings of `product`. -/
def fromConfig (config : ConfigSource) (product : String) : Except ProvisionError WaitPolicy := do
  let d := default
  let policy : WaitPolicy := {
    pollInterval := ← seconds config product "poll_interval_secs" d.pollInterval
    subscribeTimeout := ← seconds config product "subscribe_timeout_secs" d.subscribeTimeout
    deployTimeout := ← seconds config product "deploy_timeout_secs" d.deployTimeout
    scaleTimeout := ← seconds config product "scale_timeout_secs" d.scaleTimeout
    undeployTimeout := ← seconds config product "undeploy_timeout_secs" d.undeployTimeout }
  if policy.pollInterval.nanos = 0 then
    throw (.configuration "the poll interval must be at least one second")
  return policy

/-- The timeout of waits during `stage`. -/
def timeout (p : WaitPolicy) : Stage → Duration
  | .subscribe => p.subscribeTimeout
  | .configure => p.subscribeTimeout
  | .deploy => p.deployTimeout
  | .scale => p.scaleTimeout
  | .undeploy => p.undeployTimeout
  | .unsubscribe => p.undeployTimeout

/-- The wait of `stage` with these timings. -/
def spec (p : WaitPolicy) (stage : Stage) (description : String) : WaitSpec :=
  { description := description, timeout := p.timeout stage, pollInterval := p.pollInterval }

end WaitPolicy

end OlmProvision
