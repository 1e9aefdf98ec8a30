import OlmProvision.Session.Step

/-
A session that drives one subscription manager step by step.

Subscribing takes the descriptor's approval unless the step overrides it, wait timings read
from the step's configuration for the manager's name (the defaults without one), and
optionally a fail-fast guard over the manager's namespace; a failed capture is the step's
result. An inspection reads the simulated cluster itself, whatever the transport: the
subscription, the CSVs it names (installed, then current), and whether the operator deployment
`<package>-operator` carries each of some variables.
-/
namespace OlmProvision

/-- A step of a subscription session. -/
inductive SubscriptionStep where
  | subscribe (approval : Option InstallPlanApproval) (env : List (String × String))
      (timings : Option ConfigSource) (failFast : Option FailFastPolicy)
  | unsubscribe
  | adopt
  | names
  | inspect (operatorEnv : List (String × String))
  | cluster (a : ClusterAction)
  | refused (reason : String)
deriving Inhabited

/-- What a session reports after a step of a subscription manager. -/
structure SubscriptionReport where
  op : String
  observation : Observation
  state : SubscriptionState
  currentCsv : Option String
deriving Inhabited

/-- The OLM objects of the subscription `name` in `ns` and of its package, in the cluster. -/
def SimCluster.inspect (c : SimCluster) (ns name package : String)
    (operatorEnv : List (String × String)) : Inspection :=
  let subscription := (SimCluster.get c OlmKind.subscription.resource ns name).bind (fun o =>
    match TypedKind.subscription.fromDynamic o with
    | .ok s => some s
    | .error _ => none)
  let csv (csvName : String) :=
    (SimCluster.get c OlmKind.clusterServiceVersion.resource ns csvName).bind (fun o =>
      match TypedKind.clusterServiceVersion.fromDynamic o with
      | .ok v => some v
      | .error _ => none)
  let csvs := ((subscription.map Subscription.csvNames).getD []).map (fun n => (n, csv n))
  let deployment := SimCluster.get c deploymentResource ns (package ++ "-operator")
  { subscription := subscription, csvs := csvs,
    operatorEnv := operatorEnv.map (fun (n, v) =>
      deployment.map (fun d => Deployments.haveEnv [d.data] n v)) }

namespace SubscriptionStep

/-- Run a step for the package of `d`. -/
def run (p : Platform SimCluster) (d : OperatorDescriptor) :
    SubscriptionStep → Tracked SubscriptionManager SimCluster StepResult
  | .subscribe approval env timings failFast => do
    let m ← Tracked.current
    let policy ← match timings with
      | some config => Tracked.ofExcept (WaitPolicy.fromConfig config m.name)
      | none => pure WaitPolicy.default
    let guard ← match failFast with
      | some policy => some <$> guardFor p m.namespaceName policy
      | none => pure none
    SubscriptionManager.subscribe p d (approval.getD d.installPlanApproval) env policy guard
    return .ok
  | .unsubscribe => do SubscriptionManager.unsubscribe p; return .ok
  | .adopt => do return .flag "adopted" (← SubscriptionManager.adopt p)
  | .names => do
    let m ← Tracked.current
    return .names m.namespaceName m.name
  | .inspect operatorEnv => do
    let m ← Tracked.current
    let w ← Tracked.step get
    return .inspection (w.cluster.inspect m.namespaceName m.name d.packageManifestId operatorEnv)
  | .cluster a => a.step p
  | .refused reason => pure (.refused reason)

end SubscriptionStep

/-- Run named steps in order, reporting after each. -/
def runSubscription (p : Platform SimCluster) (d : OperatorDescriptor) (kinds : List String) :
    List (String × SubscriptionStep) → SubscriptionManager →
    Step SimCluster (List SubscriptionReport)
  | [], _ => pure []
  | (op, s) :: rest, m => do
    let (obs, m) ← observe kinds (s.run p d) m
    let reports ← runSubscription p d kinds rest m
    return { op := op, observation := obs, state := m.state, currentCsv := m.currentCsv } :: reports

end OlmProvision
