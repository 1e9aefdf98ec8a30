import OlmProvision.Session.Cluster
import OlmProvision.Provision.Orchestrator

/-
The steps of provisioning sessions and what each step answers.

A step answers a result: done, a descriptor, a report of the product, a yes-or-no answer, the
outcome of a wait, the names a manager was made for, an inspection of the cluster's OLM
objects, the answer of the session's own action, or the error that stopped it. A step that
could not be understood is refused without running. Every step is observed: the time it took,
and the cluster as it is after it.
-/
namespace OlmProvision

/-- What a product reports about itself. -/
structure AdapterReport where
  product : String
  namespaceName : String
  operatorEnv : List (String × String)
  installPlanApproval : Option InstallPlanApproval
  auxiliaryReadinessRequired : Bool
  /-- The number of auxiliary resources, or why they cannot be built. -/
  auxiliaries : Except ProvisionError Nat
deriving Inhabited

/-- The report of a product. -/
def ProductAdapter.report (a : ProductAdapter) : AdapterReport :=
  { product := a.productId, namespaceName := a.namespaceName, operatorEnv := a.operatorEnv,
    installPlanApproval := a.installPlanApproval,
    auxiliaryReadinessRequired := a.auxiliaryReadinessRequired,
    auxiliaries := a.auxiliaries.map List.length }

/-- The OLM objects of a subscription as the cluster holds them. -/
structure Inspection where
  subscription : Option Subscription
  /-- The CSVs the subscription names, installed first, each as the cluster has it. -/
  csvs : List (String × Option ClusterServiceVersion)
  /-- Per variable, whether the operator deployment carries it; `none` without deployment. -/
  operatorEnv : List (Option Bool)
deriving Inhabited

/-- The result of a step. -/
inductive StepResult where
  | ok
  | descriptor (d : OperatorDescriptor)
  | adapter (r : AdapterReport)
  /-- A yes-or-no answer, by its name. -/
  | flag (name : String) (value : Bool)
  | outcome (o : Outcome)
  | names (namespaceName name : String)
  | inspection (i : Inspection)
  | cluster (a : ClusterAnswer)
  | failed (e : ProvisionError)
  | clientFailed (e : ClientError)
  | refused (reason : String)
deriving Inhabited

/-- The result of a session's own action. -/
def StepResult.ofAction : Except ClientError ClusterAnswer → StepResult
  | .ok a => .cluster a
  | .error e => .clientFailed e

/-- What is observed of a step. -/
structure Observation where
  result : StepResult
  elapsed : Duration
  view : ClusterView
deriving Inhabited

/-- Run a step on the local state `m`, observing it; an error becomes the step's result. -/
def observe {μ : Type} (kinds : List String) (t : Tracked μ SimCluster StepResult) (m : μ) :
    Step SimCluster (Observation × μ) := do
  let before ← get
  let (r, m) ← t.run.run m
  let after ← get
  let result := match r with
    | .ok v => v
    | .error e => .failed e
  return ({ result := result, elapsed := after.elapsed - before.elapsed,
            view := after.cluster.view kinds before.cluster.state.calls.length }, m)

/-- A session's own action as a step. -/
def ClusterAction.step {μ : Type} (p : Platform SimCluster) (a : ClusterAction) :
    Tracked μ SimCluster StepResult :=
  Tracked.step (do return StepResult.ofAction (← a.run p))

/-- Capture a baseline for the guard of a step. -/
def guardFor {μ : Type} (p : Platform SimCluster) (ns : String) (policy : FailFastPolicy) :
    Tracked μ SimCluster (Step SimCluster (Option ClusterEvent)) := do
  let baseline ← Tracked.lift (ExceptT.mk (captureBaseline p ns))
  return (FailFastGuard.mk baseline policy).fatalEvent p

end OlmProvision
