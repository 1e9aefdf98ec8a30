import OlmProvision.Session.Step

/-
A session that provisions one product step by step through an orchestrator.

Besides the orchestrator's own steps, a session can restart: the orchestrator is dismissed and
a new one, not configured, takes over the same cluster and product, as a new process would. The
last orchestrator is dismissed when the session ends.
After every step the session reports the orchestrator's state along with the observation.
-/
namespace OlmProvision

/-- A step of an orchestrator session. -/
inductive OrchestratorStep where
  | configure (config : ConfigSource)
  | subscribe
  | deploy
  | undeploy
  | unsubscribe
  | adopt
  | scale (replicas : Int) (wait : Bool)
  | restart
  | report
  | cluster (a : ClusterAction)
  | refused (reason : String)
deriving Inhabited

/-- What a session reports after a step of an orchestrator. -/
structure OrchestratorReport where
  op : String
  observation : Observation
  orchestrator : Orchestrator
deriving Inhabited

namespace OrchestratorStep

/-- Run a step. -/
def run (p : Platform SimCluster) : OrchestratorStep → Tracked Orchestrator SimCluster StepResult
  | .configure config => do return .descriptor (← Orchestrator.configure config)
  | .subscribe => do Orchestrator.subscribe p; return .ok
  | .deploy => do Orchestrator.deploy p; return .ok
  | .undeploy => do Orchestrator.undeploy p; return .ok
  | .unsubscribe => do Orchestrator.unsubscribe p; return .ok
  | .adopt => do Orchestrator.adopt p; return .ok
  | .scale replicas wait => do Orchestrator.scale p replicas wait; return .ok
  | .restart => do
    let o ← Tracked.current
    Tracked.step (Orchestrator.dismiss o)
    Tracked.put (Orchestrator.new o.adapter)
    return .ok
  | .report => do return .adapter (← Tracked.current).adapter.report
  | .cluster a => a.step p
  | .refused reason => pure (.refused reason)

end OrchestratorStep

/-- Run named steps in order, reporting after each. When the steps run out the orchestrator is
dismissed, as it is when the process that holds it ends. -/
def runOrchestrator (p : Platform SimCluster) (kinds : List String) :
    List (String × OrchestratorStep) → Orchestrator → Step SimCluster (List OrchestratorReport)
  | [], o => do Orchestrator.dismiss o; pure []
  | (op, s) :: rest, o => do
    let (obs, o) ← observe kinds (s.run p) o
    let reports ← runOrchestrator p kinds rest o
    return { op := op, observation := obs, orchestrator := o } :: reports

end OlmProvision
