import OlmProvision.Session.Step

/-
A session that drives product resources one operation at a time.

The session keeps its resources by id. A step names a resource and an operation on it; it may
ask for a fail-fast guard, in which case a baseline is captured in a namespace first, and a
failed capture is the step's result, with nothing else done. Waits answer their outcome
instead of failing on it. A scale without a wait answers success. After every step on a
resource the session reports the resource's handle, unless the capture failed.
-/
namespace OlmProvision

/-- An operation on one resource. -/
inductive ResourceAction where
  /-- Create the resource, from another manifest if one is given. -/
  | create (manifest : Option DynamicObject)
  /-- Create or replace the resource, from another manifest if one is given. -/
  | replace (manifest : Option DynamicObject)
  | delete
  | isPresent
  | isReady
  | isAbsent
  | waitReady (spec : WaitSpec)
  | waitAbsent (spec : WaitSpec)
  | scale (replicas : Int) (wait : Option WaitSpec)
  | markCreated
  | markDeleted
deriving Inhabited

/-- Where a step captures its baseline and which events are fatal. -/
structure Guarding where
  namespaceName : String
  policy : FailFastPolicy
deriving Inhabited

/-- A step of a resource session. -/
inductive ResourceStep where
  | act (id : String) (action : ResourceAction) (guard : Option Guarding)
  | add (id : String) (resource : ManagedResource)
  | cluster (a : ClusterAction)
  | refused (reason : String)
deriving Inhabited

/-- The resources of a session, by id. -/
abbrev Resources := List (String × ManagedResource)

/-- What a session reports after a step on resources. -/
structure ResourceReport where
  op : String
  observation : Observation
  handle : Option Handle
deriving Inhabited

namespace Resources

/-- The resource with `id`. -/
def find? (rs : Resources) (id : String) : Option ManagedResource :=
  (List.find? (fun e => e.1 == id) rs).map Prod.snd

/-- Set the handle of the resource with `id`. -/
def setHandle (rs : Resources) (id : String) (h : Handle) : Resources :=
  rs.map (fun e => if e.1 == id then (e.1, { e.2 with handle := h }) else e)

/-- Add a resource, replacing one with the same id. -/
def add (rs : Resources) (id : String) (r : ManagedResource) : Resources :=
  if rs.any (·.1 == id) then rs.map (fun e => if e.1 == id then (id, r) else e) else rs ++ [(id, r)]

end Resources

/-- Run an operation on the resource `r` with `id`. -/
def ResourceAction.run (p : Platform SimCluster) (id : String) (r : ManagedResource)
    (guard : Option (Step SimCluster (Option ClusterEvent))) :
    ResourceAction → Tracked Resources SimCluster StepResult
  | .create m => do
    let h ← Tracked.lift (Lifecycle.create p r.handle (m.getD r.manifest))
    Tracked.update (·.setHandle id h)
    return .ok
  | .replace m => do
    let h ← Tracked.lift (Lifecycle.replace p r.handle (m.getD r.manifest))
    Tracked.update (·.setHandle id h)
    return .ok
  | .delete => do
    let (deleted, h) ← Tracked.lift (Lifecycle.delete p r.handle)
    Tracked.update (·.setHandle id h)
    return .flag "deleted" deleted
  | .isPresent => do return .flag "exists" (← Tracked.lift (Lifecycle.isPresent p r.handle))
  | .isReady => do return .flag "ready" (← Tracked.lift (Lifecycle.isReady p r.handle))
  | .isAbsent => do return .flag "absent" (← Tracked.lift (Lifecycle.isAbsent p r.handle))
  | .waitReady spec => do return .outcome (← Tracked.lift (Lifecycle.waitReady p r.handle spec guard))
  | .waitAbsent spec => do
    return .outcome (← Tracked.lift (Lifecycle.waitAbsent p r.handle spec guard))
  | .scale replicas wait => do
    let h ← Tracked.lift (Lifecycle.scale p r.handle replicas)
    Tracked.update (·.setHandle id h)
    match wait with
    | some spec => return .outcome (← Tracked.lift (Lifecycle.waitReady p h spec guard))
    | none => return .outcome .success
  | .markCreated => do
    Tracked.update (·.setHandle id r.handle.markCreated)
    return .ok
  | .markDeleted => do
    Tracked.update (·.setHandle id r.handle.markDeleted)
    return .ok

/-- Run named steps in order, reporting after each. -/
def runResources (p : Platform SimCluster) (kinds : List String) :
    List (String × ResourceStep) → Resources → Step SimCluster (List ResourceReport)
  | [], _ => pure []
  | (op, s) :: rest, rs => do
    let (obs, handle, rs) ← match s with
      | .act id action guarding =>
        match rs.find? id with
        | none => do
          let (obs, rs) ← observe kinds (pure (.refused ("unknown resource '" ++ id ++ "'"))) rs
          pure (obs, none, rs)
        | some r =>
          match guarding with
          | none => do
            let (obs, rs) ← observe kinds (action.run p id r none) rs
            pure (obs, (rs.find? id).map (·.handle), rs)
          | some g => do
            let captured : Tracked Resources SimCluster (Option (Step SimCluster (Option ClusterEvent))) :=
              some <$> guardFor p g.namespaceName g.policy
            let (first, rs) ← (captured.run.run rs)
            match first with
            | .error e => do
              let (obs, rs) ← observe kinds (pure (.failed e)) rs
              pure (obs, none, rs)
            | .ok check => do
              let (obs, rs) ← observe kinds (action.run p id r check) rs
              pure (obs, (rs.find? id).map (·.handle), rs)
      | .add id r => do
        let (obs, rs) ← observe kinds (do Tracked.update (·.add id r); return .ok) rs
        pure (obs, some r.handle, rs)
      | .cluster a => do
        let (obs, rs) ← observe kinds (a.step p) rs
        pure (obs, none, rs)
      | .refused reason => do
        let (obs, rs) ← observe kinds (pure (.refused reason)) rs
        pure (obs, none, rs)
    let reports ← runResources p kinds rest rs
    return { op := op, observation := obs, handle := handle } :: reports

end OlmProvision
