import OlmProvision.Model.Handle
import OlmProvision.Provision.Wait

/-
Creating, replacing, scaling and deleting product custom resources, and observing them reach
or leave their ready state. What "ready" means comes from the handle's readiness; nothing here
knows about specific products.

A resource is ready when it exists, satisfies its readiness, and, for readiness through pods,
exactly the expected number of matching pods exist and all of them run without terminating,
so the same check holds after a scale down. A resource is absent when it does not exist and,
for readiness through pods, no matching pod is left. A create refused because the name is
taken, and a replace or scale refused because the object changed in between, are resource
conflicts; other refusals are client errors. Operations that change a handle return the new
handle; a failed operation leaves it as it was.
-/
namespace OlmProvision

/-- The phase of a running pod. -/
def podPhaseRunning : String := "Running"

/-- Whether a pod runs and is not terminating. -/
def Pod.isRunning (p : Pod) : Bool :=
  p.deletionTimestamp.isNone && p.phase == some podPhaseRunning

namespace Lifecycle

variable {σ : Type} (platform : Platform σ)

/-- `manifest` with the handle's name and namespace. -/
def objectFor (h : Handle) (manifest : DynamicObject) : DynamicObject :=
  { manifest with metadata := { manifest.metadata with
      name := some h.name, namespaceName := some h.namespaceName } }

/-- The description of `action` on the handle's resource, as errors name it. -/
def subject (action : String) (h : Handle) : String := action ++ " " ++ h.kind ++ " '" ++ h.name ++ "'"

/-- The error of a refused write: a conflict is a resource conflict. -/
def mutationError (e : ClientError) (action : String) (h : Handle) : ProvisionError :=
  if e.isConflict then .resourceConflict h.kind h.name h.namespaceName
  else .client (subject action h) e

/-- The resource as the cluster has it. -/
def fetch (h : Handle) : Run σ (Option DynamicObject) :=
  Run.call (subject "get" h) (platform.get h.resource h.namespaceName h.name)

/-- The pods in the handle's namespace that match `selector`. -/
def pods (h : Handle) (selector : String) : Run σ (List Pod) :=
  Run.call ("list pods matching '" ++ selector ++ "'") (platform.listPods h.namespaceName selector)

/-- Create the resource from `manifest`. -/
def create (h : Handle) (manifest : DynamicObject) : Run σ Handle := do
  match ← (platform.create h.resource h.namespaceName (objectFor h manifest) :
      Step σ (Except ClientError DynamicObject)) with
  | .error e => throw (mutationError e "create" h)
  | .ok _ =>
    Run.log .lifecycle .info ("Created " ++ h.kind ++ " '" ++ h.name ++ "' in '" ++ h.namespaceName ++ "'")
    return h.markCreated

/-- Create the resource, or replace it in place if it exists. -/
def replace (h : Handle) (manifest : DynamicObject) : Run σ Handle := do
  match ← fetch platform h with
  | none => create platform h manifest
  | some existing =>
    let o := objectFor h manifest
    let o := { o with metadata := { o.metadata with
      resourceVersion := existing.metadata.resourceVersion } }
    match ← (platform.replace h.resource h.namespaceName o :
        Step σ (Except ClientError DynamicObject)) with
    | .error e => throw (mutationError e "replace" h)
    | .ok _ =>
      Run.log .lifecycle .info ("Replaced " ++ h.kind ++ " '" ++ h.name ++ "' in '" ++ h.namespaceName ++ "'")
      return h.markCreated

/-- Request deletion of the resource; answers whether it was still there. -/
def delete (h : Handle) : Run σ (Bool × Handle) := do
  let deleted ← Run.call (subject "delete" h) (platform.delete h.resource h.namespaceName h.name)
  if deleted then
    Run.log .lifecycle .info ("Deleted " ++ h.kind ++ " '" ++ h.name ++ "' in '" ++ h.namespaceName ++ "'")
  else
    Run.log .lifecycle .debug (h.kind ++ " '" ++ h.name ++ "' was already gone")
  return (deleted, h.markDeleted)

/-- Whether the resource exists. -/
def isPresent (h : Handle) : Run σ Bool := do
  return (← fetch platform h).isSome

/-- Whether the resource is ready. -/
def isReady (h : Handle) : Run σ Bool := do
  match ← fetch platform h with
  | none => return false
  | some o =>
    if !h.readiness.objectSatisfies o.data then return false
    match h.readiness.podSelector with
    | none => return true
    | some selector =>
      let ps ← pods platform h selector
      let running := (ps.filter Pod.isRunning).length
      let expected := h.expectedPods
      Run.log .lifecycle .debug (h.kind ++ " '" ++ h.name ++ "' has " ++ toString running ++ "/" ++
        toString expected ++ " running pods (" ++ toString ps.length ++ " total)")
      return running == expected && ps.length == expected

/-- Whether the resource and, for readiness through pods, its pods are gone. -/
def isAbsent (h : Handle) : Run σ Bool := do
  if ← isPresent platform h then return false
  match h.readiness.podSelector with
  | some selector => return (← pods platform h selector).isEmpty
  | none => return true

/-- Wait for the resource to become ready; it must have been created. -/
def waitReady (h : Handle) (spec : WaitSpec) (guard : Option (Step σ (Option ClusterEvent))) :
    Run σ Outcome := do
  if !h.created then throw (.notCreated h.kind h.name)
  waitFor spec (Run.predicate (isReady platform h)) guard

/-- Wait for the resource and its pods to disappear. -/
def waitAbsent (h : Handle) (spec : WaitSpec) (guard : Option (Step σ (Option ClusterEvent))) :
    Run σ Outcome :=
  waitFor spec (Run.predicate (isAbsent platform h)) guard

/-- Write `replicas` at the handle's replica pointer with a read-modify-write of the whole
resource. There is no retry: a resource changed in between is a resource conflict. -/
def scale (h : Handle) (replicas : Int) : Run σ Handle := do
  match ← fetch platform h with
  | none => throw (.lifecycle (subject "scale" h) "because it does not exist")
  | some o =>
    match o.data.setAt h.replicasPointer (Json.int replicas) with
    | none => throw (.lifecycle (subject "scale" h) ("at '" ++ h.replicasPointer ++ "'"))
    | some data =>
      match ← (platform.replace h.resource h.namespaceName { o with data := data } :
          Step σ (Except ClientError DynamicObject)) with
      | .error e => throw (mutationError e "scale" h)
      | .ok _ =>
        Run.log .lifecycle .info ("Scaled " ++ h.kind ++ " '" ++ h.name ++ "' to " ++ toString replicas ++
          " replicas")
        return { h with desiredReplicas := some replicas }

end Lifecycle

end OlmProvision
