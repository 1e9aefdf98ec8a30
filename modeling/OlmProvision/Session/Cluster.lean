import OlmProvision.Client.Typed
import OlmProvision.Cluster.Simulated

/-
The cluster a provisioning session runs against, and what a session can do to it directly.

A session's cluster is a simulated one, set up with catalog sources (the community catalog
first, then the listed ones), then objects stored as if someone else had created them, then
events. The provisioner reaches it either directly, or through an API client on a network that
cannot be reached, in which case every call fails to connect and the cluster never changes
through the provisioner.

Besides the provisioner's own work, a session can record an event, or make a platform call of
its own; the latter goes the same way the provisioner's calls go. After every step a session
reports the calls made during the step, the number of pods, and the number of objects of each
kind it tracks.
-/
namespace OlmProvision

/-- How a session's calls reach the cluster. -/
inductive Transport where
  /-- Straight to the simulated cluster. -/
  | direct
  /-- Through an API client whose network cannot be reached. -/
  | network
deriving DecidableEq, Repr, Inhabited

/-- A call that writes a trace record and then fails with `e`. -/
def Call.failTraced {σ α : Type} (message : String) (e : ClientError) :
    Step σ (Except ClientError α) := do
  Step.log .client .trace message
  return .error e

/-- A platform behind a network that cannot be reached: every call fails to connect. Calls that
change objects first write a trace record of the change they attempt. -/
def Platform.unreachable {σ : Type} : Platform σ where
  create r ns o := Call.failTraced ("creating " ++ r.kind ++ " '" ++ o.name ++ "' in '" ++ ns ++ "'")
    (.apiCall "create" r.kind .unreachable)
  replace r ns o := Call.failTraced ("replacing " ++ r.kind ++ " '" ++ o.name ++ "' in '" ++ ns ++ "'")
    (.apiCall "replace" r.kind .unreachable)
  get r _ _ := Call.fail (.apiCall "get" r.kind .unreachable)
  list r _ _ := Call.fail (.apiCall "list" (r.kind ++ "s") .unreachable)
  delete r ns name := Call.failTraced ("deleting " ++ r.kind ++ " '" ++ name ++ "' in '" ++ ns ++ "'")
    (.apiCall "delete" r.kind .unreachable)
  patchMerge r ns name _ := Call.failTraced ("patching " ++ r.kind ++ " '" ++ name ++ "' in '" ++ ns ++ "'")
    (.apiCall "patch" r.kind .unreachable)
  listPods _ _ := Call.fail (.apiCall "list" "pods" .unreachable)
  listEvents _ := Call.fail (.apiCall "list" "events" .unreachable)

/-- The platform of a transport over the simulated cluster. -/
def Transport.platform : Transport → Platform SimCluster
  | .direct => SimCluster.platform
  | .network => Platform.unreachable

/-- How a session's cluster is set up. -/
structure ClusterSpec where
  /-- Whether the default community catalog source is there. -/
  communityCatalog : Bool := false
  /-- Further catalog sources, as namespace and name. -/
  catalogs : List (String × String) := []
  settings : SimSettings := {}
  /-- Objects that exist from the start. -/
  objects : List DynamicObject := []
  events : List ClusterEvent := []
deriving Inhabited

/-- The catalog source object `name` in `ns`. -/
def catalogSourceObject (ns name : String) : DynamicObject :=
  let source : CatalogSource := {
    metadata := { name := some name, namespaceName := some ns }
    spec := { sourceType := some "grpc", image := some "quay.io/example/catalog:latest" } }
  match TypedKind.catalogSource.toDynamic source with
  | .ok o => o
  | .error _ => default

/-- The cluster a spec describes. -/
def ClusterSpec.build (spec : ClusterSpec) : SimCluster :=
  let catalogs := (if spec.communityCatalog then [("openshift-marketplace", "community-operators")]
    else []) ++ spec.catalogs
  let objects := catalogs.map (fun (ns, name) => catalogSourceObject ns name) ++ spec.objects
  let state := objects.foldl (fun s o => s.store o.key o) ({} : SimState)
  let state := spec.events.foldl SimState.pushEvent state
  { settings := spec.settings, state := state }

/-- A platform call, or an event, that a session makes on its own. -/
inductive ClusterAction where
  | injectEvent (e : ClusterEvent)
  | create (ns : String) (o : DynamicObject)
  | replace (ns : String) (o : DynamicObject)
  | delete (r : ApiResource) (ns name : String)
  | patch (r : ApiResource) (ns name : String) (patch : Json)
  | get (r : ApiResource) (ns name : String)
  | list (r : ApiResource) (ns : String) (selector : Option String)
  | listTyped (k : OlmKind) (ns : String)
  | events (ns : String)
  | pods (ns selector : String)
deriving Inhabited

/-- The answer to a session's own action. -/
inductive ClusterAnswer where
  | done
  | deleted (removed : Bool)
  | object (o : Option DynamicObject)
  | names (names : List String)
  | events (events : List ClusterEvent)
  | pods (pods : List Pod)
deriving Inhabited

/-- The names of typed objects of `k` in `ns`, as the platform lists them. -/
def listTypedNames (p : Platform SimCluster) (k : OlmKind) (ns : String) :
    Step SimCluster (Except ClientError (List String)) := do
  let names : ObjectMeta → String := fun m => m.name.getD ""
  match k with
  | .subscription => return (← p.listTyped .subscription ns).map (·.map (names ·.metadata))
  | .installPlan => return (← p.listTyped .installPlan ns).map (·.map (names ·.metadata))
  | .clusterServiceVersion =>
    return (← p.listTyped .clusterServiceVersion ns).map (·.map (names ·.metadata))
  | .catalogSource => return (← p.listTyped .catalogSource ns).map (·.map (names ·.metadata))

/-- The resource an object names through its type information. -/
def DynamicObject.resource (o : DynamicObject) : ApiResource :=
  match o.types with
  | some t => ApiResource.ofApiVersion t.apiVersion t.kind
  | none => ApiResource.ofApiVersion "" ""

/-- Carry out a session's own action. -/
def ClusterAction.run (p : Platform SimCluster) :
    ClusterAction → Step SimCluster (Except ClientError ClusterAnswer)
  | .injectEvent e => do
    modify (fun w => { w with cluster := w.cluster.injectEvent e })
    return .ok .done
  | .create ns o => return (← p.create o.resource ns o).map (fun _ => .done)
  | .replace ns o => return (← p.replace o.resource ns o).map (fun _ => .done)
  | .delete r ns name => return (← p.delete r ns name).map .deleted
  | .patch r ns name doc => return (← p.patchMerge r ns name doc).map (fun _ => .done)
  | .get r ns name => return (← p.get r ns name).map .object
  | .list r ns selector => return (← p.list r ns selector).map (fun os => .names (os.map (·.name)))
  | .listTyped k ns => return (← listTypedNames p k ns).map .names
  | .events ns => return (← p.listEvents ns).map .events
  | .pods ns selector => return (← p.listPods ns selector).map .pods

/-- What a session reports about the cluster after a step. -/
structure ClusterView where
  /-- The calls made during the step. -/
  calls : List String
  /-- The pods that exist, terminating or not. -/
  pods : Nat
  /-- The number of objects of each tracked kind, where not zero. -/
  objects : List (String × Nat)
deriving Inhabited

/-- The kinds every session tracks: OLM's and deployments. -/
def trackedKinds : List String :=
  ["Subscription", "InstallPlan", "ClusterServiceVersion", "CatalogSource", "Deployment"]

/-- The view of the cluster after a step that started with `callsBefore` calls recorded. -/
def SimCluster.view (c : SimCluster) (kinds : List String) (callsBefore : Nat) : ClusterView :=
  let counts := kinds.foldl (fun acc k => if acc.any (·.1 == k) then acc else
    acc ++ [(k, (c.state.objects.keys.filter (·.kind == k)).length)]) []
  { calls := c.state.calls.drop callsBefore, pods := c.state.pods.size,
    objects := counts.filter (·.2 != 0) }

end OlmProvision
