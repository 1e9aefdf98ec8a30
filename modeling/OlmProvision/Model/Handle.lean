import OlmProvision.Model.Readiness
import OlmProvision.Model.Error
import OlmProvision.Yaml.Reader

/-
Handles of product custom resources.

A handle names one custom resource the provisioner manages: its API resource, name and
namespace, the desired replica count and where the count lives in the resource, its
readiness, and whether the API server has acknowledged its creation. A handle built for a
manifest takes the resource from the manifest's `apiVersion` and `kind` (the group is the part
before the first `/`, empty for the core group), the manifest's namespace or else a default
one, and the replica count at the pointer when it is an integer that fits 32 bits. A handle
without a replica count expects one pod, and a negative count expects none.
-/
namespace OlmProvision

/-- The default location of the replica count in a product resource. -/
def defaultReplicasPointer : String := "/spec/replicas"

/-- One product resource managed by the provisioner. -/
structure Handle where
  resource : ApiResource
  name : String
  namespaceName : String
  desiredReplicas : Option Int
  replicasPointer : String
  readiness : Readiness
  created : Bool
deriving Inhabited

namespace Handle

/-- A handle for a named resource with the defaults: no replica count, the default pointer,
the object's existence as readiness, not created. -/
def new (resource : ApiResource) (ns name : String) : Handle :=
  { resource := resource, name := name, namespaceName := ns, desiredReplicas := none,
    replicasPointer := defaultReplicasPointer, readiness := .objectExists, created := false }

/-- The API resource of a manifest. -/
def resourceFor (manifest : DynamicObject) : Except ModelError ApiResource :=
  match manifest.types with
  | some t => .ok (ApiResource.ofApiVersion t.apiVersion t.kind)
  | none => .error (.manifestField "apiVersion/kind")

/-- The replica count at `pointer`, when it is an integer that fits 32 bits. -/
def replicasAt (data : Json) (pointer : String) : Option Int :=
  match data.pointer pointer with
  | some (.num n) =>
    match n.toI64? with
    | some r => if -2147483648 ≤ r ∧ r ≤ 2147483647 then some r else none
    | none => none
  | _ => none

/-- The handle describing `manifest`. -/
def forManifest (manifest : DynamicObject) (defaultNamespace : String)
    (replicasPointer : Option String) (readiness : Readiness) : Except ModelError Handle := do
  let resource ← resourceFor manifest
  let name ← match manifest.metadata.name with
    | some n => pure n
    | none => throw (.manifestField "metadata.name")
  let pointer := replicasPointer.getD defaultReplicasPointer
  return {
    resource := resource
    name := name
    namespaceName := manifest.metadata.namespaceName.getD defaultNamespace
    desiredReplicas := replicasAt manifest.data pointer
    replicasPointer := pointer
    readiness := readiness
    created := false }

/-- The kind of the resource. -/
def kind (h : Handle) : String := h.resource.kind

/-- The number of pods expected when the resource is ready. -/
def expectedPods (h : Handle) : Nat :=
  match h.desiredReplicas with
  | some r => r.toNat
  | none => 1

/-- Record that the resource exists in the cluster. -/
def markCreated (h : Handle) : Handle := { h with created := true }

/-- Record that a delete request for the resource was issued. -/
def markDeleted (h : Handle) : Handle := { h with created := false }

/-- The handle as a document. -/
def toJson (h : Handle) : Json :=
  Json.object [
    ("group", .str h.resource.group), ("version", .str h.resource.version),
    ("api_version", .str h.resource.apiVersion), ("kind", .str h.resource.kind),
    ("plural", .str h.resource.plural), ("name", .str h.name),
    ("namespace", .str h.namespaceName),
    ("desired_replicas", match h.desiredReplicas with
      | some r => Json.int r
      | none => .null),
    ("expected_pods", Json.nat h.expectedPods), ("replicas_pointer", .str h.replicasPointer),
    ("pod_selector", Json.ofOption h.readiness.podSelector), ("created", .bool h.created)]

end Handle

/-- Read a YAML (or JSON) document as an object. -/
def manifestFromYaml (text : String) : Except ModelError DynamicObject :=
  match Yaml.read text with
  | none => .error .manifestParse
  | some node =>
    match DynamicObject.decode (.yaml node) with
    | .ok o => .ok o
    | .error _ => .error .manifestParse

end OlmProvision
