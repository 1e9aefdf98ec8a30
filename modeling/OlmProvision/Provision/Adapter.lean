import OlmProvision.Model.Handle
import OlmProvision.Provision.FailFast
import OlmProvision.Model.Descriptor

/-
What the generic lifecycle needs to know about one product: the resources that make up a
deployment, how to tell that they are ready, and how the operator is subscribed.

A product has an id (used for configuration lookups), the namespace its operator and
resources live in, a primary workload resource, and auxiliary resources created after it in
order and deleted before it in reverse order. Everything else has a default: an auxiliary that
does not become ready only logs a warning, no environment is set on the operator, the
configured install plan approval applies, and fatal events are judged by the default policy.
-/
namespace OlmProvision

/-- A product resource together with the manifest it is created from. -/
structure ManagedResource where
  handle : Handle
  manifest : DynamicObject
deriving Inhabited

namespace ManagedResource

/-- The resource described by `manifest`. -/
def fromManifest (manifest : DynamicObject) (defaultNamespace : String)
    (replicasPointer : Option String) (readiness : Readiness) :
    Except ProvisionError ManagedResource :=
  match Handle.forManifest manifest defaultNamespace replicasPointer readiness with
  | .ok h => .ok ⟨h, manifest⟩
  | .error e => .error (.manifestModel e)

end ManagedResource

/-- A product, as the orchestrator provisions it. -/
structure ProductAdapter where
  /-- The product id used for configuration lookups. -/
  productId : String
  /-- The namespace of the operator and the product resources. -/
  namespaceName : String
  /-- The primary workload resource. -/
  primary : Except ProvisionError ManagedResource
  /-- The resources that belong to the primary, in creation order. -/
  auxiliaries : Except ProvisionError (List ManagedResource) := .ok []
  /-- Whether an auxiliary resource that does not become ready fails the deployment. -/
  auxiliaryReadinessRequired : Bool := false
  /-- Environment variables for the operator deployments, sorted by name. -/
  operatorEnv : List (String × String) := []
  /-- An override of the configured install plan approval. -/
  installPlanApproval : Option InstallPlanApproval := none
  /-- Which events abort the waits for the product's resources. -/
  failFastPolicy : FailFastPolicy := .default
deriving Inhabited

end OlmProvision
