import OlmProvision.Client.Platform
import OlmProvision.Model.Olm

/-
Typed access to OLM resources through a platform's generic calls.

An object is converted to its typed form by decoding its document form, and back by decoding
the typed form's document as a generic object. A conversion that fails is a client error
naming the typed model, so a platform answer that does not fit the model fails the call.
-/
namespace OlmProvision

/-- A typed OLM resource: its kind and its document forms. -/
structure TypedKind (α : Type) where
  kind : OlmKind
  decode : Input → Decoded α
  encode : α → Json

namespace TypedKind

/-- Subscriptions. -/
def subscription : TypedKind Subscription := ⟨.subscription, Subscription.decode, Subscription.toJson⟩

/-- Install plans. -/
def installPlan : TypedKind InstallPlan := ⟨.installPlan, InstallPlan.decode, InstallPlan.toJson⟩

/-- Cluster service versions. -/
def clusterServiceVersion : TypedKind ClusterServiceVersion :=
  ⟨.clusterServiceVersion, ClusterServiceVersion.decode, ClusterServiceVersion.toJson⟩

/-- Catalog sources. -/
def catalogSource : TypedKind CatalogSource := ⟨.catalogSource, CatalogSource.decode, CatalogSource.toJson⟩

/-- The typed form of a generic object. -/
def fromDynamic {α : Type} (k : TypedKind α) (o : DynamicObject) : Except ClientError α :=
  match k.decode (.json o.toJson) with
  | .ok v => .ok v
  | .error _ => .error (.serde k.kind.typeName)

/-- The generic object of a typed form. -/
def toDynamic {α : Type} (k : TypedKind α) (v : α) : Except ClientError DynamicObject :=
  match DynamicObject.decode (.json (k.encode v)) with
  | .ok o => .ok o
  | .error _ => .error (.serde k.kind.typeName)

end TypedKind

namespace Platform

variable {σ : Type} (p : Platform σ)

/-- A typed object, `none` when it does not exist. -/
def getTyped {α : Type} (k : TypedKind α) (ns name : String) :
    Step σ (Except ClientError (Option α)) := do
  match ← p.get k.kind.resource ns name with
  | .error e => return .error e
  | .ok none => return .ok none
  | .ok (some o) => return (k.fromDynamic o).map some

/-- The typed objects of a namespace. -/
def listTyped {α : Type} (k : TypedKind α) (ns : String) :
    Step σ (Except ClientError (List α)) := do
  match ← p.list k.kind.resource ns none with
  | .error e => return .error e
  | .ok os => return os.mapM k.fromDynamic

/-- Create a typed object; answers the created object in typed form. -/
def createTyped {α : Type} (k : TypedKind α) (ns : String) (v : α) :
    Step σ (Except ClientError α) := do
  match k.toDynamic v with
  | .error e => return .error e
  | .ok o =>
    match ← p.create k.kind.resource ns o with
    | .error e => return .error e
    | .ok created => return k.fromDynamic created

/-- Request deletion of a typed object; answers whether it existed. -/
def deleteTyped {α : Type} (k : TypedKind α) (ns name : String) : Call σ Bool :=
  p.delete k.kind.resource ns name

end Platform

end OlmProvision
