import OlmProvision.Files.Tree
import OlmProvision.Provision.Adapter
import OlmProvision.Model.Descriptor
import OlmProvision.Text.Blank

/-
A product described by a YAML document, so that a product can be provisioned without writing
any code:

    product: kafka
    namespace: kafka-test
    replicas: 1
    operatorEnv:
      RELATED_IMAGE_KAFKA: quay.io/example/kafka:latest
    primary:
      replicasPointer: /spec/kafka/replicas
      readiness:
        condition:
          type: Ready
      manifest:
        apiVersion: kafka.strimzi.io/v1beta2
        kind: Kafka
        metadata:
          name: my-cluster
    auxiliaries:
      - manifest:
          apiVersion: kafka.strimzi.io/v1beta2
          kind: KafkaTopic
          metadata:
            name: my-topic

`product`, `namespace` and `primary` (with its `manifest`) are required; unknown fields are
skipped and a field written twice is refused. A manifest is accepted when its product and
namespace are not blank and its replica count is not negative. The replica count is written
into the primary manifest at its replica pointer when the primary is built, so a manifest
whose pointer runs through something that is not an object cannot be built.
-/
namespace OlmProvision

/-- Which events are fatal for a product. -/
structure FailFastSettings where
  /-- Only events of objects whose name starts with this prefix count. -/
  appPrefix : Option String := none
  extraReasons : List String := []
  ignoredReasons : List String := []
deriving Inhabited

/-- One product resource of a manifest. -/
structure ResourceTemplate where
  replicasPointer : Option String
  readiness : Readiness
  manifest : DynamicObject
deriving Inhabited

/-- A product manifest. -/
structure ProductManifest where
  product : String
  namespaceName : String
  replicas : Option Int
  installPlanApproval : Option InstallPlanApproval
  /-- Sorted by name. -/
  operatorEnv : List (String × String)
  auxiliaryReadinessRequired : Bool
  failFast : FailFastSettings
  primary : ResourceTemplate
  auxiliaries : List ResourceTemplate
deriving Inhabited

namespace FailFastSettings

/-- Decode the settings. -/
def decode (i : Input) : Decoded FailFastSettings := do
  let ms ← i.members ["appPrefix", "extraReasons", "ignoredReasons"]
  return {
    appPrefix := ← ms.optional "appPrefix" Input.string
    extraReasons := ← ms.withDefault "extraReasons" [] (Input.list Input.string)
    ignoredReasons := ← ms.withDefault "ignoredReasons" [] (Input.list Input.string) }

/-- The policy: the default one, scoped to the prefix, with the extra reasons added and the
ignored ones removed. -/
def policy (s : FailFastSettings) : FailFastPolicy :=
  let p := match s.appPrefix with
    | some pfx => FailFastPolicy.default.forApp pfx
    | none => FailFastPolicy.default
  let p := s.extraReasons.foldl FailFastPolicy.withReason p
  s.ignoredReasons.foldl FailFastPolicy.withoutReason p

end FailFastSettings

namespace ResourceTemplate

/-- Decode a resource template. -/
def decode (i : Input) : Decoded ResourceTemplate := do
  let ms ← i.members ["replicasPointer", "readiness", "manifest"]
  return {
    replicasPointer := ← ms.optional "replicasPointer" Input.string
    readiness := ← ms.withDefault "readiness" .objectExists Readiness.read
    manifest := ← ms.required "manifest" DynamicObject.decode }

end ResourceTemplate

/-- A string table sorted by key, later entries replacing earlier ones. -/
def sortedTable (pairs : List (String × String)) : List (String × String) :=
  pairs.mergeSort (fun a b => decide (a.1 ≤ b.1))

namespace ProductManifest

/-- Decode a manifest. -/
def decode (i : Input) : Decoded ProductManifest := do
  let ms ← i.members ["product", "namespace", "replicas", "installPlanApproval", "operatorEnv",
    "auxiliaryReadinessRequired", "failFast", "primary", "auxiliaries"]
  return {
    product := ← ms.required "product" Input.string
    namespaceName := ← ms.required "namespace" Input.string
    replicas := ← ms.optional "replicas" Input.i32
    installPlanApproval := ← ms.optional "installPlanApproval"
      (decodeVariant InstallPlanApproval.table)
    operatorEnv := sortedTable (← ms.withDefault "operatorEnv" [] Input.stringMap)
    auxiliaryReadinessRequired := ← ms.withDefault "auxiliaryReadinessRequired" false Input.bool
    failFast := ← ms.withDefault "failFast" {} FailFastSettings.decode
    primary := ← ms.required "primary" ResourceTemplate.decode
    auxiliaries := ← ms.withDefault "auxiliaries" [] (Input.list ResourceTemplate.decode) }

/-- Accept a manifest whose product and namespace are not blank and whose replica count is
not negative. -/
def validate (m : ProductManifest) : Except ProvisionError ProductManifest := do
  if Text.isBlankText m.product then throw (.manifest "'product' must not be empty")
  if Text.isBlankText m.namespaceName then throw (.manifest "'namespace' must not be empty")
  match m.replicas with
  | some r =>
    if r < 0 then throw (.manifest ("'replicas' must not be negative, got " ++ toString r))
  | none => pure ()
  return m

/-- Read and accept a manifest from YAML text. -/
def fromYaml (text : String) : Except ProvisionError ProductManifest :=
  match Yaml.read text with
  | none => .error .manifestParse
  | some node =>
    match decode (.yaml node) with
    | .error _ => .error .manifestParse
    | .ok m => validate m

/-- Read and accept the manifest in the file at `path`. -/
def fromPath (files : FileTree) (path : String) : Except ProvisionError ProductManifest :=
  match files.read path with
  | .error e => .error (.manifestRead path e.message)
  | .ok text => fromYaml text

/-- The resource of a template, with `replicas` written at its replica pointer when given. -/
def managed (m : ProductManifest) (t : ResourceTemplate) (replicas : Option Int) :
    Except ProvisionError ManagedResource := do
  let manifest ← match replicas with
    | none => pure t.manifest
    | some r =>
      let pointer := t.replicasPointer.getD defaultReplicasPointer
      match t.manifest.data.setAt pointer (Json.int r) with
      | some data => pure { t.manifest with data := data }
      | none => throw (.manifest ("cannot set replicas at '" ++ pointer ++ "'"))
  ManagedResource.fromManifest manifest m.namespaceName t.replicasPointer t.readiness

/-- The primary resource. -/
def primaryResource (m : ProductManifest) : Except ProvisionError ManagedResource :=
  m.managed m.primary m.replicas

/-- The auxiliary resources, in order; the first that cannot be built is the error. -/
def auxiliaryResources (m : ProductManifest) : Except ProvisionError (List ManagedResource) :=
  m.auxiliaries.mapM (fun t => m.managed t none)

/-- The product the manifest describes. -/
def adapter (m : ProductManifest) : ProductAdapter :=
  { productId := m.product, namespaceName := m.namespaceName, primary := m.primaryResource,
    auxiliaries := m.auxiliaryResources, auxiliaryReadinessRequired := m.auxiliaryReadinessRequired,
    operatorEnv := m.operatorEnv, installPlanApproval := m.installPlanApproval,
    failFastPolicy := m.failFast.policy }

/-- The product with only its id, namespace and primary resource taken from the manifest, and
every other setting at its default. -/
def plainAdapter (m : ProductManifest) : ProductAdapter :=
  { productId := m.product, namespaceName := m.namespaceName, primary := m.primaryResource }

end ProductManifest

end OlmProvision
