import OlmProvision.Model.Object
import OlmProvision.Model.Descriptor

/-
The Operator Lifecycle Manager resources, in the typed form the provisioner reads.

Only the fields the provisioner reads are kept, so a typed object must never be written back
to the cluster: edits go through the generic object, which keeps every field OLM set. A typed
object has metadata, a spec and, except for catalog sources, an optional status. Decoding
refuses a missing spec or required field and a field of the wrong type, and skips unknown
fields; encoding writes the kind's fixed `apiVersion` and `kind`, leaves out unset optional
fields, and always writes the fields of an install plan's spec.

The helpers at the end read and edit the operator deployments of an install strategy: the
containers of a deployment are at `/spec/template/spec/containers`, both in a `Deployment`
object and in an install strategy's entry.
-/
namespace OlmProvision

/-- The API group of OLM. -/
def olmGroup : String := "operators.coreos.com"

/-- The API version of OLM's resources. -/
def olmVersion : String := "v1alpha1"

/-- The kinds of OLM resources the provisioner reads. -/
inductive OlmKind where
  | subscription
  | installPlan
  | clusterServiceVersion
  | catalogSource
deriving DecidableEq, Repr, Inhabited

namespace OlmKind

/-- The kinds by name. -/
def table : List (String × OlmKind) :=
  [("Subscription", .subscription), ("InstallPlan", .installPlan),
   ("ClusterServiceVersion", .clusterServiceVersion), ("CatalogSource", .catalogSource)]

/-- The name of a kind. -/
def name : OlmKind → String
  | .subscription => "Subscription"
  | .installPlan => "InstallPlan"
  | .clusterServiceVersion => "ClusterServiceVersion"
  | .catalogSource => "CatalogSource"

/-- The API resource of a kind. -/
def resource (k : OlmKind) : ApiResource := ApiResource.ofKind olmGroup olmVersion k.name

/-- The path of the typed model, as conversion errors name it. -/
def typeName (k : OlmKind) : String := "olmsys_model::olm::" ++ k.name

end OlmKind

/-- A plain environment variable. -/
structure EnvVar where
  name : String
  value : String
deriving DecidableEq, Repr, Inhabited

namespace EnvVar

/-- Decode a variable; the value defaults to empty. -/
def decode (i : Input) : Decoded EnvVar := do
  let ms ← i.members ["name", "value"]
  return ⟨← ms.required "name" Input.string, ← ms.withDefault "value" "" Input.string⟩

/-- The document form. -/
def toJson (v : EnvVar) : Json := Json.object [("name", .str v.name), ("value", .str v.value)]

end EnvVar

/-- A subscription's spec. -/
structure SubscriptionSpec where
  name : String
  source : String
  sourceNamespace : String
  channel : Option String := none
  installPlanApproval : Option InstallPlanApproval := none
  startingCsv : Option String := none
  config : Option (List EnvVar) := none
deriving Inhabited

/-- A reference to another object. -/
structure ObjectReference where
  name : String
  namespaceName : Option String
deriving Inhabited

/-- A subscription's status. -/
structure SubscriptionStatus where
  currentCsv : Option String := none
  installedCsv : Option String := none
  installPlanRef : Option ObjectReference := none
  state : Option String := none
deriving Inhabited

/-- A subscription to an operator package. -/
structure Subscription where
  metadata : ObjectMeta
  spec : SubscriptionSpec
  status : Option SubscriptionStatus
deriving Inhabited

/-- An install plan's spec. -/
structure InstallPlanSpec where
  approval : InstallPlanApproval
  approved : Bool
  clusterServiceVersionNames : List String
deriving Inhabited

/-- An install plan. -/
structure InstallPlan where
  metadata : ObjectMeta
  spec : InstallPlanSpec
  phase : Option (Option String)
deriving Inhabited

/-- A cluster service version's spec. -/
structure CsvSpec where
  displayName : Option String := none
  version : Option String := none
  install : Option Json := none
deriving Inhabited

/-- A cluster service version's status. -/
structure CsvStatus where
  phase : Option String := none
  reason : Option String := none
  message : Option String := none
deriving Inhabited

/-- An installed operator version with the deployments that run it. -/
structure ClusterServiceVersion where
  metadata : ObjectMeta
  spec : CsvSpec
  status : Option CsvStatus
deriving Inhabited

/-- A catalog source's spec. -/
structure CatalogSourceSpec where
  sourceType : Option String := none
  image : Option String := none
  displayName : Option String := none
deriving Inhabited

/-- A registry of operator packages. -/
structure CatalogSource where
  metadata : ObjectMeta
  spec : CatalogSourceSpec
deriving Inhabited

namespace TypedObject

/-- The root members of a typed object: metadata and spec required, status optional. -/
def root {S T : Type} (i : Input) (spec : Input → Decoded S) (status : Input → Decoded T) :
    Decoded (ObjectMeta × S × Option T) := do
  let ms ← i.members ["metadata", "spec", "status"]
  let m ← ms.required "metadata" ObjectMeta.decode
  let s ← ms.required "spec" spec
  let st ← ms.optional "status" status
  return (m, s, st)

/-- The document form of a typed object. -/
def json (k : OlmKind) (m : ObjectMeta) (spec : Json) (status : Option Json) : Json :=
  Json.object ([("apiVersion", Json.str (olmGroup ++ "/" ++ olmVersion)), ("kind", .str k.name),
    ("metadata", m.toJson), ("spec", spec)] ++
    (match status with
     | some s => [("status", s)]
     | none => []))

/-- The members that are set. -/
def present (fields : List (String × Option Json)) : Json :=
  Json.object (fields.filterMap (fun (k, v) => v.map (fun j => (k, j))))

end TypedObject

namespace Subscription

/-- Decode the spec. -/
def decodeSpec (i : Input) : Decoded SubscriptionSpec := do
  let ms ← i.members ["name", "source", "sourceNamespace", "channel", "installPlanApproval",
    "startingCSV", "config"]
  let config ← ms.optional "config" (fun c => do
    let cm ← c.members ["env"]
    cm.withDefault "env" [] (Input.list EnvVar.decode))
  return {
    name := ← ms.required "name" Input.string
    source := ← ms.required "source" Input.string
    sourceNamespace := ← ms.required "sourceNamespace" Input.string
    channel := ← ms.optional "channel" Input.string
    installPlanApproval := ← ms.optional "installPlanApproval" (decodeVariant InstallPlanApproval.table)
    startingCsv := ← ms.optional "startingCSV" Input.string
    config := config }

/-- Decode an object reference. -/
def decodeReference (i : Input) : Decoded ObjectReference := do
  let ms ← i.members ["name", "namespace"]
  return ⟨← ms.required "name" Input.string, ← ms.optional "namespace" Input.string⟩

/-- Decode the status. -/
def decodeStatus (i : Input) : Decoded SubscriptionStatus := do
  let ms ← i.members ["currentCSV", "installedCSV", "installPlanRef", "state"]
  return {
    currentCsv := ← ms.optional "currentCSV" Input.string
    installedCsv := ← ms.optional "installedCSV" Input.string
    installPlanRef := ← ms.optional "installPlanRef" decodeReference
    state := ← ms.optional "state" Input.string }

/-- Decode a subscription. -/
def decode (i : Input) : Decoded Subscription := do
  let (m, s, st) ← TypedObject.root i decodeSpec decodeStatus
  return ⟨m, s, st⟩

/-- The document form. -/
def toJson (o : Subscription) : Json :=
  let s := o.spec
  let spec := TypedObject.present [("name", some (.str s.name)), ("source", some (.str s.source)),
    ("sourceNamespace", some (.str s.sourceNamespace)), ("channel", s.channel.map .str),
    ("installPlanApproval", s.installPlanApproval.map (fun a => .str a.name)),
    ("startingCSV", s.startingCsv.map .str),
    ("config", s.config.map (fun env =>
      if env.isEmpty then Json.object [] else Json.object [("env", .arr (env.map EnvVar.toJson))]))]
  let status := o.status.map (fun st => TypedObject.present [
    ("currentCSV", st.currentCsv.map .str), ("installedCSV", st.installedCsv.map .str),
    ("installPlanRef", st.installPlanRef.map (fun r => TypedObject.present
      [("name", some (.str r.name)), ("namespace", r.namespaceName.map .str)])),
    ("state", st.state.map .str)])
  TypedObject.json .subscription o.metadata spec status

/-- The CSV OLM is working towards; with manual approval a pending upgrade. -/
def currentCsv (o : Subscription) : Option String := o.status.bind (·.currentCsv)

/-- The CSV OLM last installed. -/
def installedCsv (o : Subscription) : Option String := o.status.bind (·.installedCsv)

/-- Every CSV the subscription refers to, installed first, without duplicates. -/
def csvNames (o : Subscription) : List String :=
  let candidates := o.installedCsv.toList ++ o.currentCsv.toList
  candidates.foldl (fun acc n => if acc.contains n then acc else acc ++ [n]) []

/-- The name of the install plan the subscription refers to. -/
def installPlanName (o : Subscription) : Option String :=
  (o.status.bind (·.installPlanRef)).map (·.name)

end Subscription

namespace InstallPlan

/-- Decode the spec; every field has a default. -/
def decodeSpec (i : Input) : Decoded InstallPlanSpec := do
  let ms ← i.members ["approval", "approved", "clusterServiceVersionNames"]
  return {
    approval := ← ms.withDefault "approval" .automatic (decodeVariant InstallPlanApproval.table)
    approved := ← ms.withDefault "approved" false Input.bool
    clusterServiceVersionNames := ← ms.withDefault "clusterServiceVersionNames" []
      (Input.list Input.string) }

/-- Decode the status. -/
def decodeStatus (i : Input) : Decoded (Option String) := do
  let ms ← i.members ["phase"]
  ms.optional "phase" Input.string

/-- Decode an install plan. -/
def decode (i : Input) : Decoded InstallPlan := do
  let (m, s, st) ← TypedObject.root i decodeSpec decodeStatus
  return ⟨m, s, st⟩

/-- The document form. -/
def toJson (o : InstallPlan) : Json :=
  let spec := Json.object [("approval", .str o.spec.approval.name),
    ("approved", .bool o.spec.approved),
    ("clusterServiceVersionNames", Json.strings o.spec.clusterServiceVersionNames)]
  let status := o.phase.map (fun p => TypedObject.present [("phase", p.map .str)])
  TypedObject.json .installPlan o.metadata spec status

end InstallPlan

namespace ClusterServiceVersion

/-- Decode the spec. -/
def decodeSpec (i : Input) : Decoded CsvSpec := do
  let ms ← i.members ["displayName", "version", "install"]
  return {
    displayName := ← ms.optional "displayName" Input.string
    version := ← ms.optional "version" Input.string
    install := ← ms.optional "install" Input.toJson }

/-- Decode the status. -/
def decodeStatus (i : Input) : Decoded CsvStatus := do
  let ms ← i.members ["phase", "reason", "message"]
  return {
    phase := ← ms.optional "phase" Input.string
    reason := ← ms.optional "reason" Input.string
    message := ← ms.optional "message" Input.string }

/-- Decode a cluster service version. -/
def decode (i : Input) : Decoded ClusterServiceVersion := do
  let (m, s, st) ← TypedObject.root i decodeSpec decodeStatus
  return ⟨m, s, st⟩

/-- The document form. -/
def toJson (o : ClusterServiceVersion) : Json :=
  let spec := TypedObject.present [("displayName", o.spec.displayName.map .str),
    ("version", o.spec.version.map .str), ("install", o.spec.install)]
  let status := o.status.map (fun st => TypedObject.present [("phase", st.phase.map .str),
    ("reason", st.reason.map .str), ("message", st.message.map .str)])
  TypedObject.json .clusterServiceVersion o.metadata spec status

/-- The phase of the CSV. -/
def phase (o : ClusterServiceVersion) : Option String := o.status.bind (·.phase)

/-- Whether the CSV has succeeded. -/
def isSucceeded (o : ClusterServiceVersion) : Bool := o.phase == some "Succeeded"

/-- Whether the CSV has failed. -/
def isFailed (o : ClusterServiceVersion) : Bool := o.phase == some "Failed"

/-- The deployments of the install strategy. -/
def deployments (o : ClusterServiceVersion) : List Json :=
  ((o.spec.install.bind (·.pointer "/spec/deployments")).bind Json.asArray?).getD []

/-- The names of the operator deployments OLM creates for the CSV. -/
def deploymentNames (o : ClusterServiceVersion) : List String :=
  o.deployments.filterMap (fun d => (d.get? "name").bind Json.asString?)

end ClusterServiceVersion

namespace CatalogSource

/-- Decode the spec. -/
def decodeSpec (i : Input) : Decoded CatalogSourceSpec := do
  let ms ← i.members ["sourceType", "image", "displayName"]
  return {
    sourceType := ← ms.optional "sourceType" Input.string
    image := ← ms.optional "image" Input.string
    displayName := ← ms.optional "displayName" Input.string }

/-- Decode a catalog source; it has no status. -/
def decode (i : Input) : Decoded CatalogSource := do
  let ms ← i.members ["metadata", "spec"]
  return ⟨← ms.required "metadata" ObjectMeta.decode, ← ms.required "spec" decodeSpec⟩

/-- The document form. -/
def toJson (o : CatalogSource) : Json :=
  TypedObject.json .catalogSource o.metadata (TypedObject.present [
    ("sourceType", o.spec.sourceType.map .str), ("image", o.spec.image.map .str),
    ("displayName", o.spec.displayName.map .str)]) none

end CatalogSource

/-- Decode the typed form of `kind` and encode it again. -/
def OlmKind.roundTrip (kind : OlmKind) (j : Json) : Decoded Json :=
  match kind with
  | .subscription => (Subscription.decode (.json j)).map Subscription.toJson
  | .installPlan => (InstallPlan.decode (.json j)).map InstallPlan.toJson
  | .clusterServiceVersion =>
    (ClusterServiceVersion.decode (.json j)).map ClusterServiceVersion.toJson
  | .catalogSource => (CatalogSource.decode (.json j)).map CatalogSource.toJson

namespace Deployments

/-- The containers of a deployment, or of a CSV deployment entry. -/
def containers (deployment : Json) : List Json :=
  ((deployment.pointer "/spec/template/spec/containers").bind Json.asArray?).getD []

/-- Whether an environment list holds `name=value`. -/
def envHas (env : List Json) (name value : String) : Bool :=
  env.any (fun var => (var.get? "name").bind Json.asString? == some name &&
    (var.get? "value").bind Json.asString? == some value)

/-- Whether every container of every deployment carries `name=value`; no containers means
no variable. -/
def haveEnv (deployments : List Json) (name value : String) : Bool :=
  let cs := deployments.flatMap containers
  !cs.isEmpty && cs.all (fun c =>
    match (c.get? "env").bind Json.asArray? with
    | some env => envHas env name value
    | none => false)

/-- Set `name=value` on one container: add an empty `env` when missing, and replace a variable
of the same name when `env` is a list. Returns the container and whether it was changed. -/
def setContainerEnv (name value : String) (container : Json) : Json × Bool :=
  match container with
  | .obj fs =>
    let fs := match Fields.get? fs "env" with
      | some _ => fs
      | none => Fields.insert fs "env" (.arr [])
    match Fields.get? fs "env" with
    | some (.arr env) =>
      let env := env.filter (fun var => (var.get? "name").bind Json.asString? != some name)
      let env := env ++ [Json.object [("name", .str name), ("value", .str value)]]
      (.obj (Fields.insert fs "env" (.arr env)), true)
    | _ => (.obj fs, false)
  | other => (other, false)

/-- Set `name=value` on every container of one deployment. -/
def setDeploymentEnv (name value : String) (deployment : Json) : Json × Bool :=
  match deployment.pointer "/spec/template/spec/containers" with
  | some (.arr cs) =>
    let results := cs.map (setContainerEnv name value)
    let modified := results.any (·.2)
    match deployment.setAt "/spec/template/spec/containers" (.arr (results.map (·.1))) with
    | some d => (d, modified)
    | none => (deployment, modified)
  | _ => (deployment, false)

/-- Set `name=value` on every container of every deployment, replacing a variable of the same
name. Returns the deployments and whether any container was there to modify. -/
def setEnv (deployments : List Json) (name value : String) : List Json × Bool :=
  let results := deployments.map (setDeploymentEnv name value)
  (results.map (·.1), results.any (·.2))

end Deployments

end OlmProvision
