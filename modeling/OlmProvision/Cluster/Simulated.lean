import OlmProvision.Client.Platform
import OlmProvision.Cluster.Table
import OlmProvision.Model.Olm
import OlmProvision.Text.Blank

/-
An in-memory cluster that imitates just enough of OLM and of a workload operator to drive the
provisioner without Kubernetes.

- Creating a `Subscription` creates an `InstallPlan` named `install-<subscription>` for the CSV
  `<package>.v1.0.0`. With automatic approval the CSV is installed right away, otherwise once
  the plan is patched to `approved: true`. The subscription's `currentCSV` is set when the plan
  is created, `installedCSV` once the CSV is installed.
- Installing a CSV renders its operator `Deployment`s, with the subscription's `config.env`
  applied to them as OLM does. Replacing the CSV renders them again, and deleting it removes
  them. A CSV installed in the `Failed` phase also records an `InstallCheckFailed` warning.
- With a pending upgrade, installing a `v1.0.0` CSV offers `<package>.v1.1.0` through a second
  plan, `<plan>-2`, that waits for approval.
- Creating any other object, or replacing one outside the OLM groups, that has an unsigned
  integer `spec.replicas` reconciles that many `Running` pods `<name>-<i>` labeled
  `app.kubernetes.io/instance=<name>` and sets a `Ready` condition. For a kind whose image pulls
  fail, an `ErrImagePull` warning is recorded instead.
- Deleting such an object, or scaling it down, leaves its pods terminating for a set number of
  pod queries; every pod query counts one down for every terminating pod.

Every mutating call is recorded as `<verb> <Kind> <name>`; a refused `create` is not. Every
write of an object stamps it with the next resource version. Objects are kept sorted by kind,
namespace and name, pods by namespace and name, and events in the order they were recorded.
Events and deletion times the cluster produces itself carry the wall-clock time.
-/
namespace OlmProvision

/-- The label that ties workload pods to the object that owns them. -/
def appInstanceLabel : String := "app.kubernetes.io/instance"

/-- The version of every CSV a subscription installs first. -/
def firstCsvVersion : String := "v1.0.0"

/-- The version a pending upgrade offers. -/
def upgradeCsvVersion : String := "v1.1.0"

/-- The API resource of deployments. -/
def deploymentResource : ApiResource :=
  { group := "apps", version := "v1", kind := "Deployment", plural := "deployments" }

/-- A pod, with the pod queries left until it disappears if it is terminating. -/
structure SimPod where
  pod : Pod
  terminatingFor : Option Nat
deriving Inhabited

/-- An install that waits for its plan to be approved. -/
structure PendingInstall where
  subscription : String
  planName : String
  csvName : String
  package : String
  env : List EnvVar
deriving Inhabited

/-- How the cluster behaves. -/
structure SimSettings where
  /-- Whether OLM applies a subscription's `config.env` to the operator deployments. -/
  propagateEnv : Bool := true
  /-- Whether a newer CSV waits for approval once the first one is installed. -/
  pendingUpgrade : Bool := false
  /-- The phase installed CSVs stay in. -/
  csvPhase : String := "Succeeded"
  /-- The pod queries a deleted pod stays terminating for. -/
  podTerminationPolls : Nat := 0
  /-- Kinds whose pods never start because their images cannot be pulled. -/
  failingKinds : List String := []
deriving Inhabited

/-- What the cluster holds. -/
structure SimState where
  objects : Table ObjectKey DynamicObject := .empty
  pods : Table Place SimPod := .empty
  /-- Oldest first. -/
  events : List ClusterEvent := []
  /-- Oldest first. -/
  calls : List String := []
  pending : Table Place PendingInstall := .empty
  /-- The env OLM injects into the operator deployments of each CSV. -/
  operatorEnv : Table Place (List EnvVar) := .empty
  version : Nat := 0
deriving Inhabited

/-- A simulated cluster. -/
structure SimCluster where
  settings : SimSettings
  state : SimState
deriving Inhabited

/-- The storage key of an object: its own kind, namespace and name. -/
def DynamicObject.key (o : DynamicObject) : ObjectKey :=
  ⟨o.kind, o.namespaceName?.getD "", o.name⟩

/-- The value of label `key` of `o`. -/
def DynamicObject.label? (o : DynamicObject) (key : String) : Option String := o.metadata.label? key

/-- The text after the last `.v` of a CSV name, or the whole name. -/
def csvVersionOf (csvName : String) : String :=
  ((csvName.splitOn ".v").getLast?).getD csvName

/-- The number ending a pod name after its last `-`, or zero. -/
def podIndex (podName : String) : Nat :=
  -- the characters after the last `-`, or the whole name
  let last := (podName.toList.reverse.takeWhile (· != '-')).reverse
  let digits := if last.head? = some '+' then last.tail else last
  if !digits.isEmpty && digits.all Char.isDigit && digits.length ≤ 20 then
    let n := (String.ofList digits).toNat!
    if n ≤ Number.u64Max then n else 0
  else 0

/-- Whether a pod's labels match a selector: comma-separated terms, blank ones skipped, each
`key=value` (both trimmed) or a bare key that must be present. -/
def selectorMatches (labels : List (String × String)) (selector : String) : Bool :=
  let terms := (selector.splitOn ",").filter (fun t => !Text.isBlankText t)
  terms.all (fun term =>
    match term.splitOn "=" with
    | [] => false
    | [key] => labels.any (fun l => l.1 == Text.trim key)
    | key :: rest =>
      let value := "=".intercalate rest
      (labels.find? (fun l => l.1 == Text.trim key)).map Prod.snd == some (Text.trim value))

namespace SimState

/-- Store an object under `key`, stamping it with the next resource version. -/
def store (s : SimState) (key : ObjectKey) (o : DynamicObject) : SimState :=
  let version := s.version + 1
  let o := { o with metadata := { o.metadata with resourceVersion := some (toString version) } }
  { s with version := version, objects := s.objects.put key o }

/-- Record a mutating call. -/
def record (s : SimState) (call : String) : SimState := { s with calls := s.calls ++ [call] }

/-- Record an event. -/
def pushEvent (s : SimState) (e : ClusterEvent) : SimState := { s with events := s.events ++ [e] }

/-- Change the data of a stored object, if it is there. -/
def editData (s : SimState) (key : ObjectKey) (f : Json → Json) : SimState :=
  { s with objects := s.objects.modify key (fun o => { o with data := f o.data }) }

/-- The operator deployments of a CSV, written from its install strategy plus the env OLM
injects. -/
def renderOperator (s : SimState) (ns csvName : String) : SimState :=
  match (s.objects.get? ⟨"ClusterServiceVersion", ns, csvName⟩).bind
      (fun csv => (csv.data.pointer "/spec/install/spec/deployments").bind Json.asArray?) with
  | none => s
  | some deployments =>
    let env := (s.operatorEnv.get? ⟨ns, csvName⟩).getD []
    deployments.foldl (fun s entry =>
      let name := ((entry.get? "name").bind Json.asString?).getD ""
      let data := Json.object [("spec", (entry.get? "spec").getD .null)]
      let data := env.foldl (fun d var => (Deployments.setDeploymentEnv var.name var.value d).1) data
      let deployment : DynamicObject := {
        types := some ⟨deploymentResource.apiVersion, deploymentResource.kind⟩
        metadata := { name := some name, namespaceName := some ns,
                      labels := some [("olm.owner", csvName)] }
        data := data }
      s.store deployment.key deployment) s

/-- Remove the operator deployments of a deleted CSV. -/
def removeOperator (s : SimState) (ns csvName : String) : SimState :=
  { s with
    objects := s.objects.filter (fun k o =>
      !(k.kind == "Deployment" && k.namespaceName == ns && o.label? "olm.owner" == some csvName))
    operatorEnv := s.operatorEnv.erase ⟨ns, csvName⟩ }

/-- The typed CSV that an install creates. -/
def csvObject (ns : String) (p : PendingInstall) (phase : String) : DynamicObject :=
  let operator := p.package ++ "-operator"
  let install := Json.object [("strategy", .str "deployment"),
    ("spec", Json.object [("deployments", .arr [Json.object [("name", .str operator),
      ("spec", Json.object [("replicas", Json.nat 1),
        ("template", Json.object [("spec", Json.object [("serviceAccountName", .str operator),
          ("containers", .arr [Json.object [("name", .str "operator"),
            ("image", .str "quay.io/example/operator:latest")]])])])])]])])]
  let csv : ClusterServiceVersion := {
    metadata := { name := some p.csvName, namespaceName := some ns }
    spec := { displayName := some p.package, version := some (csvVersionOf p.csvName),
              install := some install }
    status := some { phase := some phase,
                     reason := some (if phase == "Failed" then "InstallCheckFailed"
                                     else "InstallSucceeded") } }
  let spec := (csv.toJson.get? "spec").getD (Json.object [])
  let spec := spec.set "installModes" (.arr [
    Json.object [("type", .str "OwnNamespace"), ("supported", .bool true)],
    Json.object [("type", .str "AllNamespaces"), ("supported", .bool false)]])
  let spec := spec.set "customresourcedefinitions" (Json.object [("owned", .arr [
    Json.object [("name", .str "brokers.example.com"), ("version", .str "v1"),
      ("kind", .str "Broker")]])])
  let spec := spec.set "relatedImages" (.arr [
    Json.object [("name", .str "broker"), ("image", .str "quay.io/example/broker:latest")]])
  { types := some ⟨olmGroup ++ "/" ++ olmVersion, "ClusterServiceVersion"⟩
    metadata := csv.metadata
    data := Json.object [("spec", spec),
      ("status", (csv.toJson.get? "status").getD .null)] }

/-- Install the CSV of `p` in `phase`. -/
def installCsv (s : SimState) (ns : String) (p : PendingInstall) (phase : String)
    (now : Timestamp) : SimState :=
  let csv := csvObject ns p phase
  let s := s.store csv.key csv
  let s := { s with operatorEnv := s.operatorEnv.put ⟨ns, p.csvName⟩ p.env }
  let s := s.renderOperator ns p.csvName
  if phase == "Failed" then
    s.pushEvent {
      id := p.csvName ++ "-install-check", namespaceName := ns, timestamp := now,
      severity := .warning, reason := "InstallCheckFailed", message := "install timeout",
      involvedKind := "ClusterServiceVersion", involvedName := p.csvName }
  else s

/-- The names of the running pods of `inst` in `ns`, in order. -/
def podsOf (s : SimState) (ns inst : String) : List String :=
  (s.pods.entries.filter (fun e => e.1.namespaceName == ns && e.2.terminatingFor.isNone &&
    (e.2.pod.labels.find? (fun l => l.1 == appInstanceLabel)).map Prod.snd == some inst)).map
    (fun e => e.1.name)

/-- Start terminating a pod; with no polls it is gone at once. -/
def terminate (s : SimState) (ns podName : String) (polls : Nat) (now : Timestamp) : SimState :=
  if polls = 0 then { s with pods := s.pods.erase ⟨ns, podName⟩ }
  else
    { s with pods := s.pods.modify ⟨ns, podName⟩ (fun p =>
        { terminatingFor := some polls, pod := { p.pod with deletionTimestamp := some now } }) }

/-- Create the install plan of `p` and point the subscription at it. -/
def offerPlan (s : SimState) (ns : String) (p : PendingInstall) (approved : Bool) : SimState :=
  let plan : InstallPlan := {
    metadata := { name := some p.planName, namespaceName := some ns }
    spec := { approval := if approved then .automatic else .manual, approved := approved,
              clusterServiceVersionNames := [p.csvName] }
    phase := none }
  let planObject : DynamicObject := {
    types := some ⟨olmGroup ++ "/" ++ olmVersion, "InstallPlan"⟩
    metadata := plan.metadata
    data := Json.object [("spec", (plan.toJson.get? "spec").getD .null)] }
  let s := s.store planObject.key planObject
  s.editData ⟨"Subscription", ns, p.subscription⟩ (fun data =>
    let status := match data.get? "status" with
      | some (.obj fs) => Json.obj fs
      | _ => Json.object []
    let status := status.set "currentCSV" (.str p.csvName)
    let status := status.set "installPlanRef" (Json.object [("name", .str p.planName),
      ("namespace", .str ns)])
    let status := status.set "state" (.str (if approved then "AtLatestKnown" else "UpgradePending"))
    data.set "status" status)

/-- Keep `p` until its plan is approved. -/
def park (s : SimState) (ns : String) (p : PendingInstall) : SimState :=
  { s with pending := s.pending.put ⟨ns, p.planName⟩ p }

end SimState

namespace SimCluster

/-- Install the CSV of `p`, then offer the upgrade if one is pending. -/
def install (settings : SimSettings) (s : SimState) (ns : String) (p : PendingInstall)
    (now : Timestamp) : SimState :=
  let s := s.installCsv ns p settings.csvPhase now
  let s := s.editData ⟨"Subscription", ns, p.subscription⟩ (fun data =>
    let status := (data.get? "status").getD .null
    let status := status.set "installedCSV" (.str p.csvName)
    let status := status.set "state" (.str "AtLatestKnown")
    data.set "status" status)
  if settings.pendingUpgrade && p.csvName.endsWith firstCsvVersion then
    let upgrade : PendingInstall := { p with
      planName := p.planName ++ "-2", csvName := p.package ++ "." ++ upgradeCsvVersion }
    (s.offerPlan ns upgrade false).park ns upgrade
  else s

/-- Offer the install of `p`; approved installs happen right away. -/
def offer (settings : SimSettings) (s : SimState) (ns : String) (p : PendingInstall)
    (approved : Bool) (now : Timestamp) : SimState :=
  let s := s.offerPlan ns p approved
  if approved then install settings s ns p now else s.park ns p

/-- What OLM does about a new subscription. -/
def afterSubscriptionCreated (settings : SimSettings) (s : SimState) (key : ObjectKey)
    (now : Timestamp) : SimState :=
  match s.objects.get? key with
  | none => s
  | some o =>
    match Subscription.decode (.json o.toJson) with
    | .error _ => s
    | .ok sub =>
      let package := sub.spec.name
      let approved := sub.spec.installPlanApproval != some .manual
      let env := if settings.propagateEnv then sub.spec.config.getD [] else []
      let p : PendingInstall := {
        subscription := key.name, planName := "install-" ++ key.name,
        csvName := package ++ "." ++ firstCsvVersion, package := package, env := env }
      offer settings s key.namespaceName p approved now

/-- What OLM does about a patched install plan: install once it is approved. -/
def afterInstallPlanPatched (settings : SimSettings) (s : SimState) (key : ObjectKey)
    (now : Timestamp) : SimState :=
  let approved := ((s.objects.get? key).bind (fun o =>
    (o.data.pointer "/spec/approved").bind Json.asBool?)).getD false
  if !approved then s
  else
    match s.pending.get? ⟨key.namespaceName, key.name⟩ with
    | none => s
    | some p =>
      let s := { s with pending := s.pending.erase ⟨key.namespaceName, key.name⟩ }
      install settings s key.namespaceName p now

/-- A new running pod of `inst`. -/
def runningPod (ns inst podName : String) : SimPod :=
  { pod := { name := podName, namespaceName := ns, labels := [(appInstanceLabel, inst)],
             phase := some "Running", deletionTimestamp := none },
    terminatingFor := none }

/-- Make the pods of a workload match its `spec.replicas`. -/
def reconcileWorkload (settings : SimSettings) (s : SimState) (key : ObjectKey)
    (now : Timestamp) : SimState :=
  match (s.objects.get? key).bind (fun o => (o.data.pointer "/spec/replicas").bind Json.asU64?) with
  | none => s
  | some replicas =>
    let ns := key.namespaceName
    let name := key.name
    if settings.failingKinds.contains key.kind then
      s.pushEvent {
        id := name ++ "-pull-" ++ toString s.version, namespaceName := ns,
        timestamp := now, severity := .warning, reason := "ErrImagePull",
        message := "manifest unknown", involvedKind := "Pod", involvedName := name ++ "-0" }
    else
      let existing := s.podsOf ns name
      let s := (List.range replicas).foldl (fun s index =>
        let podName := name ++ "-" ++ toString index
        if existing.contains podName then s
        else { s with pods := s.pods.put ⟨ns, podName⟩ (runningPod ns name podName) }) s
      let s := existing.foldl (fun s podName =>
        if replicas ≤ podIndex podName then s.terminate ns podName settings.podTerminationPolls now
        else s) s
      s.editData key (fun data => data.set "status" (Json.object [
        ("conditions", .arr [Json.object [("type", .str "Ready"), ("status", .str "True")]]),
        ("replicas", Json.nat replicas)]))

/-- Create an object. -/
def create (c : SimCluster) (r : ApiResource) (ns : String) (o : DynamicObject) (now : Timestamp) :
    Except ClientError DynamicObject × SimCluster :=
  let name := o.name
  let key : ObjectKey := ⟨r.kind, ns, name⟩
  let s := c.state
  if s.objects.contains key then (.error (ClientError.conflict "create" r.kind), c)
  else
    let s := s.record ("create " ++ r.kind ++ " " ++ name)
    let s := s.store key { o with metadata := { o.metadata with namespaceName := some ns } }
    let s := if r.kind == "Subscription" then afterSubscriptionCreated c.settings s key now
      else if r.kind == "InstallPlan" || r.kind == "ClusterServiceVersion" ||
        r.kind == "CatalogSource" then s
      else reconcileWorkload c.settings s key now
    (.ok ((s.objects.get? key).getD o), { c with state := s })

/-- Replace an existing object; a resource version that is given must be the stored one. -/
def replace (c : SimCluster) (r : ApiResource) (ns : String) (o : DynamicObject) (now : Timestamp) :
    Except ClientError DynamicObject × SimCluster :=
  let name := o.name
  let key : ObjectKey := ⟨r.kind, ns, name⟩
  let s := c.state
  match s.objects.get? key with
  | none => (.error (ClientError.notFound "replace" r.kind), c)
  | some stored =>
    if o.metadata.resourceVersion.isSome && o.metadata.resourceVersion != stored.metadata.resourceVersion then
      (.error (ClientError.conflict "replace" r.kind), c)
    else
      let s := s.record ("replace " ++ r.kind ++ " " ++ name)
      let s := s.store key o
      let s := if r.kind == "ClusterServiceVersion" then s.renderOperator ns name
        else if !r.group.endsWith "coreos.com" then reconcileWorkload c.settings s key now
        else s
      (.ok ((s.objects.get? key).getD o), { c with state := s })

/-- An object, if it is there. -/
def get (c : SimCluster) (r : ApiResource) (ns name : String) : Option DynamicObject :=
  c.state.objects.get? ⟨r.kind, ns, name⟩

/-- The objects of a kind in a namespace, by name. -/
def list (c : SimCluster) (r : ApiResource) (ns : String) : List DynamicObject :=
  (c.state.objects.entries.filter (fun e => e.1.kind == r.kind && e.1.namespaceName == ns)).map
    Prod.snd

/-- Delete an object; its pods start terminating. Answers whether it was there. -/
def delete (c : SimCluster) (r : ApiResource) (ns name : String) (now : Timestamp) :
    Bool × SimCluster :=
  let key : ObjectKey := ⟨r.kind, ns, name⟩
  let s := c.state.record ("delete " ++ r.kind ++ " " ++ name)
  let removed := s.objects.contains key
  let s := { s with objects := s.objects.erase key }
  let s := if r.kind == "ClusterServiceVersion" then s.removeOperator ns name else s
  let s := (s.podsOf ns name).foldl (fun s podName =>
    s.terminate ns podName c.settings.podTerminationPolls now) s
  (removed, { c with state := s })

/-- Apply a JSON merge patch to the document form of an object. -/
def patchMerge (c : SimCluster) (r : ApiResource) (ns name : String) (patch : Json)
    (now : Timestamp) : Except ClientError DynamicObject × SimCluster :=
  let key : ObjectKey := ⟨r.kind, ns, name⟩
  match c.state.objects.get? key with
  | none => (.error (ClientError.notFound "patch" r.kind), c)
  | some stored =>
    let s := c.state.record ("patch " ++ r.kind ++ " " ++ name)
    let merged := Json.mergePatch stored.toJson patch
    let s := match DynamicObject.decode (.json merged) with
      | .ok o => s.store key o
      | .error _ => s
    let s := if r.kind == "InstallPlan" then afterInstallPlanPatched c.settings s key now else s
    (.ok ((s.objects.get? key).getD stored), { c with state := s })

/-- The pods of a namespace that match a selector. Counts one query down for every
terminating pod first. -/
def listPods (c : SimCluster) (ns selector : String) : List Pod × SimCluster :=
  let pods := c.state.pods.entries.filterMap (fun (k, p) =>
    match p.terminatingFor with
    | none => some (k, p)
    | some left => if left - 1 = 0 then none else some (k, { p with terminatingFor := some (left - 1) }))
  let s := { c.state with pods := ⟨pods⟩ }
  let found := (pods.filter (fun (k, p) => k.namespaceName == ns && selectorMatches p.pod.labels selector)).map
    (fun e => e.2.pod)
  (found, { c with state := s })

/-- The events of a namespace, in recorded order. -/
def listEvents (c : SimCluster) (ns : String) : List ClusterEvent :=
  c.state.events.filter (fun e => e.namespaceName == ns)

/-- Record an event. -/
def injectEvent (c : SimCluster) (e : ClusterEvent) : SimCluster :=
  { c with state := c.state.pushEvent e }

/-- Run a change that needs the wall-clock time. -/
def withNow {α : Type} (f : Timestamp → SimCluster → α × SimCluster) : Step SimCluster α :=
  modifyGet (fun w =>
    let (a, c) := f w.now w.cluster
    (a, { w with cluster := c }))

/-- The simulated cluster as a platform. Its calls never fail except where a platform's calls
must: a taken name, a missing object. -/
def platform : Platform SimCluster where
  create r ns o := withNow (fun now c => c.create r ns o now)
  replace r ns o := withNow (fun now c => c.replace r ns o now)
  get r ns name := withNow (fun _ c => (.ok (SimCluster.get c r ns name), c))
  list r ns _ := withNow (fun _ c => (.ok (SimCluster.list c r ns), c))
  delete r ns name := withNow (fun now c =>
    let (removed, c) := c.delete r ns name now
    (.ok removed, c))
  patchMerge r ns name patch := withNow (fun now c => c.patchMerge r ns name patch now)
  listPods ns selector := withNow (fun _ c =>
    let (pods, c) := c.listPods ns selector
    (.ok pods, c))
  listEvents ns := withNow (fun _ c => (.ok (c.listEvents ns), c))

end SimCluster

end OlmProvision
