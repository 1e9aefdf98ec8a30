import OlmProvision.Client.Typed
import OlmProvision.Provision.FailFast
import OlmProvision.Provision.Wait
import OlmProvision.Cluster.Simulated

/-
Driving an OLM subscription and the CSV it installs to the installed state and back to absent.

    Absent --subscribe--> Subscribing --(CSV Succeeded)--> Subscribed
    Subscribed --unsubscribe--> Unsubscribing --(Subscription and CSV deleted)--> Absent

Subscribing needs the catalog source to exist. With manual approval the install plan OLM
creates is approved explicitly. The installed CSV (`installedCSV`, never `currentCSV`, which
moves to a pending upgrade before it is approved) must then succeed. Extra environment
variables are passed to OLM through the subscription's `config.env` and checked on the
operator deployments; when OLM did not apply them, they are written into the CSV's install
strategy and the deployments are awaited again. A failed subscribe leaves the state where it
got to: back at `Absent` if the subscription could not be created, else `Subscribing`.
-/
namespace OlmProvision

/-- The label naming the tool that manages an object. -/
def appManagedByLabel : String := "app.kubernetes.io/managed-by"

/-- The name this tool manages objects under. -/
def fieldManager : String := "olmsys"

/-- The subscription of one operator package in one namespace. -/
structure SubscriptionManager where
  namespaceName : String
  name : String
  state : SubscriptionState := .absent
  /-- The installed CSV, known once subscribed. -/
  currentCsv : Option String := none
deriving Inhabited

namespace SubscriptionManager

variable {σ : Type} (platform : Platform σ)

/-- A new manager with nothing subscribed. -/
def new (ns name : String) : SubscriptionManager := { namespaceName := ns, name := name }

/-- The subscription as the cluster has it. -/
def fetchSubscription (ns name : String) : Run σ (Option Subscription) :=
  Run.call ("get subscription '" ++ name ++ "'") (platform.getTyped .subscription ns name)

/-- The CSV named `csvName`, as the cluster has it. -/
def fetchCsv (ns csvName : String) : Run σ (Option ClusterServiceVersion) :=
  Run.call ("get CSV '" ++ csvName ++ "'") (platform.getTyped .clusterServiceVersion ns csvName)

/-- Whether OLM has created an install plan for the subscription. -/
def hasInstallPlan (ns name : String) : Run σ Bool := do
  return ((← fetchSubscription platform ns name).bind Subscription.installPlanName).isSome

/-- Whether the subscription's installed CSV exists and has succeeded. -/
def csvSucceeded (ns name : String) : Run σ Bool := do
  match (← fetchSubscription platform ns name).bind Subscription.installedCsv with
  | none => return false
  | some csvName =>
    match ← fetchCsv platform ns csvName with
    | some csv =>
      if csv.isFailed then
        Run.log .subscription .warn ("CSV '" ++ csvName ++ "' failed: " ++
          ((csv.status.bind CsvStatus.message).getD "no message"))
        return false
      else return csv.isSucceeded
    | none => return false

/-- The data of the named deployments, or `none` when one is missing. -/
def deploymentData (ns : String) : List String → Run σ (Option (List Json))
  | [] => return some []
  | n :: rest => do
    match ← Run.call ("get deployment '" ++ n ++ "'") (platform.get deploymentResource ns n) with
    | none => return none
    | some d =>
      match ← deploymentData ns rest with
      | none => return none
      | some ds => return some (d.data :: ds)

/-- Whether every operator deployment of the CSV exists and carries all of `env`. -/
def operatorHasEnv (ns csvName : String) (env : List (String × String)) : Run σ Bool := do
  match ← fetchCsv platform ns csvName with
  | none => return false
  | some csv =>
    let names := csv.deploymentNames
    if names.isEmpty then return false
    match ← deploymentData platform ns names with
    | none => return false
    | some deployments => return env.all (fun (n, v) => Deployments.haveEnv deployments n v)

/-- Write every entry of `env` that is missing into the CSV's install strategy; answers
whether the CSV has operator containers to carry it. -/
def applyEnv (ns csvName : String) (env : List (String × String)) : Run σ Bool := do
  let resource := OlmKind.clusterServiceVersion.resource
  let csv ← match ← Run.call ("get CSV '" ++ csvName ++ "'") (platform.get resource ns csvName) with
    | some o => pure o
    | none => throw (.lifecycle "apply operator environment" ("because CSV '" ++ csvName ++ "' is gone"))
  let pointer := "/spec/install/spec/deployments"
  match (csv.data.pointer pointer).bind Json.asArray? with
  | none =>
    Run.log .subscription .warn ("CSV '" ++ csvName ++ "' has no deployments, its operator environment is left alone")
    return false
  | some deployments =>
    let rec apply : List (String × String) → List Json → Bool → Run σ (Option (List Json × Bool))
      | [], ds, changed => return some (ds, changed)
      | (n, v) :: rest, ds, changed => do
        if Deployments.haveEnv ds n v then apply rest ds changed
        else
          Run.log .subscription .debug ("setting " ++ n ++ " on the deployments of CSV '" ++ csvName ++ "'")
          let (ds, modified) := Deployments.setEnv ds n v
          if !modified then
            Run.log .subscription .warn ("CSV '" ++ csvName ++
              "' has no operator containers, its operator environment is left alone")
            return none
          else apply rest ds true
    match ← apply env deployments false with
    | none => return false
    | some (_, false) => return true
    | some (ds, true) =>
      let data := (csv.data.setAt pointer (.arr ds)).getD csv.data
      match ← (platform.replace resource ns { csv with data := data } :
          Step σ (Except ClientError DynamicObject)) with
      | .ok _ =>
        Run.log .subscription .info ("Updated the operator environment of CSV '" ++ csvName ++ "'")
        return true
      | .error e =>
        if e.isConflict then throw (.resourceConflict "ClusterServiceVersion" csvName ns)
        else throw (.client ("update CSV '" ++ csvName ++ "'") e)

/-- The subscription object the manager creates. -/
def subscriptionFor (m : SubscriptionManager) (d : OperatorDescriptor)
    (approval : InstallPlanApproval) (env : List (String × String)) : Subscription :=
  { metadata := { name := some m.name, namespaceName := some m.namespaceName,
                  labels := some [(appManagedByLabel, fieldManager)] }
    spec := { name := d.packageManifestId, source := d.catalogSourceName,
              sourceNamespace := d.catalogSourceNamespace, channel := d.channel,
              installPlanApproval := some approval, startingCsv := d.startingCsv,
              config := if env.isEmpty then none else some (env.map (fun (n, v) => ⟨n, v⟩)) }
    status := none }

/-- Create the subscription. -/
def createSubscription (m : SubscriptionManager) (d : OperatorDescriptor)
    (approval : InstallPlanApproval) (env : List (String × String)) : Run σ Unit := do
  match ← (platform.createTyped .subscription m.namespaceName (subscriptionFor m d approval env) :
      Step σ (Except ClientError Subscription)) with
  | .ok _ =>
    Run.log .subscription .info ("Created subscription '" ++ m.name ++ "' to '" ++ d.packageManifestId ++
      "' from '" ++ d.catalogSourceName ++ "' (" ++ approval.name ++ " approval)")
  | .error e =>
    if e.isConflict then throw (.resourceConflict "Subscription" m.name m.namespaceName)
    else throw (.client ("create subscription '" ++ m.name ++ "'") e)

/-- Approve the install plan the subscription references. -/
def approveInstallPlan (m : SubscriptionManager) : Run σ Unit := do
  let plan ← match (← fetchSubscription platform m.namespaceName m.name).bind
      Subscription.installPlanName with
    | some p => pure p
    | none => throw (.lifecycle "approve the install plan"
        ("because subscription '" ++ m.name ++ "' does not reference one"))
  let _ ← Run.call ("approve install plan '" ++ plan ++ "'")
    (platform.patchMerge OlmKind.installPlan.resource m.namespaceName plan
      (Json.object [("spec", Json.object [("approved", .bool true)])]))
  Run.log .subscription .info ("Approved install plan '" ++ plan ++ "'")

/-- Wait, during the subscribe stage, for `predicate`. -/
def awaitSubscribe (policy : WaitPolicy) (description : String) (predicate : Run σ Bool)
    (guard : Option (Step σ (Option ClusterEvent))) : Run σ Unit := do
  let spec := policy.spec .subscribe description
  let outcome ← (waitFor spec (Run.predicate predicate) guard : Step σ Outcome)
  match outcome.intoResult .subscribe spec with
  | .ok () => pure ()
  | .error e => throw e

/-- Wait for the subscription's installed CSV to succeed. -/
def waitForCsv (m : SubscriptionManager) (policy : WaitPolicy)
    (guard : Option (Step σ (Option ClusterEvent))) : Run σ Unit :=
  awaitSubscribe policy ("the CSV of subscription '" ++ m.name ++ "' to succeed")
    (csvSucceeded platform m.namespaceName m.name) guard

/-- Subscribe to the package of `d` and wait for its CSV to succeed. -/
def subscribe (d : OperatorDescriptor) (approval : InstallPlanApproval)
    (env : List (String × String)) (policy : WaitPolicy)
    (guard : Option (Step σ (Option ClusterEvent))) : Tracked SubscriptionManager σ Unit := do
  let m ← Tracked.current
  let action := "subscribe to '" ++ d.packageManifestId ++ "'"
  if m.state != .absent then
    throw (.lifecycle action ("while the subscription is " ++ m.state.name))
  let catalog ← Tracked.lift (Run.call "look up the catalog source"
    (platform.getTyped .catalogSource d.catalogSourceNamespace d.catalogSourceName))
  if catalog.isNone then
    throw (.configuration ("catalog source '" ++ d.catalogSourceName ++
      "' not found in namespace '" ++ d.catalogSourceNamespace ++ "'"))
  Tracked.put { m with state := .subscribing }
  match ← Tracked.step (createSubscription platform m d approval env).run with
  | .error e =>
    Tracked.put { m with state := .absent }
    throw e
  | .ok () => pure ()
  if approval == .manual then
    Tracked.lift (awaitSubscribe policy ("an install plan for subscription '" ++ m.name ++ "'")
      (hasInstallPlan platform m.namespaceName m.name) guard)
    Tracked.lift (approveInstallPlan platform m)
  Tracked.lift (waitForCsv platform m policy guard)
  let installed ← Tracked.lift (fetchSubscription platform m.namespaceName m.name)
  let csvName ← match installed.bind Subscription.installedCsv with
    | some c => pure c
    | none => throw (.lifecycle action "because the subscription lost its installed CSV")
  if !env.isEmpty then
    if !(← Tracked.lift (operatorHasEnv platform m.namespaceName csvName env)) then
      if ← Tracked.lift (applyEnv platform m.namespaceName csvName env) then
        Tracked.lift (waitForCsv platform m policy guard)
        Tracked.lift (awaitSubscribe policy ("the operator deployments of CSV '" ++ csvName ++
          "' to pick up their environment") (operatorHasEnv platform m.namespaceName csvName env)
          guard)
  Tracked.log .subscription .info ("Subscription '" ++ m.name ++ "' in '" ++ m.namespaceName ++
    "' installed CSV '" ++ csvName ++ "'")
  Tracked.put { m with currentCsv := some csvName, state := .subscribed }

/-- Delete the subscription and its CSVs: the installed one and, when OLM has moved on to a
pending upgrade, that one too. Missing objects are skipped. -/
def unsubscribe : Tracked SubscriptionManager σ Unit := do
  let m ← Tracked.current
  let found ← Tracked.lift (fetchSubscription platform m.namespaceName m.name)
  let fromCluster := match found with
    | some s => s.csvNames
    | none => []
  let csvNames := fromCluster.foldl (fun acc n => if acc.contains n then acc else acc ++ [n])
    m.currentCsv.toList
  Tracked.put { m with state := .unsubscribing }
  let deleted ← Tracked.lift (Run.call ("delete subscription '" ++ m.name ++ "'")
    (platform.deleteTyped .subscription m.namespaceName m.name))
  if deleted then
    Tracked.log .subscription .info ("Deleted subscription '" ++ m.name ++ "' in '" ++ m.namespaceName ++ "'")
  else
    Tracked.log .subscription .debug ("subscription '" ++ m.name ++ "' was already gone")
  for csvName in csvNames do
    let gone ← Tracked.lift (Run.call ("delete CSV '" ++ csvName ++ "'")
      (platform.deleteTyped .clusterServiceVersion m.namespaceName csvName))
    if gone then
      Tracked.log .subscription .info ("Deleted CSV '" ++ csvName ++ "' in '" ++ m.namespaceName ++ "'")
  Tracked.update (fun m => { m with currentCsv := none, state := .absent })

/-- Start tracking a subscription that exists in the cluster; answers whether there is one. -/
def adopt : Tracked SubscriptionManager σ Bool := do
  let m ← Tracked.current
  match ← Tracked.lift (fetchSubscription platform m.namespaceName m.name) with
  | none => return false
  | some s =>
    let current := s.installedCsv
    Tracked.put { m with currentCsv := current }
    let state ← match current with
      | some csvName => do
        let csv ← Tracked.lift (fetchCsv platform m.namespaceName csvName)
        pure (if (csv.map ClusterServiceVersion.isSucceeded).getD false then SubscriptionState.subscribed
          else .subscribing)
      | none => pure .subscribing
    Tracked.update (fun m => { m with state := state })
    Tracked.log .subscription .info ("Adopted subscription '" ++ m.name ++ "' in '" ++ m.namespaceName ++ "' (" ++
      state.name ++ ")")
    return true

end SubscriptionManager

end OlmProvision
