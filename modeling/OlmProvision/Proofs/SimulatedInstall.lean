import Mathlib
import OlmProvision.Proofs.OperatorEnvironment
import OlmProvision.Proofs.OlmDocuments
import OlmProvision.Proofs.ResourceVersions

/-
What the simulated OLM stores while it installs a subscription.

Creating a subscription makes OLM offer its first CSV through an install plan; an approved plan
installs the CSV, which stores the CSV and renders its operator deployment, and with a pending
upgrade offers the next CSV through a second plan. Each of these writes a few objects at keys
known in advance, so the objects after it are those before with those keys updated
(`Function.update` of the lookup), and the objects written are the typed documents of this
module:

1. `SubscriptionStatus.offer` and `.install`: the fields OLM sets on the subscription's status
   when it offers a plan and when it installs a CSV (`toJson_set_offer`, `toJson_set_install`).
2. `SimState.planObject`, `csvWith` and `operatorDeployment`: an install plan, a CSV whose
   operator runs given containers, and the operator deployment rendered from it. The CSV reads
   back as a typed CSV of the install's phase with one operator deployment
   (`fromDynamic_csvWith`, `deploymentNames_csvTyped`).
3. The lookups after each reaction: `get?_offerPlan`, `renderOperator_eq`, `installCsv_eq`
   and `get?_install`.

As in `OlmDocuments`, the `simp` calls that order literal member names leave out
`String.lt_iff_ltb`.
-/
namespace OlmProvision

/-! ## Subscription status -/

namespace SubscriptionStatus

/-- What OLM records on a subscription when it offers the install of `p` through its plan. -/
def offer (st : SubscriptionStatus) (ns : String) (p : PendingInstall) (approved : Bool) :
    SubscriptionStatus :=
  { st with currentCsv := some p.csvName, installPlanRef := some ⟨p.planName, some ns⟩,
            state := some (if approved then "AtLatestKnown" else "UpgradePending") }

/-- What OLM records on a subscription when it installs the CSV of `p`. -/
def install (st : SubscriptionStatus) (p : PendingInstall) : SubscriptionStatus :=
  { st with installedCsv := some p.csvName, state := some "AtLatestKnown" }

theorem toJson_set_offer (st : SubscriptionStatus) (ns : String) (p : PendingInstall)
    (approved : Bool) :
    ((st.toJson.set "currentCSV" (.str p.csvName)).set "installPlanRef"
        (Json.object [("name", .str p.planName), ("namespace", .str ns)])).set "state"
        (.str (if approved then "AtLatestKnown" else "UpgradePending")) =
      (st.offer ns p approved).toJson := by
  have href : Json.object [("name", .str p.planName), ("namespace", .str ns)] =
      ObjectReference.toJson ⟨p.planName, some ns⟩ := by
    simp [-String.lt_iff_ltb, ObjectReference.toJson, TypedObject.present]
  rw [href, SubscriptionStatus.toJson, TypedObject.present_set (by simp) (by simp),
    TypedObject.present_set (by simp) (by simp), TypedObject.present_set (by simp) (by simp)]
  simp [offer, SubscriptionStatus.toJson]

theorem toJson_set_install (st : SubscriptionStatus) (p : PendingInstall) :
    (st.toJson.set "installedCSV" (.str p.csvName)).set "state" (.str "AtLatestKnown") =
      (st.install p).toJson := by
  rw [SubscriptionStatus.toJson, TypedObject.present_set (by simp) (by simp),
    TypedObject.present_set (by simp) (by simp)]
  simp [install, SubscriptionStatus.toJson]

theorem toJson_empty : ({} : SubscriptionStatus).toJson = Json.object [] := rfl

end SubscriptionStatus

namespace Subscription

theorem get?_status_toDynamic (o : Subscription) :
    o.toDynamic.data.get? "status" = o.status.map SubscriptionStatus.toJson := by
  obtain ⟨metadata, spec, _ | st⟩ := o <;>
    simp [-String.lt_iff_ltb, toDynamic, TypedObject.dynamic, Json.get?, Fields.get?_cons]

theorem set_status_toDynamic (o : Subscription) (st : SubscriptionStatus) :
    o.toDynamic.data.set "status" st.toJson = { o with status := some st }.toDynamic.data := by
  obtain ⟨metadata, spec, _ | st'⟩ := o <;>
    simp [-String.lt_iff_ltb, toDynamic, TypedObject.dynamic, Json.set, Fields.insert]

end Subscription

/-! ## The objects of an install -/

namespace DynamicObject

/-- The object as stored with resource version `n`. -/
def stamp (o : DynamicObject) (n : Nat) : DynamicObject :=
  { o with metadata := { o.metadata with resourceVersion := some (toString n) } }

@[simp] theorem data_stamp (o : DynamicObject) (n : Nat) : (o.stamp n).data = o.data := rfl

@[simp] theorem stamp_stamp (o : DynamicObject) (n n' : Nat) : (o.stamp n).stamp n' = o.stamp n' := rfl

theorem stamp_dynamic (k : OlmKind) (m : ObjectMeta) (spec : Json) (status : Option Json) (n : Nat) :
    (TypedObject.dynamic k m spec status).stamp n =
      TypedObject.dynamic k { m with resourceVersion := some (toString n) } spec status := rfl

end DynamicObject

namespace TypedObject

/-- A merge patch of a typed document that only sets members of its spec merges into the spec. -/
theorem mergePatch_json_spec (k : OlmKind) (m : ObjectMeta) (spec : Json) (status : Option Json)
    (q : Json) (hq : q.isNull = false) :
    Json.mergePatch (json k m spec status) (Json.object [("spec", q)]) =
      json k m (Json.mergePatch spec q) status := by
  have hmerge : ∀ fs, Json.mergeFields fs [("spec", q)] =
      Fields.insert fs "spec" (Json.mergePatch ((Fields.get? fs "spec").getD .null) q) := by
    intro fs
    cases q <;> simp_all [Json.isNull, Json.mergeFields]
  cases status <;> simp [-String.lt_iff_ltb, json, Json.object, Fields.ofList, Fields.insert,
    Json.mergePatch, hmerge, Fields.get?_cons]

end TypedObject

namespace PendingInstall

/-- The install a pending upgrade offers after `p`: the newer CSV, through a second plan. -/
def upgrade (p : PendingInstall) : PendingInstall :=
  { p with planName := p.planName ++ "-2", csvName := p.package ++ "." ++ upgradeCsvVersion }

end PendingInstall

namespace SimSettings

/-- Whether installing `p` goes on to offer the pending upgrade. -/
def offersUpgrade (settings : SimSettings) (p : PendingInstall) : Bool :=
  settings.pendingUpgrade && p.csvName.endsWith firstCsvVersion

/-- The first install OLM offers for the subscription `name` with spec `spec`: the first CSV of
its package, through the plan `install-<name>`, with the subscription's environment when OLM
propagates it. -/
def firstInstall (settings : SimSettings) (name : String) (spec : SubscriptionSpec) : PendingInstall :=
  { subscription := name, planName := "install-" ++ name,
    csvName := spec.name ++ "." ++ firstCsvVersion, package := spec.name,
    env := if settings.propagateEnv then spec.config.getD [] else [] }

section FirstInstall

variable (settings : SimSettings) (name : String) (spec : SubscriptionSpec)

@[simp] theorem subscription_firstInstall : (settings.firstInstall name spec).subscription = name := rfl

@[simp] theorem planName_firstInstall :
    (settings.firstInstall name spec).planName = "install-" ++ name := rfl

@[simp] theorem csvName_firstInstall :
    (settings.firstInstall name spec).csvName = spec.name ++ "." ++ firstCsvVersion := rfl

@[simp] theorem package_firstInstall : (settings.firstInstall name spec).package = spec.name := rfl

end FirstInstall

/-- The status a subscription ends with once `p` is installed from the status `st`: the CSV
recorded as installed, and with a pending upgrade the next CSV offered for approval. -/
def installedStatus (settings : SimSettings) (ns : String) (p : PendingInstall)
    (st : SubscriptionStatus) : SubscriptionStatus :=
  if settings.offersUpgrade p then (st.install p).offer ns p.upgrade false else st.install p

end SimSettings

namespace SimState

open Deployments

/-- The install plan of `p`, with its approval mode and whether it is approved. -/
def planObject (ns : String) (p : PendingInstall) (approval : InstallPlanApproval)
    (approved : Bool) : DynamicObject :=
  TypedObject.dynamic .installPlan { name := some p.planName, namespaceName := some ns }
    (Json.object [("approval", .str approval.name), ("approved", .bool approved),
      ("clusterServiceVersionNames", Json.strings [p.csvName])]) none

/-- The variables `vars` set one after another on a container. -/
def withVars (vars : List EnvVar) (c : Json) : Json :=
  vars.foldl (fun c var => (setContainerEnv var.name var.value c).1) c

/-- The CSV the install of `p` stores, with the containers `cs` in its operator deployment. -/
def csvWith (ns : String) (p : PendingInstall) (phase : String) (cs : List Json) : DynamicObject :=
  { csvObject ns p phase with data := csvDataWith ns p phase cs }

/-- The operator deployment `op` of the CSV `csvName`, running the containers `cs`. -/
def operatorDeployment (ns csvName op : String) (cs : List Json) : DynamicObject :=
  { types := some ⟨deploymentResource.apiVersion, deploymentResource.kind⟩
    metadata := { name := some op, namespaceName := some ns, labels := some [("olm.owner", csvName)] }
    data := .obj [("spec", operatorSpec op cs)] }

theorem csvObject_eq (ns : String) (p : PendingInstall) (phase : String) :
    csvObject ns p phase = csvWith ns p phase [operatorContainer] := by
  rw [csvWith, csvDataWith_operatorContainer]

@[simp] theorem key_csvWith (ns : String) (p : PendingInstall) (phase : String) (cs : List Json) :
    (csvWith ns p phase cs).key = ⟨"ClusterServiceVersion", ns, p.csvName⟩ := rfl

/-! ## Reading the CSV back -/

/-- The install strategy of the operator `op` whose containers are `cs`. -/
def installWith (op : String) (cs : List Json) : Json :=
  .obj [("spec", .obj [("deployments", .arr [strategyEntry op cs])]), ("strategy", .str "deployment")]

/-- The spec of the CSV of `p`, members in order. -/
def csvSpecWith (p : PendingInstall) (cs : List Json) : Json :=
  .obj [("customresourcedefinitions", .obj [("owned", .arr [
      .obj [("kind", .str "Broker"), ("name", .str "brokers.example.com"), ("version", .str "v1")]])]),
    ("displayName", .str p.package), ("install", installWith (p.package ++ "-operator") cs),
    ("installModes", .arr [.obj [("supported", .bool true), ("type", .str "OwnNamespace")],
      .obj [("supported", .bool false), ("type", .str "AllNamespaces")]]),
    ("relatedImages", .arr [.obj [("image", .str "quay.io/example/broker:latest"),
      ("name", .str "broker")]]),
    ("version", .str (csvVersionOf p.csvName))]

/-- The reason an install in `phase` records. -/
def installReason (phase : String) : String :=
  if phase == "Failed" then "InstallCheckFailed" else "InstallSucceeded"

theorem csvDataWith_eq (ns : String) (p : PendingInstall) (phase : String) (cs : List Json) :
    csvDataWith ns p phase cs =
      .obj [("spec", csvSpecWith p cs),
        ("status", .obj [("phase", .str phase), ("reason", .str (installReason phase))])] := by
  simp [-String.lt_iff_ltb, csvDataWith, csvObject, Json.setAt, tokens_deployments, Json.setTokens,
    Json.object, Fields.ofList, Fields.insert, Fields.get?_cons, Json.get?, Json.set,
    ClusterServiceVersion.toJson, TypedObject.json, TypedObject.present, csvSpecWith, installWith,
    installReason]

theorem csvWith_eq (ns : String) (p : PendingInstall) (phase : String) (cs : List Json) :
    csvWith ns p phase cs =
      TypedObject.dynamic .clusterServiceVersion { name := some p.csvName, namespaceName := some ns }
        (csvSpecWith p cs) (some (.obj [("phase", .str phase), ("reason", .str (installReason phase))])) := by
  rw [csvWith, csvDataWith_eq]
  rfl

/-- The typed CSV of `p` as stored with resource version `n`. -/
def csvTyped (ns : String) (p : PendingInstall) (phase : String) (cs : List Json) (n : Nat) :
    ClusterServiceVersion :=
  { metadata := { name := some p.csvName, namespaceName := some ns,
                  resourceVersion := some (toString n) }
    spec := { displayName := some p.package, version := some (csvVersionOf p.csvName),
              install := some (installWith (p.package ++ "-operator") cs) }
    status := some { phase := some phase, reason := some (installReason phase) } }

theorem fromDynamic_csvWith (ns : String) (p : PendingInstall) (phase : String) (cs : List Json)
    (n : Nat) :
    TypedKind.clusterServiceVersion.fromDynamic ((csvWith ns p phase cs).stamp n) =
      .ok (csvTyped ns p phase cs n) := by
  -- `simp` writes the version as `n.repr`
  have hm := ObjectMeta.decode_toJson_named p.csvName ns none nofun (some n.repr)
  rw [csvWith_eq]
  simp only [TypedKind.fromDynamic, TypedKind.clusterServiceVersion, DynamicObject.stamp_dynamic,
    TypedObject.toJson_dynamic]
  simp only [ClusterServiceVersion.decode, TypedObject.root, TypedObject.json, Json.object,
    Input.members_obj _ (Fields.sorted_ofList _).nodup, Except.ok_bind]
  simp [-String.lt_iff_ltb, Members.required, Members.optional, Fields.ofList, Fields.insert, hm,
    ClusterServiceVersion.decodeSpec, ClusterServiceVersion.decodeStatus, csvSpecWith, csvTyped,
    Input.members_obj, Input.option, Input.isNone, Json.isNull, Input.string, Input.toJson,
    Fields.keys, installWith]

@[simp] theorem phase_csvTyped (ns : String) (p : PendingInstall) (phase : String) (cs : List Json)
    (n : Nat) : (csvTyped ns p phase cs n).phase = some phase := rfl

theorem deploymentNames_csvTyped (ns : String) (p : PendingInstall) (phase : String)
    (cs : List Json) (n : Nat) :
    (csvTyped ns p phase cs n).deploymentNames = [p.package ++ "-operator"] := by
  have htokens : Pointer.tokens "/spec/deployments" = some ["spec", "deployments"] := by decide
  simp [-String.lt_iff_ltb, ClusterServiceVersion.deploymentNames, ClusterServiceVersion.deployments,
    csvTyped, installWith, Json.pointer, htokens, Pointer.follow, Json.get?, Fields.get?_cons,
    Json.asArray?, strategyEntry, Json.asString?]

/-! ## Lookups after each reaction -/

variable {s : SimState} {ns : String} {p : PendingInstall}

theorem get?_store_eq (s : SimState) (key : ObjectKey) (o : DynamicObject) :
    (s.store key o).objects.get? =
      Function.update s.objects.get? key (some (o.stamp (s.version + 1))) := by
  funext k
  rw [get?_store, Function.update_apply]
  rfl

theorem get?_editData_eq {key : ObjectKey} {o : DynamicObject} (h : s.objects.get? key = some o)
    (f : Json → Json) :
    (s.editData key f).objects.get? =
      Function.update s.objects.get? key (some { o with data := f o.data }) := by
  funext k
  rw [editData, Table.get?_modify, Function.update_apply]
  split
  · next hk =>
    subst hk
    rw [h]
    rfl
  · rfl

@[simp] theorem version_editData (s : SimState) (key : ObjectKey) (f : Json → Json) :
    (s.editData key f).version = s.version := rfl

theorem get?_offerPlan {o : Subscription} {approved : Bool}
    (h : s.objects.get? ⟨"Subscription", ns, p.subscription⟩ = some o.toDynamic) :
    (s.offerPlan ns p approved).objects.get? =
      Function.update (Function.update s.objects.get? ⟨"InstallPlan", ns, p.planName⟩
          (some ((planObject ns p (if approved then .automatic else .manual) approved).stamp
            (s.version + 1))))
        ⟨"Subscription", ns, p.subscription⟩
        (some { o with status := some ((o.status.getD {}).offer ns p approved) }.toDynamic) := by
  unfold offerPlan
  rw [get?_editData_eq (o := o.toDynamic), get?_store_eq]
  · congr 3
    · simp [-String.lt_iff_ltb, planObject, TypedObject.dynamic, InstallPlan.toJson, TypedObject.json,
        Json.object, Fields.ofList, Fields.insert, Json.get?, Fields.get?_cons, OlmKind.name]
    · simp only [Subscription.get?_status_toDynamic]
      -- the edit starts from the status the subscription has, or from an empty one
      split
      next fs hfs =>
        obtain ⟨st, hst, hj⟩ := Option.map_eq_some_iff.mp hfs
        rw [← hj, SubscriptionStatus.toJson_set_offer, Subscription.set_status_toDynamic, hst]
        rfl
      next hnot =>
        have hnone : o.status = none := by
          cases hst : o.status with
          | none => rfl
          | some st => exact absurd (by rw [hst]; rfl) (hnot _)
        rw [hnone, ← SubscriptionStatus.toJson_empty, SubscriptionStatus.toJson_set_offer,
          Subscription.set_status_toDynamic]
        rfl
  · rw [get?_store_eq, Function.update_of_ne (by simp [DynamicObject.key, DynamicObject.kind]), h]

@[simp] theorem version_offerPlan (s : SimState) (ns : String) (p : PendingInstall) (approved : Bool) :
    (s.offerPlan ns p approved).version = s.version + 1 := rfl

/-- The operator of a CSV whose install strategy runs the containers `cs` is rendered as one
deployment running them with the variables OLM injects for the CSV. -/
theorem renderOperator_eq (phase : String) (cs : List Json)
    (h : (s.objects.get? ⟨"ClusterServiceVersion", ns, p.csvName⟩).map DynamicObject.data =
      some (csvDataWith ns p phase cs)) :
    s.renderOperator ns p.csvName = s.store ⟨"Deployment", ns, p.package ++ "-operator"⟩
      (operatorDeployment ns p.csvName (p.package ++ "-operator")
        (cs.map (withVars ((s.operatorEnv.get? ⟨ns, p.csvName⟩).getD [])))) := by
  have hentries : (s.objects.get? ⟨"ClusterServiceVersion", ns, p.csvName⟩).bind
      (fun csv => (csv.data.pointer "/spec/install/spec/deployments").bind Json.asArray?) =
      some [strategyEntry (p.package ++ "-operator") cs] := by
    obtain ⟨csv, hcsv, hdata⟩ := Option.map_eq_some_iff.mp h
    simp [hcsv, hdata, pointer_csvDataWith, Json.asArray?]
  unfold renderOperator
  rw [hentries]
  simp [-String.lt_iff_ltb, strategyEntry, Json.get?, Fields.get?_cons, Json.asString?, Json.object,
    Fields.ofList, Fields.insert, foldl_setDeploymentEnv, operatorDeployment,
    DynamicObject.key, DynamicObject.kind, DynamicObject.name, DynamicObject.namespaceName?]
  rfl

theorem installCsv_eq {phase : String} (hphase : phase ≠ "Failed") (now : Timestamp) :
    s.installCsv ns p phase now =
      ({ s.store ⟨"ClusterServiceVersion", ns, p.csvName⟩ (csvWith ns p phase [operatorContainer]) with
        operatorEnv := s.operatorEnv.put ⟨ns, p.csvName⟩ p.env }).store
        ⟨"Deployment", ns, p.package ++ "-operator"⟩
        (operatorDeployment ns p.csvName (p.package ++ "-operator") [withVars p.env operatorContainer]) := by
  have hok : (phase == "Failed") = false := by simpa using hphase
  unfold installCsv
  simp only [csvObject_eq, key_csvWith, hok, Bool.false_eq_true, if_false]
  rw [renderOperator_eq phase [operatorContainer]]
  · simp
    rfl
  · simp [get?_store_eq, csvWith, DynamicObject.stamp]

theorem get?_installCsv {phase : String} (hphase : phase ≠ "Failed") (now : Timestamp) :
    (s.installCsv ns p phase now).objects.get? =
      Function.update (Function.update s.objects.get? ⟨"ClusterServiceVersion", ns, p.csvName⟩
          (some ((csvWith ns p phase [operatorContainer]).stamp (s.version + 1))))
        ⟨"Deployment", ns, p.package ++ "-operator"⟩
        (some ((operatorDeployment ns p.csvName (p.package ++ "-operator")
          [withVars p.env operatorContainer]).stamp (s.version + 2))) := by
  rw [installCsv_eq hphase]
  simp [get?_store_eq, Nat.add_assoc]

theorem version_installCsv {phase : String} (hphase : phase ≠ "Failed") (now : Timestamp) :
    (s.installCsv ns p phase now).version = s.version + 2 := by
  rw [installCsv_eq hphase]
  simp [Nat.add_assoc]

@[simp] theorem objects_park (s : SimState) (ns : String) (p : PendingInstall) :
    (s.park ns p).objects = s.objects := rfl

@[simp] theorem version_park (s : SimState) (ns : String) (p : PendingInstall) :
    (s.park ns p).version = s.version := rfl

/-- The lookups after installing `p` without a pending upgrade: its CSV and operator stored, and
the CSV recorded as installed on the subscription. -/
def installedGet? (s : SimState) (ns : String) (p : PendingInstall) (phase : String)
    (o : Subscription) (st : SubscriptionStatus) : ObjectKey → Option DynamicObject :=
  Function.update (Function.update (Function.update s.objects.get?
      ⟨"ClusterServiceVersion", ns, p.csvName⟩
      (some ((csvWith ns p phase [operatorContainer]).stamp (s.version + 1))))
      ⟨"Deployment", ns, p.package ++ "-operator"⟩
      (some ((operatorDeployment ns p.csvName (p.package ++ "-operator")
        [withVars p.env operatorContainer]).stamp (s.version + 2))))
    ⟨"Subscription", ns, p.subscription⟩ (some { o with status := some (st.install p) }.toDynamic)

/-- Installing `p` stores its CSV and operator and records the CSV as installed on the
subscription; with a pending upgrade it then offers the next CSV, whose plan waits for
approval. -/
theorem get?_install (settings : SimSettings) (hphase : settings.csvPhase ≠ "Failed")
    {o : Subscription} {st : SubscriptionStatus} (hst : o.status = some st)
    (h : s.objects.get? ⟨"Subscription", ns, p.subscription⟩ = some o.toDynamic) (now : Timestamp) :
    (SimCluster.install settings s ns p now).objects.get? =
      if settings.offersUpgrade p then
        Function.update (Function.update (s.installedGet? ns p settings.csvPhase o st)
            ⟨"InstallPlan", ns, p.upgrade.planName⟩
            (some ((planObject ns p.upgrade .manual false).stamp (s.version + 3))))
          ⟨"Subscription", ns, p.subscription⟩
          (some { o with status := some ((st.install p).offer ns p.upgrade false) }.toDynamic)
      else s.installedGet? ns p settings.csvPhase o st := by
  have hsub : (s.installCsv ns p settings.csvPhase now).objects.get?
      ⟨"Subscription", ns, p.subscription⟩ = some o.toDynamic := by
    rw [get?_installCsv hphase, Function.update_of_ne (by simp), Function.update_of_ne (by simp), h]
  have hinstalled : ((s.installCsv ns p settings.csvPhase now).editData ⟨"Subscription", ns, p.subscription⟩
      (fun data => data.set "status" ((((data.get? "status").getD .null).set "installedCSV"
        (.str p.csvName)).set "state" (.str "AtLatestKnown")))).objects.get? =
      s.installedGet? ns p settings.csvPhase o st := by
    rw [get?_editData_eq hsub, get?_installCsv hphase, installedGet?]
    simp only [Subscription.get?_status_toDynamic, hst, Option.map_some, Option.getD_some,
      SubscriptionStatus.toJson_set_install, Subscription.set_status_toDynamic]
    rfl
  unfold SimCluster.install
  by_cases hup : settings.offersUpgrade p = true
  · rw [if_pos hup]
    simp only [SimSettings.offersUpgrade] at hup
    simp only [hup, if_true, objects_park]
    rw [get?_offerPlan (o := { o with status := some (st.install p) }), hinstalled]
    · simp [version_installCsv hphase, Nat.add_assoc, PendingInstall.upgrade]
    · rw [hinstalled, installedGet?, Function.update_self]
  · rw [if_neg hup]
    simp only [SimSettings.offersUpgrade] at hup
    simp only [hup, Bool.false_eq_true, if_false, hinstalled]

theorem operatorEnv_install (settings : SimSettings) (hphase : settings.csvPhase ≠ "Failed")
    (now : Timestamp) :
    (SimCluster.install settings s ns p now).operatorEnv = s.operatorEnv.put ⟨ns, p.csvName⟩ p.env := by
  unfold SimCluster.install
  rw [installCsv_eq hphase]
  split <;> rfl

/-- What an install leaves for the reads of a subscribe: the subscription `o` records the CSV
of `p` as installed, the CSV is stored in the `Succeeded` phase, at version `n`, with the
containers `cs` in its operator, and the operator deployment runs them with the variables OLM
injects for the CSV. -/
structure Installed (s : SimState) (ns : String) (p : PendingInstall) (o : Subscription)
    (cs : List Json) (n : Nat) : Prop where
  subscription : s.objects.get? ⟨"Subscription", ns, p.subscription⟩ = some o.toDynamic
  metadata : ObjectMeta.decode (.json o.metadata.toJson) = .ok o.metadata
  installedCsv : o.installedCsv = some p.csvName
  csv : s.objects.get? ⟨"ClusterServiceVersion", ns, p.csvName⟩ =
    some ((csvWith ns p "Succeeded" cs).stamp n)
  operator : (s.objects.get? ⟨"Deployment", ns, p.package ++ "-operator"⟩).map DynamicObject.data =
    some (operatorDeployment ns p.csvName (p.package ++ "-operator") (cs.map (withVars p.env))).data
  operatorEnv : s.operatorEnv.get? ⟨ns, p.csvName⟩ = some p.env

theorem installedCsv_installedStatus (settings : SimSettings) (o : Subscription)
    (st : SubscriptionStatus) :
    { o with status := some (settings.installedStatus ns p st) }.installedCsv = some p.csvName := by
  unfold SimSettings.installedStatus
  split <;> rfl

theorem installed_install (settings : SimSettings) (hphase : settings.csvPhase = "Succeeded")
    {o : Subscription} {st : SubscriptionStatus} (hst : o.status = some st)
    (h : s.objects.get? ⟨"Subscription", ns, p.subscription⟩ = some o.toDynamic)
    (hm : ObjectMeta.decode (.json o.metadata.toJson) = .ok o.metadata) (now : Timestamp) :
    Installed (SimCluster.install settings s ns p now) ns p
      { o with status := some (settings.installedStatus ns p st) } [operatorContainer]
      (s.version + 1) := by
  have hfail : settings.csvPhase ≠ "Failed" := by
    rw [hphase]
    decide
  have hget := get?_install settings hfail hst h now
  refine ⟨?_, hm, installedCsv_installedStatus settings o st, ?_, ?_, ?_⟩
  · rw [hget, SimSettings.installedStatus]
    split <;> simp [installedGet?]
  · rw [hget]
    split <;> simp [installedGet?, hphase]
  · rw [hget]
    split <;> simp [installedGet?]
  · rw [operatorEnv_install settings hfail now, Table.get?_put_self]

theorem installed_offer_approved (settings : SimSettings) (hphase : settings.csvPhase = "Succeeded")
    {o : Subscription} (h : s.objects.get? ⟨"Subscription", ns, p.subscription⟩ = some o.toDynamic)
    (hm : ObjectMeta.decode (.json o.metadata.toJson) = .ok o.metadata) (now : Timestamp) :
    Installed (SimCluster.offer settings s ns p true now) ns p
      { o with status := some (settings.installedStatus ns p ((o.status.getD {}).offer ns p true)) }
      [operatorContainer] (s.version + 2) := by
  have hsub : (s.offerPlan ns p true).objects.get? ⟨"Subscription", ns, p.subscription⟩ =
      some { o with status := some ((o.status.getD {}).offer ns p true) }.toDynamic := by
    rw [get?_offerPlan h, Function.update_self]
  simp only [SimCluster.offer, if_true]
  exact installed_install settings hphase rfl hsub hm now

@[simp] theorem objects_record (s : SimState) (call : String) : (s.record call).objects = s.objects := rfl

@[simp] theorem version_record (s : SimState) (call : String) : (s.record call).version = s.version := rfl

@[simp] theorem pending_record (s : SimState) (call : String) : (s.record call).pending = s.pending := rfl

@[simp] theorem pending_store (s : SimState) (key : ObjectKey) (o : DynamicObject) :
    (s.store key o).pending = s.pending := rfl

/-- OLM reads a new subscription it can decode and offers the first install of its package,
approved unless the subscription asks for manual approval. -/
theorem afterSubscriptionCreated_eq (settings : SimSettings) {name : String} {o : Subscription}
    (h : s.objects.get? ⟨"Subscription", ns, name⟩ = some o.toDynamic)
    (hm : ObjectMeta.decode (.json o.metadata.toJson) = .ok o.metadata) (now : Timestamp) :
    SimCluster.afterSubscriptionCreated settings s ⟨"Subscription", ns, name⟩ now =
      SimCluster.offer settings s ns (settings.firstInstall name o.spec)
        (o.spec.installPlanApproval != some .manual) now := by
  have hdecode : Subscription.decode (.json o.toDynamic.toJson) = .ok o := by
    rw [Subscription.toDynamic, TypedObject.toJson_dynamic, ← Subscription.toJson_eq,
      Subscription.decode_toJson o hm]
  simp only [SimCluster.afterSubscriptionCreated, h, hdecode]
  rfl

end SimState

/-! ## The calls that drive an install -/

namespace SimCluster

open SimState

variable {ns : String} {p : PendingInstall}

/-- The merge patch that approves an install plan. -/
def approvalPatch : Json := Json.object [("spec", Json.object [("approved", .bool true)])]

theorem decode_approved (ns : String) (p : PendingInstall) (n : Nat) :
    DynamicObject.decode (.json (Json.mergePatch ((planObject ns p .manual false).stamp n).toJson
      approvalPatch)) = .ok ((planObject ns p .manual true).stamp n) := by
  have hspec : Json.mergePatch (Json.object [("approval", .str InstallPlanApproval.manual.name),
      ("approved", .bool false), ("clusterServiceVersionNames", Json.strings [p.csvName])])
      (Json.object [("approved", .bool true)]) =
      Json.object [("approval", .str InstallPlanApproval.manual.name), ("approved", .bool true),
        ("clusterServiceVersionNames", Json.strings [p.csvName])] := by
    simp [-String.lt_iff_ltb, Json.object, Fields.ofList, Fields.insert, Json.mergePatch,
      Json.mergeFields]
  rw [planObject, planObject, DynamicObject.stamp_dynamic, DynamicObject.stamp_dynamic,
    TypedObject.toJson_dynamic, approvalPatch, TypedObject.mergePatch_json_spec _ _ _ _ _ rfl, hspec]
  exact TypedObject.decode_json .installPlan
    (ObjectMeta.decode_toJson_named p.planName ns none (by rintro _ ⟨⟩) _)
    (Json.canonical_object (by simp [Json.strings, Json.canonical_arr])) (by rintro _ ⟨⟩)

theorem approved_planObject (ns : String) (p : PendingInstall) (approval : InstallPlanApproval)
    (approved : Bool) :
    ((planObject ns p approval approved).data.pointer "/spec/approved").bind Json.asBool? =
      some approved := by
  have htokens : Pointer.tokens "/spec/approved" = some ["spec", "approved"] := by decide
  simp [-String.lt_iff_ltb, planObject, TypedObject.dynamic, Json.pointer, htokens,
    Pointer.follow, Fields.get?_cons, Json.object, Fields.ofList, Fields.insert, Json.asBool?]

theorem create_subscription_eq (c : SimCluster) {name : String} {o : Subscription}
    (hname : o.metadata.name = some name) (hns : o.metadata.namespaceName = some ns)
    (hm : ∀ rv : Option String, ObjectMeta.decode (.json { o.metadata with resourceVersion := rv }.toJson) =
      .ok { o.metadata with resourceVersion := rv })
    (hnew : c.state.objects.get? ⟨"Subscription", ns, name⟩ = none) (now : Timestamp) :
    c.create OlmKind.subscription.resource ns o.toDynamic now =
      let s := offer c.settings ((c.state.record ("create Subscription " ++ name)).store
        ⟨"Subscription", ns, name⟩ o.toDynamic) ns (c.settings.firstInstall name o.spec)
        (o.spec.installPlanApproval != some .manual) now
      (.ok ((s.objects.get? ⟨"Subscription", ns, name⟩).getD o.toDynamic), { c with state := s }) := by
  have hobj : { o.toDynamic with metadata := { o.toDynamic.metadata with namespaceName := some ns } } =
      o.toDynamic := by
    obtain ⟨⟨n', ns', labels, rv⟩, spec, status⟩ := o
    cases hns
    rfl
  have hname' : o.toDynamic.name = name := by
    simp [DynamicObject.name, Subscription.toDynamic, TypedObject.dynamic, hname]
  -- OLM reads back the subscription as stored, with its first resource version
  have hget : ((c.state.record ("create Subscription " ++ name)).store ⟨"Subscription", ns, name⟩
      o.toDynamic).objects.get? ⟨"Subscription", ns, name⟩ =
      some { o with metadata := { o.metadata with
        resourceVersion := some (toString (c.state.version + 1)) } }.toDynamic := by
    simp [get?_store_eq]
    rfl
  have hstored := afterSubscriptionCreated_eq c.settings hget (hm _) now
  unfold create
  simp only [hname', Table.contains, hnew, Option.isSome_none, Bool.false_eq_true, if_false, hobj,
    show OlmKind.subscription.resource.kind = "Subscription" from rfl, beq_self_eq_true, if_true,
    String.reduceAppend]
  rw [hstored]

section Created

variable (c : SimCluster) {name : String} {o : Subscription}
  (hname : o.metadata.name = some name) (hns : o.metadata.namespaceName = some ns)
  (hm : ∀ rv : Option String, ObjectMeta.decode (.json { o.metadata with resourceVersion := rv }.toJson) =
    .ok { o.metadata with resourceVersion := rv })
  (hnew : c.state.objects.get? ⟨"Subscription", ns, name⟩ = none) (now : Timestamp)

/-- The subscription as its create stores it, with the first resource version. -/
def storedAt (o : Subscription) (n : Nat) : Subscription :=
  { o with metadata := { o.metadata with resourceVersion := some (toString n) } }

include hname hns hm hnew in
/-- A subscription created with manual approval: OLM offers its first install through a plan
that waits for approval, and points the subscription at the plan. -/
theorem get?_create_manual (hmanual : o.spec.installPlanApproval = some .manual) :
    (c.create OlmKind.subscription.resource ns o.toDynamic now).2.state.objects.get? =
      Function.update (Function.update c.state.objects.get? ⟨"InstallPlan", ns, "install-" ++ name⟩
          (some ((planObject ns (c.settings.firstInstall name o.spec) .manual false).stamp
            (c.state.version + 2))))
        ⟨"Subscription", ns, name⟩
        (some { storedAt o (c.state.version + 1) with
          status := some ((o.status.getD {}).offer ns (c.settings.firstInstall name o.spec) false) }.toDynamic) := by
  have hstored : ((c.state.record ("create Subscription " ++ name)).store ⟨"Subscription", ns, name⟩
      o.toDynamic).objects.get? = Function.update c.state.objects.get? ⟨"Subscription", ns, name⟩
        (some (storedAt o (c.state.version + 1)).toDynamic) := by
    rw [get?_store_eq]
    rfl
  rw [create_subscription_eq c hname hns hm hnew now]
  simp only [offer, hmanual, bne_self_eq_false, Bool.false_eq_true, if_false, objects_park]
  rw [get?_offerPlan (o := storedAt o (c.state.version + 1)) (by rw [hstored]; exact Function.update_self ..)]
  simp only [SimSettings.subscription_firstInstall, SimSettings.planName_firstInstall, hstored]
  rw [Function.update_comm (by simp) _ _ c.state.objects.get?, Function.update_idem]
  rfl

include hname hns hm hnew in
theorem stored_create_manual (hmanual : o.spec.installPlanApproval = some .manual) :
    ∃ o' : Subscription,
      (c.create OlmKind.subscription.resource ns o.toDynamic now).2.state.objects.get?
        ⟨"Subscription", ns, name⟩ = some o'.toDynamic ∧
      ObjectMeta.decode (.json o'.metadata.toJson) = .ok o'.metadata ∧
      o'.status = some ((o.status.getD {}).offer ns (c.settings.firstInstall name o.spec) false) :=
  ⟨_, (congrFun (get?_create_manual c hname hns hm hnew now hmanual) _).trans (Function.update_self _ _ _),
    hm _, rfl⟩

include hname hns hm hnew in
theorem pending_create_manual (hmanual : o.spec.installPlanApproval = some .manual) :
    (c.create OlmKind.subscription.resource ns o.toDynamic now).2.state.pending.get?
      ⟨ns, "install-" ++ name⟩ = some (c.settings.firstInstall name o.spec) := by
  rw [create_subscription_eq c hname hns hm hnew now]
  simp only [offer, hmanual, bne_self_eq_false, Bool.false_eq_true, if_false, park,
    SimSettings.planName_firstInstall, Table.get?_put_self]

include hname hns hm hnew in
theorem installed_create_approved (hphase : c.settings.csvPhase = "Succeeded")
    (happroved : o.spec.installPlanApproval ≠ some .manual) :
    Installed (c.create OlmKind.subscription.resource ns o.toDynamic now).2.state ns
      (c.settings.firstInstall name o.spec)
      { storedAt o (c.state.version + 1) with
        status := some (c.settings.installedStatus ns (c.settings.firstInstall name o.spec)
          ((o.status.getD {}).offer ns (c.settings.firstInstall name o.spec) true)) }
      [operatorContainer] (c.state.version + 3) := by
  have hstored : ((c.state.record ("create Subscription " ++ name)).store ⟨"Subscription", ns, name⟩
      o.toDynamic).objects.get? ⟨"Subscription", ns, name⟩ =
      some (storedAt o (c.state.version + 1)).toDynamic := by
    rw [get?_store_eq, Function.update_self]
    rfl
  rw [create_subscription_eq c hname hns hm hnew now]
  have happ : (o.spec.installPlanApproval != some .manual) = true := by simpa using happroved
  simp only [happ]
  exact installed_offer_approved (o := storedAt o (c.state.version + 1))
    (p := c.settings.firstInstall name o.spec) c.settings hphase hstored (hm _) now

include hname hns hm hnew in
theorem create_subscription_answer :
    (c.create OlmKind.subscription.resource ns o.toDynamic now).1 =
      .ok (((c.create OlmKind.subscription.resource ns o.toDynamic now).2.state.objects.get?
        ⟨"Subscription", ns, name⟩).getD o.toDynamic) := by
  rw [create_subscription_eq c hname hns hm hnew now]

end Created

theorem patchMerge_approval_eq (c : SimCluster) {n : Nat}
    (h : c.state.objects.get? ⟨"InstallPlan", ns, p.planName⟩ =
      some ((planObject ns p .manual false).stamp n))
    (hp : c.state.pending.get? ⟨ns, p.planName⟩ = some p) (now : Timestamp) :
    c.patchMerge OlmKind.installPlan.resource ns p.planName approvalPatch now =
      let s := install c.settings
        { (c.state.record ("patch InstallPlan " ++ p.planName)).store ⟨"InstallPlan", ns, p.planName⟩
            ((planObject ns p .manual true).stamp n) with
          pending := c.state.pending.erase ⟨ns, p.planName⟩ } ns p now
      (.ok ((s.objects.get? ⟨"InstallPlan", ns, p.planName⟩).getD
        ((planObject ns p .manual false).stamp n)), { c with state := s }) := by
  unfold patchMerge afterInstallPlanPatched
  simp only [show OlmKind.installPlan.resource.kind = "InstallPlan" from rfl, h, decode_approved,
    beq_self_eq_true, if_true, get?_store_eq, Function.update_self, Option.bind_some,
    DynamicObject.data_stamp, approved_planObject, Option.getD_some, Bool.not_true, Bool.false_eq_true, if_false,
    pending_store, pending_record, hp, String.reduceAppend]

theorem installed_patchMerge_approval (c : SimCluster) (hphase : c.settings.csvPhase = "Succeeded")
    {n : Nat} (h : c.state.objects.get? ⟨"InstallPlan", ns, p.planName⟩ =
      some ((planObject ns p .manual false).stamp n))
    (hp : c.state.pending.get? ⟨ns, p.planName⟩ = some p) {o : Subscription} {st : SubscriptionStatus}
    (hst : o.status = some st)
    (hsub : c.state.objects.get? ⟨"Subscription", ns, p.subscription⟩ = some o.toDynamic)
    (hm : ObjectMeta.decode (.json o.metadata.toJson) = .ok o.metadata) (now : Timestamp) :
    Installed (c.patchMerge OlmKind.installPlan.resource ns p.planName approvalPatch now).2.state ns p
      { o with status := some (c.settings.installedStatus ns p st) } [operatorContainer]
      (c.state.version + 2) := by
  rw [patchMerge_approval_eq c h hp now]
  refine installed_install c.settings hphase hst ?_ hm now
  simp only [get?_store_eq, objects_record]
  rw [Function.update_of_ne (by simp), hsub]

theorem replace_csv_eq (c : SimCluster) {phase : String} {cs cs' : List Json} {n : Nat}
    (h : c.state.objects.get? ⟨"ClusterServiceVersion", ns, p.csvName⟩ =
      some ((csvWith ns p phase cs).stamp n)) (now : Timestamp) :
    c.replace OlmKind.clusterServiceVersion.resource ns ((csvWith ns p phase cs').stamp n) now =
      let s := ((c.state.record ("replace ClusterServiceVersion " ++ p.csvName)).store
        ⟨"ClusterServiceVersion", ns, p.csvName⟩ ((csvWith ns p phase cs').stamp n)).store
        ⟨"Deployment", ns, p.package ++ "-operator"⟩
        (operatorDeployment ns p.csvName (p.package ++ "-operator")
          (cs'.map (withVars ((c.state.operatorEnv.get? ⟨ns, p.csvName⟩).getD []))))
      (.ok ((s.objects.get? ⟨"ClusterServiceVersion", ns, p.csvName⟩).getD
        ((csvWith ns p phase cs').stamp n)), { c with state := s }) := by
  have hname : ((csvWith ns p phase cs').stamp n).name = p.csvName := rfl
  unfold replace
  simp only [hname, show OlmKind.clusterServiceVersion.resource.kind = "ClusterServiceVersion" from rfl,
    h, beq_self_eq_true, if_true, String.reduceAppend]
  rw [if_neg (by simp [DynamicObject.stamp]), renderOperator_eq phase cs']
  · rfl
  · simp [get?_store_eq, csvWith]

end SimCluster

namespace SimState

variable {ns : String} {p : PendingInstall}

/-- Writing other containers into the operator of an installed CSV keeps the install, with the
CSV at the next version and the operator rendered from the new containers. -/
theorem Installed.replace {c : SimCluster} {o : Subscription} {cs : List Json} {n : Nat}
    (hI : Installed c.state ns p o cs n) (cs' : List Json) (now : Timestamp) :
    Installed (c.replace OlmKind.clusterServiceVersion.resource ns
      ((csvWith ns p "Succeeded" cs').stamp n) now).2.state ns p o cs' (c.state.version + 1) := by
  rw [SimCluster.replace_csv_eq c hI.csv now]
  refine ⟨?_, hI.metadata, hI.installedCsv, ?_, ?_, hI.operatorEnv⟩
  · simp only [get?_store_eq, objects_record]
    rw [Function.update_of_ne (by simp), Function.update_of_ne (by simp), hI.subscription]
  · simp [get?_store_eq]
  · simp [get?_store_eq, hI.operatorEnv]

end SimState

end OlmProvision
