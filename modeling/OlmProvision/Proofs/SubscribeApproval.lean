import OlmProvision.Proofs.SubscribeRuns

/-
What the writes of a subscribe do on the simulated cluster, and which install plans it approves.

On the simulated cluster a subscribe is a fixed sequence of writes, `subscribeWrites` and then
at most one write of variables into the installed CSV, with reads between them that change
nothing (`subscribe_sim`). The clusters it passes through are the ones its writes visit.

1. `SimCluster.calls_create`, `calls_replace`, `calls_patchMerge`: a write records itself
   exactly when it is accepted; what OLM does in answer records nothing.
2. `SimState.UpgradeHeld`: relative to the state a run starts from, the plan that offers the
   upgrade after an install is as it was or waits for approval, and the upgrade's CSV is as it
   was. An install of another CSV keeps it (`UpgradeHeld.install`).
3. `SubscriptionManager.created_manual`, `approved_manual`, `installed_automatic`: what the
   create of the subscription and, with manual approval, the approval of its first plan leave.
   No CSV is stored before the approval, the first plan is approved after it, the subscription
   records the installed CSV and points at the upgrade when one is pending, and the upgrade is
   held back throughout (`subscribeWrites_install`).
4. `SubscriptionManager.subscribe_approves_only_its_first_plan`: the whole subscribe.
-/
namespace OlmProvision

namespace SimState

/-! ## Recorded calls -/

@[simp] theorem calls_store (s : SimState) (key : ObjectKey) (o : DynamicObject) :
    (s.store key o).calls = s.calls := rfl

@[simp] theorem calls_editData (s : SimState) (key : ObjectKey) (f : Json → Json) :
    (s.editData key f).calls = s.calls := rfl

@[simp] theorem calls_pushEvent (s : SimState) (e : ClusterEvent) : (s.pushEvent e).calls = s.calls :=
  rfl

@[simp] theorem calls_park (s : SimState) (ns : String) (p : PendingInstall) :
    (s.park ns p).calls = s.calls := rfl

@[simp] theorem calls_offerPlan (s : SimState) (ns : String) (p : PendingInstall) (approved : Bool) :
    (s.offerPlan ns p approved).calls = s.calls := rfl

@[simp] theorem calls_record (s : SimState) (call : String) : (s.record call).calls = s.calls ++ [call] :=
  rfl

@[simp] theorem calls_terminate (s : SimState) (ns podName : String) (polls : Nat) (now : Timestamp) :
    (s.terminate ns podName polls now).calls = s.calls := by
  unfold terminate
  split <;> rfl

theorem calls_foldl {β : Type} {f : SimState → β → SimState} (hf : ∀ s b, (f s b).calls = s.calls) :
    ∀ (L : List β) (s : SimState), (L.foldl f s).calls = s.calls
  | [], _ => rfl
  | b :: L, s => (calls_foldl hf L (f s b)).trans (hf s b)

@[simp] theorem calls_renderOperator (s : SimState) (ns csvName : String) :
    (s.renderOperator ns csvName).calls = s.calls := by
  unfold renderOperator
  split
  · rfl
  · apply calls_foldl
    intro _ _
    rfl

@[simp] theorem calls_installCsv (s : SimState) (ns : String) (p : PendingInstall) (phase : String)
    (now : Timestamp) : (s.installCsv ns p phase now).calls = s.calls := by
  unfold installCsv
  split <;> simp

end SimState

namespace SimCluster

open SimState

variable (settings : SimSettings) (s : SimState) (ns : String) (p : PendingInstall) (now : Timestamp)

@[simp] theorem calls_install : (install settings s ns p now).calls = s.calls := by
  unfold install
  split <;> simp

@[simp] theorem calls_offer (approved : Bool) : (offer settings s ns p approved now).calls = s.calls := by
  unfold offer
  split <;> simp

@[simp] theorem calls_afterSubscriptionCreated (key : ObjectKey) :
    (afterSubscriptionCreated settings s key now).calls = s.calls := by
  unfold afterSubscriptionCreated
  split
  · rfl
  · split <;> simp

@[simp] theorem calls_afterInstallPlanPatched (key : ObjectKey) :
    (afterInstallPlanPatched settings s key now).calls = s.calls := by
  unfold afterInstallPlanPatched
  dsimp only
  split
  · rfl
  · split <;> simp

@[simp] theorem calls_reconcileWorkload (key : ObjectKey) :
    (reconcileWorkload settings s key now).calls = s.calls := by
  unfold reconcileWorkload
  split
  · rfl
  · split
    · rfl
    · simp only [calls_editData]
      rw [calls_foldl (fun _ _ => by split <;> simp), calls_foldl (fun _ _ => by split <;> rfl)]

variable (c : SimCluster) (r : ApiResource) (o : DynamicObject)

theorem calls_create :
    (c.create r ns o now).2.state.calls =
      c.state.calls ++ if (c.create r ns o now).1.isOk then ["create " ++ r.kind ++ " " ++ o.name] else [] := by
  unfold create
  dsimp only
  by_cases h : c.state.objects.contains ⟨r.kind, ns, o.name⟩ = true
  · simp [h, Except.isOk, Except.toBool]
  · simp only [h, Bool.false_eq_true, if_false, Except.isOk, Except.toBool, if_true]
    split_ifs <;> simp

theorem calls_replace :
    (c.replace r ns o now).2.state.calls =
      c.state.calls ++ if (c.replace r ns o now).1.isOk then ["replace " ++ r.kind ++ " " ++ o.name] else [] := by
  unfold replace
  dsimp only
  rcases Option.eq_none_or_eq_some (c.state.objects.get? ⟨r.kind, ns, o.name⟩) with hget | ⟨stored, hget⟩
  · simp [hget, Except.isOk, Except.toBool]
  · simp only [hget]
    split_ifs <;> simp_all [Except.isOk, Except.toBool]

theorem calls_patchMerge (name : String) (patch : Json) :
    (c.patchMerge r ns name patch now).2.state.calls =
      c.state.calls ++ if (c.patchMerge r ns name patch now).1.isOk then ["patch " ++ r.kind ++ " " ++ name]
        else [] := by
  unfold patchMerge
  dsimp only
  rcases Option.eq_none_or_eq_some (c.state.objects.get? ⟨r.kind, ns, name⟩) with hget | ⟨stored, hget⟩
  · simp [hget, Except.isOk, Except.toBool]
  · simp only [hget]
    split_ifs <;> split <;> simp_all [Except.isOk, Except.toBool]

theorem mem_visits_append {d : SimCluster} :
    ∀ (xs ys : List (Timestamp × ClusterCall)) (c : SimCluster),
      d ∈ c.visits (xs ++ ys) ↔ d ∈ c.visits xs ∨ d ∈ (c.runCalls xs).visits ys
  | [], ys, c => by
    simp only [List.nil_append, visits, runCalls, List.mem_singleton]
    constructor
    · exact .inr
    · rintro (rfl | h)
      · exact self_mem_visits _ ys
      · exact h
  | (now, x) :: xs, ys, c => by
    simp only [List.cons_append, visits, runCalls, List.mem_cons, mem_visits_append xs ys, or_assoc]

end SimCluster

/-! ## The plans OLM offers -/

namespace PendingInstall

@[simp] theorem planName_upgrade (p : PendingInstall) : p.upgrade.planName = p.planName ++ "-2" := rfl

@[simp] theorem csvName_upgrade (p : PendingInstall) :
    p.upgrade.csvName = p.package ++ "." ++ upgradeCsvVersion := rfl

@[simp] theorem package_upgrade (p : PendingInstall) : p.upgrade.package = p.package := rfl

@[simp] theorem subscription_upgrade (p : PendingInstall) : p.upgrade.subscription = p.subscription := rfl

theorem planName_upgrade_ne (p : PendingInstall) : p.upgrade.planName ≠ p.planName := by
  intro h
  have := congrArg String.length h
  simp at this

end PendingInstall

namespace SimSettings

variable (settings : SimSettings) (name : String) (spec : SubscriptionSpec)

theorem offersUpgrade_firstInstall :
    settings.offersUpgrade (settings.firstInstall name spec) = settings.pendingUpgrade := by
  have hends : (spec.name ++ "." ++ firstCsvVersion).endsWith firstCsvVersion = true := by
    show (spec.name ++ "." ++ firstCsvVersion).toSlice.endsWith firstCsvVersion = true
    rw [String.Slice.endsWith_string_iff]
    simpa using List.suffix_append (spec.name.toList ++ ['.']) firstCsvVersion.toList
  simp [offersUpgrade, hends]

theorem csvName_upgrade_firstInstall_ne :
    (settings.firstInstall name spec).upgrade.csvName ≠ (settings.firstInstall name spec).csvName := by
  simp [firstCsvVersion, upgradeCsvVersion]

end SimSettings

namespace SimState

/-- Whether the install plan stored at `key` is approved, read as OLM reads it before it
installs. -/
def planApproved (s : SimState) (key : ObjectKey) : Bool :=
  ((s.objects.get? key).bind fun o => (o.data.pointer "/spec/approved").bind Json.asBool?).getD false

theorem planApproved_eq {s : SimState} {key : ObjectKey} {ns : String} {p : PendingInstall}
    {approval : InstallPlanApproval} {approved : Bool} {n : Nat}
    (h : s.objects.get? key = some ((planObject ns p approval approved).stamp n)) :
    s.planApproved key = approved := by
  simp [planApproved, h, SimCluster.approved_planObject]

theorem planApproved_congr {s s' : SimState} {key : ObjectKey}
    (h : s'.objects.get? key = s.objects.get? key) : s'.planApproved key = s.planApproved key := by
  unfold planApproved
  rw [h]

variable {s₀ s s' : SimState} {ns : String} {p : PendingInstall}

/-- Relative to the state `s₀` a run starts from, the upgrade after `p` is held back in `s`: the
plan that offers it is as in `s₀` or waits for approval, and its CSV is as in `s₀`. -/
structure UpgradeHeld (s₀ : SimState) (ns : String) (p : PendingInstall) (s : SimState) : Prop where
  plan : s.objects.get? ⟨"InstallPlan", ns, p.upgrade.planName⟩ =
      s₀.objects.get? ⟨"InstallPlan", ns, p.upgrade.planName⟩ ∨
    ∃ n, s.objects.get? ⟨"InstallPlan", ns, p.upgrade.planName⟩ =
      some ((planObject ns p.upgrade .manual false).stamp n)
  csv : s.objects.get? ⟨"ClusterServiceVersion", ns, p.upgrade.csvName⟩ =
    s₀.objects.get? ⟨"ClusterServiceVersion", ns, p.upgrade.csvName⟩

theorem UpgradeHeld.refl (s₀ : SimState) (ns : String) (p : PendingInstall) : UpgradeHeld s₀ ns p s₀ :=
  ⟨.inl rfl, rfl⟩

theorem UpgradeHeld.congr (hs : UpgradeHeld s₀ ns p s)
    (hplan : s'.objects.get? ⟨"InstallPlan", ns, p.upgrade.planName⟩ =
      s.objects.get? ⟨"InstallPlan", ns, p.upgrade.planName⟩)
    (hcsv : s'.objects.get? ⟨"ClusterServiceVersion", ns, p.upgrade.csvName⟩ =
      s.objects.get? ⟨"ClusterServiceVersion", ns, p.upgrade.csvName⟩) : UpgradeHeld s₀ ns p s' where
  plan := hplan ▸ hs.plan
  csv := hcsv.trans hs.csv

theorem planKey_ne_upgrade (ns : String) (p : PendingInstall) :
    (⟨"InstallPlan", ns, p.planName⟩ : ObjectKey) ≠ ⟨"InstallPlan", ns, p.upgrade.planName⟩ :=
  fun h => p.planName_upgrade_ne (congrArg ObjectKey.name h).symm

theorem UpgradeHeld.planApproved (hs : UpgradeHeld s₀ ns p s)
    (h : s.planApproved ⟨"InstallPlan", ns, p.upgrade.planName⟩ = true) :
    s₀.planApproved ⟨"InstallPlan", ns, p.upgrade.planName⟩ = true := by
  rcases hs.plan with hsame | ⟨n, hwait⟩
  · rwa [planApproved_congr hsame] at h
  · rw [planApproved_eq hwait] at h
    cases h

section Install

variable (settings : SimSettings) (hphase : settings.csvPhase ≠ "Failed") {o : Subscription}
  {st : SubscriptionStatus} (hst : o.status = some st)
  (h : s.objects.get? ⟨"Subscription", ns, p.subscription⟩ = some o.toDynamic) (now : Timestamp)

include hphase hst h

/-- An install writes the CSV of `p`, its operator, the subscription and, with a pending
upgrade, the plan that offers it; every other object stays. -/
theorem get?_install_of_ne {k : ObjectKey} (hcsv : k ≠ ⟨"ClusterServiceVersion", ns, p.csvName⟩)
    (hdep : k ≠ ⟨"Deployment", ns, p.package ++ "-operator"⟩)
    (hsub : k ≠ ⟨"Subscription", ns, p.subscription⟩) (hplan : k ≠ ⟨"InstallPlan", ns, p.upgrade.planName⟩) :
    (SimCluster.install settings s ns p now).objects.get? k = s.objects.get? k := by
  have hplan' : k ≠ ⟨"InstallPlan", ns, p.planName ++ "-2"⟩ := hplan
  rw [get?_install settings hphase hst h now]
  split <;> simp [installedGet?, hcsv, hdep, hsub, hplan']

theorem get?_install_upgradePlan :
    (SimCluster.install settings s ns p now).objects.get? ⟨"InstallPlan", ns, p.upgrade.planName⟩ =
      if settings.offersUpgrade p then some ((planObject ns p.upgrade .manual false).stamp (s.version + 3))
      else s.objects.get? ⟨"InstallPlan", ns, p.upgrade.planName⟩ := by
  rw [get?_install settings hphase hst h now]
  split <;> simp [installedGet?]

theorem UpgradeHeld.install (hcsv : p.upgrade.csvName ≠ p.csvName) (hs : UpgradeHeld s₀ ns p s) :
    UpgradeHeld s₀ ns p (SimCluster.install settings s ns p now) where
  plan := by
    rw [get?_install_upgradePlan settings hphase hst h now]
    split
    · exact .inr ⟨_, rfl⟩
    · exact hs.plan
  csv := by
    rw [get?_install_of_ne settings hphase hst h now (by simpa using hcsv) (by simp) (by simp) (by simp)]
    exact hs.csv

end Install

end SimState

namespace SimSettings

/-- With a pending upgrade, the subscription points at the upgrade once the first CSV is
installed; otherwise at the CSV it offered first. -/
theorem currentCsv_installedStatus (settings : SimSettings) (ns : String) (p : PendingInstall)
    (st : SubscriptionStatus) (approved : Bool) :
    (settings.installedStatus ns p (st.offer ns p approved)).currentCsv =
      some (if settings.offersUpgrade p then p.upgrade.csvName else p.csvName) := by
  unfold installedStatus
  split <;> simp_all [SubscriptionStatus.offer, SubscriptionStatus.install]

end SimSettings

namespace SubscriptionManager

open SimState

@[simp] theorem runCalls_writesAt_cons (c : SimCluster) (now : Timestamp) (x : Write) (ws : List Write) :
    c.runCalls (writesAt now (x :: ws)) = (c.perform now x).runCalls (writesAt now ws) := rfl

@[simp] theorem runCalls_writesAt_nil (c : SimCluster) (now : Timestamp) : c.runCalls (writesAt now []) = c :=
  rfl

@[simp] theorem visits_writesAt_cons (c : SimCluster) (now : Timestamp) (x : Write) (ws : List Write) :
    c.visits (writesAt now (x :: ws)) = c :: (c.perform now x).visits (writesAt now ws) := rfl

@[simp] theorem visits_writesAt_nil (c : SimCluster) (now : Timestamp) : c.visits (writesAt now []) = [c] :=
  rfl

section Writes

variable (c : SimCluster) (m : SubscriptionManager) (d : OperatorDescriptor) (env : List (String × String))
  (now : Timestamp) (hnew : c.state.objects.get? ⟨"Subscription", m.namespaceName, m.name⟩ = none)

@[simp] theorem name_spec_subscriptionFor (approval : InstallPlanApproval) :
    (subscriptionFor m d approval env).spec.name = d.packageManifestId := rfl

theorem name_subscriptionFor (approval : InstallPlanApproval) :
    (subscriptionFor m d approval env).toDynamic.name = m.name := by
  simp [DynamicObject.name, Subscription.toDynamic, TypedObject.dynamic, subscriptionFor]

include hnew

theorem calls_create_subscription (approval : InstallPlanApproval) :
    (c.create OlmKind.subscription.resource m.namespaceName (subscriptionFor m d approval env).toDynamic
      now).2.state.calls = c.state.calls ++ ["create Subscription " ++ m.name] := by
  rw [SimCluster.calls_create, SimCluster.create_subscription_answer c rfl rfl
    (decode_subscriptionFor_metadata m d approval env) hnew now, name_subscriptionFor]
  rfl

theorem plan_created_manual :
    (c.create OlmKind.subscription.resource m.namespaceName (subscriptionFor m d .manual env).toDynamic
      now).2.state.objects.get? ⟨"InstallPlan", m.namespaceName, "install-" ++ m.name⟩ =
      some ((planObject m.namespaceName (c.settings.firstInstall m.name (subscriptionFor m d .manual env).spec)
        .manual false).stamp (c.state.version + 2)) := by
  rw [congrFun (SimCluster.get?_create_manual c (o := subscriptionFor m d .manual env) rfl rfl
    (decode_subscriptionFor_metadata m d .manual env) hnew now rfl), Function.update_of_ne (by simp),
    Function.update_self]

/-- The create of a subscription with manual approval stores no CSV: OLM offers the first
install through a plan that waits for approval, and holds the upgrade back. -/
theorem created_manual :
    let p := c.settings.firstInstall m.name (subscriptionFor m d .manual env).spec
    let created := (c.create OlmKind.subscription.resource m.namespaceName
      (subscriptionFor m d .manual env).toDynamic now).2
    (∀ k : ObjectKey, k.kind = "ClusterServiceVersion" →
      created.state.objects.get? k = c.state.objects.get? k) ∧
    created.state.planApproved ⟨"InstallPlan", m.namespaceName, p.planName⟩ = false ∧
    UpgradeHeld c.state m.namespaceName p created.state := by
  intro p created
  have hget := SimCluster.get?_create_manual c (o := subscriptionFor m d .manual env) rfl rfl
    (decode_subscriptionFor_metadata m d .manual env) hnew now rfl
  refine ⟨fun k hk => ?_, ?_, ?_⟩
  · rw [congrFun hget k, Function.update_of_ne, Function.update_of_ne]
    · rintro rfl
      simp at hk
    · rintro rfl
      simp at hk
  · exact planApproved_eq (plan_created_manual c m d env now hnew)
  · refine (UpgradeHeld.refl _ _ _).congr ?_ ?_
    · rw [congrFun hget, Function.update_of_ne (by simp), Function.update_of_ne]
      simp [p]
    · rw [congrFun hget, Function.update_of_ne (by simp), Function.update_of_ne (by simp)]

/-- With manual approval, approving the first plan installs its CSV; the upgrade stays held back
and the patch records itself. -/
theorem approved_manual (hphase : c.settings.csvPhase = "Succeeded") :
    let p := c.settings.firstInstall m.name (subscriptionFor m d .manual env).spec
    let installed := c.runCalls (writesAt now (subscribeWrites m d .manual env))
    installed.state.planApproved ⟨"InstallPlan", m.namespaceName, p.planName⟩ = true ∧
    UpgradeHeld c.state m.namespaceName p installed.state ∧
    (∃ o : Subscription,
      installed.state.objects.get? ⟨"Subscription", m.namespaceName, m.name⟩ = some o.toDynamic ∧
      ObjectMeta.decode (.json o.metadata.toJson) = .ok o.metadata ∧ o.installedCsv = some p.csvName ∧
      o.currentCsv = some (if c.settings.pendingUpgrade then p.upgrade.csvName else p.csvName)) ∧
    installed.state.calls =
      c.state.calls ++ ["create Subscription " ++ m.name, "patch InstallPlan install-" ++ m.name] := by
  intro p installed
  obtain ⟨-, -, hheld⟩ := created_manual c m d env now hnew
  obtain ⟨o₁, hsub, hmeta, hst⟩ := SimCluster.stored_create_manual c (o := subscriptionFor m d .manual env)
    rfl rfl (decode_subscriptionFor_metadata m d .manual env) hnew now rfl
  have hplan := plan_created_manual c m d env now hnew
  have hpending := SimCluster.pending_create_manual c (o := subscriptionFor m d .manual env) rfl rfl
    (decode_subscriptionFor_metadata m d .manual env) hnew now rfl
  set created := (c.create OlmKind.subscription.resource m.namespaceName
    (subscriptionFor m d .manual env).toDynamic now).2 with hcreated
  have hsettings : created.settings = c.settings := SimCluster.settings_create c _ now
  have hfail : created.settings.csvPhase ≠ "Failed" := by
    rw [hsettings, hphase]
    decide
  have hinstalled : installed = (created.patchMerge OlmKind.installPlan.resource m.namespaceName p.planName
      SimCluster.approvalPatch now).2 := rfl
  have hpatch := SimCluster.patchMerge_approval_eq (p := p) created hplan hpending now
  -- the approval stores the approved plan over the offered one, then OLM installs
  set approvedState := { (created.state.record ("patch InstallPlan " ++ p.planName)).store
    ⟨"InstallPlan", m.namespaceName, p.planName⟩
    ((planObject m.namespaceName p .manual true).stamp (c.state.version + 2)) with
    pending := created.state.pending.erase ⟨m.namespaceName, p.planName⟩ } with happroved
  have hstate : installed.state = SimCluster.install created.settings approvedState m.namespaceName p now := by
    rw [hinstalled, hpatch]
  have hsub' : approvedState.objects.get? ⟨"Subscription", m.namespaceName, p.subscription⟩ =
      some o₁.toDynamic := by
    simp only [happroved, get?_store_eq, objects_record]
    rw [Function.update_of_ne (by simp)]
    exact hsub
  refine ⟨?_, ?_, ?_, ?_⟩
  · have hlookup : installed.state.objects.get? ⟨"InstallPlan", m.namespaceName, p.planName⟩ =
        some ((planObject m.namespaceName p .manual true).stamp (created.state.version + 1)) := by
      rw [hstate, get?_install_of_ne created.settings hfail hst hsub' now (by simp) (by simp) (by simp)
        (planKey_ne_upgrade _ _)]
      simp [happroved, get?_store_eq]
    exact planApproved_eq hlookup
  · rw [hstate]
    refine (hheld.congr ?_ ?_).install created.settings hfail hst hsub' now
      (SimSettings.csvName_upgrade_firstInstall_ne _ _ _)
    · simp only [happroved, get?_store_eq, objects_record]
      rw [Function.update_of_ne (planKey_ne_upgrade _ _).symm]
    · simp only [happroved, get?_store_eq, objects_record]
      rw [Function.update_of_ne (by simp)]
  · have hI := SimCluster.installed_patchMerge_approval (p := p) created (hsettings ▸ hphase) hplan hpending
      hst hsub hmeta now
    rw [hsettings] at hI
    have hcur := SimSettings.currentCsv_installedStatus c.settings m.namespaceName p
      ((subscriptionFor m d .manual env).status.getD {}) false
    rw [SimSettings.offersUpgrade_firstInstall] at hcur
    exact ⟨_, hI.subscription, hmeta, hI.installedCsv, hcur⟩
  · rw [hinstalled, SimCluster.calls_patchMerge, hpatch, calls_create_subscription c m d env now hnew]
    simp only [Except.isOk, Except.toBool, if_true, List.append_assoc, List.cons_append, List.nil_append,
      show OlmKind.installPlan.resource.kind = "InstallPlan" from rfl, SimSettings.planName_firstInstall, p,
      ← String.append_assoc, String.reduceAppend]

/-- With automatic approval, the create installs the first CSV at once; the upgrade stays held
back and the create records itself. -/
theorem installed_automatic (hphase : c.settings.csvPhase = "Succeeded") :
    let p := c.settings.firstInstall m.name (subscriptionFor m d .automatic env).spec
    let installed := c.runCalls (writesAt now (subscribeWrites m d .automatic env))
    installed.state.planApproved ⟨"InstallPlan", m.namespaceName, p.planName⟩ = true ∧
    UpgradeHeld c.state m.namespaceName p installed.state ∧
    (∃ o : Subscription,
      installed.state.objects.get? ⟨"Subscription", m.namespaceName, m.name⟩ = some o.toDynamic ∧
      ObjectMeta.decode (.json o.metadata.toJson) = .ok o.metadata ∧ o.installedCsv = some p.csvName ∧
      o.currentCsv = some (if c.settings.pendingUpgrade then p.upgrade.csvName else p.csvName)) ∧
    installed.state.calls = c.state.calls ++ ["create Subscription " ++ m.name] := by
  intro p installed
  have hfail : c.settings.csvPhase ≠ "Failed" := by
    rw [hphase]
    decide
  have hinstalled : installed = (c.create OlmKind.subscription.resource m.namespaceName
      (subscriptionFor m d .automatic env).toDynamic now).2 := rfl
  -- the create stores the subscription, then OLM offers its first install through an approved
  -- plan and installs it
  set stored := (c.state.record ("create Subscription " ++ m.name)).store
    ⟨"Subscription", m.namespaceName, m.name⟩ (subscriptionFor m d .automatic env).toDynamic with hstored
  have hsub₀ : stored.objects.get? ⟨"Subscription", m.namespaceName, m.name⟩ =
      some (SimCluster.storedAt (subscriptionFor m d .automatic env) (c.state.version + 1)).toDynamic := by
    rw [hstored, get?_store_eq, Function.update_self]
    rfl
  have hoffer : (stored.offerPlan m.namespaceName p true).objects.get? = _ := get?_offerPlan hsub₀
  have hsub₁ : (stored.offerPlan m.namespaceName p true).objects.get?
      ⟨"Subscription", m.namespaceName, p.subscription⟩ =
      some { SimCluster.storedAt (subscriptionFor m d .automatic env) (c.state.version + 1) with
        status := some (({} : SubscriptionStatus).offer m.namespaceName p true) }.toDynamic := by
    rw [hoffer, Function.update_self]
    rfl
  have hstate : installed.state =
      SimCluster.install c.settings (stored.offerPlan m.namespaceName p true) m.namespaceName p now := by
    rw [hinstalled, SimCluster.create_subscription_eq c (o := subscriptionFor m d .automatic env) rfl rfl
      (decode_subscriptionFor_metadata m d .automatic env) hnew now]
    have happ : ((subscriptionFor m d .automatic env).spec.installPlanApproval != some .manual) = true := rfl
    simp only [happ, SimCluster.offer, if_true]
    rfl
  refine ⟨?_, ?_, ?_, ?_⟩
  · have hlookup : installed.state.objects.get? ⟨"InstallPlan", m.namespaceName, p.planName⟩ =
        some ((planObject m.namespaceName p .automatic true).stamp (stored.version + 1)) := by
      rw [hstate, get?_install_of_ne c.settings hfail rfl hsub₁ now (by simp) (by simp) (by simp)
        (planKey_ne_upgrade _ _), hoffer, Function.update_of_ne (by simp), Function.update_self]
      rfl
    exact planApproved_eq hlookup
  · have hheld₀ : UpgradeHeld c.state m.namespaceName p stored := by
      refine (UpgradeHeld.refl _ _ _).congr ?_ ?_
      · rw [hstored, get?_store_eq, Function.update_of_ne (by simp), objects_record]
      · rw [hstored, get?_store_eq, Function.update_of_ne (by simp), objects_record]
    have hoffered : UpgradeHeld c.state m.namespaceName p (stored.offerPlan m.namespaceName p true) := by
      refine hheld₀.congr ?_ ?_
      · rw [hoffer, Function.update_of_ne (by simp), Function.update_of_ne (planKey_ne_upgrade _ _).symm]
      · rw [hoffer, Function.update_of_ne (by simp), Function.update_of_ne (by simp)]
    rw [hstate]
    exact hoffered.install c.settings hfail rfl hsub₁ now (SimSettings.csvName_upgrade_firstInstall_ne _ _ _)
  · have hI := SimCluster.installed_create_approved c (o := subscriptionFor m d .automatic env) rfl rfl
      (decode_subscriptionFor_metadata m d .automatic env) hnew now hphase (by simp [subscriptionFor])
    have hcur := SimSettings.currentCsv_installedStatus c.settings m.namespaceName p
      ((subscriptionFor m d .automatic env).status.getD {}) true
    rw [SimSettings.offersUpgrade_firstInstall] at hcur
    exact ⟨_, hI.subscription, hI.metadata, hI.installedCsv, hcur⟩
  · exact calls_create_subscription c m d env now hnew .automatic

/-- The writes of a subscribe up to the install: the first plan ends approved, the subscription
records the install, and every cluster they pass through holds the upgrade back. -/
theorem subscribeWrites_install (approval : InstallPlanApproval)
    (hphase : c.settings.csvPhase = "Succeeded") :
    let p := c.settings.firstInstall m.name (subscriptionFor m d approval env).spec
    let installed := c.runCalls (writesAt now (subscribeWrites m d approval env))
    (∀ c' ∈ c.visits (writesAt now (subscribeWrites m d approval env)),
      UpgradeHeld c.state m.namespaceName p c'.state) ∧
    installed.state.planApproved ⟨"InstallPlan", m.namespaceName, p.planName⟩ = true ∧
    (∃ o : Subscription,
      installed.state.objects.get? ⟨"Subscription", m.namespaceName, m.name⟩ = some o.toDynamic ∧
      ObjectMeta.decode (.json o.metadata.toJson) = .ok o.metadata ∧ o.installedCsv = some p.csvName ∧
      o.currentCsv = some (if c.settings.pendingUpgrade then p.upgrade.csvName else p.csvName)) ∧
    installed.state.calls = c.state.calls ++ ("create Subscription " ++ m.name) ::
      (if approval = .manual then ["patch InstallPlan install-" ++ m.name] else []) := by
  intro p installed
  cases approval with
  | manual =>
    obtain ⟨-, -, hcreated⟩ := created_manual c m d env now hnew
    obtain ⟨happroved, hheld, hsub, hcalls⟩ := approved_manual c m d env now hnew hphase
    refine ⟨fun c' hc' => ?_, happroved, hsub, hcalls⟩
    -- the run passes through the start, the created subscription and the approved plan
    simp [subscribeWrites] at hc'
    rcases hc' with rfl | rfl | rfl
    · exact .refl _ _ _
    · exact hcreated
    · exact hheld
  | automatic =>
    obtain ⟨happroved, hheld, hsub, hcalls⟩ := installed_automatic c m d env now hnew hphase
    refine ⟨fun c' hc' => ?_, happroved, hsub, hcalls⟩
    simp [subscribeWrites] at hc'
    rcases hc' with rfl | rfl
    · exact .refl _ _ _
    · exact hheld

end Writes

theorem writesAt_append (now : Timestamp) (ws ws' : List Write) :
    writesAt now (ws ++ ws') = writesAt now ws ++ writesAt now ws' := List.map_append

theorem envWrites_keep {c : SimCluster} {ns : String} {p : PendingInstall} {o : Subscription} {n : Nat}
    (hI : Installed c.state ns p o [operatorContainer] n) (env : List (String × String)) (now : Timestamp)
    (written : Bool) :
    let c' := c.runCalls (writesAt now (if written then [envWrite ns p n env] else []))
    c'.state.calls =
      c.state.calls ++ (if written then ["replace ClusterServiceVersion " ++ p.csvName] else []) ∧
    ∀ k : ObjectKey, k ≠ ⟨"ClusterServiceVersion", ns, p.csvName⟩ →
      k ≠ ⟨"Deployment", ns, p.package ++ "-operator"⟩ → c'.state.objects.get? k = c.state.objects.get? k := by
  intro c'
  cases written with
  | false => simp [c']
  | true =>
    have hreplace : c.replace OlmKind.clusterServiceVersion.resource ns
        ((csvWith ns p "Succeeded" [withVars (envVars env) operatorContainer]).stamp n) now = _ :=
      SimCluster.replace_csv_eq c hI.csv now
    have hc' : c' = (c.replace OlmKind.clusterServiceVersion.resource ns
        ((csvWith ns p "Succeeded" [withVars (envVars env) operatorContainer]).stamp n) now).2 := rfl
    refine ⟨?_, fun k hcsv hdep => ?_⟩
    · rw [hc', SimCluster.calls_replace, hreplace]
      simp [Except.isOk, Except.toBool, DynamicObject.stamp,
        show OlmKind.clusterServiceVersion.resource.kind = "ClusterServiceVersion" from rfl]
      rfl
    · rw [hc', hreplace]
      simp [get?_store_eq, hcsv, hdep]

/-- A manual subscribe approves exactly the first plan and an automatic one patches none; neither
stores or approves the pending upgrade, and the CSV recorded is the one installed first. -/
theorem subscribe_approves_only_its_first_plan (m : SubscriptionManager) (d : OperatorDescriptor)
    (approval : InstallPlanApproval) (env : List (String × String)) (policy : WaitPolicy)
    (guard : Option (Step SimCluster (Option ClusterEvent))) (w : World SimCluster)
    (habsent : m.state = .absent)
    (hcatalog : (w.cluster.catalogSource? d.catalogSourceNamespace d.catalogSourceName).isSome)
    (hnew : w.cluster.state.objects.get? ⟨"Subscription", m.namespaceName, m.name⟩ = none)
    (hphase : w.cluster.settings.csvPhase = "Succeeded") (hnames : (env.map Prod.fst).Nodup) :
    let ns := m.namespaceName
    let csvName := d.packageManifestId ++ "." ++ firstCsvVersion
    let upgradeCsv : ObjectKey := ⟨"ClusterServiceVersion", ns, d.packageManifestId ++ "." ++ upgradeCsvVersion⟩
    let firstPlan : ObjectKey := ⟨"InstallPlan", ns, "install-" ++ m.name⟩
    let upgradePlan : ObjectKey := ⟨"InstallPlan", ns, "install-" ++ m.name ++ "-2"⟩
    let created := w.cluster.perform w.now
      (.create OlmKind.subscription.resource ns (subscriptionFor m d approval env).toDynamic)
    Tracked.wp (subscribe SimCluster.platform d approval env policy guard) (fun x m' w' =>
      x = .ok () ∧ m'.currentCsv = some csvName ∧
      (w'.cluster.subscription? ns m.name).bind Subscription.installedCsv = some csvName ∧
      (w'.cluster.subscription? ns m.name).bind Subscription.currentCsv =
        some (if w.cluster.settings.pendingUpgrade then upgradeCsv.name else csvName) ∧
      w'.cluster.state.calls = w.cluster.state.calls ++ ("create Subscription " ++ m.name) ::
        ((if approval = .manual then ["patch InstallPlan install-" ++ m.name] else []) ++
          if !env.isEmpty && !w.cluster.settings.propagateEnv then
            ["replace ClusterServiceVersion " ++ csvName] else []) ∧
      (∃ extra : List Write,
        (extra = [] ∨ ∃ o, o.name = csvName ∧ extra = [.replace OlmKind.clusterServiceVersion.resource ns o]) ∧
        w'.cluster = w.cluster.runCalls (writesAt w.now (subscribeWrites m d approval env ++ extra)) ∧
        ∀ c ∈ w.cluster.visits (writesAt w.now (subscribeWrites m d approval env ++ extra)),
          (c.state.planApproved upgradePlan = true → w.cluster.state.planApproved upgradePlan = true) ∧
          c.state.objects.get? upgradeCsv = w.cluster.state.objects.get? upgradeCsv) ∧
      (approval = .manual →
        (∀ k : ObjectKey, k.kind = "ClusterServiceVersion" →
          created.state.objects.get? k = w.cluster.state.objects.get? k) ∧
        created.state.planApproved firstPlan = false) ∧
      w'.cluster.state.planApproved firstPlan = true) m w := by
  intro ns csvName upgradeCsv firstPlan upgradePlan created
  obtain ⟨hheld, happroved, ⟨o, hsub, hmeta, hinstalledCsv, hcurrent⟩, hcalls⟩ :=
    subscribeWrites_install w.cluster m d env w.now hnew approval hphase
  refine Tracked.wp_mono (subscribe_sim m d approval env policy guard w habsent hcatalog hnew hphase hnames) ?_
  rintro x m' w' ⟨rfl, rfl, -, oI, n, hI, hw⟩
  set p := w.cluster.settings.firstInstall m.name (subscriptionFor m d approval env).spec
  set installed := w.cluster.runCalls (writesAt w.now (subscribeWrites m d approval env))
  generalize hwritten : (!env.isEmpty && !w.cluster.settings.propagateEnv) = written at hw ⊢
  obtain ⟨henvCalls, hkeep⟩ := envWrites_keep hI env w.now written
  -- the writes of variables change only the CSV and its operator
  have hsubFinal : w'.cluster.state.objects.get? ⟨"Subscription", ns, m.name⟩ = some o.toDynamic := by
    rw [hw, hkeep _ (by simp) (by simp), hsub]
  have hsubscription : w'.cluster.subscription? ns m.name = some o := by
    unfold SimCluster.subscription? SimCluster.get
    rw [show OlmKind.subscription.resource.kind = "Subscription" from rfl, hsubFinal, Option.bind_some,
      TypedKind.fromDynamic_subscription o hmeta]
    rfl
  -- every cluster after the install holds the upgrade back too
  have hheldAfter : ∀ c ∈ installed.visits (writesAt w.now (if written then [envWrite ns p n env] else [])),
      UpgradeHeld w.cluster.state ns p c.state := by
    intro c hc
    have hinst : UpgradeHeld w.cluster.state ns p installed.state :=
      hheld _ (SimCluster.runCalls_mem_visits _ _)
    cases written with
    | false =>
      simp only [Bool.false_eq_true, if_false, visits_writesAt_nil, List.mem_singleton] at hc
      exact hc ▸ hinst
    | true =>
      simp only [if_true, visits_writesAt_cons, visits_writesAt_nil, List.mem_cons, List.not_mem_nil,
        or_false] at hc
      rcases hc with rfl | rfl
      · exact hinst
      · exact hinst.congr (hkeep _ (by simp) (by simp))
          (hkeep _ (by simp [p, firstCsvVersion, upgradeCsvVersion]) (by simp))
  refine ⟨rfl, rfl, ?_, ?_, ?_, ⟨if written then [envWrite ns p n env] else [], ?_, ?_, ?_⟩, ?_, ?_⟩
  · simp [hsubscription, hinstalledCsv, csvName, p]
  · simp [hsubscription, hcurrent, csvName, upgradeCsv, p]
  · rw [hw, henvCalls, hcalls, List.append_assoc, List.cons_append]
    rfl
  · cases written with
    | false => exact .inl rfl
    | true => exact .inr ⟨_, rfl, rfl⟩
  · rw [hw, writesAt_append, SimCluster.runCalls_append]
  · intro c hc
    rw [writesAt_append, SimCluster.mem_visits_append] at hc
    have hc' : UpgradeHeld w.cluster.state ns p c.state := hc.elim (hheld c) (hheldAfter c)
    exact ⟨hc'.planApproved, hc'.csv⟩
  · rintro rfl
    obtain ⟨hcsv, hplan, -⟩ := created_manual w.cluster m d env w.now hnew
    exact ⟨hcsv, hplan⟩
  · have hplanFinal : w'.cluster.state.objects.get? firstPlan = installed.state.objects.get? firstPlan := by
      rw [hw]
      exact hkeep _ (by simp [firstPlan]) (by simp [firstPlan])
    rw [planApproved_congr hplanFinal]
    exact happroved

/-- A manual subscribe to `broker`, with an upgrade pending and OLM leaving the variables to the
manager. -/
theorem subscribe_approves_only_its_first_plan_broker :
    let m : SubscriptionManager := { namespaceName := "demo", name := "broker" }
    let d : OperatorDescriptor :=
      { packageManifestId := "broker", catalogSourceName := "operators", catalogSourceNamespace := "olm",
        indexImage := none, channel := some "stable", startingCsv := none,
        installPlanApproval := .manual, distribution := .community }
    let approval : InstallPlanApproval := .manual
    let env := [("LOG_LEVEL", "debug")]
    let policy := WaitPolicy.default
    let guard : Option (Step SimCluster (Option ClusterEvent)) := none
    let spec : ClusterSpec :=
      { catalogs := [("olm", "operators")]
        settings := { propagateEnv := false, pendingUpgrade := true } }
    let w : World SimCluster := ⟨spec.build, ⟨0⟩, [], ⟨0, 0⟩, ⟨0, 0⟩⟩
    (m.state = .absent ∧ (w.cluster.catalogSource? d.catalogSourceNamespace d.catalogSourceName).isSome ∧
      w.cluster.state.objects.get? ⟨"Subscription", m.namespaceName, m.name⟩ = none ∧
      w.cluster.settings.csvPhase = "Succeeded" ∧ (env.map Prod.fst).Nodup) ∧
    let ns := m.namespaceName
    let csvName := d.packageManifestId ++ "." ++ firstCsvVersion
    let upgradeCsv : ObjectKey := ⟨"ClusterServiceVersion", ns, d.packageManifestId ++ "." ++ upgradeCsvVersion⟩
    let firstPlan : ObjectKey := ⟨"InstallPlan", ns, "install-" ++ m.name⟩
    let upgradePlan : ObjectKey := ⟨"InstallPlan", ns, "install-" ++ m.name ++ "-2"⟩
    let created := w.cluster.perform w.now
      (.create OlmKind.subscription.resource ns (subscriptionFor m d approval env).toDynamic)
    Tracked.wp (subscribe SimCluster.platform d approval env policy guard) (fun x m' w' =>
      x = .ok () ∧ m'.currentCsv = some csvName ∧
      (w'.cluster.subscription? ns m.name).bind Subscription.installedCsv = some csvName ∧
      (w'.cluster.subscription? ns m.name).bind Subscription.currentCsv =
        some (if w.cluster.settings.pendingUpgrade then upgradeCsv.name else csvName) ∧
      w'.cluster.state.calls = w.cluster.state.calls ++ ("create Subscription " ++ m.name) ::
        ((if approval = .manual then ["patch InstallPlan install-" ++ m.name] else []) ++
          if !env.isEmpty && !w.cluster.settings.propagateEnv then
            ["replace ClusterServiceVersion " ++ csvName] else []) ∧
      (∃ extra : List Write,
        (extra = [] ∨ ∃ o, o.name = csvName ∧ extra = [.replace OlmKind.clusterServiceVersion.resource ns o]) ∧
        w'.cluster = w.cluster.runCalls (writesAt w.now (subscribeWrites m d approval env ++ extra)) ∧
        ∀ c ∈ w.cluster.visits (writesAt w.now (subscribeWrites m d approval env ++ extra)),
          (c.state.planApproved upgradePlan = true → w.cluster.state.planApproved upgradePlan = true) ∧
          c.state.objects.get? upgradeCsv = w.cluster.state.objects.get? upgradeCsv) ∧
      (approval = .manual →
        (∀ k : ObjectKey, k.kind = "ClusterServiceVersion" →
          created.state.objects.get? k = w.cluster.state.objects.get? k) ∧
        created.state.planApproved firstPlan = false) ∧
      w'.cluster.state.planApproved firstPlan = true) m w :=
  ⟨⟨rfl, by decide, by decide, rfl, by decide⟩,
    subscribe_approves_only_its_first_plan _ _ _ _ _ _ _ rfl (by decide) (by decide) rfl (by decide)⟩

end SubscriptionManager

end OlmProvision
