import OlmProvision.Proofs.SubscribeApproval

/-
The variables a subscribe passes to the operator.

A subscribe with variables hands them to OLM in the subscription's `config.env`. When OLM
propagates them, the operator deployment it renders for the installed CSV carries them and the
manager writes nothing more. When it does not, the manager writes them into the install strategy
of the installed CSV, once, and OLM renders the operator again from the CSV.

1. `DynamicObject.SameButEnv`: a CSV that differs from another at most in the environments of
   the containers of its install strategy and in its resource version. The CSV the manager
   writes is such a copy of the one OLM installed (`sameButEnv_csvWith`): the install modes, the
   owned resources, the related images and the service account survive.
2. `SimState.Installed.operator_carries`: an install whose operator containers end up with the
   variables set, by OLM or in the CSV, has an operator deployment carrying every one of them on
   every container.
3. `SubscriptionManager.subscribe_sets_variables_on_operator`: the whole subscribe.
-/
namespace OlmProvision

namespace DynamicObject

/-- `o'` is `o` with at most the environments of the containers of its install strategy and its
resource version changed. -/
structure SameButEnv (o o' : DynamicObject) : Prop where
  types : o'.types = o.types
  metadata : { o'.metadata with resourceVersion := none } = { o.metadata with resourceVersion := none }
  data : SimState.strategyWithoutEnv o'.data = SimState.strategyWithoutEnv o.data

end DynamicObject

namespace SimState

open Deployments SubscriptionManager

/-- The deployments of a CSV's install strategy, where the manager writes variables. -/
def strategyDeployments (data : Json) : List Json :=
  ((data.pointer "/spec/install/spec/deployments").bind Json.asArray?).getD []

variable {ns : String} {p : PendingInstall}

theorem strategyDeployments_csvWith (phase : String) (cs : List Json) (n : Nat) :
    strategyDeployments ((csvWith ns p phase cs).stamp n).data = [strategyEntry (p.package ++ "-operator") cs] := by
  simp [strategyDeployments, csvWith, pointer_csvDataWith, Json.asArray?]

theorem erase_withVars_operatorContainer {vars : List EnvVar} (hnd : (vars.map EnvVar.name).Nodup) :
    (withVars vars operatorContainer).erase "env" = operatorContainer := by
  by_cases hne : vars = []
  · subst hne
    exact erase_operatorContainer
  · rw [withVars_operatorContainer hne hnd, operatorContainer, erase_withEnv]
    simp [Fields.erase]

/-- Writing variables of distinct names into the operator of a CSV of an install changes only
the environments of its containers and its resource version. -/
theorem sameButEnv_csvWith (phase : String) {vars : List EnvVar} (hnd : (vars.map EnvVar.name).Nodup)
    (n n' : Nat) :
    ((csvWith ns p phase [operatorContainer]).stamp n).SameButEnv
      ((csvWith ns p phase [withVars vars operatorContainer]).stamp n') where
  types := rfl
  metadata := rfl
  data := by
    simp only [DynamicObject.data_stamp, csvWith, strategyWithoutEnv_csvDataWith, List.map_cons,
      List.map_nil, erase_withVars_operatorContainer hnd, erase_operatorContainer]

theorem Installed.csv_typed {s : SimState} {o : Subscription} {cs : List Json} {n : Nat}
    (hI : Installed s ns p o cs n) :
    (s.objects.get? ⟨"ClusterServiceVersion", ns, p.csvName⟩).map TypedKind.clusterServiceVersion.fromDynamic =
      some (.ok (csvTyped ns p "Succeeded" cs n)) := by
  rw [hI.csv, Option.map_some, fromDynamic_csvWith]

theorem Installed.operator_carries {s : SimState} {o : Subscription} {cs : List Json} {n : Nat}
    (hI : Installed s ns p o cs n) {env : List (String × String)} (hnd : (env.map Prod.fst).Nodup)
    (hcs : cs.map (withVars p.env) = [withVars (envVars env) operatorContainer]) :
    ∃ dep, s.objects.get? ⟨"Deployment", ns, p.package ++ "-operator"⟩ = some dep ∧
      ∀ nv ∈ env, haveEnv [dep.data] nv.1 nv.2 = true := by
  obtain ⟨dep, hdep, hdata⟩ := Option.map_eq_some_iff.mp hI.operator
  refine ⟨dep, hdep, fun nv hnv => ?_⟩
  rw [hdata]
  show haveEnv [.obj [("spec", operatorSpec (p.package ++ "-operator") (cs.map (withVars p.env)))]] nv.1 nv.2 = true
  rw [hcs]
  exact List.all_eq_true.mp (all_haveEnv_withVars hnd _) nv hnv

end SimState

namespace SubscriptionManager

open SimState Deployments

theorem envWritten_of_ne_nil {env : List (String × String)} (hne : env ≠ []) (propagate : Bool) :
    (!env.isEmpty && !propagate) = !propagate := by
  simp [hne]

/-- After the write of the variables, made only when OLM does not propagate them, the install
is still in place, and the containers of its operator carry the variables either way. -/
theorem installed_envWrites {c : SimCluster} {ns : String} {p : PendingInstall} {o : Subscription}
    {n : Nat} (hI : Installed c.state ns p o [operatorContainer] n) {env : List (String × String)}
    (hne : env ≠ []) {propagate : Bool} (henv : p.env = if propagate then envVars env else [])
    (now : Timestamp) :
    ∃ cs n', Installed (c.runCalls (writesAt now
        (if !env.isEmpty && !propagate then [envWrite ns p n env] else []))).state ns p o cs n' ∧
      cs.map (withVars p.env) = [withVars (envVars env) operatorContainer] := by
  rw [envWritten_of_ne_nil hne]
  cases propagate with
  | true =>
    -- OLM injects the variables into the operator it renders from the unchanged CSV
    simp only [Bool.not_true, Bool.false_eq_true, if_false, runCalls_writesAt_nil]
    exact ⟨[operatorContainer], n, hI, by simp [henv]⟩
  | false =>
    -- the manager writes them into the CSV, and OLM renders the operator from it again
    simp only [Bool.not_false, if_true, runCalls_writesAt_cons, runCalls_writesAt_nil]
    exact ⟨_, _, hI.replace [withVars (envVars env) operatorContainer] now, by simp [henv]⟩

theorem count_replace_subscribeCalls (name csvName : String) (approval : InstallPlanApproval)
    (written : Bool) :
    (("create Subscription " ++ name) :: ((if approval = .manual then ["patch InstallPlan install-" ++ name]
      else []) ++ if written then ["replace ClusterServiceVersion " ++ csvName] else [])).count
        ("replace ClusterServiceVersion " ++ csvName) = if written then 1 else 0 := by
  have hcreate : "create Subscription " ++ name ≠ "replace ClusterServiceVersion " ++ csvName :=
    fun h => by simpa using congrArg (fun s => s.toList.head?) h
  have hpatch : "patch InstallPlan install-" ++ name ≠ "replace ClusterServiceVersion " ++ csvName :=
    fun h => by simpa using congrArg (fun s => s.toList.head?) h
  rw [List.count_cons, beq_false_of_ne hcreate, List.count_append]
  cases approval <;> cases written <;> simp [hpatch]

/-- A subscribe with variables leaves them on every container of the operator, and replaces the
CSV once, changing only its environments, exactly when OLM does not propagate them. -/
theorem subscribe_sets_variables_on_operator (m : SubscriptionManager) (d : OperatorDescriptor)
    (approval : InstallPlanApproval) (env : List (String × String)) (policy : WaitPolicy)
    (guard : Option (Step SimCluster (Option ClusterEvent))) (w : World SimCluster)
    (habsent : m.state = .absent)
    (hcatalog : (w.cluster.catalogSource? d.catalogSourceNamespace d.catalogSourceName).isSome)
    (hnew : w.cluster.state.objects.get? ⟨"Subscription", m.namespaceName, m.name⟩ = none)
    (hphase : w.cluster.settings.csvPhase = "Succeeded") (hnames : (env.map Prod.fst).Nodup)
    (hne : env ≠ []) :
    let ns := m.namespaceName
    let csvKey : ObjectKey := ⟨"ClusterServiceVersion", ns, d.packageManifestId ++ "." ++ firstCsvVersion⟩
    let installed := w.cluster.runCalls (writesAt w.now (subscribeWrites m d approval env))
    Tracked.wp (subscribe SimCluster.platform d approval env policy guard) (fun x m' w' =>
      x = .ok () ∧ m'.currentCsv = some csvKey.name ∧
      (∃ csv : ClusterServiceVersion,
        (w'.cluster.state.objects.get? csvKey).map TypedKind.clusterServiceVersion.fromDynamic =
          some (.ok csv) ∧
        csv.deploymentNames = [d.packageManifestId ++ "-operator"] ∧
        ∀ name ∈ csv.deploymentNames, ∃ dep,
          w'.cluster.state.objects.get? ⟨"Deployment", ns, name⟩ = some dep ∧
          ∀ nv ∈ env, haveEnv [dep.data] nv.1 nv.2 = true) ∧
      (w'.cluster.state.calls.drop w.cluster.state.calls.length).count
          ("replace ClusterServiceVersion " ++ csvKey.name) =
        (if w.cluster.settings.propagateEnv then 0 else 1) ∧
      (w.cluster.settings.propagateEnv = false → ∃ before after : DynamicObject,
        installed.state.objects.get? csvKey = some before ∧
        w'.cluster.state.objects.get? csvKey = some after ∧ before.SameButEnv after ∧
        ∀ nv ∈ env, haveEnv (strategyDeployments after.data) nv.1 nv.2 = true)) m w := by
  intro ns csvKey installed
  obtain ⟨-, -, -, hcalls⟩ := subscribeWrites_install w.cluster m d env w.now hnew approval hphase
  refine Tracked.wp_mono (subscribe_sim m d approval env policy guard w habsent hcatalog hnew hphase hnames) ?_
  rintro x m' w' ⟨rfl, rfl, -, o, n, hI, hw⟩
  set p := w.cluster.settings.firstInstall m.name (subscriptionFor m d approval env).spec
  have hcsvKey : csvKey = ⟨"ClusterServiceVersion", ns, p.csvName⟩ := rfl
  have hwritten := envWritten_of_ne_nil hne w.cluster.settings.propagateEnv
  have hnd : ((envVars env).map EnvVar.name).Nodup := by rwa [map_name_envVars]
  obtain ⟨cs, n', hI', hcs⟩ := installed_envWrites hI hne (env_firstInstall w.cluster.settings m d approval env)
    w.now
  rw [← hw] at hI'
  refine ⟨rfl, rfl, ?_, ?_, ?_⟩
  · -- the CSV reads back naming its one operator, and the operator carries the variables
    obtain ⟨dep, hdep, hcarries⟩ := hI'.operator_carries hnames hcs
    refine ⟨_, hI'.csv_typed, deploymentNames_csvTyped .., fun name hname => ?_⟩
    rw [deploymentNames_csvTyped, List.mem_singleton] at hname
    exact ⟨dep, hname ▸ hdep, hcarries⟩
  · obtain ⟨henvCalls, -⟩ := envWrites_keep hI env w.now (!env.isEmpty && !w.cluster.settings.propagateEnv)
    rw [hw, henvCalls, hcalls, List.append_assoc, List.cons_append, List.drop_left, hcsvKey,
      count_replace_subscribeCalls, hwritten]
    cases w.cluster.settings.propagateEnv <;> rfl
  · intro hoff
    rw [hw, hwritten, hoff]
    simp only [Bool.not_false, if_true, runCalls_writesAt_cons, runCalls_writesAt_nil]
    refine ⟨_, _, hI.csv, (hI.replace [withVars (envVars env) operatorContainer] w.now).csv,
      sameButEnv_csvWith "Succeeded" hnd n _, fun nv hnv => ?_⟩
    -- the written strategy runs the operator container with exactly the variables
    rw [strategyDeployments_csvWith, strategyEntry, haveEnv_withVars (spec_strategyEntry _ _) hnd,
      decide_eq_true_iff]
    exact mem_envVars.mpr hnv

/-- An automatic subscribe to `broker` with one variable, OLM leaving it to the manager. -/
theorem subscribe_sets_variables_on_operator_broker :
    let m : SubscriptionManager := { namespaceName := "demo", name := "broker" }
    let d : OperatorDescriptor :=
      { packageManifestId := "broker", catalogSourceName := "operators", catalogSourceNamespace := "olm",
        indexImage := none, channel := some "stable", startingCsv := none,
        installPlanApproval := .automatic, distribution := .community }
    let approval : InstallPlanApproval := .automatic
    let env := [("LOG_LEVEL", "debug")]
    let policy := WaitPolicy.default
    let guard : Option (Step SimCluster (Option ClusterEvent)) := none
    let spec : ClusterSpec :=
      { catalogs := [("olm", "operators")]
        settings := { propagateEnv := false } }
    let w : World SimCluster := ⟨spec.build, ⟨0⟩, [], ⟨0, 0⟩, ⟨0, 0⟩⟩
    (m.state = .absent ∧ (w.cluster.catalogSource? d.catalogSourceNamespace d.catalogSourceName).isSome ∧
      w.cluster.state.objects.get? ⟨"Subscription", m.namespaceName, m.name⟩ = none ∧
      w.cluster.settings.csvPhase = "Succeeded" ∧ (env.map Prod.fst).Nodup ∧ env ≠ []) ∧
    let ns := m.namespaceName
    let csvKey : ObjectKey := ⟨"ClusterServiceVersion", ns, d.packageManifestId ++ "." ++ firstCsvVersion⟩
    let installed := w.cluster.runCalls (writesAt w.now (subscribeWrites m d approval env))
    Tracked.wp (subscribe SimCluster.platform d approval env policy guard) (fun x m' w' =>
      x = .ok () ∧ m'.currentCsv = some csvKey.name ∧
      (∃ csv : ClusterServiceVersion,
        (w'.cluster.state.objects.get? csvKey).map TypedKind.clusterServiceVersion.fromDynamic =
          some (.ok csv) ∧
        csv.deploymentNames = [d.packageManifestId ++ "-operator"] ∧
        ∀ name ∈ csv.deploymentNames, ∃ dep,
          w'.cluster.state.objects.get? ⟨"Deployment", ns, name⟩ = some dep ∧
          ∀ nv ∈ env, haveEnv [dep.data] nv.1 nv.2 = true) ∧
      (w'.cluster.state.calls.drop w.cluster.state.calls.length).count
          ("replace ClusterServiceVersion " ++ csvKey.name) =
        (if w.cluster.settings.propagateEnv then 0 else 1) ∧
      (w.cluster.settings.propagateEnv = false → ∃ before after : DynamicObject,
        installed.state.objects.get? csvKey = some before ∧
        w'.cluster.state.objects.get? csvKey = some after ∧ before.SameButEnv after ∧
        ∀ nv ∈ env, haveEnv (strategyDeployments after.data) nv.1 nv.2 = true)) m w :=
  ⟨⟨rfl, by decide, by decide, rfl, by decide, by decide⟩,
    subscribe_sets_variables_on_operator _ _ _ _ _ _ _ rfl (by decide) (by decide) rfl (by decide)
      (by decide)⟩

end SubscriptionManager

end OlmProvision
