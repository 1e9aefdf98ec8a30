import OlmProvision.Proofs.SimulatedInstall
import OlmProvision.Proofs.TeardownCleanup
import OlmProvision.Proofs.WorkloadRuns

/-
A subscribe on the simulated cluster, call by call.

The simulated OLM answers every write at once, so every wait of a subscribe holds at its first
poll and the run is a fixed sequence of writes with reads between them that change nothing. The
spec lemmas below say what each step of the manager does on the simulated platform, from the
state the step before leaves.

1. `waitFor_of_holds`, `awaitSubscribe_of_holds`: a wait whose predicate holds at once
   succeeds and leaves the cluster and the clock as they were.
2. Reads: `fetchSubscription_stored`, `fetchCsv_stored`, `operatorHasEnv_installed`.
3. Writes: `createSubscription_sim`, `approveInstallPlan_sim`, `applyEnv_installed`.
-/
namespace OlmProvision

/-! ## Waits that hold at once -/

section Waits

variable {σ : Type}

theorem WaitSpec.evaluationBound_pos (spec : WaitSpec) : 0 < spec.evaluationBound := by
  unfold WaitSpec.evaluationBound
  split
  · split <;> decide
  · exact Nat.succ_pos _

@[simp] theorem Step.wp_map {α β : Type} (f : α → β) (c : Step σ α) (Q : β → World σ → Prop)
    (w : World σ) : Step.wp (f <$> c) Q w = Step.wp c (fun a => Q (f a)) w := rfl

/-- A wait whose predicate holds at its first poll succeeds there, whatever its guard. -/
theorem waitFor_of_holds {spec : WaitSpec} {predicate : Step σ (Except String Bool)}
    {guard : Option (Step σ (Option ClusterEvent))} {w : World σ}
    (h : ∀ w' : World σ, w'.cluster = w.cluster → w'.now = w.now →
      Step.wp predicate (fun r w'' => r = .ok true ∧ w''.cluster = w.cluster ∧ w''.now = w.now) w') :
    Step.wp (waitFor spec predicate guard)
      (fun o w' => o = .success ∧ w'.cluster = w.cluster ∧ w'.now = w.now) w := by
  obtain ⟨k, hk⟩ : ∃ k, spec.evaluationBound = k + 1 :=
    ⟨spec.evaluationBound - 1, by have := spec.evaluationBound_pos; omega⟩
  unfold waitFor
  simp only [Step.wp_bind, Step.wp_elapsed, Step.wp_log, hk, waitFor.loop]
  refine Step.wp_mono (h _ rfl rfl) ?_
  rintro r w'' ⟨rfl, hc, hn⟩
  simp [hc, hn]

theorem awaitSubscribe_of_holds (policy : WaitPolicy) (description : String) {r : Run σ Bool}
    (guard : Option (Step σ (Option ClusterEvent))) {w : World σ}
    (h : ∀ w' : World σ, w'.cluster = w.cluster → w'.now = w.now →
      Run.wp r (fun x w'' => x = .ok true ∧ w''.cluster = w.cluster ∧ w''.now = w.now) w') :
    Run.wp (SubscriptionManager.awaitSubscribe policy description r guard)
      (fun x w' => x = .ok () ∧ w'.cluster = w.cluster ∧ w'.now = w.now) w := by
  unfold SubscriptionManager.awaitSubscribe
  simp only [Run.wp_bind, Run.wp_monadLift]
  refine Step.wp_mono (waitFor_of_holds fun w' hc hn => ?_) ?_
  · rw [Run.wp_predicate]
    exact Run.wp_mono (h w' hc hn) fun x w'' ⟨hx, hc', hn'⟩ => by
      subst hx
      exact ⟨rfl, hc', hn'⟩
  · rintro o w' ⟨rfl, hc, hn⟩
    simp [Outcome.intoResult, hc, hn]

end Waits

/-! ## Variables on the simulated operator -/

namespace SubscriptionManager

/-- The variables of an environment map, as the subscription's `config.env` lists them. -/
def envVars (env : List (String × String)) : List EnvVar := env.map fun (n, v) => ⟨n, v⟩

@[simp] theorem envVars_nil : envVars [] = [] := rfl

@[simp] theorem envVars_singleton (n v : String) : envVars [(n, v)] = [⟨n, v⟩] := rfl

theorem envVars_append (env env' : List (String × String)) :
    envVars (env ++ env') = envVars env ++ envVars env' := List.map_append

theorem map_name_envVars (env : List (String × String)) :
    (envVars env).map EnvVar.name = env.map Prod.fst := by
  induction env with
  | nil => rfl
  | cons nv env ih =>
    obtain ⟨n, v⟩ := nv
    simp only [envVars, List.map_cons] at ih ⊢
    rw [ih]

theorem mem_envVars {env : List (String × String)} {n v : String} :
    (⟨n, v⟩ : EnvVar) ∈ envVars env ↔ (n, v) ∈ env := by
  induction env with
  | nil => simp
  | cons nv env ih =>
    obtain ⟨n', v'⟩ := nv
    simp only [envVars, List.map_cons, List.mem_cons, EnvVar.mk.injEq, Prod.mk.injEq] at ih ⊢
    rw [ih]

end SubscriptionManager

namespace SimState

open Deployments

theorem get?_env_operatorContainer :
    Fields.get? [("image", .str "quay.io/example/operator:latest"), ("name", .str "operator")] "env" =
      none := by
  simp [-String.lt_iff_ltb, Fields.get?_cons]

theorem withVars_operatorContainer {vars : List EnvVar} (hne : vars ≠ [])
    (hnd : (vars.map EnvVar.name).Nodup) :
    withVars vars operatorContainer = withEnv operatorContainer (vars.map EnvVar.toJson) :=
  foldl_setContainerEnv get?_env_operatorContainer hne hnd

theorem withVars_concat (vars : List EnvVar) (var : EnvVar) (c : Json) :
    withVars (vars ++ [var]) c = (setContainerEnv var.name var.value (withVars vars c)).1 := by
  simp [withVars, List.foldl_append]

theorem setContainerEnv_withVars {vars : List EnvVar} (hnd : (vars.map EnvVar.name).Nodup)
    (n v : String) : (setContainerEnv n v (withVars vars operatorContainer)).2 = true := by
  by_cases hne : vars = []
  · subst hne
    exact congrArg Prod.snd (setContainerEnv_of_none get?_env_operatorContainer n v)
  · rw [withVars_operatorContainer hne hnd]
    exact congrArg Prod.snd (setContainerEnv_withEnv _ _ n v)

theorem haveEnv_withVars {fs : Fields} {op : String} {vars : List EnvVar}
    (h : Fields.get? fs "spec" = some (operatorSpec op [withVars vars operatorContainer]))
    (hnd : (vars.map EnvVar.name).Nodup) (n v : String) :
    haveEnv [.obj fs] n v = decide (⟨n, v⟩ ∈ vars) := by
  by_cases hne : vars = []
  · subst hne
    simpa using haveEnv_of_none h get?_env_operatorContainer n v
  · rw [withVars_operatorContainer hne hnd] at h
    rw [haveEnv_withEnv h, Bool.eq_iff_iff, envHas_toJson, decide_eq_true_iff]

theorem spec_strategyEntry (op : String) (cs : List Json) :
    Fields.get? [("name", .str op), ("spec", operatorSpec op cs)] "spec" = some (operatorSpec op cs) := by
  simp [-String.lt_iff_ltb, Fields.get?_cons]

theorem spec_single (j : Json) : Fields.get? [("spec", j)] "spec" = some j := by
  simp [Fields.get?_cons]

@[simp] theorem withVars_nil (c : Json) : withVars [] c = c := rfl

theorem all_haveEnv_withVars {env : List (String × String)} (hnd : (env.map Prod.fst).Nodup)
    (op : String) :
    env.all (fun nv => haveEnv [.obj [("spec", operatorSpec op [withVars (SubscriptionManager.envVars env)
      operatorContainer])]] nv.1 nv.2) = true := by
  have hnd' : ((SubscriptionManager.envVars env).map EnvVar.name).Nodup := by
    rwa [SubscriptionManager.map_name_envVars]
  rw [List.all_eq_true]
  rintro ⟨n, v⟩ hmem
  rw [haveEnv_withVars (spec_single _) hnd', decide_eq_true_iff, SubscriptionManager.mem_envVars]
  exact hmem

theorem all_haveEnv_operatorContainer {env : List (String × String)} (hne : env ≠ []) (op : String) :
    env.all (fun nv => haveEnv [.obj [("spec", operatorSpec op [operatorContainer])]] nv.1 nv.2) =
      false := by
  obtain ⟨⟨n, v⟩, rest, rfl⟩ := List.exists_cons_of_ne_nil hne
  have hnone : haveEnv [.obj [("spec", operatorSpec op [operatorContainer])]] n v = false := by
    simpa using @haveEnv_withVars _ _ [] (spec_single _) List.nodup_nil n v
  rw [List.all_cons, hnone, Bool.false_and]

end SimState

/-! ## Calls of the simulated platform -/

namespace SimCluster

variable {r : ApiResource} {ns name : String}

@[simp] theorem wp_create (o : DynamicObject)
    (Q : Except ClientError DynamicObject → World SimCluster → Prop) (w : World SimCluster) :
    Step.wp (platform.create r ns o) Q w =
      Q (w.cluster.create r ns o w.now).1 { w with cluster := (w.cluster.create r ns o w.now).2 } := rfl

@[simp] theorem wp_replace (o : DynamicObject)
    (Q : Except ClientError DynamicObject → World SimCluster → Prop) (w : World SimCluster) :
    Step.wp (platform.replace r ns o) Q w =
      Q (w.cluster.replace r ns o w.now).1 { w with cluster := (w.cluster.replace r ns o w.now).2 } := rfl

@[simp] theorem wp_patchMerge (patch : Json)
    (Q : Except ClientError DynamicObject → World SimCluster → Prop) (w : World SimCluster) :
    Step.wp (platform.patchMerge r ns name patch) Q w =
      Q (w.cluster.patchMerge r ns name patch w.now).1
        { w with cluster := (w.cluster.patchMerge r ns name patch w.now).2 } := rfl

theorem wp_getTyped {α : Type} (k : TypedKind α) (Q : Except ClientError (Option α) → World SimCluster → Prop)
    (w : World SimCluster) :
    Step.wp (platform.getTyped k ns name) Q w =
      Q (match w.cluster.get k.kind.resource ns name with
        | none => .ok none
        | some o => (k.fromDynamic o).map some) w := by
  unfold Platform.getTyped
  simp only [Step.wp_bind, wp_get]
  cases w.cluster.get k.kind.resource ns name <;> rfl

/-- The catalog source `name` of `ns`, when it is stored and reads back. -/
def catalogSource? (c : SimCluster) (ns name : String) : Option CatalogSource :=
  (c.get OlmKind.catalogSource.resource ns name).bind fun o =>
    (TypedKind.catalogSource.fromDynamic o).toOption

theorem settings_create (c : SimCluster) (o : DynamicObject) (now : Timestamp) :
    (c.create r ns o now).2.settings = c.settings :=
  settings_call c now (.write (.create r ns o))

theorem wp_createTyped {α : Type} (k : TypedKind α) {v : α} {o : DynamicObject}
    (hv : k.toDynamic v = .ok o) (Q : Except ClientError α → World SimCluster → Prop)
    (w : World SimCluster) :
    Step.wp (platform.createTyped k ns v) Q w =
      Q ((w.cluster.create k.kind.resource ns o w.now).1.bind k.fromDynamic)
        { w with cluster := (w.cluster.create k.kind.resource ns o w.now).2 } := by
  unfold Platform.createTyped
  rw [hv]
  simp only [Step.wp_bind, wp_create]
  cases (w.cluster.create k.kind.resource ns o w.now).1 <;> rfl

theorem patchMerge_answer {c : SimCluster} {ns name : String}
    (h : (c.state.objects.get? ⟨r.kind, ns, name⟩).isSome) (patch : Json) (now : Timestamp) :
    ∃ o, (c.patchMerge r ns name patch now).1 = .ok o := by
  obtain ⟨stored, hs⟩ := Option.isSome_iff_exists.mp h
  unfold patchMerge
  simp only [hs]
  exact ⟨_, rfl⟩

end SimCluster

/-! ## Reads of the manager -/

namespace SubscriptionManager

open SimState

section Reads

variable {w : World SimCluster} {ns name : String}

theorem fetchSubscription_stored {o : Subscription}
    (h : w.cluster.state.objects.get? ⟨"Subscription", ns, name⟩ = some o.toDynamic)
    (hm : ObjectMeta.decode (.json o.metadata.toJson) = .ok o.metadata) :
    Run.wp (fetchSubscription SimCluster.platform ns name) (fun x w' => x = .ok (some o) ∧ w' = w) w := by
  unfold fetchSubscription
  simp only [Run.wp_call, SimCluster.wp_getTyped]
  simp [show w.cluster.get TypedKind.subscription.kind.resource ns name = some o.toDynamic from h,
    TypedKind.fromDynamic_subscription o hm]

theorem fetchCsv_stored {p : PendingInstall} {phase : String} {cs : List Json} {n : Nat}
    (h : w.cluster.state.objects.get? ⟨"ClusterServiceVersion", ns, p.csvName⟩ =
      some ((csvWith ns p phase cs).stamp n)) :
    Run.wp (fetchCsv SimCluster.platform ns p.csvName)
      (fun x w' => x = .ok (some (csvTyped ns p phase cs n)) ∧ w' = w) w := by
  unfold fetchCsv
  simp only [Run.wp_call, SimCluster.wp_getTyped]
  simp [show w.cluster.get TypedKind.clusterServiceVersion.kind.resource ns p.csvName =
    some ((csvWith ns p phase cs).stamp n) from h, fromDynamic_csvWith]

theorem hasInstallPlan_stored {o : Subscription}
    (h : w.cluster.state.objects.get? ⟨"Subscription", ns, name⟩ = some o.toDynamic)
    (hm : ObjectMeta.decode (.json o.metadata.toJson) = .ok o.metadata) :
    Run.wp (hasInstallPlan SimCluster.platform ns name)
      (fun x w' => x = .ok o.installPlanName.isSome ∧ w' = w) w := by
  unfold hasInstallPlan
  simp only [Run.wp_bind]
  refine Run.wp_mono (fetchSubscription_stored h hm) ?_
  rintro x w' ⟨rfl, rfl⟩
  simp

theorem csvSucceeded_stored {o : Subscription} {p : PendingInstall} {cs : List Json} {n : Nat}
    (h : w.cluster.state.objects.get? ⟨"Subscription", ns, name⟩ = some o.toDynamic)
    (hm : ObjectMeta.decode (.json o.metadata.toJson) = .ok o.metadata)
    (hinstalled : o.installedCsv = some p.csvName)
    (hcsv : w.cluster.state.objects.get? ⟨"ClusterServiceVersion", ns, p.csvName⟩ =
      some ((csvWith ns p "Succeeded" cs).stamp n)) :
    Run.wp (csvSucceeded SimCluster.platform ns name) (fun x w' => x = .ok true ∧ w' = w) w := by
  unfold csvSucceeded
  simp only [Run.wp_bind]
  refine Run.wp_mono (fetchSubscription_stored h hm) ?_
  rintro x w' ⟨rfl, rfl⟩
  simp only [Option.bind_some, hinstalled, Run.wp_bind]
  refine Run.wp_mono (fetchCsv_stored hcsv) ?_
  rintro x w' ⟨rfl, rfl⟩
  simp [ClusterServiceVersion.isFailed, ClusterServiceVersion.isSucceeded]

theorem deploymentData_single {op : String} {d : DynamicObject}
    (h : w.cluster.state.objects.get? ⟨"Deployment", ns, op⟩ = some d) :
    Run.wp (deploymentData SimCluster.platform ns [op]) (fun x w' => x = .ok (some [d.data]) ∧ w' = w) w := by
  simp only [deploymentData, Run.wp_bind, Run.wp_call, SimCluster.wp_get]
  rw [show w.cluster.get deploymentResource ns op = some d from h]
  simp

theorem operatorHasEnv_stored {p : PendingInstall} {phase : String} {cs : List Json} {n : Nat}
    {d : DynamicObject}
    (hcsv : w.cluster.state.objects.get? ⟨"ClusterServiceVersion", ns, p.csvName⟩ =
      some ((csvWith ns p phase cs).stamp n))
    (hdep : w.cluster.state.objects.get? ⟨"Deployment", ns, p.package ++ "-operator"⟩ = some d)
    (env : List (String × String)) :
    Run.wp (operatorHasEnv SimCluster.platform ns p.csvName env)
      (fun x w' => x = .ok (env.all fun nv => Deployments.haveEnv [d.data] nv.1 nv.2) ∧ w' = w) w := by
  unfold operatorHasEnv
  simp only [Run.wp_bind]
  refine Run.wp_mono (fetchCsv_stored hcsv) ?_
  rintro x w' ⟨rfl, rfl⟩
  simp only [deploymentNames_csvTyped, List.isEmpty_cons, Bool.false_eq_true, if_false, Run.wp_bind]
  refine Run.wp_mono (deploymentData_single hdep) ?_
  rintro x w' ⟨rfl, rfl⟩
  simp

theorem lookupCatalog_sim {ns name : String} (h : (w.cluster.catalogSource? ns name).isSome) :
    Run.wp (Run.call "look up the catalog source" (SimCluster.platform.getTyped .catalogSource ns name))
      (fun x w' => (∃ cat, x = .ok (some cat)) ∧ w' = w) w := by
  simp only [Run.wp_call, SimCluster.wp_getTyped]
  unfold SimCluster.catalogSource? at h
  rw [show TypedKind.catalogSource.kind = OlmKind.catalogSource from rfl]
  cases hget : w.cluster.get OlmKind.catalogSource.resource ns name with
  | none => simp [hget] at h
  | some o =>
    rw [hget, Option.bind_some] at h
    cases hdec : TypedKind.catalogSource.fromDynamic o with
    | error e => simp [hdec, Except.toOption] at h
    | ok cat => simp [hdec, Except.map]

/-! ### Reads on an install -/

variable {p : PendingInstall} {o : Subscription} {cs : List Json} {n : Nat}

theorem csvSucceeded_installed (hI : Installed w.cluster.state ns p o cs n) :
    Run.wp (csvSucceeded SimCluster.platform ns p.subscription) (fun x w' => x = .ok true ∧ w' = w) w :=
  csvSucceeded_stored hI.subscription hI.metadata hI.installedCsv hI.csv

theorem waitForCsv_installed {m : SubscriptionManager} (hname : p.subscription = m.name)
    (policy : WaitPolicy) (guard : Option (Step SimCluster (Option ClusterEvent)))
    (hI : Installed w.cluster.state m.namespaceName p o cs n) :
    Run.wp (waitForCsv SimCluster.platform m policy guard)
      (fun x w' => x = .ok () ∧ w'.cluster = w.cluster ∧ w'.now = w.now) w := by
  unfold waitForCsv
  refine awaitSubscribe_of_holds policy _ guard fun w' hc hn => ?_
  rw [← hname]
  refine Run.wp_mono (csvSucceeded_installed (hc ▸ hI)) ?_
  rintro x w'' ⟨rfl, rfl⟩
  exact ⟨rfl, hc, hn⟩

theorem operatorHasEnv_installed (hI : Installed w.cluster.state ns p o cs n)
    (env : List (String × String)) :
    Run.wp (operatorHasEnv SimCluster.platform ns p.csvName env)
      (fun x w' => x = .ok (env.all fun nv => Deployments.haveEnv
        [.obj [("spec", operatorSpec (p.package ++ "-operator") (cs.map (withVars p.env)))]] nv.1 nv.2) ∧
        w' = w) w := by
  obtain ⟨d, hd, hdata⟩ := Option.map_eq_some_iff.mp hI.operator
  refine Run.wp_mono (operatorHasEnv_stored hI.csv hd env) ?_
  rintro x w' ⟨rfl, rfl⟩
  rw [hdata]
  exact ⟨rfl, rfl⟩

theorem awaitOperatorEnv_installed (hI : Installed w.cluster.state ns p o cs n)
    {env : List (String × String)}
    (hall : env.all (fun nv => Deployments.haveEnv
      [.obj [("spec", operatorSpec (p.package ++ "-operator") (cs.map (withVars p.env)))]] nv.1 nv.2) = true)
    (policy : WaitPolicy) (description : String) (guard : Option (Step SimCluster (Option ClusterEvent))) :
    Run.wp (awaitSubscribe policy description (operatorHasEnv SimCluster.platform ns p.csvName env) guard)
      (fun x w' => x = .ok () ∧ w'.cluster = w.cluster ∧ w'.now = w.now) w := by
  refine awaitSubscribe_of_holds policy description guard fun w' hc hn => ?_
  refine Run.wp_mono (operatorHasEnv_installed (hc ▸ hI) env) ?_
  rintro x w'' ⟨rfl, rfl⟩
  exact ⟨by rw [hall], hc, hn⟩

end Reads

/-! ## Writes of the manager -/

section Writes

variable {w : World SimCluster} (m : SubscriptionManager)

theorem decode_subscriptionFor_metadata (d : OperatorDescriptor) (approval : InstallPlanApproval)
    (env : List (String × String)) (rv : Option String) :
    ObjectMeta.decode (.json { (subscriptionFor m d approval env).metadata with resourceVersion := rv }.toJson) =
      .ok { (subscriptionFor m d approval env).metadata with resourceVersion := rv } :=
  ObjectMeta.decode_toJson_named m.name m.namespaceName _ (by simp [subscriptionFor]) rv

/-- Creating the subscription succeeds when none of its name exists and OLM leaves one that
reads back. -/
theorem createSubscription_sim (d : OperatorDescriptor) (approval : InstallPlanApproval)
    (env : List (String × String))
    (hnew : w.cluster.state.objects.get? ⟨"Subscription", m.namespaceName, m.name⟩ = none)
    {o : Subscription}
    (hstored : (w.cluster.create OlmKind.subscription.resource m.namespaceName
      (subscriptionFor m d approval env).toDynamic w.now).2.state.objects.get?
        ⟨"Subscription", m.namespaceName, m.name⟩ = some o.toDynamic)
    (hm : ObjectMeta.decode (.json o.metadata.toJson) = .ok o.metadata) :
    Run.wp (createSubscription SimCluster.platform m d approval env) (fun x w' => x = .ok () ∧
      w'.cluster = (w.cluster.create OlmKind.subscription.resource m.namespaceName
        (subscriptionFor m d approval env).toDynamic w.now).2 ∧ w'.now = w.now) w := by
  have hanswer := SimCluster.create_subscription_answer w.cluster (o := subscriptionFor m d approval env)
    rfl rfl (decode_subscriptionFor_metadata m d approval env) hnew w.now
  rw [hstored, Option.getD_some] at hanswer
  unfold createSubscription
  simp only [Run.wp_bind, Run.wp_monadLift,
    SimCluster.wp_createTyped _ (TypedKind.toDynamic_subscription _ (decode_subscriptionFor_metadata m d approval env _)),
    show TypedKind.subscription.kind = OlmKind.subscription from rfl, hanswer, Except.bind,
    TypedKind.fromDynamic_subscription o hm, Run.wp_log]
  exact ⟨trivial, trivial, trivial⟩

theorem awaitInstallPlan_sim (policy : WaitPolicy) (description : String)
    (guard : Option (Step SimCluster (Option ClusterEvent))) {o : Subscription}
    (h : w.cluster.state.objects.get? ⟨"Subscription", m.namespaceName, m.name⟩ = some o.toDynamic)
    (hm : ObjectMeta.decode (.json o.metadata.toJson) = .ok o.metadata)
    (hplan : o.installPlanName.isSome) :
    Run.wp (awaitSubscribe policy description (hasInstallPlan SimCluster.platform m.namespaceName m.name)
      guard) (fun x w' => x = .ok () ∧ w'.cluster = w.cluster ∧ w'.now = w.now) w := by
  refine awaitSubscribe_of_holds policy description guard fun w' hc hn => ?_
  refine Run.wp_mono (hasInstallPlan_stored (hc ▸ h) hm) ?_
  rintro x w'' ⟨rfl, rfl⟩
  exact ⟨by rw [hplan], hc, hn⟩

theorem approveInstallPlan_sim {o : Subscription}
    (h : w.cluster.state.objects.get? ⟨"Subscription", m.namespaceName, m.name⟩ = some o.toDynamic)
    (hm : ObjectMeta.decode (.json o.metadata.toJson) = .ok o.metadata) {plan : String}
    (hplan : o.installPlanName = some plan)
    (hstored : (w.cluster.state.objects.get? ⟨"InstallPlan", m.namespaceName, plan⟩).isSome) :
    Run.wp (approveInstallPlan SimCluster.platform m) (fun x w' => x = .ok () ∧
      w'.cluster = (w.cluster.patchMerge OlmKind.installPlan.resource m.namespaceName plan
        SimCluster.approvalPatch w.now).2 ∧ w'.now = w.now) w := by
  obtain ⟨r, hr⟩ := SimCluster.patchMerge_answer (r := OlmKind.installPlan.resource) hstored
    SimCluster.approvalPatch w.now
  unfold approveInstallPlan
  simp only [Run.wp_bind]
  refine Run.wp_mono (fetchSubscription_stored h hm) ?_
  rintro x w' ⟨rfl, rfl⟩
  simp only [Option.bind_some, hplan, Run.wp_pure, Run.wp_bind, Run.wp_call]
  rw [show Json.object [("spec", Json.object [("approved", .bool true)])] = SimCluster.approvalPatch from rfl]
  simp only [SimCluster.wp_patchMerge, hr, Run.wp_log]
  exact ⟨trivial, trivial, trivial⟩

end Writes

section ApplyEnv

variable {σ : Type}

open Deployments

/-- Writing variables of distinct names, none set yet, into the operator entry of an install
strategy writes all of them and reports a change when there was any. -/
theorem apply_strategyEntry (csvName op : String) :
    ∀ (rest done : List (String × String)) (changed : Bool) (w : World σ),
      ((done ++ rest).map Prod.fst).Nodup →
      Run.wp (applyEnv.apply csvName rest [strategyEntry op [withVars (envVars done) operatorContainer]]
          changed)
        (fun x w' => x = .ok (some ([strategyEntry op [withVars (envVars (done ++ rest)) operatorContainer]],
          changed || !rest.isEmpty)) ∧ w'.cluster = w.cluster ∧ w'.now = w.now) w
  -- recursion on the variables left, with those written so far in `done`
  | [], done, changed, w, _ => by simp [applyEnv.apply]
  | (n, v) :: rest, done, changed, w, hnd => by
    have hnd' : (((done ++ [(n, v)]) ++ rest).map Prod.fst).Nodup := by simpa using hnd
    rw [List.map_append, List.nodup_append] at hnd
    have hdone : ((envVars done).map EnvVar.name).Nodup := by
      rw [map_name_envVars]
      exact hnd.1
    have hfresh : (n, v) ∉ done := fun hmem =>
      hnd.2.2 n (List.mem_map_of_mem (f := Prod.fst) hmem) n List.mem_cons_self rfl
    have hhave : haveEnv [strategyEntry op [withVars (envVars done) operatorContainer]] n v = false := by
      rw [strategyEntry, haveEnv_withVars (spec_strategyEntry _ _) hdone, decide_eq_false_iff_not,
        mem_envVars]
      exact hfresh
    have hset : setEnv [strategyEntry op [withVars (envVars done) operatorContainer]] n v =
        ([strategyEntry op [withVars (envVars (done ++ [(n, v)])) operatorContainer]], true) := by
      rw [setEnv_strategyEntry, envVars_append, envVars_singleton, withVars_concat]
      simp only [List.map_cons, List.map_nil, List.any_cons, List.any_nil,
        setContainerEnv_withVars hdone, Bool.true_or]
    simp only [applyEnv.apply, hhave, hset, Bool.false_eq_true, if_false, Run.wp_bind, Run.wp_log,
      Bool.not_true]
    refine Run.wp_mono (apply_strategyEntry csvName op rest (done ++ [(n, v)]) true _ hnd') ?_
    rintro x w' ⟨rfl, hc, hn⟩
    simp [hc, hn]

/-- On an install of the plain operator container, writing variables of distinct names replaces
the CSV, at the version read, with all of them set on its operator. -/
theorem applyEnv_installed {w : World SimCluster} {ns : String} {p : PendingInstall} {o : Subscription}
    {n : Nat} (hI : Installed w.cluster.state ns p o [operatorContainer] n)
    {env : List (String × String)} (hne : env ≠ []) (hnd : (env.map Prod.fst).Nodup) :
    Run.wp (applyEnv SimCluster.platform ns p.csvName env) (fun x w' => x = .ok true ∧
      w'.cluster = (w.cluster.replace OlmKind.clusterServiceVersion.resource ns
        ((csvWith ns p "Succeeded" [withVars (envVars env) operatorContainer]).stamp n) w.now).2 ∧
      w'.now = w.now) w := by
  have hget : w.cluster.get OlmKind.clusterServiceVersion.resource ns p.csvName =
      some ((csvWith ns p "Succeeded" [operatorContainer]).stamp n) := hI.csv
  have hentries : (((csvWith ns p "Succeeded" [operatorContainer]).stamp n).data.pointer
      "/spec/install/spec/deployments").bind Json.asArray? =
      some [strategyEntry (p.package ++ "-operator") [withVars (envVars []) operatorContainer]] := by
    simp [csvWith, pointer_csvDataWith, Json.asArray?, withVars]
  have hdata : (((csvWith ns p "Succeeded" [operatorContainer]).stamp n).data.setAt
      "/spec/install/spec/deployments"
      (.arr [strategyEntry (p.package ++ "-operator") [withVars (envVars env) operatorContainer]])).getD
      ((csvWith ns p "Succeeded" [operatorContainer]).stamp n).data =
      csvDataWith ns p "Succeeded" [withVars (envVars env) operatorContainer] := by
    simp [csvWith, setAt_csvDataWith]
  have hobj : { (csvWith ns p "Succeeded" [operatorContainer]).stamp n with
      data := csvDataWith ns p "Succeeded" [withVars (envVars env) operatorContainer] } =
      (csvWith ns p "Succeeded" [withVars (envVars env) operatorContainer]).stamp n := rfl
  -- the simulated cluster accepts the replace: the CSV is stored at the version it was read at
  obtain ⟨r, hr⟩ : ∃ r, (w.cluster.replace OlmKind.clusterServiceVersion.resource ns
      ((csvWith ns p "Succeeded" [withVars (envVars env) operatorContainer]).stamp n) w.now).1 = .ok r :=
    ⟨_, by rw [SimCluster.replace_csv_eq w.cluster hI.csv w.now]⟩
  unfold applyEnv
  simp only [Run.wp_bind, Run.wp_call, SimCluster.wp_get, hget, Run.wp_pure]
  rw [hentries]
  simp only [Run.wp_bind]
  refine Run.wp_mono (apply_strategyEntry p.csvName (p.package ++ "-operator") env [] false _
    (by simpa using hnd)) ?_
  rintro x w' ⟨rfl, hc, hn⟩
  have hchanged : (false || !env.isEmpty) = true := by simpa using hne
  simp only [List.nil_append, hchanged, hdata, hobj, Run.wp_bind, liftM, Run.wp_monadLift,
    SimCluster.wp_replace, hc, hn, hr, Run.wp_log, Run.wp_pure]
  exact ⟨trivial, trivial, trivial⟩

end ApplyEnv

/-! ## A whole subscribe -/

/-- The writes of a subscribe up to the install: the create of the subscription and, with manual
approval, the approval of the plan OLM offers for it. -/
def subscribeWrites (m : SubscriptionManager) (d : OperatorDescriptor) (approval : InstallPlanApproval)
    (env : List (String × String)) : List Write :=
  .create OlmKind.subscription.resource m.namespaceName (subscriptionFor m d approval env).toDynamic ::
    if approval = .manual then
      [.patchMerge OlmKind.installPlan.resource m.namespaceName ("install-" ++ m.name)
        SimCluster.approvalPatch]
    else []

/-- The write of the variables `env` into the operator of the CSV of `p`, stored at version `n`. -/
def envWrite (ns : String) (p : PendingInstall) (n : Nat) (env : List (String × String)) : Write :=
  .replace OlmKind.clusterServiceVersion.resource ns
    ((csvWith ns p "Succeeded" [withVars (envVars env) operatorContainer]).stamp n)

/-- Writes made one after another at time `now`, as calls on the cluster. -/
def writesAt (now : Timestamp) (ws : List Write) : List (Timestamp × ClusterCall) :=
  ws.map fun x => (now, .write x)

theorem env_firstInstall (settings : SimSettings) (m : SubscriptionManager) (d : OperatorDescriptor)
    (approval : InstallPlanApproval) (env : List (String × String)) :
    (settings.firstInstall m.name (subscriptionFor m d approval env).spec).env =
      if settings.propagateEnv then envVars env else [] := by
  by_cases h : settings.propagateEnv = true
  · cases env with
    | nil => simp [SimSettings.firstInstall, subscriptionFor, h]
    | cons nv env =>
      simp only [SimSettings.firstInstall, subscriptionFor, h, if_true, List.isEmpty_cons,
        Bool.false_eq_true, if_false, Option.getD_some]
      rfl
  · simp [SimSettings.firstInstall, h]

/-- A subscribe from nothing on the simulated cluster succeeds and records the CSV installed
first; its writes are `subscribeWrites`, then the write of the variables into the CSV when there
are some that OLM does not propagate. -/
theorem subscribe_sim (m : SubscriptionManager) (d : OperatorDescriptor)
    (approval : InstallPlanApproval) (env : List (String × String)) (policy : WaitPolicy)
    (guard : Option (Step SimCluster (Option ClusterEvent))) (w : World SimCluster)
    (habsent : m.state = .absent)
    (hcatalog : (w.cluster.catalogSource? d.catalogSourceNamespace d.catalogSourceName).isSome)
    (hnew : w.cluster.state.objects.get? ⟨"Subscription", m.namespaceName, m.name⟩ = none)
    (hphase : w.cluster.settings.csvPhase = "Succeeded") (hnames : (env.map Prod.fst).Nodup) :
    let p := w.cluster.settings.firstInstall m.name (subscriptionFor m d approval env).spec
    let installed := w.cluster.runCalls (writesAt w.now (subscribeWrites m d approval env))
    Tracked.wp (subscribe SimCluster.platform d approval env policy guard) (fun x m' w' =>
      x = .ok () ∧ m' = { m with currentCsv := some p.csvName, state := .subscribed } ∧
      w'.now = w.now ∧
      ∃ o n, Installed installed.state m.namespaceName p o [operatorContainer] n ∧
        w'.cluster = installed.runCalls (writesAt w.now
          (if !env.isEmpty && !w.cluster.settings.propagateEnv then [envWrite m.namespaceName p n env]
          else []))) m w := by
  intro p installed
  unfold subscribe
  simp only [Tracked.wp_bind, Tracked.wp_current, habsent, bne_self_eq_false, Bool.false_eq_true,
    if_false, Tracked.wp_lift]
  refine Run.wp_mono (lookupCatalog_sim hcatalog) ?_
  rintro x w₁ ⟨⟨cat, rfl⟩, rfl⟩
  simp only [Option.isNone_some, Bool.false_eq_true, if_false, Tracked.wp_put, Tracked.wp_bind,
    Tracked.wp_step]
  -- up to the install: the create and, with manual approval, the approval of the first plan;
  -- either way the install is in place in `installed` when the wait for the CSV starts
  cases approval
  case' automatic =>
    have hI := SimCluster.installed_create_approved w₁.cluster (o := subscriptionFor m d .automatic env)
      rfl rfl (decode_subscriptionFor_metadata m d .automatic env) hnew w₁.now hphase
      (by simp [subscriptionFor])
    refine Step.wp_mono (createSubscription_sim m d .automatic env hnew hI.subscription hI.metadata) ?_
    rintro x w₂ ⟨rfl, hc₂, hn₂⟩
    simp only []
    rw [if_neg (by decide)]
    obtain ⟨o, n, hI, hw⟩ : ∃ o n, Installed w₂.cluster.state m.namespaceName p o [operatorContainer] n ∧
        w₂.cluster = installed := ⟨_, _, hc₂ ▸ hI, hc₂⟩
    clear hc₂
  case' manual =>
    have hget := SimCluster.get?_create_manual w₁.cluster (o := subscriptionFor m d .manual env)
      rfl rfl (decode_subscriptionFor_metadata m d .manual env) hnew w₁.now rfl
    -- after the create, the subscription points at the first plan, which waits for approval
    obtain ⟨o₁, hsub, hmeta, hst⟩ := SimCluster.stored_create_manual w₁.cluster
      (o := subscriptionFor m d .manual env) rfl rfl (decode_subscriptionFor_metadata m d .manual env) hnew
      w₁.now rfl
    have hplan := (congrFun hget ⟨"InstallPlan", m.namespaceName, "install-" ++ m.name⟩).trans
      ((Function.update_of_ne (by simp) _ _).trans (Function.update_self _ _ _))
    have hpending := SimCluster.pending_create_manual w₁.cluster (o := subscriptionFor m d .manual env)
      rfl rfl (decode_subscriptionFor_metadata m d .manual env) hnew w₁.now rfl
    have hphase₁ : (w₁.cluster.create OlmKind.subscription.resource m.namespaceName
        (subscriptionFor m d .manual env).toDynamic w₁.now).2.settings.csvPhase = "Succeeded" := by
      rw [SimCluster.settings_create, hphase]
    have hI := SimCluster.installed_patchMerge_approval (p := p) _ hphase₁ hplan hpending hst hsub hmeta w₁.now
    have hname : o₁.installPlanName = some ("install-" ++ m.name) := by
      simp [Subscription.installPlanName, hst, SubscriptionStatus.offer]
    refine Step.wp_mono (createSubscription_sim m d .manual env hnew hsub hmeta) ?_
    rintro x wa ⟨rfl, hca, hna⟩
    simp only []
    rw [if_pos (by decide)]
    simp only [Tracked.wp_bind, Tracked.wp_lift]
    refine Run.wp_mono (awaitInstallPlan_sim m policy _ guard (hca ▸ hsub) hmeta (by rw [hname]; rfl)) ?_
    rintro x wb ⟨rfl, hcb, hnb⟩
    simp only []
    refine Run.wp_mono (approveInstallPlan_sim m ((hcb.trans hca) ▸ hsub) hmeta hname
      (by rw [hcb, hca, hplan]; rfl)) ?_
    rintro x w₂ ⟨rfl, hc₂, hn₂⟩
    obtain ⟨o, n, hI, hw⟩ : ∃ o n, Installed w₂.cluster.state m.namespaceName p o [operatorContainer] n ∧
        w₂.cluster = installed := by
      rw [hc₂, hcb, hca, hnb, hna]
      exact ⟨_, _, hI, rfl⟩
    replace hn₂ : w₂.now = w₁.now := hn₂.trans (hnb.trans hna)
    clear hget hsub hplan hpending hc₂ hcb hca hnb hna
  -- from the wait for the CSV on, the run is the same for both approvals
  all_goals
    simp only [Tracked.wp_bind, Tracked.wp_lift]
    refine Run.wp_mono (waitForCsv_installed rfl policy guard hI) ?_
    rintro x w₃ ⟨rfl, hc₃, hn₃⟩
    simp only []
    refine Run.wp_mono (fetchSubscription_stored (hc₃ ▸ hI.subscription) hI.metadata) ?_
    rintro x w₄ ⟨rfl, rfl⟩
    simp only [Option.bind_some, hI.installedCsv, Tracked.wp_pure, Tracked.wp_bind, Tracked.wp_ite]
    have hpenv : p.env = if w₁.cluster.settings.propagateEnv then envVars env else [] :=
      env_firstInstall _ _ _ _ _
    by_cases henv : env = []
    · -- no variables: nothing more to write
      subst henv
      simp only [List.isEmpty_nil, Bool.not_true, Bool.false_eq_true, if_false, Tracked.wp_log,
        Tracked.wp_put, Bool.false_and]
      exact ⟨trivial, trivial, hn₃.trans hn₂, o, n, hw ▸ hI, hc₃.trans hw⟩
    have hne : (!env.isEmpty) = true := by simpa using henv
    simp only [hne, if_true, Tracked.wp_lift]
    refine Run.wp_mono (operatorHasEnv_installed (hc₃ ▸ hI) env) ?_
    rintro x w₄ ⟨rfl, rfl⟩
    rw [hpenv]
    by_cases hprop : w₁.cluster.settings.propagateEnv = true
    · -- OLM propagated the variables: the operator carries them already
      simp only [hprop, if_true, List.map_cons, List.map_nil, all_haveEnv_withVars hnames,
        Bool.not_true, Bool.false_eq_true, if_false, Tracked.wp_log, Tracked.wp_put, Bool.and_false]
      exact ⟨trivial, trivial, hn₃.trans hn₂, o, n, hw ▸ hI, hc₃.trans hw⟩
    -- the manager writes them into the CSV, and the operator is rendered again
    simp only [hprop, Bool.false_eq_true, if_false, List.map_cons, List.map_nil, withVars_nil,
      all_haveEnv_operatorContainer henv, Bool.not_false, if_true]
    refine Run.wp_mono (applyEnv_installed (hc₃ ▸ hI) henv hnames) ?_
    rintro x w₅ ⟨rfl, hc₅, hn₅⟩
    have hI₅ : Installed w₅.cluster.state m.namespaceName p o
        [withVars (envVars env) operatorContainer] (w₄.cluster.state.version + 1) := by
      rw [hc₅]
      exact (hc₃ ▸ hI).replace _ w₄.now
    simp only [if_true]
    refine Run.wp_mono (waitForCsv_installed rfl policy guard hI₅) ?_
    rintro x w₆ ⟨rfl, hc₆, hn₆⟩
    have hall : env.all (fun nv => Deployments.haveEnv [.obj [("spec", operatorSpec (p.package ++ "-operator")
        ([withVars (envVars env) operatorContainer].map (withVars p.env)))]] nv.1 nv.2) = true := by
      simpa [hpenv, hprop] using all_haveEnv_withVars hnames (p.package ++ "-operator")
    simp only []
    refine Run.wp_mono (awaitOperatorEnv_installed (hc₆ ▸ hI₅) hall policy _ guard) ?_
    rintro x w₇ ⟨rfl, hc₇, hn₇⟩
    simp only [Tracked.wp_log, Tracked.wp_put]
    refine ⟨trivial, trivial, by rw [hn₇, hn₆, hn₅, hn₃, hn₂], o, n, hw ▸ hI, ?_⟩
    rw [hc₇, hc₆, hc₅, hc₃, hw, hn₃, hn₂]
    rfl

end SubscriptionManager

end OlmProvision