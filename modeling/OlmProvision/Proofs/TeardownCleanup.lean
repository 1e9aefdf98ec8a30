import OlmProvision.Proofs.ClusterFrames
import OlmProvision.Proofs.ConcurrentWrites
import OlmProvision.Proofs.OrchestratorSteps

/-
What a new orchestrator's teardown leaves of a product on the simulated cluster.

A process that starts over configures a new orchestrator, adopts what the cluster holds of the
product, undeploys it and unsubscribes. Adopting reads the cluster; undeploying and
unsubscribing only delete, so from a sorted table objects only go and what is gone stays gone
(`Deletes`).

What is proved:

1. On the simulated cluster, an adopt by a new orchestrator tracks exactly the product's
   resources that exist, in the adapter's order, and records the installed CSV of the
   subscription it finds (`Orchestrator.adopt_tracks_what_exists`).
2. An undeploy deletes every tracked resource (`Orchestrator.undeploy_deletes_tracked`).
3. An unsubscribe deletes the subscription, every CSV it or the manager refers to, and the
   operator deployments those CSVs own (`SubscriptionManager.unsubscribe_deletes_csvs`).
4. `teardown_removes_product`: when no resource of the product is stored where the
   subscription is, the teardown leaves none of the product's resources, no subscription, none
   of the CSVs it referred to and none of their operator deployments.
-/
namespace OlmProvision

namespace SimCluster

/-- The subscription `name` of `ns` in typed form, if there is one and it decodes. -/
def subscription? (c : SimCluster) (ns name : String) : Option Subscription :=
  (c.get OlmKind.subscription.resource ns name).bind fun o =>
    (TypedKind.subscription.fromDynamic o).toOption

/-- Whether the resource of `r` is stored in `c`. -/
def holds (c : SimCluster) (r : ManagedResource) : Bool :=
  (c.get r.handle.resource r.handle.namespaceName r.handle.name).isSome

/-- No object of `c` satisfies `P`. -/
def NoneSuch (c : SimCluster) (P : ObjectKey → DynamicObject → Prop) : Prop :=
  ∀ k o, c.state.objects.get? k = some o → ¬ P k o

variable {c c' : SimCluster} {P : ObjectKey → DynamicObject → Prop}

theorem SameObjects.get_eq (h : SameObjects c c') (r : ApiResource) (ns name : String) :
    c'.get r ns name = c.get r ns name := by
  unfold get
  rw [h]

theorem holds_eq (c : SimCluster) (r : ManagedResource) :
    c.holds r = (c.state.objects.get? r.handle.objectKey).isSome := rfl

theorem subscription?_congr {ns name : String}
    (h : c'.state.objects.get? ⟨"Subscription", ns, name⟩ =
      c.state.objects.get? ⟨"Subscription", ns, name⟩) :
    c'.subscription? ns name = c.subscription? ns name := by
  unfold subscription? get
  exact congrArg (Option.bind · _) h

/-- `c'` is `c` after deletes of the objects at `keys`: objects only go, those at `keys` are
gone, and every other object but an operator deployment stays. -/
structure Deletes (keys : List ObjectKey) (c c' : SimCluster) : Prop where
  sorted : c'.state.objects.Sorted
  sub : ∀ k o, c'.state.objects.get? k = some o → c.state.objects.get? k = some o
  gone : ∀ k ∈ keys, c'.state.objects.get? k = none
  keeps : ∀ k, k ∉ keys → k.kind ≠ "Deployment" →
    c'.state.objects.get? k = c.state.objects.get? k

variable {c₁ c₂ : SimCluster} {K K' : List ObjectKey}

theorem Deletes.of_same (hs : c.state.objects.Sorted) (h : SameObjects c c') : Deletes [] c c' where
  sorted := h ▸ hs
  sub _ _ ho := h ▸ ho
  gone _ := nofun
  keeps _ _ _ := by rw [h]

theorem Deletes.none (h : Deletes K c c') {k : ObjectKey} (hk : c.state.objects.get? k = none) :
    c'.state.objects.get? k = none := by
  cases ho : c'.state.objects.get? k with
  | none => rfl
  | some o => simpa [hk] using h.sub k o ho

theorem Deletes.trans (h₁ : Deletes K c c₁) (h₂ : Deletes K' c₁ c₂) : Deletes (K ++ K') c c₂ where
  sorted := h₂.sorted
  sub k o ho := h₁.sub k o (h₂.sub k o ho)
  gone k hk := by
    rcases List.mem_append.mp hk with hk | hk
    · -- gone before the later deletes, and they bring nothing back
      exact h₂.none (h₁.gone k hk)
    · exact h₂.gone k hk
  keeps k hk hd := by
    rw [h₂.keeps k (fun h => hk (List.mem_append_right K h)) hd,
      h₁.keeps k (fun h => hk (List.mem_append_left K' h)) hd]

theorem Deletes.same (h : Deletes K c c₁) (h' : SameObjects c₁ c₂) : Deletes K c c₂ := by
  simpa using h.trans (Deletes.of_same h.sorted h')

theorem Deletes.congr (h : Deletes K c c') (hK : ∀ k, k ∈ K ↔ k ∈ K') : Deletes K' c c' where
  sorted := h.sorted
  sub := h.sub
  gone k hk := h.gone k ((hK k).mpr hk)
  keeps k hk := h.keeps k fun h => hk ((hK k).mp h)

theorem Deletes.noneSuch (h : Deletes K c c') (hn : NoneSuch c P) : NoneSuch c' P :=
  fun k o ho => hn k o (h.sub k o ho)

theorem delete_deletes (hs : c.state.objects.Sorted) (r : ApiResource) (ns name : String)
    (now : Timestamp) : Deletes [⟨r.kind, ns, name⟩] c (c.delete r ns name now).2 where
  sorted := delete_sorted c hs r ns name now
  sub _ _ := get?_of_get?_delete c hs r ns name now
  gone k hk := by
    rw [List.mem_singleton] at hk
    rw [get?_delete c hs, if_pos hk]
  keeps k hk hd := by
    rw [List.mem_singleton] at hk
    rw [get?_delete c hs, if_neg hk]
    split
    · -- the deployments a CSV delete drops are no other kind of object
      cases c.state.objects.get? k with
      | none => rfl
      | some o => simp [ownedBy, hd]
    · rfl

theorem delete_csv_noneOwned (hs : c.state.objects.Sorted) (ns name : String) (now : Timestamp) :
    NoneSuch (c.delete OlmKind.clusterServiceVersion.resource ns name now).2
      (fun k o => ownedBy ns name k o = true) := by
  have hcsv : OlmKind.clusterServiceVersion.resource.kind = "ClusterServiceVersion" := rfl
  intro k o ho hown
  rw [get?_delete c hs, if_neg, if_pos hcsv] at ho
  · simp [Option.filter_eq_some_iff, hown] at ho
  · rintro rfl
    simp [ownedBy, hcsv] at hown

end SimCluster

@[simp] theorem Run.wp_map {σ α β : Type} (f : α → β) (r : Run σ α)
    (Q : Except ProvisionError β → World σ → Prop) (w : World σ) :
    Run.wp (f <$> r) Q w = Run.wp r (fun x w' => match x with
      | .ok a => Q (.ok (f a)) w'
      | .error e => Q (.error e) w') w := by
  rw [map_eq_pure_bind, Run.wp_bind]
  rfl

@[simp] theorem Tracked.wp_map {μ σ α β : Type} (f : α → β) (t : Tracked μ σ α)
    (Q : Except ProvisionError β → μ → World σ → Prop) (m : μ) (w : World σ) :
    Tracked.wp (f <$> t) Q m w = Tracked.wp t (fun x m' w' => match x with
      | .ok a => Q (.ok (f a)) m' w'
      | .error e => Q (.error e) m' w') m w := by
  rw [map_eq_pure_bind, Tracked.wp_bind]
  rfl

open SimCluster

namespace Lifecycle

@[simp] theorem wp_fetch_sim (h : Handle) (Q : Except ProvisionError (Option DynamicObject) →
    World SimCluster → Prop) (w : World SimCluster) :
    Run.wp (fetch SimCluster.platform h) Q w =
      Q (.ok (w.cluster.get h.resource h.namespaceName h.name)) w := by
  simp [fetch, Run.wp_call]

@[simp] theorem wp_isPresent_sim (h : Handle)
    (Q : Except ProvisionError Bool → World SimCluster → Prop) (w : World SimCluster) :
    Run.wp (isPresent SimCluster.platform h) Q w =
      Q (.ok (w.cluster.get h.resource h.namespaceName h.name).isSome) w := by
  simp [isPresent]

theorem keeps_fetch_sim (h : Handle) : Run.Keeps SameObjects (fetch SimCluster.platform h) :=
  Run.Keeps.call _ keeps_get

theorem keeps_waitAbsent_sim (h : Handle) (spec : WaitSpec) :
    Run.Keeps SameObjects (waitAbsent SimCluster.platform h spec none) := by
  have hpresent : Run.Keeps SameObjects (isPresent SimCluster.platform h) :=
    Run.Keeps.bind (keeps_fetch_sim h) fun _ => Run.Keeps.pure _
  have habsent : Run.Keeps SameObjects (isAbsent SimCluster.platform h) := by
    refine Run.Keeps.bind hpresent fun present => ?_
    split
    · exact Run.Keeps.pure _
    · split
      · exact Run.Keeps.bind (Run.Keeps.call _ (keeps_listPods _)) fun _ => Run.Keeps.pure _
      · exact Run.Keeps.pure _
  exact Run.Keeps.monadLift (Step.Keeps.waitFor habsent.predicate (by rintro _ ⟨⟩))

theorem delete_sim (h : Handle) (w : World SimCluster) :
    Run.wp (delete SimCluster.platform h) (fun x w' =>
      (∃ gone, x = .ok (gone, h.markDeleted)) ∧
        w'.cluster = (w.cluster.delete h.resource h.namespaceName h.name w.now).2) w := by
  unfold delete
  simp only [Run.wp_bind, Run.wp_call, SimCluster.wp_delete]
  split <;> simp

end Lifecycle

namespace SubscriptionManager

theorem fetchSubscription_sim (ns name : String) (w : World SimCluster) :
    Run.wp (fetchSubscription SimCluster.platform ns name)
      (fun x w' => w' = w ∧ ∀ s, x = .ok s → s = w.cluster.subscription? ns name) w := by
  unfold fetchSubscription Platform.getTyped SimCluster.subscription?
  simp only [Run.wp_call, Step.wp_bind, SimCluster.wp_get]
  rw [show TypedKind.subscription.kind = OlmKind.subscription from rfl]
  cases w.cluster.get OlmKind.subscription.resource ns name with
  | none => simp
  | some o => cases h : TypedKind.subscription.fromDynamic o <;> simp [h, Except.map, Except.toOption]

theorem keeps_fetchCsv_sim (ns csvName : String) :
    Run.Keeps SameObjects (fetchCsv SimCluster.platform ns csvName) :=
  Run.Keeps.call _ (keeps_getTyped _)

/-- Adopting records the installed CSV of the subscription the cluster has, and reads only. -/
theorem adopt_sim (m : SubscriptionManager) (w : World SimCluster) :
    Tracked.wp (adopt SimCluster.platform) (fun x m' w' =>
      SameObjects w.cluster w'.cluster ∧ m'.namespaceName = m.namespaceName ∧ m'.name = m.name ∧
        ∀ found, x = .ok found → m'.currentCsv =
          ((w.cluster.subscription? m.namespaceName m.name).map Subscription.installedCsv).getD
            m.currentCsv) m w := by
  unfold adopt
  simp only [Tracked.wp_bind, Tracked.wp_current, Tracked.wp_lift]
  refine Run.wp_mono (fetchSubscription_sim _ _ w) ?_
  rintro (e | (_ | s)) w' ⟨rfl, hs⟩
  · exact ⟨Std.Refl.refl _, trivial, trivial, by rintro _ ⟨⟩⟩
  · refine ⟨Std.Refl.refl _, rfl, rfl, fun _ _ => ?_⟩
    rw [← hs none rfl]
    rfl
  · rw [← hs (some s) rfl]
    dsimp only
    simp only [Tracked.wp_bind, Tracked.wp_put]
    cases hcsv : s.installedCsv with
    | none => simp [hcsv, SameObjects]
    | some csvName =>
      simp only [Tracked.wp_bind, Tracked.wp_lift]
      refine (keeps_fetchCsv_sim _ _).wp fun x w'' hsame => ?_
      cases x <;> simp [hcsv, hsame]

theorem mem_foldl_dedup {n : String} : ∀ (l acc : List String),
    n ∈ l.foldl (fun acc n => if acc.contains n then acc else acc ++ [n]) acc ↔ n ∈ acc ∨ n ∈ l
  | [], acc => by simp
  | m :: l, acc => by
    rw [List.foldl_cons, mem_foldl_dedup l]
    split
    · rename_i hm
      have hm : m ∈ acc := by simpa using hm
      simp only [List.mem_cons]
      constructor
      · rintro (h | h)
        · exact .inl h
        · exact .inr (.inr h)
      · rintro (h | rfl | h)
        · exact .inl h
        · exact .inl hm
        · exact .inr h
    · simp [or_assoc]

theorem unsubscribe_deletes_csvs (m : SubscriptionManager) (w : World SimCluster)
    (hs : w.cluster.state.objects.Sorted) :
    Tracked.wp (unsubscribe SimCluster.platform) (fun x _ w' => ∀ u, x = .ok u →
      let csvs := m.currentCsv.toList ++
        ((w.cluster.subscription? m.namespaceName m.name).map Subscription.csvNames).getD []
      Deletes (⟨"Subscription", m.namespaceName, m.name⟩ ::
          csvs.map fun n => ⟨"ClusterServiceVersion", m.namespaceName, n⟩) w.cluster w'.cluster ∧
        ∀ n ∈ csvs, NoneSuch w'.cluster (fun k o => ownedBy m.namespaceName n k o = true)) m w := by
  unfold unsubscribe
  simp only [Tracked.wp_bind, Tracked.wp_current, Tracked.wp_lift]
  refine Run.wp_mono (fetchSubscription_sim _ _ w) ?_
  rintro (e | found) w₀ ⟨rfl, hfound⟩
  · rintro _ ⟨⟩
  · obtain rfl := hfound found rfl
    dsimp only
    simp only [Tracked.wp_put, Run.wp_call, Platform.deleteTyped, wp_delete]
    have hsub : Deletes [⟨"Subscription", m.namespaceName, m.name⟩] w₀.cluster
        (w₀.cluster.delete TypedKind.subscription.kind.resource m.namespaceName m.name w₀.now).2 :=
      delete_deletes hs TypedKind.subscription.kind.resource m.namespaceName m.name w₀.now
    rw [Tracked.wp_ite]
    split
    all_goals
      simp only [Tracked.wp_bind, Tracked.wp_log]
      -- each CSV of the list, once deleted, stays deleted with its deployments
      refine Tracked.wp_forIn (fun done _ _ w₃ =>
          Deletes (⟨"Subscription", m.namespaceName, m.name⟩ ::
            done.map fun n => ⟨"ClusterServiceVersion", m.namespaceName, n⟩) w₀.cluster w₃.cluster ∧
          ∀ n ∈ done, NoneSuch w₃.cluster (fun k o => ownedBy m.namespaceName n k o = true))
        ⟨hsub, by rintro _ ⟨⟩⟩ ?_ ?_
      · rintro done x _ _ m₃ w₃ _ ⟨hdel, hown⟩
        have hx : Deletes [⟨"ClusterServiceVersion", m.namespaceName, x⟩] w₃.cluster
            (w₃.cluster.delete TypedKind.clusterServiceVersion.kind.resource m.namespaceName x
              w₃.now).2 :=
          delete_deletes hdel.sorted TypedKind.clusterServiceVersion.kind.resource m.namespaceName x
            w₃.now
        have hinv : Deletes (⟨"Subscription", m.namespaceName, m.name⟩ ::
              (done ++ [x]).map fun n => ⟨"ClusterServiceVersion", m.namespaceName, n⟩) w₀.cluster
              (w₃.cluster.delete TypedKind.clusterServiceVersion.kind.resource m.namespaceName x
                w₃.now).2 ∧
            ∀ n ∈ done ++ [x], NoneSuch (w₃.cluster.delete TypedKind.clusterServiceVersion.kind.resource
              m.namespaceName x w₃.now).2 (fun k o => ownedBy m.namespaceName n k o = true) := by
          refine ⟨(hdel.trans hx).congr fun k => by simp, fun n hn => ?_⟩
          rcases List.mem_append.mp hn with hn | hn
          · exact hx.noneSuch (hown n hn)
          · rw [List.mem_singleton.mp hn]
            exact delete_csv_noneOwned hdel.sorted _ x _
        simp only [Tracked.wp_bind, Tracked.wp_lift, Run.wp_call, wp_delete]
        split <;> simpa using hinv
      · rintro _ m₃ w₃ ⟨hdel, hown⟩
        simp only [Tracked.wp_update]
        rintro _ -
        -- the names collected are the recorded CSV, then those the subscription refers to
        have hmem : ∀ l n, n ∈ List.foldl (fun acc n => if acc.contains n = true then acc else
            acc ++ [n]) m.currentCsv.toList l ↔ n ∈ m.currentCsv.toList ++ l := fun l n => by
          rw [mem_foldl_dedup, List.mem_append]
        cases hfound : w₀.cluster.subscription? m.namespaceName m.name <;>
          simp only [hfound, Option.map_none, Option.map_some, Option.getD_none,
            Option.getD_some] at hdel hown ⊢
        all_goals
          refine ⟨hdel.congr fun k => ?_, fun n hn => hown n ((hmem _ n).mpr hn)⟩
          simp only [List.mem_cons, List.mem_map]
          exact or_congr_right (exists_congr fun n => and_congr_left fun _ => hmem _ n)

end SubscriptionManager

namespace Orchestrator

/-- Configuring reads nothing of the cluster and tracks nothing new; an orchestrator without a
manager gets a new one for the configured package. -/
theorem configure_sim (config : ConfigSource) (o : Orchestrator) (w : World SimCluster) :
    Tracked.wp (configure config : Tracked Orchestrator SimCluster OperatorDescriptor) (fun x o' w' =>
      w'.cluster = w.cluster ∧ o'.adapter = o.adapter ∧ o'.tracking = o.tracking ∧
        ∀ d, x = .ok d → o'.subscription = some (o.subscription.getD
          (SubscriptionManager.new o.adapter.namespaceName d.packageManifestId))) o w := by
  unfold configure resolveDescriptor
  simp only [Tracked.wp_bind, Tracked.wp_current, Tracked.wp_lift]
  split
  · simp
  · simp only [Run.wp_bind, Run.wp_log, Run.wp_pure, orFail, Tracked.wp_ofExcept]
    cases WaitPolicy.fromConfig config o.adapter.productId with
    | error e => simp
    | ok policy =>
      simp only [Tracked.wp_log, Tracked.wp_put, Tracked.wp_pure, true_and]
      refine ⟨rfl, ?_⟩
      rintro d ⟨⟩
      cases o.subscription <;> rfl

/-- An undeploy on the simulated cluster deletes every resource the orchestrator tracks, also
when its wait for the primary to go times out, and keeps the subscription manager. -/
theorem undeploy_deletes_tracked (o : Orchestrator) (w : World SimCluster)
    (hs : w.cluster.state.objects.Sorted) :
    Tracked.wp (undeploy SimCluster.platform) (fun _ o' w' => o'.subscription = o.subscription ∧
      Deletes (o.tracking.resources.map fun r => r.handle.objectKey) w.cluster w'.cluster) o w := by
  unfold undeploy
  simp only [Tracked.wp_bind, Tracked.wp_current]
  -- the auxiliaries `done`, taken from the end, are deleted
  refine Tracked.wp_forIn (fun done _ o₁ w₁ => o₁.subscription = o.subscription ∧
      Deletes (done.map fun r => r.handle.objectKey) w.cluster w₁.cluster)
    ⟨rfl, .of_same hs rfl⟩ ?_ ?_
  · intro done x _ _ o₁ w₁ _ ⟨hsub, hdel⟩
    simp only [Tracked.wp_bind, Tracked.wp_lift]
    refine Run.wp_mono (Lifecycle.delete_sim x.handle w₁) fun r w₂ ⟨⟨gone, hr⟩, hw₂⟩ => ?_
    subst hr
    simp only [Tracked.wp_update, Tracked.wp_pure]
    refine ⟨hsub, ?_⟩
    rw [hw₂]
    exact (hdel.trans (delete_deletes hdel.sorted x.handle.resource _ _ _)).congr fun k => by
      simp [Handle.objectKey, Handle.kind]
  · intro _ o₁ w₁ ⟨hsub, hdel⟩
    dsimp only
    split
    · rename_i hnone
      refine ⟨hsub, hdel.congr fun k => ?_⟩
      simp [Orchestrator.tracking, Tracking.resources, hnone]
    · rename_i P hP
      simp only [Tracked.wp_bind, Tracked.wp_lift]
      refine Run.wp_mono (Lifecycle.delete_sim P.handle w₁) fun r w₂ ⟨⟨gone, hr⟩, hw₂⟩ => ?_
      subst hr
      have hdel₂ : Deletes (o.tracking.resources.map fun r => r.handle.objectKey) w.cluster
          w₂.cluster := by
        rw [hw₂]
        refine (hdel.trans (delete_deletes hdel.sorted P.handle.resource _ _ _)).congr fun k => ?_
        simp [Orchestrator.tracking, Tracking.resources, hP, Handle.objectKey, Handle.kind, or_comm]
      dsimp only
      simp only [Tracked.wp_update]
      -- the wait for the primary to go reads only
      refine (Lifecycle.keeps_waitAbsent_sim _ _).wp fun x w₃ h₃ => ?_
      have hdel₃ := hdel₂.same h₃
      cases x with
      | error e => exact ⟨hsub, hdel₃⟩
      | ok outcome =>
        simp only [orFail, Tracked.wp_ofExcept]
        split
        · simp only [Tracked.wp_log]
          exact ⟨hsub, hdel₃⟩
        · exact ⟨hsub, hdel₃⟩

/-- What an adopt leaves an orchestrator `o` that tracked nothing, with the manager `m`, on
the cluster `c`: the resources of the plan that `c` stores tracked, in plan order, and a manager
of the same subscription that records its installed CSV. -/
def AdoptedFrom (c : SimCluster) (m : SubscriptionManager) (o o' : Orchestrator) : Prop :=
  o'.tracking.resources = (o.adapter.plan.filter c.holds).map ManagedResource.markCreated ∧
    ∃ m', o'.subscription = some m' ∧ m'.namespaceName = m.namespaceName ∧ m'.name = m.name ∧
      m'.currentCsv =
        ((c.subscription? m.namespaceName m.name).map Subscription.installedCsv).getD m.currentCsv

/-- What the auxiliary half of an adopt leaves, started from `o₂`: the objects of `c`, and, when
it answers, the manager and the primary of `o₂` and the auxiliaries of the plan that `c` stores
tracked, in plan order. -/
def AdoptedAuxiliariesFrom (c : SimCluster) (adapter : ProductAdapter) (o₂ : Orchestrator)
    (x : Except ProvisionError Unit) (o' : Orchestrator) (w' : World SimCluster) : Prop :=
  SameObjects c w'.cluster ∧ (x = .ok () →
    o'.subscription = o₂.subscription ∧ o'.primary = o₂.primary ∧
      ∃ A, adapter.auxiliaries = .ok A ∧
        o'.auxiliaries = (A.filter c.holds).map ManagedResource.markCreated)

theorem adopt_tracks_what_exists (o : Orchestrator) (m : SubscriptionManager)
    (hm : o.subscription = some m) (hp : o.primary = none) (ha : o.auxiliaries = [])
    (w : World SimCluster) :
    Tracked.wp (adopt SimCluster.platform) (fun x o' w' => SameObjects w.cluster w'.cluster ∧
      (x = .ok () → AdoptedFrom w.cluster m o o')) o w := by
  unfold adopt
  simp only [Tracked.wp_bind, Tracked.wp_current, hm, Option.isNone_some, Bool.false_eq_true,
    if_false, Tracked.wp_focus, Option.getD_some]
  refine Tracked.wp_mono (SubscriptionManager.adopt_sim m w) ?_
  rintro x n w₁ ⟨h₁, hns, hname, hcsv⟩
  cases x with
  | error e => exact ⟨h₁, by rintro ⟨⟩⟩
  | ok _ =>
  dsimp only
  rw [Tracked.wp_ite, if_pos (by simp [hp]), Tracked.wp_bind, orFail, Tracked.wp_ofExcept]
  rcases hP : o.adapter.primary with e | P
  · exact ⟨h₁, by rintro ⟨⟩⟩
  dsimp only
  rw [Tracked.wp_bind, Tracked.wp_lift, Lifecycle.wp_isPresent_sim]
  dsimp only
  rw [Tracked.wp_ite]
  have hheld : (w₁.cluster.get P.handle.resource P.handle.namespaceName P.handle.name).isSome =
      w.cluster.holds P := by
    rw [h₁.get_eq]
    rfl
  have hdone : ∀ o', o'.primary = (if w.cluster.holds P then some P.markCreated else none) →
      o'.subscription = some n → (∃ A, o.adapter.auxiliaries = .ok A ∧
        o'.auxiliaries = (A.filter w.cluster.holds).map ManagedResource.markCreated) →
      AdoptedFrom w.cluster m o o' := by
    rintro o' hpr hsub ⟨A, hA, haux⟩
    refine ⟨?_, n, hsub, hns, hname, hcsv _ rfl⟩
    simp only [Orchestrator.tracking, Tracking.resources, hpr, haux, ProductAdapter.plan, hP, hA]
    split <;> simp [*]
  -- both ways through the primary half end in the auxiliary half, proved once below
  split
  case' isTrue =>
    rename_i hpresent
    rw [Tracked.wp_bind, Tracked.wp_log]
    dsimp only
    rw [Tracked.wp_bind, Tracked.wp_update]
    dsimp only
    refine Tracked.wp_mono ((?_ : ∀ o₂ w₂, o₂.auxiliaries = [] → SameObjects w.cluster w₂.cluster →
        Tracked.wp _ (AdoptedAuxiliariesFrom w.cluster o.adapter o₂) o₂ w₂) _ _ (by exact ha)
        (by exact h₁)) fun x o' w' h => ⟨h.1, fun hok =>
          hdone o' (by rw [(h.2 hok).2.1, ← hheld, hpresent]; rfl) (h.2 hok).1 (h.2 hok).2.2⟩
  case' isFalse =>
    rename_i hpresent
    refine Tracked.wp_mono ((?_ : ∀ o₂ w₂, o₂.auxiliaries = [] → SameObjects w.cluster w₂.cluster →
        Tracked.wp _ (AdoptedAuxiliariesFrom w.cluster o.adapter o₂) o₂ w₂) _ _ (by exact ha)
        (by exact h₁)) fun x o' w' h => ⟨h.1, fun hok =>
          hdone o' (by rw [(h.2 hok).2.1, ← hheld]; simp [hpresent, hp]) (h.2 hok).1 (h.2 hok).2.2⟩
  all_goals
    intro o₂ w₂ ha₂ h₂
    rw [Tracked.wp_bind, Tracked.wp_current]
    dsimp only
    rw [Tracked.wp_ite, if_pos (by simp [ha₂]), Tracked.wp_bind, orFail, Tracked.wp_ofExcept]
    rcases hA : o.adapter.auxiliaries with e | A
    · exact ⟨h₂, by rintro ⟨⟩⟩
    dsimp only
    rw [Tracked.wp_bind]
    -- the auxiliaries of `done` that the cluster stores are tracked, in plan order
    refine Tracked.wp_forIn (fun done _ o₃ w₃ => SameObjects w.cluster w₃.cluster ∧
        o₃.subscription = o₂.subscription ∧ o₃.primary = o₂.primary ∧
        o₃.auxiliaries = (done.filter w.cluster.holds).map ManagedResource.markCreated)
      ⟨h₂, rfl, rfl, by simp [ha₂]⟩ ?_ ?_
    · rintro done x _ _ o₃ w₃ _ ⟨h₃, hs₃, hp₃, hx₃⟩
      rw [Tracked.wp_bind, Tracked.wp_lift, Lifecycle.wp_isPresent_sim]
      dsimp only
      have hx : (w₃.cluster.get x.handle.resource x.handle.namespaceName x.handle.name).isSome =
          w.cluster.holds x := by
        rw [h₃.get_eq]
        rfl
      rw [Tracked.wp_ite]
      split
      · rename_i hxp
        simp only [Tracked.wp_bind, Tracked.wp_log, Tracked.wp_update, Tracked.wp_pure]
        refine ⟨h₃, hs₃, hp₃, ?_⟩
        show o₃.auxiliaries ++ [x.markCreated] = _
        rw [hx₃]
        simp [List.filter_append, ← hx, hxp]
      · rename_i hxp
        rw [Tracked.wp_pure]
        refine ⟨h₃, hs₃, hp₃, ?_⟩
        rw [hx₃]
        simp [List.filter_append, ← hx, hxp]
    · rintro _ o₃ w₃ ⟨h₃, hs₃, hp₃, hx₃⟩
      dsimp only
      rw [Tracked.wp_pure]
      exact ⟨h₃, fun _ => ⟨hs₃, hp₃, A, hA, hx₃⟩⟩

theorem unsubscribe_sim (o : Orchestrator) (m : SubscriptionManager) (hm : o.subscription = some m)
    (w : World SimCluster) (hs : w.cluster.state.objects.Sorted) :
    Tracked.wp (unsubscribe SimCluster.platform) (fun x _ w' => ∀ u, x = .ok u →
      let csvs := m.currentCsv.toList ++
        ((w.cluster.subscription? m.namespaceName m.name).map Subscription.csvNames).getD []
      Deletes (⟨"Subscription", m.namespaceName, m.name⟩ ::
          csvs.map fun n => ⟨"ClusterServiceVersion", m.namespaceName, n⟩) w.cluster w'.cluster ∧
        ∀ n ∈ csvs, NoneSuch w'.cluster (fun k o => ownedBy m.namespaceName n k o = true)) o w := by
  unfold unsubscribe
  simp only [Tracked.wp_bind, Tracked.wp_current, hm, Tracked.wp_focus, Option.getD_some]
  exact Tracked.wp_mono (SubscriptionManager.unsubscribe_deletes_csvs m w hs) fun _ _ _ h => h

end Orchestrator

/-- Nothing of the product is left in `c`: no resource of the adapter's plan, no subscription at
`sub`, none of the CSVs `csvs` of the adapter's namespace and no operator deployment they own. -/
def ProductRemoved (adapter : ProductAdapter) (sub : ObjectKey) (csvs : List String)
    (c : SimCluster) : Prop :=
  (∀ r ∈ adapter.plan, c.state.objects.get? r.handle.objectKey = none) ∧
    c.state.objects.get? sub = none ∧
    ∀ n ∈ csvs, c.state.objects.get? ⟨"ClusterServiceVersion", adapter.namespaceName, n⟩ = none ∧
      NoneSuch c (fun k o => ownedBy adapter.namespaceName n k o = true)

theorem teardown_removes_product (adapter : ProductAdapter) (config : ConfigSource)
    (w : World SimCluster) (hs : w.cluster.state.objects.Sorted) :
    Tracked.wp (Orchestrator.configure config : Tracked Orchestrator SimCluster OperatorDescriptor)
      (fun x o₁ w₁ => ∀ d, x = .ok d →
        let sub : ObjectKey := ⟨"Subscription", adapter.namespaceName, d.packageManifestId⟩
        let found := w.cluster.subscription? adapter.namespaceName d.packageManifestId
        Tracked.wp (Orchestrator.adopt SimCluster.platform) (fun y o₂ w₂ => y = .ok () →
          (o₂.tracking.resources =
              (adapter.plan.filter w.cluster.holds).map ManagedResource.markCreated ∧
            o₂.currentCsv = found.bind Subscription.installedCsv) ∧
          ((∀ r ∈ adapter.plan, r.handle.objectKey ≠ sub) →
            Tracked.wp (Orchestrator.undeploy SimCluster.platform) (fun z o₃ w₃ => z = .ok () →
              Tracked.wp (Orchestrator.unsubscribe SimCluster.platform) (fun u _ w₄ => u = .ok () →
                ProductRemoved adapter sub ((found.map Subscription.csvNames).getD []) w₄.cluster)
                o₃ w₃) o₂ w₂)) o₁ w₁)
      (Orchestrator.new adapter) w := by
  refine Tracked.wp_mono (Orchestrator.configure_sim config _ w) ?_
  rintro x o₁ w₁ ⟨hw₁, had₁, ht₁, hsub₁⟩ d rfl
  dsimp only
  -- configure gave a manager of the package, and nothing is tracked yet
  have hm₁ : o₁.subscription =
      some (SubscriptionManager.new adapter.namespaceName d.packageManifestId) := hsub₁ d rfl
  have hp₁ : o₁.primary = none := congrArg Tracking.primary ht₁
  have ha₁ : o₁.auxiliaries = [] := congrArg Tracking.auxiliaries ht₁
  refine Tracked.wp_mono (Orchestrator.adopt_tracks_what_exists o₁ _ hm₁ hp₁ ha₁ w₁) ?_
  rintro y o₂ w₂ ⟨h₂, hadopt⟩ rfl
  obtain ⟨htrack, m', hm', hns', hname', hcsv'⟩ := hadopt rfl
  rw [hw₁] at htrack hcsv' h₂
  rw [had₁] at htrack
  dsimp only [SubscriptionManager.new, Orchestrator.new] at hns' hname' hcsv' htrack
  refine ⟨⟨htrack, ?_⟩, fun hsep => ?_⟩
  · rw [Orchestrator.currentCsv, hm', Option.bind_some, hcsv']
    cases w.cluster.subscription? adapter.namespaceName d.packageManifestId <;> rfl
  -- undeploy deletes what adopt tracked, which is not the subscription
  have hs₂ : w₂.cluster.state.objects.Sorted := h₂ ▸ hs
  refine Tracked.wp_mono (Orchestrator.undeploy_deletes_tracked o₂ w₂ hs₂) ?_
  rintro z o₃ w₃ ⟨hsub₃, hdel₃⟩ -
  refine Tracked.wp_mono (Orchestrator.unsubscribe_sim o₃ m' (hsub₃.trans hm') w₃ hdel₃.sorted) ?_
  rintro u _ w₄ h₄ rfl
  obtain ⟨hdel₄, hown₄⟩ := h₄ () rfl
  rw [hns', hname'] at hdel₄ hown₄
  -- the subscription the unsubscribe reads is the one the cluster had: undeploy spared it
  have hkey : ⟨"Subscription", adapter.namespaceName, d.packageManifestId⟩ ∉
      o₂.tracking.resources.map fun r => r.handle.objectKey := by
    rw [htrack, List.map_map]
    intro hmem
    obtain ⟨r, hr, hrk⟩ := List.mem_map.mp hmem
    exact hsep r (List.mem_filter.mp hr).1 hrk
  have hfound : w₃.cluster.subscription? adapter.namespaceName d.packageManifestId =
      w.cluster.subscription? adapter.namespaceName d.packageManifestId := by
    refine subscription?_congr ?_
    rw [hdel₃.keeps _ hkey (show "Subscription" ≠ "Deployment" by decide), h₂]
  rw [hfound] at hdel₄ hown₄
  refine ⟨fun r hr => ?_, hdel₄.gone _ List.mem_cons_self,
    fun n hn => ⟨hdel₄.gone _ ?_, hown₄ n (List.mem_append_right _ hn)⟩⟩
  · by_cases hheld : w.cluster.holds r
    · -- adopt tracked it and undeploy deleted it
      have hr₂ : r.handle.objectKey ∈ o₂.tracking.resources.map fun r => r.handle.objectKey := by
        rw [htrack, List.map_map]
        exact List.mem_map.mpr ⟨r, List.mem_filter.mpr ⟨hr, hheld⟩, rfl⟩
      exact hdel₄.none (hdel₃.gone _ hr₂)
    · -- it was never there
      have hr₂ : w₂.cluster.state.objects.get? r.handle.objectKey = none := by
        rw [h₂]
        simpa [holds_eq] using hheld
      exact hdel₄.none (hdel₃.none hr₂)
  · simp [hn]

theorem teardown_removes_product_broker :
    let broker : DynamicObject :=
      { types := some ⟨"example.com/v1", "Broker"⟩,
        metadata := { name := some "my-broker", namespaceName := some "broker-test" },
        data := Json.object [("spec", Json.object [])] }
    let adapter : ProductAdapter :=
      { productId := "broker", namespaceName := "broker-test",
        primary := .ok ⟨Handle.new ⟨"example.com", "v1", "Broker", "brokers"⟩ "broker-test"
          "my-broker", broker⟩ }
    let w : World SimCluster :=
      ⟨({ objects := [broker] } : ClusterSpec).build, ⟨0⟩, [], ⟨0, 0⟩, ⟨0, 0⟩⟩
    w.cluster.state.objects.Sorted ∧
      (∀ r ∈ adapter.plan, r.handle.objectKey ≠ ⟨"Subscription", "broker-test", "broker"⟩) ∧
      Tracked.wp (Orchestrator.configure (.table []) :
          Tracked Orchestrator SimCluster OperatorDescriptor)
        (fun x o₁ w₁ => ∀ d, x = .ok d →
          let sub : ObjectKey := ⟨"Subscription", adapter.namespaceName, d.packageManifestId⟩
          let found := w.cluster.subscription? adapter.namespaceName d.packageManifestId
          Tracked.wp (Orchestrator.adopt SimCluster.platform) (fun y o₂ w₂ => y = .ok () →
            (o₂.tracking.resources =
                (adapter.plan.filter w.cluster.holds).map ManagedResource.markCreated ∧
              o₂.currentCsv = found.bind Subscription.installedCsv) ∧
            ((∀ r ∈ adapter.plan, r.handle.objectKey ≠ sub) →
              Tracked.wp (Orchestrator.undeploy SimCluster.platform) (fun z o₃ w₃ => z = .ok () →
                Tracked.wp (Orchestrator.unsubscribe SimCluster.platform) (fun u _ w₄ => u = .ok () →
                  ProductRemoved adapter sub ((found.map Subscription.csvNames).getD []) w₄.cluster)
                  o₃ w₃) o₂ w₂)) o₁ w₁)
        (Orchestrator.new adapter) w :=
  ⟨(ClusterSpec.build_stamped _).sorted, by decide,
    teardown_removes_product _ _ _ (ClusterSpec.build_stamped _).sorted⟩

/-- When an auxiliary of the product is the subscription itself, undeploy deletes it before
unsubscribe reads it, and a CSV it refers to is left though every step answers. -/
theorem teardown_can_leave_referenced_csv :
    let spec : Json := Json.object [("name", Json.str "broker-operator"),
      ("source", Json.str "community-operators"),
      ("sourceNamespace", Json.str "openshift-marketplace")]
    let subscription (name : String) (status : Json) : DynamicObject :=
      { types := some ⟨"operators.coreos.com/v1alpha1", "Subscription"⟩,
        metadata := { name := some name, namespaceName := some "broker-test" },
        data := Json.object [("spec", spec), ("status", status)] }
    let pending := subscription "broker-operator"
      (Json.object [("currentCSV", Json.str "broker-operator.v1.0.0")])
    let installed := subscription "other-sub"
      (Json.object [("currentCSV", Json.str "broker-operator.v1.0.0"),
        ("installedCSV", Json.str "broker-operator.v1.0.0")])
    let csv : DynamicObject :=
      { types := some ⟨"operators.coreos.com/v1alpha1", "ClusterServiceVersion"⟩,
        metadata := { name := some "broker-operator.v1.0.0", namespaceName := some "broker-test" },
        data := Json.object [] }
    let operator : DynamicObject :=
      { types := some ⟨"apps/v1", "Deployment"⟩,
        metadata :=
          { name := some "broker-operator", namespaceName := some "broker-test",
            labels := some [("olm.owner", "broker-operator.v1.0.0")] },
        data := Json.object [] }
    let broker : DynamicObject :=
      { types := some ⟨"example.com/v1", "Broker"⟩,
        metadata := { name := some "my-broker", namespaceName := some "broker-test" },
        data := Json.object [("spec", Json.object [])] }
    let subResource : ApiResource :=
      ⟨"operators.coreos.com", "v1alpha1", "Subscription", "subscriptions"⟩
    let adapter : ProductAdapter :=
      { productId := "broker", namespaceName := "broker-test",
        primary := .ok ⟨Handle.new ⟨"example.com", "v1", "Broker", "brokers"⟩ "broker-test"
          "my-broker", broker⟩,
        auxiliaries := .ok [⟨Handle.new subResource "broker-test" "broker-operator", pending⟩,
          ⟨Handle.new subResource "broker-test" "other-sub", installed⟩] }
    let config : ConfigSource := .table [("broker.operators.package_manifest", "broker-operator")]
    let w : World SimCluster :=
      ⟨({ objects := [broker, pending, installed, csv, operator] } : ClusterSpec).build, ⟨0⟩, [],
        ⟨0, 0⟩, ⟨0, 0⟩⟩
    ((w.cluster.subscription? "broker-test" "broker-operator").map Subscription.csvNames).getD [] =
        ["broker-operator.v1.0.0"] ∧
      Tracked.wp (Orchestrator.configure config : Tracked Orchestrator SimCluster OperatorDescriptor)
        (fun x o₁ w₁ => x.toBool ∧
          Tracked.wp (Orchestrator.adopt SimCluster.platform) (fun y o₂ w₂ => y.toBool ∧
            Tracked.wp (Orchestrator.undeploy SimCluster.platform) (fun z o₃ w₃ => z.toBool ∧
              Tracked.wp (Orchestrator.unsubscribe SimCluster.platform) (fun u _ w₄ => u.toBool ∧
                (w₄.cluster.state.objects.get?
                  ⟨"ClusterServiceVersion", "broker-test", "broker-operator.v1.0.0"⟩).isSome ∧
                (w₄.cluster.state.objects.get? ⟨"Deployment", "broker-test", "broker-operator"⟩).isSome)
                o₃ w₃) o₂ w₂) o₁ w₁)
        (Orchestrator.new adapter) w := by
  simp only [Tracked.wp, Step.wp]
  decide +kernel

end OlmProvision
