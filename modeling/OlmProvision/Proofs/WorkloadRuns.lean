import OlmProvision.Proofs.WorkloadPods

/-
Runs of calls against the simulated cluster, and what they do to the pods of workloads.

A run is a list of timed calls: writes of any client (create, replace, merge patch, delete)
and pod queries, which count the terminating pods down. What one call can do to the pods is
said once (`SimCluster.call_pods_cases`): nothing, a reconcile of the object a create or
replace stored, the stops of a delete, or the count-down of a pod query. From it:

1. A workload that a create or replace has reconciled to `r` replicas keeps exactly the running
   pods `<name>-0` … `<name>-(r-1)`, all in phase `Running`, for as long as its object is not
   written again, no two objects of its namespace share a name, and nothing of its name is
   deleted (`SimState.pods_follow_replicas`, from the run lemma `SimState.podsMatch_runCalls`).
   The last condition cannot be dropped: a delete stops the pods labeled with the name it
   deletes, whatever kind it names and whether there is such an object.
2. A running pod stops only in a call that deletes something of its instance's name, or that
   reconciles an object of that name to at most the pod's index
   (`SimState.stops_by_delete_or_scale_down`).
3. A stopped pod that no reconcile starts again is gone after exactly `podTerminationPolls` pod
   queries, at once when that is zero (`SimState.stopped_pod_gone_iff`).

The three together, over every run from a cluster built from a spec, are
`SimCluster.workload_pods_follow_replicas`.
-/
namespace OlmProvision

/-- A call that can change the simulated cluster: a write of some client, or a pod query. -/
inductive ClusterCall where
  | write (w : Write)
  | listPods (ns selector : String)

namespace ClusterCall

/-- The call deletes something named `name` in `ns`, of whatever kind. -/
def DeletesName (ns name : String) : ClusterCall → Prop
  | .write (.delete _ ns' name') => ns' = ns ∧ name' = name
  | _ => False

/-- Whether the call is a pod query. -/
def queriesPods : ClusterCall → Bool
  | .listPods _ _ => true
  | .write _ => false

/-- The kinds whose creation the cluster answers as OLM does, with no pods. -/
def olmKinds : List String :=
  ["Subscription", "InstallPlan", "ClusterServiceVersion", "CatalogSource"]

/-- The call is a create or replace of the object at `key` that cluster `c` accepts at `now`,
after which it reconciles the pods of that object. -/
def Reconciles (c : SimCluster) (now : Timestamp) (key : ObjectKey) : ClusterCall → Prop
  | .write (.create r ns o) =>
    ⟨r.kind, ns, o.name⟩ = key ∧ (c.create r ns o now).1.isOk ∧ r.kind ∉ olmKinds
  | .write (.replace r ns o) =>
    ⟨r.kind, ns, o.name⟩ = key ∧ (c.replace r ns o now).1.isOk ∧
      r.kind ≠ "ClusterServiceVersion" ∧ r.group.endsWith "coreos.com" = false
  | _ => False

theorem queriesPods_of_reconciles {c : SimCluster} {now : Timestamp} {key : ObjectKey}
    {x : ClusterCall} (h : x.Reconciles c now key) : x.queriesPods = false := by
  match x, h with
  | .write _, _ => rfl

end ClusterCall

namespace SimState

/-- No two stored objects of one namespace share a name. -/
def NamesUnique (s : SimState) : Prop :=
  (s.objects.entries.map fun e => (e.1.namespaceName, e.1.name)).Nodup

instance (s : SimState) : Decidable s.NamesUnique :=
  inferInstanceAs (Decidable (List.Nodup _))

/-- The running pods of the object at `key` are exactly `<name>-0` … `<name>-(r-1)`. -/
def PodsMatch (s : SimState) (key : ObjectKey) (r : Nat) : Prop :=
  ∀ p, s.Runs key.namespaceName key.name p ↔ ∃ i < r, p = podName key.name i

/-- No pod runs at place `q`: there is none, or it is terminating. -/
def Stopped (s : SimState) (q : Place) : Prop :=
  ∀ pod, s.pods.get? q = some pod → pod.terminatingFor ≠ none

instance (s : SimState) (q : Place) : Decidable (s.Stopped q) :=
  decidable_of_iff ((s.pods.get? q).all fun pod => pod.terminatingFor.isSome) <| by
    unfold Stopped
    cases s.pods.get? q <;> simp [Option.isSome_iff_ne_none]

theorem NamesUnique.eq {s : SimState} (h : s.NamesUnique) {k k' : ObjectKey}
    (hk : (s.objects.get? k).isSome) (hk' : (s.objects.get? k').isSome)
    (hns : k.namespaceName = k'.namespaceName) (hname : k.name = k'.name) : k = k' := by
  obtain ⟨o, ho⟩ := Option.isSome_iff_exists.mp hk
  obtain ⟨o', ho'⟩ := Option.isSome_iff_exists.mp hk'
  have hsame := List.inj_on_of_nodup_map h (Table.mem_entries_of_get? ho)
    (Table.mem_entries_of_get? ho') (by rw [hns, hname])
  exact congrArg Prod.fst hsame

theorem replicasAt_congr {s s' : SimState} {key : ObjectKey}
    (h : s'.objects.get? key = s.objects.get? key) : s'.replicasAt key = s.replicasAt key := by
  unfold replicasAt
  rw [h]

theorem isSome_of_replicasAt {s : SimState} {key : ObjectKey} {r : Nat}
    (h : s.replicasAt key = some r) : (s.objects.get? key).isSome := by
  obtain ⟨o, ho, -⟩ := Option.bind_eq_some_iff.mp h
  rw [ho]
  rfl

theorem podsMatch_congr {s s' : SimState} (h : s'.pods = s.pods) {key : ObjectKey} {r : Nat} :
    s'.PodsMatch key r ↔ s.PodsMatch key r := by
  unfold PodsMatch
  simp only [runs_congr h]

end SimState

namespace SimCluster

open SimState

variable {c : SimCluster} {now : Timestamp} {x : ClusterCall} {key : ObjectKey}

/-- The cluster after a call at wall-clock time `now`. -/
def call (c : SimCluster) (now : Timestamp) : ClusterCall → SimCluster
  | .write w => c.perform now w
  | .listPods ns selector => (c.listPods ns selector).2

/-- The cluster after a run of timed calls. -/
def runCalls (c : SimCluster) : List (Timestamp × ClusterCall) → SimCluster
  | [] => c
  | (now, x) :: xs => (c.call now x).runCalls xs

/-- The clusters a run passes through: the first, then the one after each call. -/
def visits (c : SimCluster) : List (Timestamp × ClusterCall) → List SimCluster
  | [] => [c]
  | (now, x) :: xs => c :: (c.call now x).visits xs

/-- The number of pod queries of a run. -/
def queries (xs : List (Timestamp × ClusterCall)) : Nat :=
  xs.countP (·.2.queriesPods)

theorem self_mem_visits (c : SimCluster) : ∀ xs, c ∈ c.visits xs
  | [] => List.mem_singleton_self c
  | _ :: _ => List.mem_cons_self

theorem runCalls_mem_visits : ∀ (xs : List (Timestamp × ClusterCall)) (c : SimCluster),
    c.runCalls xs ∈ c.visits xs
  | [], c => List.mem_singleton_self c
  | (now, x) :: xs, c => List.mem_cons_of_mem _ (runCalls_mem_visits xs (c.call now x))

theorem queries_cons (now : Timestamp) (x : ClusterCall) (xs : List (Timestamp × ClusterCall)) :
    queries ((now, x) :: xs) = queries xs + if x.queriesPods then 1 else 0 := by
  unfold queries
  rw [List.countP_cons]

@[simp] theorem settings_call (c : SimCluster) (now : Timestamp) (x : ClusterCall) :
    (c.call now x).settings = c.settings := by
  cases x with
  | write w =>
    cases w with
    | create r ns o =>
      unfold call perform create
      dsimp only
      split <;> rfl
    | replace r ns o =>
      unfold call perform replace
      dsimp only
      split
      · rfl
      · split <;> rfl
    | patchMerge r ns name patch =>
      unfold call perform patchMerge
      dsimp only
      split <;> rfl
    | delete r ns name => rfl
  | listPods ns selector => rfl

/-! ### What one call does to the pods -/

theorem create_of_reconciles {r : ApiResource} {ns : String} {o : DynamicObject}
    (hx : (ClusterCall.write (.create r ns o)).Reconciles c now key) :
    ∃ s : SimState, s.pods = c.state.pods ∧
      (c.create r ns o now).2.state = reconcileWorkload c.settings s key now := by
  obtain ⟨rfl, hok, hkind⟩ := hx
  have hfresh : ¬c.state.objects.contains ⟨r.kind, ns, o.name⟩ = true := by
    intro h
    unfold create at hok
    dsimp only at hok
    rw [if_pos h] at hok
    cases hok
  simp only [ClusterCall.olmKinds, List.mem_cons, List.not_mem_nil, or_false, not_or] at hkind
  obtain ⟨hsub, hplan, hcsv, hcat⟩ := hkind
  unfold create
  dsimp only
  rw [if_neg hfresh]
  refine ⟨?s, ?hpods, ?heq⟩
  case heq =>
    simp only [hsub, hplan, hcsv, hcat, beq_iff_eq, Bool.or_eq_true, or_self, if_false]
    exact rfl
  case hpods => rfl

theorem pods_create_of_not_reconciles {r : ApiResource} {ns : String} {o : DynamicObject}
    (hx : ¬(ClusterCall.write (.create r ns o)).Reconciles c now ⟨r.kind, ns, o.name⟩) :
    (c.create r ns o now).2.state.pods = c.state.pods := by
  unfold create
  dsimp only
  split
  · rfl
  · next hfresh =>
    split
    · exact pods_afterSubscriptionCreated _ _ _ _
    · split
      · rfl
      · next hsub hother =>
        -- a fresh create of a kind that is not OLM's reconciles
        exfalso
        refine hx ⟨rfl, ?_, ?_⟩
        · unfold create
          dsimp only
          rw [if_neg hfresh]
          rfl
        · simp only [Bool.or_eq_true, beq_iff_eq, not_or] at hsub hother
          simp [ClusterCall.olmKinds, hsub, hother]

theorem replace_of_reconciles {r : ApiResource} {ns : String} {o : DynamicObject}
    (hx : (ClusterCall.write (.replace r ns o)).Reconciles c now key) :
    ∃ s : SimState, s.pods = c.state.pods ∧
      (c.replace r ns o now).2.state = reconcileWorkload c.settings s key now := by
  obtain ⟨rfl, hok, hcsv, hgroup⟩ := hx
  unfold replace at hok ⊢
  dsimp only at hok ⊢
  split at hok
  · cases hok
  · split at hok
    · cases hok
    · next hversion =>
      rw [if_neg hversion]
      simp only [hcsv, hgroup, beq_iff_eq, Bool.not_false, if_false, if_true]
      refine ⟨_, ?_, rfl⟩
      rfl

theorem pods_replace_of_not_reconciles {r : ApiResource} {ns : String} {o : DynamicObject}
    (hx : ¬(ClusterCall.write (.replace r ns o)).Reconciles c now ⟨r.kind, ns, o.name⟩) :
    (c.replace r ns o now).2.state.pods = c.state.pods := by
  unfold replace
  dsimp only
  split
  · rfl
  · next stored hstored =>
    split
    · rfl
    · next hversion =>
      split
      · exact pods_renderOperator _ _ _
      · next hcsv =>
        split
        · next hgroup =>
          -- an accepted replace outside OLM's group reconciles
          exfalso
          refine hx ⟨rfl, ?_, by simpa using hcsv, by simpa using hgroup⟩
          unfold replace
          dsimp only
          rw [hstored]
          dsimp only
          rw [if_neg hversion]
          rfl
        · rfl

theorem call_of_reconciles (hx : x.Reconciles c now key) :
    ∃ s : SimState, s.pods = c.state.pods ∧
      (c.call now x).state = reconcileWorkload c.settings s key now := by
  match x, hx with
  | .write (.create _ _ _), hx => exact create_of_reconciles hx
  | .write (.replace _ _ _), hx => exact replace_of_reconciles hx

/-- What one call can do to the pods: a write that reconciles nothing leaves them alone; an
accepted reconciling create or replace reconciles the object it stored; a delete stops the pods
of the name it deletes; a pod query counts the terminating pods down. -/
theorem call_pods_cases (c : SimCluster) (now : Timestamp) (x : ClusterCall) :
    (x.queriesPods = false ∧ (c.call now x).state.pods = c.state.pods) ∨
    (∃ key s, x.Reconciles c now key ∧ s.pods = c.state.pods ∧
      (c.call now x).state = reconcileWorkload c.settings s key now) ∨
    (∃ r ns name, x = .write (.delete r ns name) ∧ c.call now x = (c.delete r ns name now).2) ∨
    (∃ ns selector, x = .listPods ns selector ∧ c.call now x = (c.listPods ns selector).2) := by
  cases x with
  | write w =>
    cases w with
    | create r ns o =>
      -- a create or replace either reconciles the key it names or leaves the pods alone
      by_cases hx : (ClusterCall.write (.create r ns o)).Reconciles c now ⟨r.kind, ns, o.name⟩
      · obtain ⟨s, hs, heq⟩ := create_of_reconciles hx
        exact .inr (.inl ⟨_, s, hx, hs, heq⟩)
      · exact .inl ⟨rfl, pods_create_of_not_reconciles hx⟩
    | replace r ns o =>
      by_cases hx : (ClusterCall.write (.replace r ns o)).Reconciles c now ⟨r.kind, ns, o.name⟩
      · obtain ⟨s, hs, heq⟩ := replace_of_reconciles hx
        exact .inr (.inl ⟨_, s, hx, hs, heq⟩)
      · exact .inl ⟨rfl, pods_replace_of_not_reconciles hx⟩
    | patchMerge r ns name patch => exact .inl ⟨rfl, pods_patchMerge c r ns name patch now⟩
    | delete r ns name => exact .inr (.inr (.inl ⟨r, ns, name, rfl, rfl⟩))
  | listPods ns selector => exact .inr (.inr (.inr ⟨ns, selector, rfl, rfl⟩))

end SimCluster

/-! ### Invariants of one call, and of a run -/

namespace SimState

open SimCluster

variable {c : SimCluster} {now : Timestamp} {x : ClusterCall} {key : ObjectKey} {r : Nat}

theorem PodsWellFormed.call (hwf : c.state.PodsWellFormed) (now : Timestamp) (x : ClusterCall) :
    (c.call now x).state.PodsWellFormed := by
  rcases call_pods_cases c now x with
    ⟨-, hsame⟩ | ⟨key, s, -, hs, heq⟩ | ⟨r, ns, name, -, heq⟩ | ⟨ns, selector, -, heq⟩
  · exact hwf.congr hsame
  · rw [heq]
    exact (hwf.congr hs).reconcileWorkload _ _ _
  · rw [heq]
    exact hwf.delete r ns name now
  · rw [heq]
    exact hwf.listPods ns selector

theorem PodsWellFormed.visits : ∀ {xs : List (Timestamp × ClusterCall)} {c : SimCluster},
    c.state.PodsWellFormed → ∀ d ∈ c.visits xs, d.state.PodsWellFormed
  | [], _, hwf, _, hd => by
    rw [List.mem_singleton.mp hd]
    exact hwf
  | (now, x) :: _, _, hwf, d, hd => by
    rcases List.mem_cons.mp hd with rfl | hd
    · exact hwf
    · exact (hwf.call now x).visits d hd

theorem podsMatch_of_reconciles (hwf : c.state.PodsWellFormed) (hx : x.Reconciles c now key)
    (hfail : c.settings.failingKinds.contains key.kind = false)
    (hr : (c.call now x).state.replicasAt key = some r) : (c.call now x).state.PodsMatch key r := by
  obtain ⟨s, hs, heq⟩ := call_of_reconciles hx
  rw [heq, replicasAt_reconcileWorkload] at hr
  intro p
  rw [heq, runs_reconcileWorkload (hwf.congr hs) hr hfail, if_pos ⟨rfl, rfl⟩]

/-- One call keeps a workload's running pods matching its count when it leaves its object alone,
keeps names unique and deletes nothing of its name. -/
theorem podsMatch_call (hwf : c.state.PodsWellFormed) (hmatch : c.state.PodsMatch key r)
    (hr : c.state.replicasAt key = some r)
    (hkeep : (c.call now x).state.objects.get? key = c.state.objects.get? key)
    (hunique : (c.call now x).state.NamesUnique)
    (hdel : ¬x.DeletesName key.namespaceName key.name) :
    (c.call now x).state.PodsMatch key r := by
  rcases call_pods_cases c now x with
    ⟨-, hsame⟩ | ⟨key', s, -, hs, heq⟩ | ⟨r', ns, name, rfl, heq⟩ | ⟨ns, selector, -, heq⟩
  · exact (podsMatch_congr hsame).mpr hmatch
  · rcases reconcileWorkload_cases c.settings s key' now with hsame | ⟨r', hr', hfail'⟩
    · rw [heq]
      exact (podsMatch_congr (hsame.trans hs)).mpr hmatch
    · intro p
      rw [heq, runs_reconcileWorkload (hwf.congr hs) hr' hfail']
      split
      · next hname =>
        -- an object of the workload's name is the workload, with the count it had
        have hstored' : ((c.call now x).state.objects.get? key').isSome := by
          rw [heq]
          exact isSome_of_replicasAt ((replicasAt_reconcileWorkload _ _ _ _).trans hr')
        have hstored : ((c.call now x).state.objects.get? key).isSome := by
          rw [hkeep]
          exact isSome_of_replicasAt hr
        obtain rfl := hunique.eq hstored hstored' hname.1 hname.2
        have hcount : some r' = some r := calc
          some r' = s.replicasAt key := hr'.symm
          _ = (reconcileWorkload c.settings s key now).replicasAt key :=
            (replicasAt_reconcileWorkload _ _ _ _).symm
          _ = (c.call now x).state.replicasAt key := by rw [heq]
          _ = c.state.replicasAt key := replicasAt_congr hkeep
          _ = some r := hr
        rw [Option.some.inj hcount]
      · exact (runs_congr hs _ _ _).trans (hmatch p)
  · have hne : ¬(key.namespaceName = ns ∧ key.name = name) :=
      fun h => hdel ⟨h.1.symm, h.2.symm⟩
    intro p
    rw [heq, runs_delete hwf, and_iff_right hne]
    exact hmatch p
  · intro p
    rw [heq, runs_listPods hwf]
    exact hmatch p

theorem podsMatch_runCalls : ∀ (xs : List (Timestamp × ClusterCall)) (c : SimCluster),
    c.state.PodsWellFormed → c.state.PodsMatch key r → c.state.replicasAt key = some r →
    (∀ d ∈ c.visits xs, d.state.objects.get? key = c.state.objects.get? key) →
    (∀ d ∈ c.visits xs, d.state.NamesUnique) →
    (∀ y ∈ xs, ¬y.2.DeletesName key.namespaceName key.name) →
    (c.runCalls xs).state.PodsMatch key r
  | [], _, _, hmatch, _, _, _, _ => hmatch
  | (now, x) :: xs, c, hwf, hmatch, hr, hkeep, hunique, hdel => by
    have hlater : ∀ d ∈ (c.call now x).visits xs, d ∈ c.visits ((now, x) :: xs) :=
      fun _ hd => List.mem_cons_of_mem _ hd
    have hnext := hkeep _ (hlater _ (self_mem_visits _ xs))
    refine podsMatch_runCalls xs (c.call now x) (hwf.call now x)
      (podsMatch_call hwf hmatch hr hnext (hunique _ (hlater _ (self_mem_visits _ xs)))
        (hdel _ List.mem_cons_self))
      ((replicasAt_congr hnext).trans hr) (fun d hd => ?_) (fun d hd => hunique d (hlater d hd))
      (fun y hy => hdel y (List.mem_cons_of_mem _ hy))
    rw [hkeep d (hlater d hd), hnext]

/-! ### Stopped pods -/

/-- A running pod stops only in a call that deletes something of its instance's name, or that
reconciles an object of that name to a count at most the pod's index. -/
theorem stops_by_delete_or_scale_down (hwf : c.state.PodsWellFormed) {ns inst p : String}
    (hrun : c.state.Runs ns inst p) (hstop : ¬(c.call now x).state.Runs ns inst p) :
    x.DeletesName ns inst ∨
      ∃ key r j, x.Reconciles c now key ∧ key.namespaceName = ns ∧ key.name = inst ∧
        (c.call now x).state.replicasAt key = some r ∧ p = podName inst j ∧ r ≤ j := by
  rcases call_pods_cases c now x with
    ⟨-, hsame⟩ | ⟨key, s, hx, hs, heq⟩ | ⟨r, ns', name, rfl, heq⟩ | ⟨ns', selector, -, heq⟩
  · exact absurd ((runs_congr hsame _ _ _).mpr hrun) hstop
  · rw [heq] at hstop ⊢
    rcases reconcileWorkload_cases c.settings s key now with hsame | ⟨r, hr, hfail⟩
    · exact absurd ((runs_congr (hsame.trans hs) _ _ _).mpr hrun) hstop
    · rw [runs_reconcileWorkload (hwf.congr hs) hr hfail] at hstop
      split at hstop
      · next hname =>
        obtain ⟨rfl, rfl⟩ := hname
        -- the pod is `<inst>-j` for its index `j`, which the new count no longer covers
        obtain ⟨hp, hj⟩ := hwf.runs_name hrun
        refine .inr ⟨key, r, podIndex p, hx, rfl, rfl, ?_, hp, ?_⟩
        · rw [replicasAt_reconcileWorkload]
          exact hr
        · by_contra hlt
          exact hstop ⟨podIndex p, by omega, hp⟩
      · exact absurd ((runs_congr hs _ _ _).mpr hrun) hstop
  · left
    rw [heq, runs_delete hwf] at hstop
    by_contra hno
    exact hstop ⟨fun h => hno ⟨h.1.symm, h.2.symm⟩, hrun⟩
  · rw [heq, runs_listPods hwf] at hstop
    exact absurd hrun hstop

/-- What one call does at a place: the pod there stays as it was, counted down if the call is a
pod query; or a pod that ran there is stopped; or a pod runs there after the call. -/
theorem get?_call_cases (hwf : c.state.PodsWellFormed) (q : Place) :
    (c.call now x).state.pods.get? q =
        (if x.queriesPods then (c.state.pods.get? q).bind SimPod.countDown
          else c.state.pods.get? q) ∨
      (∃ pod, c.state.pods.get? q = some pod ∧ pod.terminatingFor = none ∧
        (c.call now x).state.pods.get? q = pod.stop c.settings.podTerminationPolls now) ∨
      ¬(c.call now x).state.Stopped q := by
  rcases call_pods_cases c now x with
    ⟨hq, hsame⟩ | ⟨key, s, hx, hs, heq⟩ | ⟨r, ns, name, rfl, heq⟩ | ⟨ns, selector, rfl, heq⟩
  · left
    rw [hq, hsame, if_neg Bool.false_ne_true]
  · rw [heq, ClusterCall.queriesPods_of_reconciles hx, if_neg Bool.false_ne_true]
    rcases reconcileWorkload_cases c.settings s key now with hsame | ⟨r, hr, hfail⟩
    · left
      rw [hsame, hs]
    · have hget' := get?_reconcileWorkload c.settings s key now hr hfail q
      by_cases hstop : q.namespaceName = key.namespaceName ∧
          q.name ∈ s.podsOf key.namespaceName key.name ∧ r ≤ podIndex q.name
      · -- the reconciler stops only pods that run
        obtain ⟨pod, hget, hrun, -⟩ := (mem_podsOf_iff_runs (hwf.congr hs).sorted).mp hstop.2.1
        rw [← hstop.1, hs] at hget
        refine .inr (.inl ⟨pod, hget, hrun, ?_⟩)
        rw [hget', if_pos hstop, hs, hget, Option.bind_some]
      · by_cases hstart : q.namespaceName = key.namespaceName ∧
            q.name ∈ (List.range r).map (podName key.name) ∧
            q.name ∉ s.podsOf key.namespaceName key.name
        · exact .inr (.inr fun hidle =>
            hidle _ (by rw [hget', if_neg hstop, if_pos hstart]) rfl)
        · left
          rw [hget', if_neg hstop, if_neg hstart, hs]
  · have hget' := get?_delete_pods c r ns name now q
    by_cases hstop : q.namespaceName = ns ∧ q.name ∈ c.state.podsOf ns name
    · -- a delete stops only pods that run
      obtain ⟨pod, hget, hrun, -⟩ := (mem_podsOf_iff_runs hwf.sorted).mp hstop.2
      rw [← hstop.1] at hget
      refine .inr (.inl ⟨pod, hget, hrun, ?_⟩)
      rw [heq, hget', if_pos hstop, hget, Option.bind_some]
    · left
      rw [heq, hget', if_neg hstop]
      rfl
  · left
    rw [heq, get?_listPods hwf.sorted]
    rfl

theorem get?_call_of_stopped (hwf : c.state.PodsWellFormed) {q : Place} {pod : SimPod}
    (hget : c.state.pods.get? q = some pod) (hrun : pod.terminatingFor = none)
    (hidle : (c.call now x).state.Stopped q) :
    (c.call now x).state.pods.get? q = pod.stop c.settings.podTerminationPolls now := by
  rcases get?_call_cases hwf q with hsame | ⟨pod', hget', -, hstop⟩ | hruns
  · -- a pod that stays, or is only counted down, still runs
    refine absurd hrun (hidle pod ?_)
    rw [hsame, hget]
    split
    · rw [Option.bind_some, SimPod.countDown_of_running hrun]
    · rfl
  · rw [hget] at hget'
    cases hget'
    exact hstop
  · exact absurd hidle hruns

theorem get?_call_of_idle (hwf : c.state.PodsWellFormed) {q : Place} (hidle : c.state.Stopped q)
    (hidle' : (c.call now x).state.Stopped q) :
    (c.call now x).state.pods.get? q =
      if x.queriesPods then (c.state.pods.get? q).bind SimPod.countDown else c.state.pods.get? q := by
  rcases get?_call_cases hwf q with hsame | ⟨pod, hget, hrun, -⟩ | hruns
  · exact hsame
  · exact absurd hrun (hidle pod hget)
  · exact absurd hidle' hruns

theorem get?_runCalls_of_idle {q : Place} : ∀ (xs : List (Timestamp × ClusterCall)) (c : SimCluster),
    c.state.PodsWellFormed → (∀ d ∈ c.visits xs, d.state.Stopped q) →
    (c.runCalls xs).state.pods.get? q =
      (fun o : Option SimPod => o.bind SimPod.countDown)^[queries xs] (c.state.pods.get? q)
  | [], _, _, _ => rfl
  | (now, x) :: xs, c, hwf, hidle => by
    have hlater : ∀ d ∈ (c.call now x).visits xs, d ∈ c.visits ((now, x) :: xs) :=
      fun _ hd => List.mem_cons_of_mem _ hd
    rw [runCalls, get?_runCalls_of_idle xs (c.call now x) (hwf.call now x)
      (fun d hd => hidle d (hlater d hd)), get?_call_of_idle hwf (hidle c List.mem_cons_self)
      (hidle _ (hlater _ (self_mem_visits _ xs))), queries_cons]
    cases x.queriesPods with
    | true => rw [if_pos rfl, if_pos rfl, Function.iterate_succ_apply]
    | false => rw [if_neg Bool.false_ne_true, if_neg Bool.false_ne_true, Nat.add_zero]

end SimState

namespace SimPod

theorem iterate_countDown : ∀ (n : Nat) (pod : SimPod) {k : Nat},
    pod.terminatingFor = some k → 0 < k →
    (fun o : Option SimPod => o.bind countDown)^[n] (some pod) =
      if k ≤ n then none else some { pod with terminatingFor := some (k - n) }
  | 0, pod, k, hk, hpos => by
    rw [if_neg (by omega), Function.iterate_zero_apply, Nat.sub_zero, ← hk]
  | n + 1, pod, k, hk, hpos => by
    have hcount : pod.countDown =
        if k - 1 = 0 then none else some { pod with terminatingFor := some (k - 1) } := by
      unfold countDown
      rw [hk]
    rw [Function.iterate_succ_apply, Option.bind_some, hcount]
    split
    · next hone =>
      rw [Function.iterate_fixed rfl, if_pos (by omega)]
    · next hmore =>
      rw [iterate_countDown n { pod with terminatingFor := some (k - 1) } rfl (by omega)]
      by_cases hle : k ≤ n + 1
      · rw [if_pos (by omega), if_pos hle]
      · have hleft : k - 1 - n = k - (n + 1) := by omega
        rw [if_neg (by omega), if_neg hle, hleft]

end SimPod

namespace SimState

open SimCluster

variable {c : SimCluster} {now : Timestamp} {x : ClusterCall}

/-- A stopped pod that no reconcile starts again is gone exactly once the run has made
`podTerminationPolls` pod queries. -/
theorem stopped_pod_gone_iff (hwf : c.state.PodsWellFormed) {q : Place}
    (hrunning : ¬c.state.Stopped q) {post : List (Timestamp × ClusterCall)}
    (hidle : ∀ d ∈ (c.call now x).visits post, d.state.Stopped q) :
    ((c.call now x).runCalls post).state.pods.get? q = none ↔
      c.settings.podTerminationPolls ≤ queries post := by
  obtain ⟨pod, hget, hrun⟩ : ∃ pod, c.state.pods.get? q = some pod ∧ pod.terminatingFor = none := by
    unfold Stopped at hrunning
    push Not at hrunning
    exact hrunning
  have hstop := get?_call_of_stopped hwf hget hrun (hidle _ (self_mem_visits _ post))
  rw [get?_runCalls_of_idle post _ (hwf.call now x) hidle, hstop]
  unfold SimPod.stop
  split
  · next hzero =>
    rw [Function.iterate_fixed rfl, hzero]
    exact iff_of_true rfl (Nat.zero_le _)
  · next hpolls =>
    rw [SimPod.iterate_countDown _ _ rfl (Nat.pos_of_ne_zero hpolls)]
    split
    · next hle => exact iff_of_true rfl hle
    · next hlt => exact iff_of_false (Option.some_ne_none _) hlt

/-- After a reconciling write of a workload, through calls that leave it alone, keep names
unique and delete nothing of its name, its running pods are `<name>-0` … `<name>-(r-1)`. -/
theorem pods_follow_replicas (hwf : c.state.PodsWellFormed) {key : ObjectKey} {r : Nat}
    (hx : x.Reconciles c now key) (hfail : c.settings.failingKinds.contains key.kind = false)
    {post : List (Timestamp × ClusterCall)}
    (hkeep : ∀ d ∈ (c.call now x).visits post,
      d.state.objects.get? key = (c.call now x).state.objects.get? key)
    (hunique : ∀ d ∈ (c.call now x).visits post, d.state.NamesUnique)
    (hdel : ∀ y ∈ post, ¬y.2.DeletesName key.namespaceName key.name)
    (hr : ((c.call now x).runCalls post).state.replicasAt key = some r) (p : String) :
    (p ∈ ((c.call now x).runCalls post).state.podsOf key.namespaceName key.name ↔
        ∃ i < r, p = podName key.name i) ∧
      (p ∈ ((c.call now x).runCalls post).state.podsOf key.namespaceName key.name →
        ∃ pod, ((c.call now x).runCalls post).state.pods.get? ⟨key.namespaceName, p⟩ = some pod ∧
          pod.pod.phase = some podPhaseRunning) := by
  -- the object, and so its count, is the one the reconcile saw
  have hr₀ : (c.call now x).state.replicasAt key = some r :=
    (replicasAt_congr (hkeep _ (runCalls_mem_visits _ _))).symm.trans hr
  have hwf' := (hwf.call now x).visits _ (runCalls_mem_visits post (c.call now x))
  have hmatch := podsMatch_runCalls post (c.call now x) (hwf.call now x)
    (podsMatch_of_reconciles hwf hx hfail hr₀) hr₀ hkeep hunique hdel
  rw [mem_podsOf_iff_runs hwf'.sorted]
  refine ⟨hmatch p, fun hruns => ?_⟩
  obtain ⟨pod, hget, hrun, -⟩ := hruns
  exact ⟨pod, hget, hwf'.running _ pod hget hrun⟩

end SimState

namespace SimCluster

open SimState

theorem runCalls_append : ∀ (xs ys : List (Timestamp × ClusterCall)) (c : SimCluster),
    c.runCalls (xs ++ ys) = (c.runCalls xs).runCalls ys
  | [], _, _ => rfl
  | (now, x) :: xs, ys, c => runCalls_append xs ys (c.call now x)

@[simp] theorem settings_runCalls : ∀ (xs : List (Timestamp × ClusterCall)) (c : SimCluster),
    (c.runCalls xs).settings = c.settings
  | [], _ => rfl
  | (now, x) :: xs, c => (settings_runCalls xs (c.call now x)).trans (settings_call c now x)

end SimCluster

theorem ClusterSpec.podsWellFormed_build (spec : ClusterSpec) : spec.build.state.PodsWellFormed := by
  refine SimState.podsWellFormed_empty.congr ?_
  unfold ClusterSpec.build
  dsimp only
  rw [SimState.pods_foldl SimState.pushEvent (fun _ _ => rfl),
    SimState.pods_foldl (fun s (o : DynamicObject) => s.store o.key o) (fun _ _ => rfl)]

namespace SimCluster

open SimState

/-- Over every run from a built cluster: a reconciled workload's running pods follow its replica
count, a running pod stops only by a delete of its name or a scale-down to at most its index, and
a stopped pod is gone after `podTerminationPolls` pod queries. -/
theorem workload_pods_follow_replicas (spec : ClusterSpec) (pre : List (Timestamp × ClusterCall))
    (now : Timestamp) (x : ClusterCall) (post : List (Timestamp × ClusterCall)) :
    let before := spec.build.runCalls pre
    let after := before.call now x
    let last := spec.build.runCalls (pre ++ (now, x) :: post)
    (∀ (key : ObjectKey) (r : Nat), x.Reconciles before now key →
      spec.settings.failingKinds.contains key.kind = false →
      (∀ d ∈ after.visits post, d.state.objects.get? key = after.state.objects.get? key) →
      (∀ d ∈ after.visits post, d.state.NamesUnique) →
      (∀ y ∈ post, ¬y.2.DeletesName key.namespaceName key.name) →
      last.state.replicasAt key = some r →
      ∀ p, (p ∈ last.state.podsOf key.namespaceName key.name ↔ ∃ i < r, p = podName key.name i) ∧
        (p ∈ last.state.podsOf key.namespaceName key.name →
          ∃ pod, last.state.pods.get? ⟨key.namespaceName, p⟩ = some pod ∧
            pod.pod.phase = some podPhaseRunning)) ∧
    (∀ ns inst p, before.state.Runs ns inst p → ¬after.state.Runs ns inst p →
      x.DeletesName ns inst ∨
        ∃ key r j, x.Reconciles before now key ∧ key.namespaceName = ns ∧ key.name = inst ∧
          after.state.replicasAt key = some r ∧ p = podName inst j ∧ r ≤ j) ∧
    (∀ q, ¬before.state.Stopped q → (∀ d ∈ after.visits post, d.state.Stopped q) →
      (last.state.pods.get? q = none ↔ spec.settings.podTerminationPolls ≤ queries post)) := by
  intro before after last
  have hwf : before.state.PodsWellFormed :=
    (ClusterSpec.podsWellFormed_build spec).visits _ (runCalls_mem_visits pre spec.build)
  have hlast : last = after.runCalls post := runCalls_append pre ((now, x) :: post) spec.build
  have hsettings : before.settings = spec.settings := settings_runCalls pre spec.build
  refine ⟨fun key r hx hfail hkeep hunique hdel hr p => ?_, fun ns inst p hrun hstop => ?_,
    fun q hrunning hidle => ?_⟩
  · rw [hlast] at hr ⊢
    exact pods_follow_replicas hwf hx (hsettings ▸ hfail) hkeep hunique hdel hr p
  · exact stops_by_delete_or_scale_down hwf hrun hstop
  · rw [hlast, ← hsettings]
    exact stopped_pod_gone_iff hwf hrunning hidle

/-- A cache of two replicas whose pod a later delete of a queue of the same name stops, gone
after one pod query. -/
theorem workload_pods_follow_replicas_cache :
    let cache : DynamicObject :=
      { types := some ⟨"example.com/v1", "Cache"⟩,
        metadata := { name := some "my-cache", namespaceName := some "cache-test" },
        data := Json.object [("spec", Json.object [("replicas", Json.nat 2)])] }
    let spec : ClusterSpec := { settings := { podTerminationPolls := 1 } }
    let key : ObjectKey := ⟨"Cache", "cache-test", "my-cache"⟩
    let create : ClusterCall :=
      .write (.create ⟨"example.com", "v1", "Cache", "caches"⟩ "cache-test" cache)
    let deleteQueue : ClusterCall :=
      .write (.delete ⟨"example.com", "v1", "Queue", "queues"⟩ "cache-test" "my-cache")
    let query : ClusterCall := .listPods "cache-test" "app.kubernetes.io/instance=my-cache"
    let place : Place := ⟨"cache-test", "my-cache-0"⟩
    let created := spec.build.runCalls [(⟨0, 0⟩, create)]
    (create.Reconciles spec.build ⟨0, 0⟩ key ∧
      spec.settings.failingKinds.contains key.kind = false ∧
      (∀ d ∈ (spec.build.call ⟨0, 0⟩ create).visits [(⟨2, 0⟩, query)], d.state.NamesUnique) ∧
      (spec.build.runCalls ([] ++ (⟨0, 0⟩, create) :: [(⟨2, 0⟩, query)])).state.replicasAt key =
        some 2 ∧
      ∀ p, p ∈ (spec.build.runCalls ([] ++ (⟨0, 0⟩, create) :: [(⟨2, 0⟩, query)])).state.podsOf
          "cache-test" "my-cache" ↔ ∃ i < 2, p = podName "my-cache" i) ∧
    (created.state.Runs "cache-test" "my-cache" "my-cache-0" ∧
      ¬(created.call ⟨1, 0⟩ deleteQueue).state.Runs "cache-test" "my-cache" "my-cache-0" ∧
      (deleteQueue.DeletesName "cache-test" "my-cache" ∨
        ∃ key r j, deleteQueue.Reconciles created ⟨1, 0⟩ key ∧
          key.namespaceName = "cache-test" ∧ key.name = "my-cache" ∧
          (created.call ⟨1, 0⟩ deleteQueue).state.replicasAt key = some r ∧
          "my-cache-0" = podName "my-cache" j ∧ r ≤ j) ∧
      ¬created.state.Stopped place ∧
      (∀ d ∈ (created.call ⟨1, 0⟩ deleteQueue).visits [(⟨2, 0⟩, query)], d.state.Stopped place) ∧
      (spec.build.runCalls ([(⟨0, 0⟩, create)] ++ (⟨1, 0⟩, deleteQueue) :: [(⟨2, 0⟩, query)])).state.pods.get?
        place = none) := by
  intro cache spec key create deleteQueue query place created
  have hcreate := (workload_pods_follow_replicas spec [] ⟨0, 0⟩ create [(⟨2, 0⟩, query)]).1
  have hdelete :=
    (workload_pods_follow_replicas spec [(⟨0, 0⟩, create)] ⟨1, 0⟩ deleteQueue [(⟨2, 0⟩, query)]).2
  have hx : create.Reconciles spec.build ⟨0, 0⟩ key := ⟨rfl, by decide, by decide⟩
  -- a pod query writes no object
  have hkeep : ∀ d ∈ (spec.build.call ⟨0, 0⟩ create).visits [(⟨2, 0⟩, query)],
      d.state.objects.get? key = (spec.build.call ⟨0, 0⟩ create).state.objects.get? key := by
    intro d hd
    rcases List.mem_cons.mp hd with rfl | hd
    · rfl
    · rw [List.mem_singleton.mp hd]
      rfl
  have hunique : ∀ d ∈ (spec.build.call ⟨0, 0⟩ create).visits [(⟨2, 0⟩, query)],
      d.state.NamesUnique := by
    decide
  have hr : (spec.build.runCalls ([] ++ (⟨0, 0⟩, create) :: [(⟨2, 0⟩, query)])).state.replicasAt key =
      some 2 := by
    decide
  have hquery : ∀ y ∈ [((⟨2, 0⟩ : Timestamp), query)], ¬y.2.DeletesName key.namespaceName key.name := by
    intro y hy
    rw [List.mem_singleton.mp hy]
    exact id
  have hrun : created.state.Runs "cache-test" "my-cache" "my-cache-0" := by decide
  have hstop : ¬(created.call ⟨1, 0⟩ deleteQueue).state.Runs "cache-test" "my-cache" "my-cache-0" := by
    decide
  have hrunning : ¬created.state.Stopped place := by decide
  have hidle : ∀ d ∈ (created.call ⟨1, 0⟩ deleteQueue).visits [(⟨2, 0⟩, query)],
      d.state.Stopped place := by
    decide
  refine ⟨⟨hx, rfl, hunique, hr, fun p => (hcreate key 2 hx rfl hkeep hunique hquery hr p).1⟩,
    hrun, hstop, hdelete.1 _ _ _ hrun hstop, hrunning, hidle, ?_⟩
  exact (hdelete.2 place hrunning hidle).mpr (Nat.le_refl 1)

end SimCluster

end OlmProvision
