import OlmProvision.Proofs.TeardownCleanup
import OlmProvision.Proofs.SimulatedPods

/-
What an unsubscribe does on the simulated cluster, call by call, and why a second one does
nothing.

An unsubscribe reads the subscription, deletes it, then deletes every CSV it knows of: the one
the manager recorded, then the subscription's installed and current CSVs, each name once, in
the order of its first occurrence (`List.eraseDups`). On the simulated cluster its whole effect
is that sequence of deletes (`SubscriptionManager.unsubscribe_sim`).

What is proved:

1. Collecting names with "append unless present" is `eraseDups` of everything collected
   (`foldl_collect_eq`), so the manager deletes `csvsToDelete` (`collect_eq_csvsToDelete`).
2. `SubscriptionManager.unsubscribe_sim`: the result, the manager and the cluster an
   unsubscribe leaves, as a fold of the simulated deletes.
3. `SubscriptionManager.unsubscribe_deletes_then_is_idempotent`: an unsubscribe that succeeds
   records exactly the subscription delete and then one delete per CSV to delete, leaves none of
   those CSVs and none of their operator deployments, and leaves no subscription, so that a
   second unsubscribe succeeds, records only the subscription delete, and changes no object and
   no pod.
-/
namespace OlmProvision

section Collect

variable {α : Type} [BEq α] [LawfulBEq α]

/-- `eraseDups` keeps the first occurrence of each element, so filtering before or after it
gives the same list. -/
theorem filter_eraseDups (p : α → Bool) :
    ∀ (n : Nat) (l : List α), l.length ≤ n → l.eraseDups.filter p = (l.filter p).eraseDups
  | _, [], _ => rfl
  | n + 1, a :: as, hl => by
    have hshort : ∀ q : α → Bool, (as.filter q).length ≤ n :=
      fun q => Nat.le_trans (List.length_filter_le q as) (Nat.le_of_succ_le_succ hl)
    rw [List.eraseDups_cons, List.filter_cons, List.filter_cons]
    by_cases hp : p a = true
    · -- `a` stays on both sides; the rest is filtered the same way
      rw [if_pos hp, if_pos hp, List.eraseDups_cons, filter_eraseDups p n _ (hshort _),
        List.filter_filter, List.filter_filter]
      simp only [Bool.and_comm]
    · -- `a` goes, and with it nothing that `p` keeps
      rw [if_neg hp, if_neg hp, filter_eraseDups p n _ (hshort _), List.filter_filter]
      congr 2
      funext x
      by_cases hx : x = a
      · simp [hx, hp]
      · simp [hx]

theorem eraseDups_eraseDups :
    ∀ (n : Nat) (l : List α), l.length ≤ n → l.eraseDups.eraseDups = l.eraseDups
  | _, [], _ => rfl
  | n + 1, a :: as, hl => by
    have hshort : (as.filter fun b => !b == a).length ≤ n :=
      Nat.le_trans (List.length_filter_le _ as) (Nat.le_of_succ_le_succ hl)
    rw [List.eraseDups_cons, List.eraseDups_cons,
      filter_eraseDups _ (as.filter fun b => !b == a).length _ (Nat.le_refl _),
      List.filter_filter]
    simp only [Bool.and_self]
    rw [eraseDups_eraseDups n _ hshort]

theorem foldl_collect_eq : ∀ (l acc : List α),
    l.foldl (fun acc n => if acc.contains n then acc else acc ++ [n]) acc =
      acc ++ (l.removeAll acc).eraseDups
  | [], acc => by simp
  | x :: l, acc => by
    rw [List.foldl_cons]
    split
    · -- `x` was collected already
      rename_i hx
      have hrm : (x :: l).removeAll acc = l.removeAll acc := by
        simp only [List.removeAll, List.filter_cons, show List.elem x acc = true from hx,
          Bool.not_true, Bool.false_eq_true, if_false]
      rw [foldl_collect_eq l acc, hrm]
    · rename_i hx
      have hrm : (x :: l).removeAll acc = x :: l.removeAll acc := by
        simp only [List.removeAll, List.filter_cons,
          show List.elem x acc = false from by simpa using hx, Bool.not_false, if_true]
      -- what is left to collect after `x` is what was left, less `x`
      have hrest : l.removeAll (acc ++ [x]) = (l.removeAll acc).filter fun b => !b == x := by
        simp only [List.removeAll, List.filter_filter]
        congr 1
        funext y
        by_cases hy : y = x <;> simp [hy]
      rw [foldl_collect_eq l (acc ++ [x]), hrm, List.eraseDups_cons, ← hrest, List.append_assoc]
      rfl

end Collect

theorem Subscription.csvNames_eq (s : Subscription) :
    s.csvNames = (s.installedCsv.toList ++ s.currentCsv.toList).eraseDups := by
  rw [csvNames, foldl_collect_eq]
  simp

namespace SubscriptionManager

/-- The CSVs an unsubscribe deletes: the one recorded by the manager, then the installed and
the current CSV of the subscription `found`, each once, at its first occurrence. -/
def csvsToDelete (m : SubscriptionManager) (found : Option Subscription) : List String :=
  (m.currentCsv.toList ++ (found.bind Subscription.installedCsv).toList ++
    (found.bind Subscription.currentCsv).toList).eraseDups

theorem csvsToDelete_none {m : SubscriptionManager} (h : m.currentCsv = none) :
    csvsToDelete m none = [] := by
  simp [csvsToDelete, h]

theorem mem_csvsToDelete {m : SubscriptionManager} {found : Option Subscription} {n : String} :
    n ∈ csvsToDelete m found ↔ n ∈ m.currentCsv.toList ++ (found.map Subscription.csvNames).getD [] := by
  cases found <;> simp [csvsToDelete, Subscription.csvNames_eq, List.mem_eraseDups]

theorem collect_eq_csvsToDelete (m : SubscriptionManager) (found : Option Subscription) :
    ((found.map Subscription.csvNames).getD []).foldl
        (fun acc n => if acc.contains n then acc else acc ++ [n]) m.currentCsv.toList =
      csvsToDelete m found := by
  rw [foldl_collect_eq, csvsToDelete]
  -- the recorded CSV is at most one name, so it has no duplicate of its own
  have hcur : m.currentCsv.toList.eraseDups = m.currentCsv.toList := by
    cases m.currentCsv <;> rfl
  cases found with
  | none => simp [hcur]
  | some s =>
    show m.currentCsv.toList ++ (s.csvNames.removeAll m.currentCsv.toList).eraseDups =
      (m.currentCsv.toList ++ s.installedCsv.toList ++ s.currentCsv.toList).eraseDups
    rw [List.append_assoc, List.eraseDups_append, hcur, Subscription.csvNames_eq, List.removeAll,
      List.removeAll, filter_eraseDups _ _ _ (Nat.le_refl _),
      eraseDups_eraseDups _ _ (Nat.le_refl _)]

theorem fetchSubscription_sim_missing (ns name : String) (w : World SimCluster)
    (h : w.cluster.get OlmKind.subscription.resource ns name = none) :
    Run.wp (fetchSubscription SimCluster.platform ns name) (fun x _ => x = .ok none) w := by
  unfold fetchSubscription Platform.getTyped
  simp only [Run.wp_call, Step.wp_bind, SimCluster.wp_get]
  rw [show TypedKind.subscription.kind = OlmKind.subscription from rfl, h]
  rfl

/-- The simulated CSV deletes of `names`, one after the other, at time `now`. -/
def deleteCsvs (ns : String) (now : Timestamp) (names : List String) (c : SimCluster) :
    SimCluster :=
  names.foldl (fun c n => (c.delete OlmKind.clusterServiceVersion.resource ns n now).2) c

/-- An unsubscribe on the simulated cluster: it fails only when the stored subscription does
not decode; otherwise the manager is absent with no CSV, and the cluster is what the
subscription delete and then the deletes of `csvsToDelete` leave. -/
theorem unsubscribe_sim (m : SubscriptionManager) (w : World SimCluster) :
    Tracked.wp (unsubscribe SimCluster.platform) (fun x m' w' =>
      (w.cluster.get OlmKind.subscription.resource m.namespaceName m.name = none → x = .ok ()) ∧
      ∀ u, x = .ok u → m' = { m with currentCsv := none, state := .absent } ∧
        w'.cluster = deleteCsvs m.namespaceName w.now
          (csvsToDelete m (w.cluster.subscription? m.namespaceName m.name))
          (w.cluster.delete OlmKind.subscription.resource m.namespaceName m.name w.now).2) m w := by
  have hmissing : Run.wp (fetchSubscription SimCluster.platform m.namespaceName m.name)
      (fun x _ => w.cluster.get OlmKind.subscription.resource m.namespaceName m.name = none →
        x = .ok none) w := by
    by_cases hget : w.cluster.get OlmKind.subscription.resource m.namespaceName m.name = none
    · exact Run.wp_mono (fetchSubscription_sim_missing _ _ w hget) fun _ _ h _ => h
    · exact Step.wp_of_forall fun _ _ h => absurd h hget
  unfold unsubscribe
  simp only [Tracked.wp_bind, Tracked.wp_current, Tracked.wp_lift]
  refine Run.wp_mono (Step.wp_and (fetchSubscription_sim _ _ w) hmissing) ?_
  rintro (e | found) w₀ ⟨⟨rfl, hfound⟩, hnone⟩
  · -- only a stored subscription can fail to decode
    dsimp only
    refine ⟨fun h => ?_, fun _ h => ?_⟩
    · cases hnone h
    · cases h
  · obtain rfl := hfound found rfl
    dsimp only
    simp only [Tracked.wp_put, Run.wp_call, Platform.deleteTyped, SimCluster.wp_delete]
    rw [Tracked.wp_ite]
    split
    all_goals
      simp only [Tracked.wp_bind, Tracked.wp_log]
      -- after the CSVs `done`, the cluster is what their deletes leave
      refine Tracked.wp_forIn (fun done _ m₃ w₃ =>
          m₃ = { m with state := .unsubscribing } ∧ w₃.now = w₀.now ∧
          w₃.cluster = deleteCsvs m.namespaceName w₀.now done
            (w₀.cluster.delete OlmKind.subscription.resource m.namespaceName m.name w₀.now).2)
        ⟨rfl, rfl, rfl⟩ ?_ ?_
      · rintro done x _ _ m₃ w₃ _ ⟨hm, hnow, hcl⟩
        have hnext : (w₃.cluster.delete TypedKind.clusterServiceVersion.kind.resource
              m.namespaceName x w₃.now).2 =
            deleteCsvs m.namespaceName w₀.now (done ++ [x])
              (w₀.cluster.delete OlmKind.subscription.resource m.namespaceName m.name w₀.now).2 := by
          rw [hcl, hnow]
          simp only [deleteCsvs, List.foldl_append, List.foldl_cons, List.foldl_nil]
          rfl
        simp only [Tracked.wp_bind, Tracked.wp_lift, Run.wp_call, SimCluster.wp_delete]
        split
        · simp only [Tracked.wp_bind, Tracked.wp_log, Tracked.wp_pure]
          exact ⟨hm, hnow, hnext⟩
        · simp only [Tracked.wp_pure]
          exact ⟨hm, hnow, hnext⟩
      · rintro _ m₃ w₃ ⟨rfl, -, hcl⟩
        simp only [Tracked.wp_update]
        -- past the fetch nothing fails: the deletes of the simulated cluster always answer
        refine ⟨fun _ => trivial, fun _ _ => ⟨trivial, ?_⟩⟩
        rw [hcl]
        congr 1
        split
        next s hs => rw [hs]; exact collect_eq_csvsToDelete m (some s)
        next hs => rw [hs]; exact collect_eq_csvsToDelete m none

theorem deleteCall_subscription (n : String) :
    "delete " ++ OlmKind.subscription.resource.kind ++ " " ++ n = "delete Subscription " ++ n := rfl

theorem deleteCall_csv (n : String) :
    "delete " ++ OlmKind.clusterServiceVersion.resource.kind ++ " " ++ n =
      "delete ClusterServiceVersion " ++ n := rfl

theorem calls_deleteCsvs (ns : String) (now : Timestamp) :
    ∀ (names : List String) (c : SimCluster), (deleteCsvs ns now names c).state.calls =
      c.state.calls ++ names.map ("delete ClusterServiceVersion " ++ ·)
  | [], c => by simp [deleteCsvs]
  | n :: names, c => by
    rw [deleteCsvs, List.foldl_cons, ← deleteCsvs, calls_deleteCsvs ns now names,
      SimCluster.calls_delete, deleteCall_csv, List.map_cons, List.append_assoc]
    rfl

theorem podsOf_deleteCsvs_of_eq_nil {ns inst : String} (ns' : String) (now : Timestamp) :
    ∀ (names : List String) {c : SimCluster}, c.state.podsOf ns inst = [] →
      (deleteCsvs ns' now names c).state.podsOf ns inst = []
  | [], _, h => h
  | n :: names, c, h => by
    rw [deleteCsvs, List.foldl_cons, ← deleteCsvs]
    exact podsOf_deleteCsvs_of_eq_nil ns' now names (SimCluster.podsOf_delete_of_eq_nil h ns')

/-- A successful unsubscribe deletes the subscription and then `csvsToDelete` with their
operators, and a second one only deletes the subscription again, changing nothing. -/
theorem unsubscribe_deletes_then_is_idempotent (m : SubscriptionManager) (w : World SimCluster)
    (hs : w.cluster.state.objects.Sorted) :
    let ns := m.namespaceName
    let csvs := csvsToDelete m (w.cluster.subscription? ns m.name)
    Tracked.wp (unsubscribe SimCluster.platform) (fun x m' w' => ∀ u, x = .ok u →
      w'.cluster.state.calls = w.cluster.state.calls ++
          ("delete Subscription " ++ m.name) :: csvs.map ("delete ClusterServiceVersion " ++ ·) ∧
      (∀ n ∈ csvs, w'.cluster.get OlmKind.clusterServiceVersion.resource ns n = none ∧
        SimCluster.NoneSuch w'.cluster (fun k o => SimCluster.ownedBy ns n k o = true)) ∧
      (w'.cluster.delete OlmKind.subscription.resource ns m.name w'.now).1 = false ∧
      Tracked.wp (unsubscribe SimCluster.platform) (fun x' _ w'' => x' = .ok () ∧
        w''.cluster.state.calls = w'.cluster.state.calls ++ ["delete Subscription " ++ m.name] ∧
        w''.cluster.state.objects = w'.cluster.state.objects ∧
        w''.cluster.state.pods = w'.cluster.state.pods) m' w') m w := by
  intro ns csvs
  refine Tracked.wp_mono (Tracked.wp_and (unsubscribe_sim m w) (unsubscribe_deletes_csvs m w hs)) ?_
  rintro x m' w' ⟨⟨-, hrun⟩, hdel⟩ u rfl
  obtain ⟨rfl, hcl⟩ := hrun () rfl
  obtain ⟨hdeletes, howned⟩ := hdel () rfl
  have hgone : w'.cluster.get OlmKind.subscription.resource ns m.name = none :=
    hdeletes.gone _ List.mem_cons_self
  -- the subscription delete stopped every pod of its name, and the CSV deletes start none
  have hpods : w'.cluster.state.podsOf ns m.name = [] := by
    rw [hcl]
    exact podsOf_deleteCsvs_of_eq_nil ns w.now csvs (SimCluster.podsOf_delete_self _ _ _ _ _)
  refine ⟨?_, ?_, ?_, ?_⟩
  · rw [hcl, calls_deleteCsvs, SimCluster.calls_delete, deleteCall_subscription,
      List.append_assoc]
    rfl
  · intro n hn
    have hn' := mem_csvsToDelete.mp hn
    exact ⟨hdeletes.gone _ (List.mem_cons_of_mem _ (List.mem_map.mpr ⟨n, hn', rfl⟩)),
      howned n hn'⟩
  · rw [SimCluster.delete_answer, hgone]
    rfl
  · refine Tracked.wp_mono (unsubscribe_sim _ w') ?_
    rintro x' m'' w'' ⟨hok, hrun'⟩
    obtain rfl := hok hgone
    obtain ⟨-, hcl'⟩ := hrun' () rfl
    -- with no subscription and no recorded CSV, only the subscription delete is left
    have hnone : w'.cluster.subscription? ns m.name = none := by
      simp [SimCluster.subscription?, hgone]
    rw [hnone] at hcl'
    refine ⟨rfl, ?_, ?_, ?_⟩
    · rw [hcl', calls_deleteCsvs, SimCluster.calls_delete, deleteCall_subscription,
        csvsToDelete_none rfl, List.map_nil, List.append_nil]
    · rw [hcl', csvsToDelete_none rfl]
      exact SimCluster.objects_delete_of_missing hgone (by decide)
    · rw [hcl', csvsToDelete_none rfl]
      exact SimCluster.pods_delete_of_podsOf_nil hpods

/-- A manager that recorded a CSV unsubscribes from a cluster that holds nothing. -/
theorem unsubscribe_deletes_then_is_idempotent_recorded_csv :
    let m : SubscriptionManager :=
      { namespaceName := "demo", name := "broker", state := .subscribed,
        currentCsv := some "broker.v1.0.0" }
    let w : World SimCluster := ⟨default, ⟨0⟩, [], ⟨0, 0⟩, ⟨0, 0⟩⟩
    w.cluster.state.objects.Sorted ∧
    let ns := m.namespaceName
    let csvs := csvsToDelete m (w.cluster.subscription? ns m.name)
    Tracked.wp (unsubscribe SimCluster.platform) (fun x m' w' => ∀ u, x = .ok u →
      w'.cluster.state.calls = w.cluster.state.calls ++
          ("delete Subscription " ++ m.name) :: csvs.map ("delete ClusterServiceVersion " ++ ·) ∧
      (∀ n ∈ csvs, w'.cluster.get OlmKind.clusterServiceVersion.resource ns n = none ∧
        SimCluster.NoneSuch w'.cluster (fun k o => SimCluster.ownedBy ns n k o = true)) ∧
      (w'.cluster.delete OlmKind.subscription.resource ns m.name w'.now).1 = false ∧
      Tracked.wp (unsubscribe SimCluster.platform) (fun x' _ w'' => x' = .ok () ∧
        w''.cluster.state.calls = w'.cluster.state.calls ++ ["delete Subscription " ++ m.name] ∧
        w''.cluster.state.objects = w'.cluster.state.objects ∧
        w''.cluster.state.pods = w'.cluster.state.pods) m' w') m w :=
  ⟨Table.sorted_empty, unsubscribe_deletes_then_is_idempotent _ _ Table.sorted_empty⟩

end SubscriptionManager

end OlmProvision
