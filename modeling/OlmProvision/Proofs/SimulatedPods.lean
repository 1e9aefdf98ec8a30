import OlmProvision.Proofs.ClusterFrames

/-
The pods of the simulated cluster under deletes.

A pod runs until something terminates it: with no termination polls it is removed at once,
otherwise it is marked terminating. Terminating a pod therefore never makes another one run,
and a running pod after a run of terminations was running before, at a key none of them named.
A delete terminates the running pods labeled with the deleted name, whatever the kind of the
deleted object and whether there was one.

What is proved:

1. Every running pod after terminations was running before, at a key none of them named
   (`SimState.running_of_mem_foldl_terminate`), so after a delete no running pod carries the
   deleted name (`SimCluster.podsOf_delete_self`), and a name with no running pod keeps none
   (`SimCluster.podsOf_delete_of_eq_nil`).
2. A delete of a missing object whose name has no running pod changes neither the objects
   nor the pods (`SimCluster.objects_delete_of_missing`, `SimCluster.pods_delete_of_podsOf_nil`);
   it only records the call (`SimCluster.calls_delete`).
-/
namespace OlmProvision

namespace SimState

variable {ns : String} {polls : Nat} {now : Timestamp}

/-- The instance label of a pod entry. -/
def instanceOf (e : Place × SimPod) : Option String :=
  (e.2.pod.labels.find? (fun l => l.1 == appInstanceLabel)).map Prod.snd

theorem mem_podsOf {s : SimState} {inst podName : String} :
    podName ∈ s.podsOf ns inst ↔ ∃ e ∈ s.pods.entries, e.1.namespaceName = ns ∧
      e.2.terminatingFor = none ∧ instanceOf e = some inst ∧ e.1.name = podName := by
  simp [podsOf, instanceOf, and_assoc]

theorem podsOf_eq_nil {s : SimState} {inst : String} :
    s.podsOf ns inst = [] ↔ ∀ e ∈ s.pods.entries, e.1.namespaceName = ns →
      e.2.terminatingFor = none → instanceOf e ≠ some inst := by
  simp [podsOf, instanceOf, List.filter_eq_nil_iff]

theorem running_of_mem_terminate {s : SimState} {podName : String} {e : Place × SimPod}
    (he : e ∈ (s.terminate ns podName polls now).pods.entries) (hrun : e.2.terminatingFor = none) :
    e ∈ s.pods.entries ∧ e.1 ≠ ⟨ns, podName⟩ := by
  unfold terminate at he
  split at he
  · obtain ⟨hmem, hkeep⟩ := List.mem_filter.mp he
    refine ⟨hmem, fun heq => ?_⟩
    simp [heq] at hkeep
  · obtain ⟨e', hmem, rfl⟩ := List.mem_map.mp he
    by_cases hk : (compare e'.1 ⟨ns, podName⟩ == .eq) = true
    · -- the terminated pod is marked, so it is not running
      simp [hk] at hrun
    · simp only [hk, Bool.false_eq_true, if_false] at hrun ⊢
      exact ⟨hmem, fun heq => hk (by simp [heq])⟩

theorem running_of_mem_foldl_terminate : ∀ (L : List String) (s : SimState) {e : Place × SimPod},
    e ∈ (L.foldl (fun s podName => s.terminate ns podName polls now) s).pods.entries →
      e.2.terminatingFor = none → e ∈ s.pods.entries ∧ ∀ p ∈ L, e.1 ≠ ⟨ns, p⟩
  | [], _, _, he, _ => ⟨he, nofun⟩
  | p :: L, s, e, he, hrun => by
    obtain ⟨he₁, hL⟩ := running_of_mem_foldl_terminate L _ he hrun
    obtain ⟨he₀, hp⟩ := running_of_mem_terminate he₁ hrun
    refine ⟨he₀, fun q hq => ?_⟩
    rcases List.mem_cons.mp hq with rfl | hq
    · exact hp
    · exact hL q hq

theorem calls_foldl_terminate : ∀ (L : List String) (s : SimState),
    (L.foldl (fun s podName => s.terminate ns podName polls now) s).calls = s.calls
  | [], _ => rfl
  | p :: L, s => by
    rw [List.foldl_cons, calls_foldl_terminate L]
    unfold terminate
    split <;> rfl

end SimState

namespace SimCluster

variable {c : SimCluster} {r : ApiResource} {ns name : String} {now : Timestamp}

theorem calls_delete (c : SimCluster) (r : ApiResource) (ns name : String) (now : Timestamp) :
    (c.delete r ns name now).2.state.calls = c.state.calls ++ ["delete " ++ r.kind ++ " " ++ name] := by
  unfold delete
  dsimp only
  rw [SimState.calls_foldl_terminate]
  split <;> rfl

theorem delete_answer (c : SimCluster) (r : ApiResource) (ns name : String) (now : Timestamp) :
    (c.delete r ns name now).1 = (c.get r ns name).isSome := rfl

theorem running_of_mem_delete {e : Place × SimPod}
    (he : e ∈ (c.delete r ns name now).2.state.pods.entries) (hrun : e.2.terminatingFor = none) :
    e ∈ c.state.pods.entries ∧ ∀ p ∈ c.state.podsOf ns name, e.1 ≠ ⟨ns, p⟩ := by
  unfold delete at he
  dsimp only at he
  split at he
  all_goals
    obtain ⟨hmem, hne⟩ := SimState.running_of_mem_foldl_terminate _ _ he hrun
    exact ⟨hmem, hne⟩

/-- After a delete no pod of the deleted name runs, whatever the kind deleted. -/
theorem podsOf_delete_self (c : SimCluster) (r : ApiResource) (ns name : String) (now : Timestamp) :
    (c.delete r ns name now).2.state.podsOf ns name = [] := by
  rw [SimState.podsOf_eq_nil]
  intro e he hns hrun hinst
  obtain ⟨hmem, hne⟩ := running_of_mem_delete he hrun
  -- the pod was one of those the delete terminated
  have hlisted : e.1.name ∈ c.state.podsOf ns name :=
    SimState.mem_podsOf.mpr ⟨e, hmem, hns, hrun, hinst, rfl⟩
  exact hne e.1.name hlisted (by rw [← hns])

theorem podsOf_delete_of_eq_nil {inst : String} (h : c.state.podsOf ns inst = []) (ns' : String) :
    (c.delete r ns' name now).2.state.podsOf ns inst = [] := by
  rw [SimState.podsOf_eq_nil] at h ⊢
  intro e he hns hrun
  exact h e (running_of_mem_delete he hrun).1 hns hrun

theorem pods_delete_of_podsOf_nil (h : c.state.podsOf ns name = []) :
    (c.delete r ns name now).2.state.pods = c.state.pods := by
  unfold delete
  simp only [SimState.podsOf] at h ⊢
  split
  all_goals
    simp only [SimState.removeOperator, SimState.record, h, List.foldl_nil]

/-- A delete of a missing object, of any kind but a CSV, leaves the objects as they were. -/
theorem objects_delete_of_missing (h : c.get r ns name = none)
    (hkind : r.kind ≠ "ClusterServiceVersion") :
    (c.delete r ns name now).2.state.objects = c.state.objects := by
  rw [objects_delete, if_neg hkind]
  exact Table.erase_of_get?_eq_none h

end SimCluster

end OlmProvision
