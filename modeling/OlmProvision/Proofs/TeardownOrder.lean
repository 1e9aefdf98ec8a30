import OlmProvision.Proofs.TrackingInvariant
import OlmProvision.Cluster.Simulated

/-
The order in which undeploys delete what a deploy created.

What is proved (`undeploys_delete_in_reverse_creation_order`): a deploy from nothing tracked,
followed by any number of undeploys, on a platform whose every call may answer anything, leaves
the ledger as the deploy's creates, then the undeploys' deletes. The creates are a prefix of
the plan in plan order, then at most one failed create. The deletes take the deploy's tracking
apart step by step (`Unwinds`): each deletes the last auxiliary still tracked, and the primary
only once no auxiliary is tracked. Every delete names a resource the deploy created.
-/
namespace OlmProvision

theorem UnwindStep.refs_subset {t t' : Tracking} {m : Mutation} (h : UnwindStep t m t') :
    ∀ x ∈ t'.refs, x ∈ t.refs := by
  intro x hx
  cases h with
  | auxFailed => exact hx
  | auxDeleted auxs a p =>
    simp only [Tracking.refs_mk, List.map_append, List.mem_append] at hx ⊢
    rcases hx with hx | hx
    · exact .inl hx
    · exact .inr (.inl hx)
  | primaryFailed => exact hx
  | primaryDeleted r => simpa using hx
  | primaryGone r => simp at hx

theorem UnwindStep.target_tracked {t t' : Tracking} {m : Mutation} (h : UnwindStep t m t') :
    m.target ∈ t.refs := by
  cases h <;> simp

theorem Unwinds.targets_tracked {t t' : Tracking} {ds : List Mutation} (h : Unwinds t ds t') :
    ∀ m ∈ ds, m.target ∈ t.refs := by
  induction h with
  | refl => simp
  | step hs _ ih =>
    intro m hm
    rcases List.mem_cons.mp hm with rfl | hm
    · exact hs.target_tracked
    · exact hs.refs_subset _ (ih m hm)

section Teardown

variable {σ : Type} (p : Platform σ)

/-- A deploy from nothing tracked adds its creates to the ledger and tracks what they created. -/
theorem deploy_ledger (g : Progress σ) (hidle : g.orchestrator.tracking = .empty) :
    ∃ made next, made ++ next <+: g.orchestrator.adapter.plan ∧ next.length ≤ 1 ∧
      (OrchestratorCall.deploy.perform p g).ledger = g.ledger ++ createsOf made next ∧
      (OrchestratorCall.deploy.perform p g).orchestrator.tracking = .ofCreated made := by
  obtain ⟨_, -, hd⟩ := OrchestratorCall.deploy.perform_of_wp p
    (Orchestrator.wp_deploy p g.orchestrator g.world)
  rcases hd with ⟨ht, hm⟩ | ⟨-, made, next, hplan, hnext, hm, ht⟩
  · -- the deploy did not start: nothing was created
    refine ⟨[], [], List.nil_prefix, Nat.zero_le _, ?_, ht.trans hidle⟩
    rw [OrchestratorCall.perform_ledger, OrchestratorCall.resourceMutations_eq
      (rfl : OrchestratorCall.deploy.managesResources = true) (hm.trans (List.append_nil _).symm)]
    rfl
  · refine ⟨made, next, hplan, hnext, ?_, ht⟩
    rw [OrchestratorCall.perform_ledger, OrchestratorCall.resourceMutations_eq
      (rfl : OrchestratorCall.deploy.managesResources = true) hm]

/-- Undeploys add their deletes to the ledger, and the deletes take the tracking apart. -/
theorem undeploys_ledger (n : Nat) (g : Progress σ) :
    ∃ ds, (runCalls p (List.replicate n .undeploy) g).ledger = g.ledger ++ ds ∧
      Unwinds g.orchestrator.tracking ds
        (runCalls p (List.replicate n .undeploy) g).orchestrator.tracking := by
  induction n generalizing g with
  | zero => exact ⟨[], (List.append_nil _).symm, .refl _⟩
  | succ n ih =>
    obtain ⟨_, -, ds₁, hm, hu₁, -⟩ := OrchestratorCall.undeploy.perform_of_wp p
      (Orchestrator.wp_undeploy p g.orchestrator g.world)
    have hl₁ : (OrchestratorCall.undeploy.perform p g).ledger = g.ledger ++ ds₁ := by
      rw [OrchestratorCall.perform_ledger, OrchestratorCall.resourceMutations_eq
        (rfl : OrchestratorCall.undeploy.managesResources = true) hm]
    obtain ⟨ds, hl, hu⟩ := ih (OrchestratorCall.undeploy.perform p g)
    refine ⟨ds₁ ++ ds, ?_, hu₁.trans hu⟩
    rw [List.replicate_succ, runCalls_cons, hl, hl₁, List.append_assoc]

/-- After a deploy and any undeploys, each delete is of the last auxiliary still tracked, or of
the primary once none is, and only of resources the deploy created. -/
theorem undeploys_delete_in_reverse_creation_order (o : Orchestrator) (hidle : o.tracking = .empty)
    (n : Nat) (w : World (Traced σ)) :
    ∃ made next ds, made ++ next <+: o.adapter.plan ∧ next.length ≤ 1 ∧
      (runCalls p (.deploy :: List.replicate n .undeploy) ⟨o, w, []⟩).ledger =
        createsOf made next ++ ds ∧
      Unwinds (.ofCreated made) ds
        (runCalls p (.deploy :: List.replicate n .undeploy) ⟨o, w, []⟩).orchestrator.tracking ∧
      ∀ m ∈ ds, m.target ∈ made.map ManagedResource.ref := by
  obtain ⟨made, next, hplan, hnext, hl₁, ht₁⟩ := deploy_ledger p ⟨o, w, []⟩ hidle
  obtain ⟨ds, hl, hu⟩ := undeploys_ledger p n (OrchestratorCall.deploy.perform p ⟨o, w, []⟩)
  rw [ht₁] at hu
  refine ⟨made, next, ds, hplan, hnext, ?_, hu, fun m hm => ?_⟩
  · rw [runCalls_cons, hl, hl₁, List.nil_append]
  · have := hu.targets_tracked m hm
    rwa [Tracking.refs_ofCreated] at this

/-- A product with a primary resource and one auxiliary, undeployed twice after its deploy on
the simulated cluster. -/
theorem undeploys_delete_in_reverse_creation_order_twice :
    let o := Orchestrator.new
      { productId := "demo", namespaceName := "demo", primary := .ok default,
        auxiliaries := .ok [default] }
    let w : World (Traced SimCluster) := ⟨⟨default, []⟩, ⟨0⟩, [], ⟨0, 0⟩, ⟨0, 0⟩⟩
    o.tracking = .empty ∧
      ∃ made next ds, made ++ next <+: o.adapter.plan ∧ next.length ≤ 1 ∧
        (runCalls SimCluster.platform (.deploy :: List.replicate 2 .undeploy) ⟨o, w, []⟩).ledger =
          createsOf made next ++ ds ∧
        Unwinds (.ofCreated made) ds (runCalls SimCluster.platform
          (.deploy :: List.replicate 2 .undeploy) ⟨o, w, []⟩).orchestrator.tracking ∧
        ∀ m ∈ ds, m.target ∈ made.map ManagedResource.ref :=
  ⟨rfl, undeploys_delete_in_reverse_creation_order SimCluster.platform _ rfl 2 _⟩

end Teardown

end OlmProvision
