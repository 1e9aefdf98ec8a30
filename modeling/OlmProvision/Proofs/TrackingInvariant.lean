import OlmProvision.Proofs.OrchestratorSteps

/-
What an orchestrator's tracking guarantees, over every sequence of calls on a platform whose
every call may answer anything.

The ledger of a run is the list of creates and deletes of the product's resources the calls
made, oldest first. A resource stands created when the last of them to succeed on it was a
create (`standing`).

What is proved:
  1. `Tracks` holds after every run from a new orchestrator: every resource that stands
     created is tracked, the auxiliaries are tracked in plan order, and a tracked resource not
     marked created stands deleted. It is derived from `TrackingStep` alone, one case per
     constructor (`Tracks.step`), and then along the calls (`Tracks.runCalls`).
  2. The primary stops being tracked only by an undeploy that answers, after a successful
     delete of it (`OrchestratorCall.wp_primary_dropped`), and a wait for readiness refuses a
     handle not marked created before it calls anything (`Lifecycle.waitReady_not_created`).
-/
namespace OlmProvision

/-- How `x` stands after the creates and deletes `l`, oldest first: `some true` when the last of
them to succeed on `x` was a create, `some false` when it was a delete, and `none` when none
succeeded. -/
def standing (l : List Mutation) (x : ObjectRef) : Option Bool :=
  l.foldl (fun s m => if m.succeeded && m.target == x then some (m.verb == .create) else s) none

@[simp] theorem standing_nil (x : ObjectRef) : standing [] x = none := rfl

theorem standing_snoc (l : List Mutation) (m : Mutation) (x : ObjectRef) :
    standing (l ++ [m]) x =
      if m.succeeded && m.target == x then some (m.verb == .create) else standing l x := by
  rw [standing, List.foldl_append]
  rfl

@[simp] theorem standing_snoc_failed (l : List Mutation) (v : Verb) (y x : ObjectRef) :
    standing (l ++ [⟨v, y, false⟩]) x = standing l x := by
  rw [standing_snoc]
  rfl

theorem standing_snoc_deleted (l : List Mutation) (y x : ObjectRef) :
    standing (l ++ [⟨.delete, y, true⟩]) x = if y = x then some false else standing l x := by
  rw [standing_snoc]
  by_cases h : y = x <;> simp [h]

/-- A resource that stands created after more calls stood created before them, or was created
by one of them. -/
theorem standing_append_eq_true {l M : List Mutation} {x : ObjectRef}
    (h : standing (l ++ M) x = some true) :
    standing l x = some true ∨ ⟨.create, x, true⟩ ∈ M := by
  -- the fold over `M` from any start: the start survives, or a create of `x` set it
  have key : ∀ (M : List Mutation) (s : Option Bool),
      M.foldl (fun s m => if m.succeeded && m.target == x then some (m.verb == .create) else s) s =
        some true → s = some true ∨ ⟨.create, x, true⟩ ∈ M := by
    intro M
    induction M with
    | nil => exact fun s hs => .inl hs
    | cons m M ih =>
      intro s hs
      rw [List.foldl_cons] at hs
      rcases ih _ hs with hm | hm
      · split at hm
        · rename_i hsx
          obtain ⟨vb, tg, sc⟩ := m
          simp only [Bool.and_eq_true, beq_iff_eq] at hsx
          obtain ⟨rfl, rfl⟩ := hsx
          cases vb
          · exact .inr List.mem_cons_self
          · simp at hm
        · exact .inl hm
      · exact .inr (List.mem_cons_of_mem _ hm)
  rw [standing, List.foldl_append] at h
  exact key M _ h

/-- The objects of the tracked resources. -/
def Tracking.refs (t : Tracking) : List ObjectRef := t.resources.map ManagedResource.ref

@[simp] theorem Tracking.refs_mk (auxs : List ManagedResource) (p : Option ManagedResource) :
    Tracking.refs ⟨auxs, p⟩ =
      (p.map ManagedResource.ref).toList ++ auxs.map ManagedResource.ref := by
  cases p <;> simp [refs, resources]

@[simp] theorem Tracking.refs_ofCreated (made : List ManagedResource) :
    (Tracking.ofCreated made).refs = made.map ManagedResource.ref := by
  cases made <;> simp [ofCreated, refs, resources, Function.comp_def]

@[simp] theorem Tracking.mem_resources (r : ManagedResource) (auxs : List ManagedResource)
    (p : Option ManagedResource) :
    r ∈ Tracking.resources ⟨auxs, p⟩ ↔ p = some r ∨ r ∈ auxs := by
  cases p <;> simp [resources, eq_comm]

theorem ManagedResource.created_of_mem_markCreated {r : ManagedResource}
    {l : List ManagedResource} (h : r ∈ l.map ManagedResource.markCreated) :
    r.handle.created = true := by
  obtain ⟨r', _, rfl⟩ := List.mem_map.mp h
  rfl

theorem ProductAdapter.tail_sublist_auxiliaryPlan (a : ProductAdapter) {made : List ManagedResource}
    (h : made <+: a.plan) : made.tail.Sublist a.auxiliaryPlan := by
  unfold ProductAdapter.plan at h
  unfold ProductAdapter.auxiliaryPlan
  split at h
  · rename_i r auxs _ ha
    rw [ha]
    obtain ⟨rest, hrest⟩ := h
    cases made with
    | nil => exact List.nil_sublist _
    | cons r' made' =>
      rw [List.cons_append, List.cons.injEq] at hrest
      rw [List.tail_cons, ← hrest.2]
      exact List.sublist_append_left _ _
  · rw [List.prefix_nil.mp h]
    exact List.nil_sublist _

/-- What an orchestrator for `adapter` guarantees about what it tracks, `t`, given the creates and
deletes `ledger` of the product's resources it made so far. -/
structure Tracks (adapter : ProductAdapter) (ledger : List Mutation) (t : Tracking) : Prop where
  /-- A resource that stands created is tracked: none is dropped. -/
  created_tracked : ∀ x, standing ledger x = some true → x ∈ t.refs
  /-- The auxiliaries are tracked in plan order, marked created when they were tracked. -/
  ordered : t.auxiliaries.Sublist (adapter.auxiliaryPlan.map ManagedResource.markCreated)
  /-- A tracked resource not marked created stands deleted. -/
  unmarked_deleted :
    ∀ r ∈ t.resources, r.handle.created = false → standing ledger r.ref = some false

namespace Tracks

variable {adapter : ProductAdapter} {ledger : List Mutation}

theorem empty : Tracks adapter [] .empty where
  created_tracked _ h := by simp at h
  ordered := List.nil_sublist _
  unmarked_deleted _ h := by simp [Tracking.empty, Tracking.resources] at h

theorem unwindStep {t t' : Tracking} {m : Mutation} (h : Tracks adapter ledger t)
    (hs : UnwindStep t m t') : Tracks adapter (ledger ++ [m]) t' := by
  cases hs with
  | auxFailed auxs a p =>
    exact ⟨fun x hx => h.created_tracked x (by simpa using hx), h.ordered,
      fun r hr hc => by simpa using h.unmarked_deleted r hr hc⟩
  | auxDeleted auxs a p =>
    refine ⟨fun x hx => ?_, (List.sublist_append_left _ _).trans h.ordered, fun r hr hc => ?_⟩
    · rw [standing_snoc_deleted] at hx
      split at hx
      · cases hx
      · rename_i hne
        have hx' := h.created_tracked x hx
        rw [Tracking.refs_mk, List.map_append, ← List.append_assoc, List.mem_append] at hx'
        rcases hx' with hmem | hmem
        · rwa [Tracking.refs_mk]
        · simp only [List.map_cons, List.map_nil, List.mem_singleton] at hmem
          exact absurd hmem.symm hne
    · have hold : r ∈ Tracking.resources ⟨auxs ++ [a], p⟩ := by
        simp only [Tracking.resources, List.mem_append] at hr ⊢
        rcases hr with hr | hr
        · exact .inl hr
        · exact .inr (.inl hr)
      rw [standing_snoc_deleted, h.unmarked_deleted r hold hc]
      split <;> rfl
  | primaryFailed r =>
    exact ⟨fun x hx => h.created_tracked x (by simpa using hx), h.ordered,
      fun r hr hc => by simpa using h.unmarked_deleted r hr hc⟩
  | primaryDeleted r =>
    refine ⟨fun x hx => ?_, List.nil_sublist _, fun r' hr' _ => ?_⟩
    · rw [standing_snoc_deleted] at hx
      split at hx
      · cases hx
      · simpa using h.created_tracked x hx
    · simp only [Tracking.resources, Option.toList_some, List.append_nil, List.mem_singleton] at hr'
      subst hr'
      rw [standing_snoc_deleted, ManagedResource.ref_markDeleted, if_pos rfl]
  | primaryGone r =>
    refine ⟨fun x hx => ?_, List.nil_sublist _, fun r' hr' _ => by
      simp [Tracking.resources] at hr'⟩
    rw [standing_snoc_deleted] at hx
    split at hx
    · cases hx
    · rename_i hne
      have := h.created_tracked x hx
      simp only [Tracking.refs_mk, Option.map_some, Option.toList_some, List.map_nil,
        List.append_nil, List.mem_singleton] at this
      exact absurd this.symm hne

theorem unwinds {t t' : Tracking} {ds : List Mutation} (h : Tracks adapter ledger t)
    (hu : Unwinds t ds t') : Tracks adapter (ledger ++ ds) t' := by
  induction hu generalizing ledger with
  | refl => simpa using h
  | step hs _ ih =>
    rw [← List.singleton_append, ← List.append_assoc]
    exact ih (h.unwindStep hs)

/-- A deploy from nothing tracked keeps `Tracks`: what stands created after it, it created, and
it tracks that, marked created, with the auxiliaries in plan order. -/
theorem deploy {made next : List ManagedResource} (h : Tracks adapter ledger .empty)
    (hplan : made ++ next <+: adapter.plan) :
    Tracks adapter (ledger ++ createsOf made next) (.ofCreated made) := by
  refine ⟨fun x hx => ?_, ?_, fun r hr hc => ?_⟩
  · -- nothing stood created before the deploy, so what stands created now, it created
    rcases standing_append_eq_true hx with hold | hnew
    · have := h.created_tracked x hold
      simp [Tracking.empty, Tracking.refs, Tracking.resources] at this
    · simp only [createsOf, List.mem_append, List.mem_map, Mutation.mk.injEq] at hnew
      rw [Tracking.refs_ofCreated, List.mem_map]
      rcases hnew with ⟨r, hr, -, hx, -⟩ | ⟨_, _, -, -, hf⟩
      · exact ⟨r, hr, hx⟩
      · cases hf
  · exact (adapter.tail_sublist_auxiliaryPlan ((List.prefix_append made next).trans hplan)).map _
  · -- a deploy tracks only what it marked created
    cases made with
    | nil => simp [Tracking.ofCreated, Tracking.resources] at hr
    | cons r₀ made' =>
      simp only [Tracking.ofCreated, List.head?_cons, Option.map_some, List.tail_cons,
        Tracking.mem_resources, Option.some.injEq] at hr
      rcases hr with rfl | hr
      · simp at hc
      · rw [ManagedResource.created_of_mem_markCreated hr] at hc
        cases hc

theorem rescale {auxs : List ManagedResource} {r : ManagedResource} {n : Int}
    (h : Tracks adapter ledger ⟨auxs, some r⟩) :
    Tracks adapter ledger ⟨auxs, some (r.withReplicas n)⟩ := by
  refine ⟨fun x hx => ?_, h.ordered, fun r' hr' hc => ?_⟩
  · simpa using h.created_tracked x hx
  · rw [Tracking.mem_resources, Option.some.injEq] at hr'
    rcases hr' with rfl | hr'
    · rw [ManagedResource.ref_withReplicas]
      exact h.unmarked_deleted r (by simp) (by simpa using hc)
    · exact h.unmarked_deleted r' (by simp [hr']) hc

theorem adopt {auxs auxs' : List ManagedResource} {p p' : Option ManagedResource}
    (h : Tracks adapter ledger ⟨auxs, p⟩)
    (hp : p' = p ∨ p = none ∧ ∃ r, adapter.primary = .ok r ∧ p' = some r.markCreated)
    (haux : auxs' = auxs ∨
      auxs = [] ∧ auxs'.Sublist (adapter.auxiliaryPlan.map ManagedResource.markCreated)) :
    Tracks adapter ledger ⟨auxs', p'⟩ := by
  refine ⟨fun x hx => ?_, ?_, fun r hr hc => ?_⟩
  · have hold := h.created_tracked x hx
    rw [Tracking.refs_mk, List.mem_append] at hold ⊢
    rcases hold with hold | hold
    · rcases hp with rfl | ⟨rfl, -⟩
      · exact .inl hold
      · simp at hold
    · rcases haux with rfl | ⟨rfl, -⟩
      · exact .inr hold
      · simp at hold
  · rcases haux with rfl | ⟨-, hsub⟩
    · exact h.ordered
    · exact hsub
  · rw [Tracking.mem_resources] at hr
    rcases hr with hr | hr
    · rcases hp with rfl | ⟨-, r₀, -, rfl⟩
      · exact h.unmarked_deleted r (by simp [hr]) hc
      · rw [Option.some.injEq] at hr
        subst hr
        simp at hc
    · rcases haux with rfl | ⟨-, hsub⟩
      · exact h.unmarked_deleted r (by simp [hr]) hc
      · rw [ManagedResource.created_of_mem_markCreated (hsub.subset hr)] at hc
        cases hc

/-- `Tracks` survives every step a call can take, one case per kind of step. -/
theorem step {t t' : Tracking} {M : List Mutation} (h : Tracks adapter ledger t)
    (hs : TrackingStep adapter t M t') : Tracks adapter (ledger ++ M) t' := by
  cases hs with
  | keep => simpa using h
  | deploy made next hplan _ => exact h.deploy hplan
  | unwind hu => exact h.unwinds hu
  | rescale =>
    rw [List.append_nil]
    exact h.rescale
  | adopt hp haux =>
    rw [List.append_nil]
    exact h.adopt hp haux

end Tracks

/-- Where a sequence of calls leaves the orchestrator and the world, with the creates and
deletes of the product's resources the calls made, oldest first. -/
structure Progress (σ : Type) where
  orchestrator : Orchestrator
  world : World (Traced σ)
  ledger : List Mutation

namespace OrchestratorCall

variable {σ : Type} (p : Platform σ)

/-- The call made from where `g` left off, whatever it answers. -/
def perform (call : OrchestratorCall) (g : Progress σ) : Progress σ :=
  let r := ((call.run p).run.run g.orchestrator).exec g.world
  ⟨r.1.2, r.2, g.ledger ++ call.resourceMutations g.world r.2⟩

theorem perform_ledger (call : OrchestratorCall) (g : Progress σ) :
    (call.perform p g).ledger =
      g.ledger ++ call.resourceMutations g.world (call.perform p g).world := rfl

theorem perform_of_wp {call : OrchestratorCall} {g : Progress σ}
    {Q : Except ProvisionError Unit → Orchestrator → World (Traced σ) → Prop}
    (h : Tracked.wp (call.run p) Q g.orchestrator g.world) :
    ∃ r, Q r (call.perform p g).orchestrator (call.perform p g).world :=
  ⟨_, h⟩

end OrchestratorCall

/-- The calls made in order, each from where the previous one left off. -/
def runCalls {σ : Type} (p : Platform σ) (calls : List OrchestratorCall) (g : Progress σ) :
    Progress σ :=
  calls.foldl (fun g call => call.perform p g) g

@[simp] theorem runCalls_nil {σ : Type} (p : Platform σ) (g : Progress σ) :
    runCalls p [] g = g := rfl

@[simp] theorem runCalls_cons {σ : Type} (p : Platform σ) (call : OrchestratorCall)
    (calls : List OrchestratorCall) (g : Progress σ) :
    runCalls p (call :: calls) g = runCalls p calls (call.perform p g) := rfl

namespace Tracks

variable {σ : Type} (p : Platform σ) {adapter : ProductAdapter}

theorem perform (call : OrchestratorCall) {g : Progress σ} (ha : g.orchestrator.adapter = adapter)
    (h : Tracks adapter g.ledger g.orchestrator.tracking) :
    (call.perform p g).orchestrator.adapter = adapter ∧
      Tracks adapter (call.perform p g).ledger (call.perform p g).orchestrator.tracking := by
  obtain ⟨_, ha', hs⟩ := call.perform_of_wp p (call.wp_tracking p g.orchestrator g.world)
  rw [ha] at hs
  exact ⟨ha'.trans ha, h.step hs⟩

theorem runCalls (calls : List OrchestratorCall) (g : Progress σ)
    (ha : g.orchestrator.adapter = adapter) (h : Tracks adapter g.ledger g.orchestrator.tracking) :
    (OlmProvision.runCalls p calls g).orchestrator.adapter = adapter ∧
      Tracks adapter (OlmProvision.runCalls p calls g).ledger
        (OlmProvision.runCalls p calls g).orchestrator.tracking := by
  induction calls generalizing g with
  | nil => exact ⟨ha, h⟩
  | cons call calls ih =>
    obtain ⟨ha', h'⟩ := perform p call ha h
    exact ih _ ha' h'

end Tracks

/-- Over every sequence of calls, every resource standing created is tracked, in plan order and
marked created; the primary is dropped only after its delete succeeded; and no wait for
readiness starts on a handle not marked created. -/
theorem tracking_keeps_created_resources {σ : Type} (p : Platform σ) :
    (∀ (adapter : ProductAdapter) (calls : List OrchestratorCall) (w : World (Traced σ)),
      Tracks adapter (runCalls p calls ⟨.new adapter, w, []⟩).ledger
        (runCalls p calls ⟨.new adapter, w, []⟩).orchestrator.tracking) ∧
    (∀ (call : OrchestratorCall) (o : Orchestrator) (w : World (Traced σ)),
      Tracked.wp (call.run p) (fun r o' w' => ∀ P, o.primary = some P → o'.primary = none →
        call = .undeploy ∧ r = .ok () ∧ ⟨.delete, P.ref, true⟩ ∈ call.resourceMutations w w')
        o w) ∧
    (∀ (h : Handle) (spec : WaitSpec) (guard : Option (Step σ (Option ClusterEvent)))
      (w : World σ), h.created = true ∨
        (Lifecycle.waitReady p h spec guard).run.exec w =
          (.error (.notCreated h.kind h.name), w)) := by
  refine ⟨fun adapter calls w => (Tracks.runCalls p calls ⟨.new adapter, w, []⟩ rfl Tracks.empty).2,
    OrchestratorCall.wp_primary_dropped p, fun h spec guard w => ?_⟩
  cases hc : h.created with
  | true => exact .inl rfl
  | false => exact .inr (Lifecycle.waitReady_not_created hc spec guard w)

end OlmProvision
