import OlmProvision.Proofs.Transcript
import OlmProvision.Provision.Lifecycle

/-
What the calls on one custom resource do to the transcript of a traced platform.

A create or a delete makes exactly one mutation, naming the handle's object and whether the
cluster accepted the call, and the handle it answers is marked accordingly. Reads, waits and
scaling make none. A wait for readiness refuses a handle that is not marked created before it
calls anything, on every platform.
-/
namespace OlmProvision

@[simp] theorem Handle.ref_markCreated (h : Handle) : h.markCreated.ref = h.ref := rfl

@[simp] theorem Handle.ref_markDeleted (h : Handle) : h.markDeleted.ref = h.ref := rfl

@[simp] theorem Handle.created_markCreated (h : Handle) : h.markCreated.created = true := rfl

@[simp] theorem Handle.created_markDeleted (h : Handle) : h.markDeleted.created = false := rfl

theorem World.mutations_of_transcript {σ : Type} {w w' : World (Traced σ)} {r : CallRecord}
    (h : w'.transcript = w.transcript ++ [r]) : w'.mutations = w.mutations ++ r.mutation?.toList := by
  rw [World.mutations, World.mutations, h, List.filterMap_append]
  cases hr : r.mutation? <;> simp [hr]

namespace Lifecycle

variable {σ : Type} (p : Platform σ)

section Quiet

open Run.Appends

theorem appends_fetch (h : Handle) : Run.Appends CallRecord.IsQuiet (fetch p.traced h) :=
  call _ (Step.Appends.call fun _ => rfl)

theorem appends_pods (h : Handle) (selector : String) :
    Run.Appends CallRecord.IsQuiet (pods p.traced h selector) :=
  call _ (Step.Appends.call fun _ => rfl)

theorem appends_isPresent (h : Handle) : Run.Appends CallRecord.IsQuiet (isPresent p.traced h) :=
  bind (appends_fetch p h) fun _ => pure _

theorem appends_isReady (h : Handle) : Run.Appends CallRecord.IsQuiet (isReady p.traced h) := by
  refine bind (appends_fetch p h) fun o => ?_
  split
  · exact pure _
  · split
    · exact pure _
    · split
      · exact pure _
      · exact bind (appends_pods p h _) fun _ => bind (log _ _ _) fun _ => pure _

theorem appends_isAbsent (h : Handle) : Run.Appends CallRecord.IsQuiet (isAbsent p.traced h) := by
  refine bind (appends_isPresent p h) fun present => ?_
  split
  · exact pure _
  · split
    · exact bind (appends_pods p h _) fun _ => pure _
    · exact pure _

theorem appends_waitReady (h : Handle) (spec : WaitSpec)
    {guard : Option (Step (Traced σ) (Option ClusterEvent))}
    (hg : ∀ g, guard = some g → Step.Appends CallRecord.IsQuiet g) :
    Run.Appends CallRecord.IsQuiet (waitReady p.traced h spec guard) := by
  have hwait : Run.Appends CallRecord.IsQuiet
      (liftM (waitFor spec (isReady p.traced h).predicate guard) : Run (Traced σ) Outcome) :=
    monadLift (appends_waitFor (appends_isReady p h).predicate hg)
  unfold waitReady
  dsimp only
  split
  · exact bind (throw _) fun _ => hwait
  · exact hwait

theorem appends_waitAbsent (h : Handle) (spec : WaitSpec)
    {guard : Option (Step (Traced σ) (Option ClusterEvent))}
    (hg : ∀ g, guard = some g → Step.Appends CallRecord.IsQuiet g) :
    Run.Appends CallRecord.IsQuiet (waitAbsent p.traced h spec guard) :=
  monadLift (appends_waitFor (appends_isAbsent p h).predicate hg)

end Quiet

/-- A create makes one mutation, which succeeds exactly when the create answers; what it
answers is the handle marked created. -/
theorem wp_create (h : Handle) (manifest : DynamicObject) (w : World (Traced σ)) :
    Run.wp (create p.traced h manifest) (fun x w' =>
      w'.mutations = w.mutations ++ [⟨.create, h.ref, x.isOk⟩] ∧
        ∀ h', x = .ok h' → h' = h.markCreated) w := by
  unfold create
  simp only [Run.wp_bind, Run.wp_monadLift]
  refine Traced.wp_call fun a w' hw => ?_
  have hm := World.mutations_of_transcript hw
  cases a with
  | error e => exact ⟨hm, nofun⟩
  | ok o =>
    simp only [Run.wp_bind, Run.wp_log, Run.wp_pure]
    exact ⟨hm, fun h' hx => (Except.ok.inj hx).symm⟩

/-- A delete makes one mutation, which succeeds exactly when the delete answers; what it
answers is the handle marked deleted. -/
theorem wp_delete (h : Handle) (w : World (Traced σ)) :
    Run.wp (delete p.traced h) (fun x w' =>
      w'.mutations = w.mutations ++ [⟨.delete, h.ref, x.isOk⟩] ∧
        ∀ gone h', x = .ok (gone, h') → h' = h.markDeleted) w := by
  unfold delete
  simp only [Run.wp_bind, Run.wp_call]
  refine Traced.wp_call fun a w' hw => ?_
  have hm := World.mutations_of_transcript hw
  cases a with
  | error e => exact ⟨hm, nofun⟩
  | ok gone =>
    dsimp only
    split
    all_goals
      simp only [Run.wp_bind, Run.wp_log, Run.wp_pure]
      exact ⟨hm, fun _ h' hx => (Prod.mk.inj (Except.ok.inj hx)).2.symm⟩

theorem wp_scale (h : Handle) (replicas : Int) (w : World (Traced σ)) :
    Run.wp (scale p.traced h replicas) (fun x w' =>
      w.Extends CallRecord.IsQuiet w' ∧
        ∀ h', x = .ok h' → h' = { h with desiredReplicas := some replicas }) w := by
  unfold scale
  simp only [Run.wp_bind]
  refine (appends_fetch p h).wp fun x w1 h1 => ?_
  rcases x with e | _ | o
  · exact ⟨h1, nofun⟩
  · exact ⟨h1, nofun⟩
  · dsimp only
    split
    · exact ⟨h1, nofun⟩
    · simp only [Run.wp_bind, Run.wp_monadLift]
      refine Traced.wp_call fun a w2 h2 => ?_
      have h12 : w.Extends CallRecord.IsQuiet w2 :=
        h1.trans ⟨_, h2, fun r hr => by rw [List.mem_singleton.mp hr]; rfl⟩
      cases a with
      | error e => exact ⟨h12, nofun⟩
      | ok _ =>
        simp only [Run.wp_bind, Run.wp_log, Run.wp_pure]
        exact ⟨h12.trans (World.Extends.of_eq rfl), fun h' hx => (Except.ok.inj hx).symm⟩

/-- A wait for readiness on a handle not marked created fails at once, on every platform, with
the world as it was: no call is made and no time passes. -/
theorem waitReady_not_created {platform : Platform σ} {h : Handle} (hc : h.created = false)
    (spec : WaitSpec) (guard : Option (Step σ (Option ClusterEvent))) (w : World σ) :
    (waitReady platform h spec guard).run.exec w = (.error (.notCreated h.kind h.name), w) := by
  unfold waitReady
  simp only [hc, Bool.not_false, ite_true]
  rfl

end Lifecycle

end OlmProvision
