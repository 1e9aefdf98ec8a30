import OlmProvision.Proofs.ProgramLogic
import OlmProvision.Proofs.Tables
import OlmProvision.Client.Typed
import OlmProvision.Cluster.Simulated

/-
Frames of provisioning computations on the cluster they run against.

`Step.Keeps R c` says that `c`, from every world, changes the cluster only as the preorder `R`
allows; `Run.Keeps` says the same of runs, whether they fail or not. The rules below build it
along the code, as `Appends` builds the transcript of a traced platform, and a wait keeps what
its predicate and its guard keep.

On the simulated cluster the relation that matters is `SameObjects`: gets and pod queries
change pods and nothing else. The last lemmas say what a delete does instead: it removes the
object it names and, for a CSV, the operator deployments it owns, and adds nothing.
-/
namespace OlmProvision

section Keeps

variable {σ μ α β : Type} {R : σ → σ → Prop}

/-- `c` changes the cluster only as `R` allows, from every world. -/
def Step.Keeps (R : σ → σ → Prop) (c : Step σ α) : Prop :=
  ∀ w, Step.wp c (fun _ w' => R w.cluster w'.cluster) w

/-- A run that changes the cluster only as `R` allows, whether it fails or not. -/
def Run.Keeps (R : σ → σ → Prop) (r : Run σ α) : Prop := Step.Keeps R r.run

namespace Step.Keeps

theorem wp {c : Step σ α} {Q : α → World σ → Prop} {w : World σ} (h : Step.Keeps R c)
    (hQ : ∀ a w', R w.cluster w'.cluster → Q a w') : Step.wp c Q w :=
  Step.wp_mono (h w) hQ

theorem bind [Trans R R R] {c : Step σ α} {f : α → Step σ β} (hc : Step.Keeps R c)
    (hf : ∀ a, Step.Keeps R (f a)) : Step.Keeps R (c >>= f) := by
  intro w
  rw [Step.wp_bind]
  exact hc.wp fun a w' h => (hf a).wp fun _ _ h' => Trans.trans h h'

variable [Std.Refl R]

theorem pure (a : α) : Step.Keeps R (pure a : Step σ α) := fun w => Std.Refl.refl w.cluster

theorem log (source : LogSource) (level : LogLevel) (message : String) :
    Step.Keeps R (Step.log source level message : Step σ Unit) :=
  fun w => Std.Refl.refl w.cluster

theorem sleep (d : Duration) : Step.Keeps R (Step.sleep d : Step σ Unit) :=
  fun w => Std.Refl.refl w.cluster

theorem elapsed : Step.Keeps R (Step.elapsed : Step σ Duration) :=
  fun w => Std.Refl.refl w.cluster

end Step.Keeps

namespace Run.Keeps

theorem wp {r : Run σ α} {Q : Except ProvisionError α → World σ → Prop} {w : World σ}
    (h : Run.Keeps R r) (hQ : ∀ x w', R w.cluster w'.cluster → Q x w') : Run.wp r Q w :=
  Step.Keeps.wp h hQ

theorem monadLift {c : Step σ α} (h : Step.Keeps R c) :
    Run.Keeps R (monadLift c : Run σ α) :=
  fun _ => h.wp fun _ _ hw => hw

theorem call (action : String) {c : Call σ α} (h : Step.Keeps R c) :
    Run.Keeps R (Run.call action c) := by
  intro w
  show Run.wp (Run.call action c) _ w
  rw [Run.wp_call]
  exact h.wp fun x w' hw => by cases x <;> exact hw

theorem predicate {r : Run σ Bool} (h : Run.Keeps R r) : Step.Keeps R (Run.predicate r) := by
  intro w
  rw [Run.wp_predicate]
  exact h.wp fun x _ hw => by cases x <;> exact hw

theorem bind [Trans R R R] {r : Run σ α} {f : α → Run σ β} (hr : Run.Keeps R r)
    (hf : ∀ a, Run.Keeps R (f a)) : Run.Keeps R (r >>= f) := by
  intro w
  show Run.wp (r >>= f) _ w
  rw [Run.wp_bind]
  refine hr.wp fun x w' h => ?_
  cases x with
  | error e => exact h
  | ok a => exact (hf a).wp fun _ _ h' => Trans.trans h h'

variable [Std.Refl R]

theorem pure (a : α) : Run.Keeps R (pure a : Run σ α) := fun w => Std.Refl.refl w.cluster

end Run.Keeps

/-- A wait keeps what its predicate and its guard keep. -/
theorem Step.Keeps.waitFor [Std.Refl R] [Trans R R R] {spec : WaitSpec}
    {predicate : Step σ (Except String Bool)} {guard : Option (Step σ (Option ClusterEvent))}
    (hp : Step.Keeps R predicate) (hg : ∀ g, guard = some g → Step.Keeps R g) :
    Step.Keeps R (waitFor spec predicate guard) := by
  -- one poll per unit of fuel; the loop runs nothing but the predicate and the guard
  have hloop : ∀ start fuel, Step.Keeps R (waitFor.loop spec predicate guard start fuel) := by
    intro start fuel
    induction fuel with
    | zero => exact pure _
    | succ fuel ih =>
      rw [waitFor.loop.eq_2]
      refine bind hp fun r => ?_
      dsimp only
      split
      · exact bind elapsed fun _ => bind (log _ _ _) fun _ => pure _
      all_goals
        refine bind (log _ _ _) fun _ => ?_
        split
        all_goals
          refine bind ?_ fun fatal => ?_
          · first
            | exact hg _ rfl
            | exact pure _
          · split
            · exact bind elapsed fun _ => bind (log _ _ _) fun _ => pure _
            · refine bind elapsed fun _ => ?_
              split
              · exact bind (log _ _ _) fun _ => pure _
              · exact bind (sleep _) fun _ => ih
  exact bind elapsed fun _ => bind (log _ _ _) fun _ => hloop _ _

end Keeps

namespace SimCluster

/-- The clusters hold the same objects. -/
def SameObjects (c c' : SimCluster) : Prop := c'.state.objects = c.state.objects

instance : Std.Refl SameObjects := ⟨fun _ => rfl⟩

instance : Trans SameObjects SameObjects SameObjects := ⟨fun h₁ h₂ => h₂.trans h₁⟩

/-! ## Calls of the simulated platform -/

variable {r : ApiResource} {ns name : String}

@[simp] theorem wp_get (Q : Except ClientError (Option DynamicObject) → World SimCluster → Prop)
    (w : World SimCluster) :
    Step.wp (platform.get r ns name) Q w = Q (.ok (w.cluster.get r ns name)) w := rfl

@[simp] theorem wp_delete (Q : Except ClientError Bool → World SimCluster → Prop)
    (w : World SimCluster) :
    Step.wp (platform.delete r ns name) Q w =
      Q (.ok (w.cluster.delete r ns name w.now).1)
        { w with cluster := (w.cluster.delete r ns name w.now).2 } := rfl

theorem keeps_get : Step.Keeps SameObjects (platform.get r ns name) := fun _ => rfl

theorem keeps_listPods (selector : String) : Step.Keeps SameObjects (platform.listPods ns selector) :=
  fun _ => rfl

theorem keeps_getTyped {α : Type} (k : TypedKind α) :
    Step.Keeps SameObjects (platform.getTyped k ns name) := by
  refine Step.Keeps.bind keeps_get fun a => ?_
  split <;> exact Step.Keeps.pure _

/-! ## What a delete removes -/

/-- Whether a stored object is an operator deployment of the CSV `csvName` in `ns`. -/
def ownedBy (ns csvName : String) (k : ObjectKey) (o : DynamicObject) : Bool :=
  k.kind == "Deployment" && k.namespaceName == ns && o.label? "olm.owner" == some csvName

theorem objects_foldl_terminate (ns : String) (polls : Nat) (now : Timestamp) :
    ∀ (l : List String) (s : SimState),
      (l.foldl (fun s podName => s.terminate ns podName polls now) s).objects = s.objects
  | [], _ => rfl
  | p :: l, s => by
    rw [List.foldl_cons, objects_foldl_terminate ns polls now l]
    unfold SimState.terminate
    split <;> rfl

/-- A delete erases the key it names and, for a CSV, the operator deployments it owns. -/
theorem objects_delete (c : SimCluster) (r : ApiResource) (ns name : String) (now : Timestamp) :
    (c.delete r ns name now).2.state.objects =
      if r.kind = "ClusterServiceVersion" then
        (c.state.objects.erase ⟨r.kind, ns, name⟩).filter (fun k o => !ownedBy ns name k o)
      else c.state.objects.erase ⟨r.kind, ns, name⟩ := by
  unfold delete
  dsimp only
  rw [objects_foldl_terminate]
  by_cases hcsv : r.kind = "ClusterServiceVersion"
  · simp only [hcsv, beq_self_eq_true, if_true]
    rfl
  · have : (r.kind == "ClusterServiceVersion") = false := by simpa using hcsv
    simp only [this, hcsv, if_false, Bool.false_eq_true]
    rfl

theorem get?_delete (c : SimCluster) (hs : c.state.objects.Sorted) (r : ApiResource)
    (ns name : String) (now : Timestamp) (k : ObjectKey) :
    (c.delete r ns name now).2.state.objects.get? k =
      if k = ⟨r.kind, ns, name⟩ then none
      else if r.kind = "ClusterServiceVersion" then
        (c.state.objects.get? k).filter (fun o => !ownedBy ns name k o)
      else c.state.objects.get? k := by
  rw [objects_delete]
  split
  · rw [Table.get?_filter (hs.erase _), Table.get?_erase]
    split
    · rfl
    · rfl
  · rw [Table.get?_erase]

theorem delete_sorted (c : SimCluster) (hs : c.state.objects.Sorted) (r : ApiResource)
    (ns name : String) (now : Timestamp) : (c.delete r ns name now).2.state.objects.Sorted := by
  rw [objects_delete]
  split
  · exact (hs.erase _).filter _
  · exact hs.erase _

/-- A delete adds nothing: what the table holds after it, it held before at the same key. -/
theorem get?_of_get?_delete (c : SimCluster) (hs : c.state.objects.Sorted) (r : ApiResource)
    (ns name : String) (now : Timestamp) {k : ObjectKey} {o : DynamicObject}
    (h : (c.delete r ns name now).2.state.objects.get? k = some o) :
    c.state.objects.get? k = some o := by
  rw [get?_delete c hs] at h
  split at h
  · cases h
  · split at h
    · exact Option.eq_some_of_filter_eq_some h
    · exact h

end SimCluster

end OlmProvision
