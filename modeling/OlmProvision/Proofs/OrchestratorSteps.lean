import OlmProvision.Proofs.ResourceCalls
import OlmProvision.Proofs.SubscriptionState
import OlmProvision.Provision.Orchestrator

/-
What each call on an orchestrator can do to the custom resources it tracks.

What is proved:
  1. One spec per call, on a platform whose every call may answer anything. A deploy from
     nothing tracked creates its plan in order (primary first, then the auxiliaries) and stops
     at the first create that fails, tracking what it created (`wp_deploy`). An undeploy
     deletes the auxiliaries last created first, and the primary only once no auxiliary is
     tracked (`wp_undeploy`): its deletes follow the labelled path `Unwinds`. Scaling changes
     the primary's replica count, adopting tracks what it finds, and the other calls leave the
     tracked resources alone.
  2. `OrchestratorCall.wp_tracking`: every call takes the tracking one `TrackingStep`, labelled
     with the creates and deletes of the product's resources it made. The invariants of
     `TrackingInvariant` are derived from this relation alone.
-/
namespace OlmProvision

namespace ManagedResource

/-- The object the resource is. -/
def ref (r : ManagedResource) : ObjectRef := r.handle.ref

/-- The resource as tracked once its create was answered, or once it was adopted. -/
def markCreated (r : ManagedResource) : ManagedResource := { r with handle := r.handle.markCreated }

/-- The resource as tracked once its delete was answered. -/
def markDeleted (r : ManagedResource) : ManagedResource := { r with handle := r.handle.markDeleted }

/-- The resource scaled to `n` replicas. -/
def withReplicas (r : ManagedResource) (n : Int) : ManagedResource :=
  { r with handle := { r.handle with desiredReplicas := some n } }

@[simp] theorem ref_markCreated (r : ManagedResource) : r.markCreated.ref = r.ref := rfl

@[simp] theorem ref_markDeleted (r : ManagedResource) : r.markDeleted.ref = r.ref := rfl

@[simp] theorem ref_withReplicas (r : ManagedResource) (n : Int) : (r.withReplicas n).ref = r.ref :=
  rfl

@[simp] theorem created_markCreated (r : ManagedResource) : r.markCreated.handle.created = true :=
  rfl

@[simp] theorem created_markDeleted (r : ManagedResource) :
    r.markDeleted.handle.created = false := rfl

@[simp] theorem created_withReplicas (r : ManagedResource) (n : Int) :
    (r.withReplicas n).handle.created = r.handle.created := rfl

end ManagedResource

namespace ProductAdapter

/-- The auxiliary resources of the product in creation order; none when the adapter cannot
give them. -/
def auxiliaryPlan (a : ProductAdapter) : List ManagedResource :=
  match a.auxiliaries with
  | .ok auxs => auxs
  | .error _ => []

/-- The resources a deploy creates, in creation order: the primary, then the auxiliaries; none
when the adapter cannot give them all. -/
def plan (a : ProductAdapter) : List ManagedResource :=
  match a.primary, a.auxiliaries with
  | .ok r, .ok auxs => r :: auxs
  | _, _ => []

end ProductAdapter

/-- What an orchestrator tracks: its auxiliary resources in creation order, and its primary. -/
@[ext] structure Tracking where
  auxiliaries : List ManagedResource
  primary : Option ManagedResource

namespace Tracking

/-- Nothing tracked. -/
def empty : Tracking := ⟨[], none⟩

/-- The tracked resources. -/
def resources (t : Tracking) : List ManagedResource := t.primary.toList ++ t.auxiliaries

/-- What a deploy tracks once it created `made`, a prefix of its plan: the first as the primary
and the rest as auxiliaries, all marked created. -/
def ofCreated (made : List ManagedResource) : Tracking :=
  ⟨made.tail.map ManagedResource.markCreated, made.head?.map ManagedResource.markCreated⟩

end Tracking

/-- What the orchestrator tracks. -/
def Orchestrator.tracking (o : Orchestrator) : Tracking := ⟨o.auxiliaries, o.primary⟩

@[simp] theorem Orchestrator.tracking_auxiliaries (o : Orchestrator) :
    o.tracking.auxiliaries = o.auxiliaries := rfl

@[simp] theorem Orchestrator.tracking_primary (o : Orchestrator) :
    o.tracking.primary = o.primary := rfl

/-- The creates of a deploy: those of `made`, which succeeded, in order, then those of `next`,
which failed. -/
def createsOf (made next : List ManagedResource) : List Mutation :=
  made.map (fun r => ⟨.create, r.ref, true⟩) ++ next.map (fun r => ⟨.create, r.ref, false⟩)

theorem createsOf_made_snoc (made : List ManagedResource) (r : ManagedResource) :
    createsOf (made ++ [r]) [] = createsOf made [] ++ [⟨.create, r.ref, true⟩] := by
  simp [createsOf]

theorem createsOf_next_single (made : List ManagedResource) (r : ManagedResource) :
    createsOf made [r] = createsOf made [] ++ [⟨.create, r.ref, false⟩] := by
  simp [createsOf]

/-- One delete call of an undeploy and what it does to the tracking. The last auxiliary still
tracked is deleted, and stops being tracked if the call succeeds; once no auxiliary is left the
primary is deleted, marked deleted if the call succeeds, and no longer tracked once its absence
was also seen. -/
inductive UnwindStep : Tracking → Mutation → Tracking → Prop
  | auxFailed (auxs : List ManagedResource) (a : ManagedResource) (p : Option ManagedResource) :
      UnwindStep ⟨auxs ++ [a], p⟩ ⟨.delete, a.ref, false⟩ ⟨auxs ++ [a], p⟩
  | auxDeleted (auxs : List ManagedResource) (a : ManagedResource) (p : Option ManagedResource) :
      UnwindStep ⟨auxs ++ [a], p⟩ ⟨.delete, a.ref, true⟩ ⟨auxs, p⟩
  | primaryFailed (r : ManagedResource) :
      UnwindStep ⟨[], some r⟩ ⟨.delete, r.ref, false⟩ ⟨[], some r⟩
  | primaryDeleted (r : ManagedResource) :
      UnwindStep ⟨[], some r⟩ ⟨.delete, r.ref, true⟩ ⟨[], some r.markDeleted⟩
  | primaryGone (r : ManagedResource) :
      UnwindStep ⟨[], some r⟩ ⟨.delete, r.ref, true⟩ ⟨[], none⟩

/-- A sequence of delete calls, each an `UnwindStep` from where the previous one left the
tracking. -/
inductive Unwinds : Tracking → List Mutation → Tracking → Prop
  | refl (t : Tracking) : Unwinds t [] t
  | step {t t₁ t' : Tracking} {m : Mutation} {ds : List Mutation} :
      UnwindStep t m t₁ → Unwinds t₁ ds t' → Unwinds t (m :: ds) t'

namespace Unwinds

theorem single {t t' : Tracking} {m : Mutation} (h : UnwindStep t m t') : Unwinds t [m] t' :=
  .step h (.refl t')

theorem trans {t t₁ t' : Tracking} {ds ds' : List Mutation} (h : Unwinds t ds t₁)
    (h' : Unwinds t₁ ds' t') : Unwinds t (ds ++ ds') t' := by
  induction h with
  | refl => exact h'
  | step hs _ ih => exact .step hs (ih h')

theorem snoc {t t₁ t' : Tracking} {ds : List Mutation} {m : Mutation} (h : Unwinds t ds t₁)
    (hs : UnwindStep t₁ m t') : Unwinds t (ds ++ [m]) t' :=
  h.trans (single hs)

/-- The primary stops being tracked only through a delete of it that succeeded. -/
theorem primary_deleted {t t' : Tracking} {ds : List Mutation} (h : Unwinds t ds t')
    {r : ManagedResource} (hr : t.primary = some r) (hgone : t'.primary = none) :
    ⟨.delete, r.ref, true⟩ ∈ ds := by
  induction h generalizing r with
  | refl => simp [hr] at hgone
  | step hs _ ih =>
    cases hs with
    | auxFailed => exact List.mem_cons_of_mem _ (ih hr hgone)
    | auxDeleted => exact List.mem_cons_of_mem _ (ih hr hgone)
    | primaryFailed => exact List.mem_cons_of_mem _ (ih hr hgone)
    | primaryDeleted r' =>
      have hr' : r' = r := Option.some.inj hr
      subst hr'
      have := ih rfl hgone
      rw [ManagedResource.ref_markDeleted] at this
      exact List.mem_cons_of_mem _ this
    | primaryGone r' =>
      cases hr
      exact List.mem_cons_self

end Unwinds

/-- What one call can do to the tracking of an orchestrator for `adapter`, with the creates and
deletes of the product's resources it makes. -/
inductive TrackingStep (adapter : ProductAdapter) : Tracking → List Mutation → Tracking → Prop
  /-- Nothing tracked changes, and no resource is created or deleted. -/
  | keep (t : Tracking) : TrackingStep adapter t [] t
  /-- From nothing tracked, a deploy creates its plan in order until a create fails. -/
  | deploy (made next : List ManagedResource) (hplan : made ++ next <+: adapter.plan)
      (hnext : next.length ≤ 1) :
      TrackingStep adapter .empty (createsOf made next) (.ofCreated made)
  /-- An undeploy takes the tracking apart. -/
  | unwind {t t' : Tracking} {ds : List Mutation} (h : Unwinds t ds t') :
      TrackingStep adapter t ds t'
  /-- A scale changes the primary's replica count. -/
  | rescale (auxs : List ManagedResource) (r : ManagedResource) (n : Int) :
      TrackingStep adapter ⟨auxs, some r⟩ [] ⟨auxs, some (r.withReplicas n)⟩
  /-- An adopt tracks the primary if none was, and auxiliaries of the plan, in plan order, if
  none were. -/
  | adopt {auxs auxs' : List ManagedResource} {p p' : Option ManagedResource}
      (hp : p' = p ∨ p = none ∧ ∃ r, adapter.primary = .ok r ∧ p' = some r.markCreated)
      (haux : auxs' = auxs ∨
        auxs = [] ∧ auxs'.Sublist (adapter.auxiliaryPlan.map ManagedResource.markCreated)) :
      TrackingStep adapter ⟨auxs, p⟩ [] ⟨auxs', p'⟩

section Calls

variable {σ : Type} (p : Platform σ)

theorem appends_resolveDescriptor {ok : CallRecord → Prop} (config : ConfigSource)
    (product : String) :
    Run.Appends ok (resolveDescriptor config product : Run (Traced σ) OperatorDescriptor) := by
  unfold resolveDescriptor
  split
  · exact Run.Appends.throw _
  · exact Run.Appends.bind (Run.Appends.log _ _ _) fun _ => Run.Appends.pure _

theorem quiet_captureBaseline (ns : String) :
    Step.Appends CallRecord.IsQuiet (captureBaseline p.traced ns) :=
  appends_captureBaseline p ns fun _ => rfl

theorem quiet_waitReady_guarded (h : Handle) (spec : WaitSpec) (g : FailFastGuard) :
    Run.Appends CallRecord.IsQuiet
      (Lifecycle.waitReady p.traced h spec (some (g.fatalEvent p.traced))) :=
  Lifecycle.appends_waitReady p h spec fun _ hg =>
    Option.some.inj hg ▸ g.appends_fatalEvent p fun _ => rfl

namespace Orchestrator

theorem frame_awaitReady (h : Handle) (spec : WaitSpec) (g : FailFastGuard) :
    Tracked.Frame CallRecord.IsQuiet (awaitReady p.traced h spec (some (g.fatalEvent p.traced))) :=
  Tracked.Frame.lift (quiet_waitReady_guarded p h spec g)

/-- `o'` is for the product of `o` and tracks the same resources. -/
def KeepsTracking (o o' : Orchestrator) : Prop := o'.adapter = o.adapter ∧ o'.tracking = o.tracking

theorem wp_configure (config : ConfigSource) (o : Orchestrator) (w : World (Traced σ)) :
    Tracked.wp (configure config : Tracked Orchestrator (Traced σ) OperatorDescriptor)
      (fun _ o' w' => o.KeepsTracking o' ∧ w.Extends CallRecord.IsQuiet w') o w := by
  unfold configure
  simp only [Tracked.wp_bind, Tracked.wp_current, Tracked.wp_lift]
  have hd : Run.Appends CallRecord.IsQuiet
      (resolveDescriptor config o.adapter.productId : Run (Traced σ) OperatorDescriptor) :=
    appends_resolveDescriptor config _
  refine hd.wp fun x w1 h1 => ?_
  cases x with
  | error e => exact ⟨⟨rfl, rfl⟩, h1⟩
  | ok d =>
    simp only [orFail, Tracked.wp_ofExcept]
    cases WaitPolicy.fromConfig config o.adapter.productId with
    | error e => exact ⟨⟨rfl, rfl⟩, h1⟩
    | ok policy =>
      simp only [Tracked.wp_log, Tracked.wp_put, Tracked.wp_pure]
      exact ⟨⟨rfl, rfl⟩, h1.trans (.of_eq rfl)⟩

theorem wp_subscribe (o : Orchestrator) (w : World (Traced σ)) :
    Tracked.wp (subscribe p.traced) (fun _ o' _ => o.KeepsTracking o') o w := by
  unfold subscribe
  simp only [Tracked.wp_bind, Tracked.wp_current]
  split
  · simp only [Tracked.wp_bind, Tracked.wp_pure, Tracked.wp_ite, Tracked.wp_throw, Tracked.wp_lift,
      Run.wp_mk, Tracked.wp_focus]
    split
    · exact ⟨rfl, rfl⟩
    · refine Step.wp_of_forall fun x _ => ?_
      cases x with
      | error e => exact ⟨rfl, rfl⟩
      | ok _ => exact Tracked.wp_of_forall fun _ _ _ => ⟨rfl, rfl⟩
  · simp only [Tracked.wp_bind, Tracked.wp_throw]
    exact ⟨rfl, rfl⟩

theorem wp_unsubscribe (o : Orchestrator) (w : World (Traced σ)) :
    Tracked.wp (unsubscribe p.traced) (fun _ o' _ => o.KeepsTracking o') o w := by
  unfold unsubscribe
  simp only [Tracked.wp_bind, Tracked.wp_current]
  split
  · exact ⟨rfl, rfl⟩
  · simp only [Tracked.wp_focus]
    exact Tracked.wp_of_forall fun _ _ _ => ⟨rfl, rfl⟩

/-- What a scale leaves: the product and the tracking as they were, or the primary with the new
replica count. -/
def Scaled (replicas : Int) (o o' : Orchestrator) : Prop :=
  o'.adapter = o.adapter ∧ (o'.tracking = o.tracking ∨
    ∃ r, o.primary = some r ∧ o'.tracking = ⟨o.auxiliaries, some (r.withReplicas replicas)⟩)

theorem wp_scale (replicas : Int) (wait : Bool) (o : Orchestrator) (w : World (Traced σ)) :
    Tracked.wp (scale p.traced replicas wait)
      (fun _ o' w' => Scaled replicas o o' ∧ w.Extends CallRecord.IsQuiet w') o w := by
  unfold scale
  simp only [Tracked.wp_bind, Tracked.wp_current]
  split
  · rename_i r hr
    simp only [Tracked.wp_bind, Tracked.wp_pure, Tracked.wp_lift, Run.wp_mk]
    refine (quiet_captureBaseline p _).wp fun x w1 h1 => ?_
    cases x with
    | error e => exact ⟨⟨rfl, .inl rfl⟩, h1⟩
    | ok b =>
      refine Run.wp_mono (Lifecycle.wp_scale p r.handle replicas w1) fun x w2 ⟨h2, hh⟩ => ?_
      cases x with
      | error e => exact ⟨⟨rfl, .inl rfl⟩, h1.trans h2⟩
      | ok h =>
        obtain rfl := hh h rfl
        dsimp only
        simp only [Tracked.wp_update]
        -- the wait, if asked for, neither changes the tracking nor makes a mutation
        refine Tracked.Frame.wp ?_ fun _ w3 h3 =>
          ⟨⟨rfl, .inr ⟨r, hr, rfl⟩⟩, h1.trans (h2.trans h3)⟩
        split
        · exact Tracked.Frame.bind (frame_awaitReady p _ _ _) fun _ => Tracked.Frame.ofExcept _
        · exact Tracked.Frame.bind (Tracked.Frame.pure _) fun _ => Tracked.Frame.ofExcept _
  · simp only [Tracked.wp_bind, Tracked.wp_throw]
    exact ⟨⟨rfl, .inl rfl⟩, .refl w⟩

/-- What an undeploy leaves: the tracking taken apart by the deletes it made, with the primary
dropped only when the undeploy answers. -/
def Undeployed (o : Orchestrator) (w : World (Traced σ)) (r : Except ProvisionError Unit)
    (o' : Orchestrator) (w' : World (Traced σ)) : Prop :=
  o'.adapter = o.adapter ∧
    ∃ ds, w'.mutations = w.mutations ++ ds ∧ Unwinds o.tracking ds o'.tracking ∧
      (o.primary.isSome → o'.primary = none → r = .ok ())

theorem wp_undeploy (o : Orchestrator) (w : World (Traced σ)) :
    Tracked.wp (undeploy p.traced) (Undeployed o w) o w := by
  unfold undeploy
  simp only [Tracked.wp_bind, Tracked.wp_current]
  -- after the auxiliaries `done`, taken from the end, exactly those are no longer tracked
  refine Tracked.wp_forIn (fun done _ o₁ w₁ => o₁.adapter = o.adapter ∧ o₁.primary = o.primary ∧
      o₁.auxiliaries ++ done.reverse = o.auxiliaries ∧
      ∃ ds, w₁.mutations = w.mutations ++ ds ∧ Unwinds o.tracking ds o₁.tracking)
    ⟨rfl, rfl, List.append_nil _, [], (List.append_nil _).symm, .refl _⟩ ?_ ?_
  · intro done x rest _ o₁ w₁ hl ⟨ha, hp, haux, ds, hds, hu⟩
    have hsplit : o₁.auxiliaries = rest.reverse ++ [x] := by
      have ho : o.auxiliaries = rest.reverse ++ [x] ++ done.reverse := by
        rw [← List.reverse_reverse o.auxiliaries, hl]
        simp
      rw [ho] at haux
      exact List.append_cancel_right haux
    have ht : o₁.tracking = ⟨rest.reverse ++ [x], o₁.primary⟩ := Tracking.ext hsplit rfl
    simp only [Tracked.wp_bind, Tracked.wp_lift]
    refine Run.wp_mono (Lifecycle.wp_delete p x.handle w₁) fun r w₂ ⟨h₂, _⟩ => ?_
    cases r with
    | error e =>
      -- the delete failed: the auxiliary stays tracked and the undeploy stops
      refine ⟨ha, ds ++ [⟨.delete, x.ref, false⟩], ?_, hu.snoc (ht ▸ .auxFailed _ _ _), ?_⟩
      · rw [h₂, hds, List.append_assoc]
        rfl
      · intro hsome hnone
        rw [hp] at hnone
        simp [hnone] at hsome
    | ok a =>
      simp only [Tracked.wp_update, Tracked.wp_pure]
      refine ⟨ha, hp, ?_, ds ++ [⟨.delete, x.ref, true⟩], ?_, ?_⟩
      · show o₁.auxiliaries.dropLast ++ (done ++ [x]).reverse = o.auxiliaries
        rw [hsplit, List.dropLast_concat, List.reverse_append, ← haux, hsplit]
        simp
      · rw [h₂, hds, List.append_assoc]
        rfl
      · have hdrop : o₁.auxiliaries.dropLast = rest.reverse := by
          rw [hsplit, List.dropLast_concat]
        refine hu.snoc ?_
        show UnwindStep o₁.tracking _ ⟨o₁.auxiliaries.dropLast, o₁.primary⟩
        rw [ht, hdrop]
        exact .auxDeleted _ _ _
  · -- no auxiliary is left; the primary, if any, goes next
    intro _ o₁ w₁ ⟨ha, hp, haux, ds, hds, hu⟩
    have hnil : o₁.auxiliaries = [] := by simpa using haux
    dsimp only
    split
    · rename_i hnone
      exact ⟨ha, ds, hds, hu, fun hsome => by simp [hnone] at hsome⟩
    · rename_i P hP
      have ht : o₁.tracking = ⟨[], some P⟩ := Tracking.ext hnil (hp.trans hP)
      simp only [Tracked.wp_bind, Tracked.wp_lift]
      refine Run.wp_mono (Lifecycle.wp_delete p P.handle w₁) fun r w₂ ⟨h₂, hh⟩ => ?_
      cases r with
      | error e =>
        refine ⟨ha, ds ++ [⟨.delete, P.ref, false⟩], ?_, hu.snoc (ht ▸ .primaryFailed P), ?_⟩
        · rw [h₂, hds, List.append_assoc]
          rfl
        · intro _ hnone
          rw [hp, hP] at hnone
          cases hnone
      | ok a =>
        obtain ⟨gone, h⟩ := a
        obtain rfl := hh gone h rfl
        have hm₂ : w₂.mutations = w.mutations ++ (ds ++ [⟨.delete, P.ref, true⟩]) := by
          rw [h₂, hds, List.append_assoc]
          rfl
        dsimp only
        simp only [Tracked.wp_update]
        refine (Lifecycle.appends_waitAbsent p _ _ (by intro _ h; cases h)).wp fun x w₃ h₃ => ?_
        have hm₃ := h₃.mutations_eq.trans hm₂
        -- the delete succeeded: the primary is marked deleted, and dropped once it is gone
        have hdel : Unwinds o.tracking (ds ++ [⟨.delete, P.ref, true⟩])
            ⟨o₁.auxiliaries, some P.markDeleted⟩ :=
          hnil ▸ hu.snoc (ht ▸ .primaryDeleted P)
        have hgone : Unwinds o.tracking (ds ++ [⟨.delete, P.ref, true⟩]) ⟨o₁.auxiliaries, none⟩ :=
          hnil ▸ hu.snoc (ht ▸ .primaryGone P)
        cases x with
        | error e => exact ⟨ha, _, hm₃, hdel, fun _ h => nomatch h⟩
        | ok outcome =>
          simp only [orFail, Tracked.wp_ofExcept]
          split
          · simp only [Tracked.wp_log]
            exact ⟨ha, _, hm₃, hgone, fun _ _ => rfl⟩
          · exact ⟨ha, _, hm₃, hdel, fun _ h => nomatch h⟩

/-- What a deploy leaves: nothing changed when it does not start, and otherwise, from nothing
tracked, the plan created in order up to the first create that failed, with what was created
tracked. -/
def Deployed (o : Orchestrator) (w : World (Traced σ)) (o' : Orchestrator)
    (w' : World (Traced σ)) : Prop :=
  o'.adapter = o.adapter ∧
    ((o'.tracking = o.tracking ∧ w'.mutations = w.mutations) ∨
     (o.tracking = .empty ∧ ∃ made next, made ++ next <+: o.adapter.plan ∧ next.length ≤ 1 ∧
        w'.mutations = w.mutations ++ createsOf made next ∧ o'.tracking = .ofCreated made))

theorem wp_deploy (o : Orchestrator) (w : World (Traced σ)) :
    Tracked.wp (deploy p.traced) (fun _ o' w' => Deployed o w o' w') o w := by
  unfold deploy
  simp only [Tracked.wp_bind, Tracked.wp_current]
  split
  · simp only [Tracked.wp_bind, Tracked.wp_throw]
    exact ⟨rfl, .inl ⟨rfl, rfl⟩⟩
  split
  · simp only [Tracked.wp_bind, Tracked.wp_throw]
    exact ⟨rfl, .inl ⟨rfl, rfl⟩⟩
  rename_i hidle
  have hempty : o.tracking = .empty := by
    simp only [Bool.or_eq_true, Option.isSome_iff_ne_none, Bool.not_eq_true',
      List.isEmpty_eq_false_iff, not_or, ne_eq, Decidable.not_not] at hidle
    exact Tracking.ext hidle.2 hidle.1
  simp only [Tracked.wp_bind, orFail, Tracked.wp_ofExcept]
  cases hp : o.adapter.primary with
  | error e => exact ⟨rfl, .inl ⟨rfl, rfl⟩⟩
  | ok P =>
  cases ha : o.adapter.auxiliaries with
  | error e => exact ⟨rfl, .inl ⟨rfl, rfl⟩⟩
  | ok A =>
  have hplan : o.adapter.plan = P :: A := by
    rw [ProductAdapter.plan, hp, ha]
  dsimp only
  simp only [Tracked.wp_lift, Run.wp_mk]
  refine (quiet_captureBaseline p _).wp fun x w₁ h₁ => ?_
  have hm₁ := h₁.mutations_eq
  cases x with
  | error e => exact ⟨rfl, .inl ⟨rfl, hm₁⟩⟩
  | ok b =>
  simp only [Tracked.wp_update]
  refine Run.wp_mono (Lifecycle.wp_create p P.handle P.manifest w₁) ?_
  rintro x w₂ ⟨h₂, hh⟩
  cases x with
  | error e =>
    -- the primary's create failed: nothing is tracked
    refine ⟨rfl, .inr ⟨hempty, [], [P], ⟨A, by rw [hplan]; rfl⟩, by simp, ?_, hempty⟩⟩
    rw [h₂, hm₁]
    rfl
  | ok h =>
  obtain rfl := hh h rfl
  have hm₂ : w₂.mutations = w.mutations ++ createsOf [P] [] := by
    rw [h₂, hm₁]
    rfl
  dsimp only
  -- the auxiliaries `done` are created and tracked, in order, after the primary
  have haux : o.auxiliaries = [] := congrArg Tracking.auxiliaries hempty
  refine Tracked.wp_forIn (fun done _ (o₃ : Orchestrator) (w₃ : World (Traced σ)) =>
      o₃.adapter = o.adapter ∧ o₃.tracking = Tracking.ofCreated (P :: done) ∧
        w₃.mutations = w.mutations ++ createsOf (P :: done) [])
    ⟨rfl, Tracking.ext haux rfl, hm₂⟩ ?_ ?_
  · rintro done x rest _ o₃ w₃ hA ⟨ha₃, ht₃, hm₃⟩
    simp only [Tracked.wp_bind, Tracked.wp_lift]
    refine Run.wp_mono (Lifecycle.wp_create p x.handle x.manifest w₃) ?_
    rintro r w₄ ⟨h₄, hh₄⟩
    cases r with
    | error e =>
      -- this create failed: what was created stays tracked and the deploy stops
      refine ⟨ha₃, .inr ⟨hempty, P :: done, [x], ⟨rest, ?_⟩, by simp, ?_, ht₃⟩⟩
      · rw [hplan, hA]
        simp
      · rw [h₄, hm₃, List.append_assoc, createsOf_next_single]
        rfl
    | ok h =>
      obtain rfl := hh₄ h rfl
      simp only [Tracked.wp_update, Tracked.wp_pure]
      refine ⟨ha₃, ?_, ?_⟩
      · have haux₃ : o₃.auxiliaries = done.map ManagedResource.markCreated :=
          congrArg Tracking.auxiliaries ht₃
        have hprim₃ : o₃.primary = some P.markCreated := congrArg Tracking.primary ht₃
        refine Tracking.ext ?_ hprim₃
        show o₃.auxiliaries ++ [x.markCreated] = (done ++ [x]).map ManagedResource.markCreated
        rw [haux₃, List.map_append]
        rfl
      · rw [h₄, hm₃, List.append_assoc, ← List.cons_append, createsOf_made_snoc]
        rfl
  · rintro _ o₃ w₃ ⟨ha₃, ht₃, hm₃⟩
    -- the whole plan was created; the waits that follow only read the cluster
    have hpost : ∀ w', w₃.Extends CallRecord.IsQuiet w' → Deployed o w o₃ w' := fun w' h' =>
      ⟨ha₃, .inr ⟨hempty, P :: A, [], ⟨[], by rw [List.append_nil, List.append_nil, hplan]⟩,
        Nat.zero_le _, h'.mutations_eq.trans hm₃, ht₃⟩⟩
    dsimp only
    refine (frame_awaitReady p _ _ _).wp fun x w₄ h₄ => ?_
    cases x with
    | error e => exact hpost w₄ h₄
    | ok outcome =>
      dsimp only
      split
      · simp only [Tracked.wp_current]
        refine (Tracked.Frame.forIn _ _ fun _ _ => ?_ : Tracked.Frame CallRecord.IsQuiet _).wp
          fun x w₅ h₅ => ?_
        · refine Tracked.Frame.bind (frame_awaitReady p _ _ _) fun _ => ?_
          split
          · exact Tracked.Frame.bind (Tracked.Frame.ofExcept _) fun _ => Tracked.Frame.pure _
          · split
            · exact Tracked.Frame.bind (Tracked.Frame.log _ _ _) fun _ => Tracked.Frame.pure _
            · exact Tracked.Frame.pure _
        · cases x with
          | error e => exact hpost w₅ (h₄.trans h₅)
          | ok _ => exact hpost _ (h₄.trans (h₅.trans (.of_eq rfl)))
      · exact hpost w₄ h₄

/-- What an adopt leaves: the primary tracked if none was and it exists, and auxiliaries of the
plan, in plan order, tracked if none were. -/
def Adopted (o o' : Orchestrator) : Prop :=
  o'.adapter = o.adapter ∧
    (o'.primary = o.primary ∨
      o.primary = none ∧ ∃ r, o.adapter.primary = .ok r ∧ o'.primary = some r.markCreated) ∧
    (o'.auxiliaries = o.auxiliaries ∨ o.auxiliaries = [] ∧
      o'.auxiliaries.Sublist (o.adapter.auxiliaryPlan.map ManagedResource.markCreated))

/-- What the auxiliary half of an adopt leaves, started from `o` and `w`: no mutation, the
primary as it was, and auxiliaries of the plan of `adapter`, in plan order, tracked if none
were. -/
def AdoptedAuxiliaries (adapter : ProductAdapter) (o : Orchestrator) (w : World (Traced σ))
    (_ : Except ProvisionError Unit) (o' : Orchestrator) (w' : World (Traced σ)) : Prop :=
  (o'.adapter = o.adapter ∧ o'.primary = o.primary ∧
    (o'.auxiliaries = o.auxiliaries ∨ o.auxiliaries = [] ∧
      o'.auxiliaries.Sublist (adapter.auxiliaryPlan.map ManagedResource.markCreated))) ∧
  w.Extends CallRecord.IsQuiet w'

theorem wp_adopt (o : Orchestrator) (w : World (Traced σ)) :
    Tracked.wp (adopt p.traced) (fun _ o' w' => Adopted o o' ∧ w.Extends CallRecord.IsQuiet w')
      o w := by
  unfold adopt
  rw [Tracked.wp_bind, Tracked.wp_current]
  dsimp only
  rw [Tracked.wp_ite]
  split
  · rw [Tracked.wp_bind, Tracked.wp_throw]
    exact ⟨⟨rfl, .inl rfl, .inl rfl⟩, .refl w⟩
  rw [Tracked.wp_bind, Tracked.wp_focus]
  refine Tracked.wp_mono (SubscriptionManager.adopt_spec p _ w) fun x n w₁ h₁ => ?_
  have hq₁ : w.Extends CallRecord.IsQuiet w₁ := let ⟨L, hL, hq, _⟩ := h₁; ⟨L, hL, hq⟩
  cases x with
  | error e => exact ⟨⟨rfl, .inl rfl, .inl rfl⟩, hq₁⟩
  | ok _ =>
  dsimp only
  rw [Tracked.wp_bind, Tracked.wp_current]
  dsimp only
  rw [Tracked.wp_ite]
  -- the auxiliary half follows each way through the primary half: each way weakens what it
  -- leaves, from any state, to what the adopt promises, and it is proved once at the end
  split
  case' isFalse =>
    refine Tracked.wp_mono
        ((?_ : ∀ m v, Tracked.wp _ (AdoptedAuxiliaries o.adapter m v) m v) _ _)
      fun _ o₃ w₃ ⟨⟨ha₃, hp₃, hx₃⟩, hq₃⟩ => ⟨⟨ha₃, .inl hp₃, hx₃⟩, hq₁.trans hq₃⟩
  case' isTrue =>
    rename_i hnone
    rw [Tracked.wp_bind, orFail, Tracked.wp_ofExcept]
    rcases hp : o.adapter.primary with e | P
    · exact ⟨⟨rfl, .inl rfl, .inl rfl⟩, hq₁⟩
    dsimp only
    rw [Tracked.wp_bind, Tracked.wp_lift]
    refine (Lifecycle.appends_isPresent p P.handle).wp fun x w₂ h₂ => ?_
    rcases x with e | present
    · exact ⟨⟨rfl, .inl rfl, .inl rfl⟩, hq₁.trans h₂⟩
    dsimp only
    rw [Tracked.wp_ite]
    split
    case' isFalse =>
      refine Tracked.wp_mono
          ((?_ : ∀ m v, Tracked.wp _ (AdoptedAuxiliaries o.adapter m v) m v) _ _)
        fun _ o₃ w₃ ⟨⟨ha₃, hp₃, hx₃⟩, hq₃⟩ => ⟨⟨ha₃, .inl hp₃, hx₃⟩, hq₁.trans (h₂.trans hq₃)⟩
    case' isTrue =>
      -- the primary exists: it is tracked, marked created
      rw [Tracked.wp_bind, Tracked.wp_log]
      dsimp only
      rw [Tracked.wp_bind, Tracked.wp_update]
      dsimp only
      refine Tracked.wp_mono
          ((?_ : ∀ m v, Tracked.wp _ (AdoptedAuxiliaries o.adapter m v) m v) _ _)
        fun _ o₃ w₃ ⟨⟨ha₃, hp₃, hx₃⟩, hq₃⟩ =>
          ⟨⟨ha₃, .inr ⟨by simpa using hnone, P, hp, hp₃⟩, hx₃⟩,
            hq₁.trans (h₂.trans ((World.Extends.of_eq rfl).trans hq₃))⟩
  all_goals
    intro m v
    rw [Tracked.wp_bind, Tracked.wp_current]
    dsimp only
    rw [Tracked.wp_ite]
    split
    · rename_i hempty
      have hnil : m.auxiliaries = [] := List.isEmpty_iff.mp hempty
      rw [Tracked.wp_bind, orFail, Tracked.wp_ofExcept]
      rcases hA : o.adapter.auxiliaries with e | A
      · exact ⟨⟨rfl, rfl, .inl rfl⟩, .refl v⟩
      have hplan : o.adapter.auxiliaryPlan = A := by
        rw [ProductAdapter.auxiliaryPlan, hA]
      dsimp only
      rw [Tracked.wp_bind]
      -- those of the auxiliaries `done` that were found are tracked, in plan order
      refine Tracked.wp_forIn (fun done _ (o₃ : Orchestrator) (w₃ : World (Traced σ)) =>
          o₃.adapter = m.adapter ∧ o₃.primary = m.primary ∧
            o₃.auxiliaries.Sublist (done.map ManagedResource.markCreated) ∧
            v.Extends CallRecord.IsQuiet w₃)
        ⟨rfl, rfl, by rw [hnil]; exact List.Sublist.slnil, .refl v⟩ ?_ ?_
      · intro done x rest _ o₃ w₃ hl ⟨ha₃, hp₃, hx₃, hq₃⟩
        have hdone : (done.map ManagedResource.markCreated).Sublist
            (A.map ManagedResource.markCreated) := by
          rw [hl]
          exact (List.sublist_append_left _ _).map _
        rw [Tracked.wp_bind, Tracked.wp_lift]
        refine (Lifecycle.appends_isPresent p x.handle).wp fun r w₄ h₄ => ?_
        rcases r with e | present
        · refine ⟨⟨ha₃, hp₃, .inr ⟨hnil, ?_⟩⟩, hq₃.trans h₄⟩
          rw [hplan]
          exact hx₃.trans hdone
        dsimp only
        rw [Tracked.wp_ite]
        split
        · simp only [Tracked.wp_bind, Tracked.wp_log, Tracked.wp_update, Tracked.wp_pure]
          refine ⟨ha₃, hp₃, ?_, hq₃.trans (h₄.trans (.of_eq rfl))⟩
          show (o₃.auxiliaries ++ [x.markCreated]).Sublist _
          rw [List.map_append]
          exact hx₃.append (List.Sublist.refl _)
        · rw [Tracked.wp_pure]
          exact ⟨ha₃, hp₃, hx₃.trans ((List.sublist_append_left _ _).map _), hq₃.trans h₄⟩
      · intro _ o₃ w₃ ⟨ha₃, hp₃, hx₃, hq₃⟩
        dsimp only
        rw [Tracked.wp_pure]
        refine ⟨⟨ha₃, hp₃, .inr ⟨hnil, ?_⟩⟩, hq₃⟩
        rw [hplan]
        exact hx₃
    · rw [Tracked.wp_pure]
      exact ⟨⟨rfl, rfl, .inl rfl⟩, .refl v⟩

end Orchestrator

end Calls

/-- A call a client makes on an orchestrator. -/
inductive OrchestratorCall where
  | configure (config : ConfigSource)
  | subscribe
  | deploy
  | scale (replicas : Int) (wait : Bool)
  | undeploy
  | unsubscribe
  | adopt

namespace OrchestratorCall

variable {σ : Type} (p : Platform σ)

/-- The call on the traced platform `p`; what it answers is dropped. -/
def run : OrchestratorCall → Tracked Orchestrator (Traced σ) Unit
  | configure config => do let _ ← Orchestrator.configure config; pure ()
  | subscribe => Orchestrator.subscribe p.traced
  | deploy => Orchestrator.deploy p.traced
  | scale replicas wait => Orchestrator.scale p.traced replicas wait
  | undeploy => Orchestrator.undeploy p.traced
  | unsubscribe => Orchestrator.unsubscribe p.traced
  | adopt => Orchestrator.adopt p.traced

/-- Whether the call is about the product's resources: all calls but those on the
subscription. -/
def managesResources : OrchestratorCall → Bool
  | subscribe | unsubscribe => false
  | _ => true

/-- The creates and deletes of the product's resources the call made, between the world `w`
before it and `w'` after it: all those it made, unless it is a call on the subscription. -/
def resourceMutations (call : OrchestratorCall) (w w' : World (Traced σ)) : List Mutation :=
  if call.managesResources then w'.mutations.drop w.mutations.length else []

theorem resourceMutations_eq {call : OrchestratorCall} (hc : call.managesResources = true)
    {w w' : World (Traced σ)} {M : List Mutation} (hM : w'.mutations = w.mutations ++ M) :
    call.resourceMutations w w' = M := by
  rw [resourceMutations, if_pos hc, hM, List.drop_left]

theorem resourceMutations_quiet {call : OrchestratorCall} {w w' : World (Traced σ)}
    (hq : w.Extends CallRecord.IsQuiet w') : call.resourceMutations w w' = [] := by
  unfold resourceMutations
  split
  · rw [hq.mutations_eq, List.drop_length]
  · rfl

theorem wp_tracking (call : OrchestratorCall) (o : Orchestrator) (w : World (Traced σ)) :
    Tracked.wp (call.run p) (fun _ o' w' => o'.adapter = o.adapter ∧
      TrackingStep o.adapter o.tracking (call.resourceMutations w w') o'.tracking) o w := by
  cases call with
  | configure config =>
    rw [run, Tracked.wp_bind]
    refine Tracked.wp_mono (Orchestrator.wp_configure config o w) fun x o' w' ⟨⟨ha, ht⟩, hq⟩ => ?_
    have hstep : TrackingStep o.adapter o.tracking ((configure config).resourceMutations w w')
        o'.tracking := by
      rw [resourceMutations_quiet hq, ht]
      exact .keep _
    cases x with
    | error e => exact ⟨ha, hstep⟩
    | ok _ => exact ⟨ha, hstep⟩
  | subscribe =>
    refine Tracked.wp_mono (Orchestrator.wp_subscribe p o w) fun _ o' _ ⟨ha, ht⟩ => ⟨ha, ?_⟩
    rw [ht]
    exact .keep _
  | deploy =>
    refine Tracked.wp_mono (Orchestrator.wp_deploy p o w) fun _ o' w' ⟨ha, hd⟩ => ⟨ha, ?_⟩
    rcases hd with ⟨ht, hm⟩ | ⟨hempty, made, next, hplan, hnext, hm, ht⟩
    · rw [resourceMutations_eq rfl (hm.trans (List.append_nil _).symm), ht]
      exact .keep _
    · rw [resourceMutations_eq rfl hm, hempty, ht]
      exact .deploy made next hplan hnext
  | scale replicas wait =>
    refine Tracked.wp_mono (Orchestrator.wp_scale p replicas wait o w)
      fun _ o' w' ⟨⟨ha, hs⟩, hq⟩ => ⟨ha, ?_⟩
    rw [resourceMutations_quiet hq]
    rcases hs with ht | ⟨r, hr, ht⟩
    · rw [ht]
      exact .keep _
    · rw [ht, show o.tracking = ⟨o.auxiliaries, some r⟩ from Tracking.ext rfl hr]
      exact .rescale _ _ _
  | undeploy =>
    refine Tracked.wp_mono (Orchestrator.wp_undeploy p o w)
      fun _ o' w' ⟨ha, ds, hm, hu, _⟩ => ⟨ha, ?_⟩
    rw [resourceMutations_eq rfl hm]
    exact .unwind hu
  | unsubscribe =>
    refine Tracked.wp_mono (Orchestrator.wp_unsubscribe p o w) fun _ o' _ ⟨ha, ht⟩ => ⟨ha, ?_⟩
    rw [ht]
    exact .keep _
  | adopt =>
    refine Tracked.wp_mono (Orchestrator.wp_adopt p o w)
      fun _ o' w' ⟨⟨ha, hp, hx⟩, hq⟩ => ⟨ha, ?_⟩
    rw [resourceMutations_quiet hq]
    exact .adopt hp hx

/-- Only an undeploy that answers stops tracking the primary, and only after a delete of it
succeeded. -/
theorem wp_primary_dropped (call : OrchestratorCall) (o : Orchestrator) (w : World (Traced σ)) :
    Tracked.wp (call.run p) (fun r o' w' => ∀ P, o.primary = some P → o'.primary = none →
      call = .undeploy ∧ r = .ok () ∧ ⟨.delete, P.ref, true⟩ ∈ call.resourceMutations w w')
      o w := by
  -- every call but an undeploy keeps the primary it started with, or starts with none
  have kept : ∀ {o' : Orchestrator}, o'.primary = o.primary → ∀ P, o.primary = some P →
      o'.primary = none → False := by
    intro o' hkeep P hP hgone
    rw [hkeep, hP] at hgone
    cases hgone
  cases call with
  | configure config =>
    rw [run, Tracked.wp_bind]
    refine Tracked.wp_mono (Orchestrator.wp_configure config o w) fun x o' w' ⟨⟨_, ht⟩, _⟩ => ?_
    have hkeep := kept (congrArg Tracking.primary ht)
    cases x with
    | error e => exact fun P hP hgone => (hkeep P hP hgone).elim
    | ok _ => exact fun P hP hgone => (hkeep P hP hgone).elim
  | subscribe =>
    exact Tracked.wp_mono (Orchestrator.wp_subscribe p o w) fun _ _ _ ⟨_, ht⟩ P hP hgone =>
      (kept (congrArg Tracking.primary ht) P hP hgone).elim
  | deploy =>
    refine Tracked.wp_mono (Orchestrator.wp_deploy p o w) fun _ o' _ ⟨_, hd⟩ P hP hgone => ?_
    rcases hd with ⟨ht, _⟩ | ⟨hempty, _⟩
    · exact (kept (congrArg Tracking.primary ht) P hP hgone).elim
    · have hnone : o.primary = none := congrArg Tracking.primary hempty
      rw [hnone] at hP
      cases hP
  | scale replicas wait =>
    refine Tracked.wp_mono (Orchestrator.wp_scale p replicas wait o w)
      fun _ o' _ ⟨⟨_, hs⟩, _⟩ P hP hgone => ?_
    rcases hs with ht | ⟨r, _, ht⟩
    · exact (kept (congrArg Tracking.primary ht) P hP hgone).elim
    · have hscaled : o'.primary = some (r.withReplicas replicas) := congrArg Tracking.primary ht
      rw [hscaled] at hgone
      cases hgone
  | undeploy =>
    refine Tracked.wp_mono (Orchestrator.wp_undeploy p o w)
      fun r o' w' ⟨_, ds, hm, hu, hr⟩ P hP hgone => ⟨rfl, hr (by rw [hP]; rfl) hgone, ?_⟩
    rw [resourceMutations_eq rfl hm]
    exact hu.primary_deleted hP hgone
  | unsubscribe =>
    exact Tracked.wp_mono (Orchestrator.wp_unsubscribe p o w) fun _ _ _ ⟨_, ht⟩ P hP hgone =>
      (kept (congrArg Tracking.primary ht) P hP hgone).elim
  | adopt =>
    refine Tracked.wp_mono (Orchestrator.wp_adopt p o w)
      fun _ o' _ ⟨⟨_, hp, _⟩, _⟩ P hP hgone => ?_
    rcases hp with hkeep | ⟨hnone, _⟩
    · exact (kept hkeep P hP hgone).elim
    · rw [hnone] at hP
      cases hP

end OrchestratorCall

end OlmProvision
