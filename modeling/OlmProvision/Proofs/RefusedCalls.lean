import OlmProvision.Proofs.TrackingInvariant

/-
Calls made out of order are refused before they touch anything.

An orchestrator checks a call's precondition before it calls the platform: subscribing,
deploying and adopting need a configure first, deploying needs nothing tracked, scaling needs a
tracked primary, and subscribing needs the subscription to be absent. What is proved:

1. `Tracked.Keeps`: a computation that leaves a part of the local state alone, built up from its
   parts as `Tracked.Frame` is. Scaling and undeploying keep what a configure sets up
   (`Orchestrator.keeps_setup_scale`, `Orchestrator.keeps_setup_undeploy`).
2. `Tracked.Answers`: a computation that answers at once and changes neither the local state nor
   the world. Each call refused for its precondition answers its lifecycle error so; an undeploy
   with nothing tracked and an unsubscribe with no subscription answer success so.
3. A subscribe refused for the subscription's state first lists events, the one call it makes,
   and answers that listing's failure or the refusal (`Orchestrator.subscribe_not_absent`).
4. `Orchestrator.wp_configure_setup`: a configure calls nothing. It fails with the first of its
   two resolutions to fail, leaving the orchestrator as it was, or sets up the descriptor and the
   timings and keeps the subscription it had.
5. `Orchestrator.Unconfigured`: no descriptor and no subscription. Every call keeps it but a
   configure that succeeds (`Unconfigured.step`), so it holds after every run from a new
   orchestrator whose configures all fail (`Unconfigured.runCalls`).
-/
namespace OlmProvision

namespace Tracked

variable {μ ν σ α β γ : Type} {π : μ → ν}

/-- `t` leaves the part `π` of the local state as it is, from every local state and world,
whether it fails or not. -/
def Keeps (π : μ → ν) (t : Tracked μ σ α) : Prop :=
  ∀ m w, wp t (fun _ m' _ => π m' = π m) m w

namespace Keeps

theorem wp {t : Tracked μ σ α} {Q : Except ProvisionError α → μ → World σ → Prop} {m : μ}
    {w : World σ} (h : Keeps π t) (hQ : ∀ x m' w', π m' = π m → Q x m' w') :
    Tracked.wp t Q m w :=
  wp_mono (h m w) hQ

theorem pure (a : α) : Keeps π (pure a : Tracked μ σ α) := fun _ _ => rfl

theorem throw (e : ProvisionError) : Keeps π (throw e : Tracked μ σ α) := fun _ _ => rfl

theorem bind {t : Tracked μ σ α} {f : α → Tracked μ σ β} (ht : Keeps π t)
    (hf : ∀ a, Keeps π (f a)) : Keeps π (t >>= f) := by
  intro m w
  rw [wp_bind]
  refine ht.wp fun x m' w' hm => ?_
  cases x with
  | error e => exact hm
  | ok a => exact (hf a).wp fun _ _ _ hm' => hm'.trans hm

theorem throw_bind (e : ProvisionError) (f : α → Tracked μ σ β) :
    Keeps π ((MonadExcept.throw e : Tracked μ σ α) >>= f) :=
  fun _ _ => rfl

theorem lift (r : Run σ α) : Keeps π (Tracked.lift r : Tracked μ σ α) := fun _ _ => rfl

theorem current : Keeps π (current : Tracked μ σ μ) := fun _ _ => rfl

theorem log (source : LogSource) (level : LogLevel) (message : String) :
    Keeps π (log source level message : Tracked μ σ Unit) := fun _ _ => rfl

theorem update {f : μ → μ} (hf : ∀ m, π (f m) = π m) : Keeps π (update f : Tracked μ σ Unit) :=
  fun m _ => hf m

theorem ofExcept (x : Except ProvisionError α) : Keeps π (ofExcept x : Tracked μ σ α) := by
  cases x with
  | error e => exact throw e
  | ok a => exact pure a

theorem forIn (l : List γ) (b : β) {f : γ → β → Tracked μ σ (ForInStep β)}
    (hf : ∀ x b, Keeps π (f x b)) : Keeps π (forIn l b f) := by
  induction l generalizing b with
  | nil => exact pure b
  | cons x l ih =>
    rw [List.forIn_cons]
    refine bind (hf x b) fun step => ?_
    cases step with
    | done b' => exact pure b'
    | yield b' => exact ih b'

end Keeps

/-- From the local state `m` and the world `w`, `t` answers `r` at once: it changes neither the
local state nor the world, so it calls nothing and logs nothing. -/
def Answers (t : Tracked μ σ α) (r : Except ProvisionError α) (m : μ) (w : World σ) : Prop :=
  wp t (fun r' m' w' => r' = r ∧ m' = m ∧ w' = w) m w

theorem Answers.wp {t : Tracked μ σ α} {r : Except ProvisionError α} {m : μ} {w : World σ}
    {Q : Except ProvisionError α → μ → World σ → Prop} (h : Answers t r m w) (hQ : Q r m w) :
    Tracked.wp t Q m w :=
  wp_mono h fun _ _ _ ⟨hr, hm, hw⟩ => hr ▸ hm ▸ hw ▸ hQ

end Tracked

namespace Orchestrator

section Guards

variable {σ : Type} (platform : Platform σ)

/-- What a configure sets up, with the product it is for. -/
def setup (o : Orchestrator) :
    ProductAdapter × Option OperatorDescriptor × WaitPolicy × Option SubscriptionManager :=
  (o.adapter, o.descriptor, o.waitPolicy, o.subscription)

theorem keeps_setup_scale (replicas : Int) (wait : Bool) :
    Tracked.Keeps setup (scale platform replicas wait) := by
  unfold scale
  refine .bind .current fun o => ?_
  -- the join point after the match on the primary is inlined into both branches
  dsimp only
  split
  · refine .bind (.pure _) fun r => .bind (.lift _) fun b => .bind (.lift _) fun h =>
      .bind (.update fun _ => rfl) fun _ => ?_
    split
    · exact .bind (.lift _) fun _ => .ofExcept _
    · exact .bind (.pure _) fun _ => .ofExcept _
  · exact .throw_bind _ _

theorem keeps_setup_undeploy : Tracked.Keeps setup (undeploy platform) := by
  unfold undeploy
  refine .bind .current fun o => .bind (.forIn _ _ fun aux _ =>
    .bind (.lift _) fun _ => .bind (.update fun _ => rfl) fun _ => .pure _) fun _ => ?_
  split
  · exact .pure _
  · exact .bind (.lift _) fun _ => .bind (.update fun _ => rfl) fun _ => .bind (.lift _)
      fun _ => .bind (.ofExcept _) fun _ => .bind (.update fun _ => rfl) fun _ => .log _ _ _

theorem subscribe_before_configure (o : Orchestrator) (w : World σ)
    (h : o.descriptor = none ∨ o.subscription = none) :
    Tracked.Answers (subscribe platform) (.error (.lifecycle "subscribe" "before configure"))
      o w := by
  unfold Tracked.Answers subscribe
  rw [Tracked.wp_bind, Tracked.wp_current]
  cases hd : o.descriptor with
  | none => simp [hd]
  | some d =>
    have hs : o.subscription = none := h.resolve_left (by rw [hd]; nofun)
    simp [hd, hs]

theorem deploy_before_configure (o : Orchestrator) (w : World σ) (hd : o.descriptor = none) :
    Tracked.Answers (deploy platform) (.error (.lifecycle "deploy" "before configure")) o w := by
  unfold Tracked.Answers deploy
  simp [hd]

theorem deploy_while_tracked (o : Orchestrator) (w : World σ) {d : OperatorDescriptor}
    (hd : o.descriptor = some d) (ht : o.primary.isSome ∨ o.auxiliaries ≠ []) :
    Tracked.Answers (deploy platform) (.error (.lifecycle "deploy"
      "while a previous deployment is still tracked, undeploy it first")) o w := by
  unfold Tracked.Answers deploy
  rcases ht with hp | ha
  · obtain ⟨r, hr⟩ := Option.isSome_iff_exists.mp hp
    simp [hd, hr]
  · simp [hd, ha]

theorem adopt_before_configure (o : Orchestrator) (w : World σ) (hs : o.subscription = none) :
    Tracked.Answers (adopt platform) (.error (.lifecycle "adopt" "before configure")) o w := by
  unfold Tracked.Answers adopt
  simp [hs]

theorem scale_before_deploy (replicas : Int) (wait : Bool) (o : Orchestrator) (w : World σ)
    (hp : o.primary = none) :
    Tracked.Answers (scale platform replicas wait) (.error (.lifecycle "scale" "before deploy"))
      o w := by
  unfold Tracked.Answers scale
  simp [hp]

theorem undeploy_of_untracked (o : Orchestrator) (w : World σ) (hp : o.primary = none)
    (ha : o.auxiliaries = []) : Tracked.Answers (undeploy platform) (.ok ()) o w := by
  unfold Tracked.Answers undeploy
  simp [hp, ha]

theorem unsubscribe_of_no_subscription (o : Orchestrator) (w : World σ)
    (hs : o.subscription = none) : Tracked.Answers (unsubscribe platform) (.ok ()) o w := by
  unfold Tracked.Answers unsubscribe
  simp [hs]

end Guards

section Traced

variable {σ : Type} (p : Platform σ)

theorem wp_captureBaseline_traced (ns : String) (w : World (Traced σ)) :
    Step.wp (captureBaseline p.traced ns) (fun x w' =>
      (∃ e, w'.transcript = w.transcript ++ [.listEvents ns (.error e)] ∧
        x = .error (.client ("list events in '" ++ ns ++ "'") e)) ∨
      ∃ evs, w'.transcript = w.transcript ++ [.listEvents ns (.ok evs)] ∧ ∃ b, x = .ok b) w := by
  unfold captureBaseline
  rw [Step.wp_bind]
  refine Traced.wp_call fun a w' hw => ?_
  cases a with
  | error e => exact .inl ⟨e, hw, rfl⟩
  | ok evs =>
    simp only [Step.wp_bind, Step.wp_get, Step.wp_log, Step.wp_pure, World.transcript_logs]
    exact .inr ⟨evs, hw, _, rfl⟩

theorem subscribe_not_absent {o : Orchestrator} {d : OperatorDescriptor}
    (hd : o.descriptor = some d) (hs : o.subscriptionState ≠ .absent) (w : World (Traced σ)) :
    Tracked.wp (subscribe p.traced) (fun r o' w' => o' = o ∧
      ((∃ e, w'.transcript = w.transcript ++ [.listEvents o.adapter.namespaceName (.error e)] ∧
          r = .error (.client ("list events in '" ++ o.adapter.namespaceName ++ "'") e)) ∨
        ∃ evs, w'.transcript = w.transcript ++ [.listEvents o.adapter.namespaceName (.ok evs)] ∧
          r = .error (.lifecycle ("subscribe to '" ++ d.packageManifestId ++ "'")
            ("while the subscription is " ++ o.subscriptionState.name)))) o w := by
  -- a subscription state other than `absent` is the state of a subscription the orchestrator has
  obtain ⟨m, hm, hstate⟩ : ∃ m, o.subscription = some m ∧ m.state ≠ .absent := by
    cases hsub : o.subscription with
    | none => exact absurd (by simp [subscriptionState, hsub]) hs
    | some m => exact ⟨m, rfl, by simpa [subscriptionState, hsub] using hs⟩
  have hname : o.subscriptionState = m.state := by simp [subscriptionState, hm]
  unfold subscribe
  simp only [Tracked.wp_bind, Tracked.wp_current, hd, hm, Option.isNone_some, Bool.false_eq_true,
    if_false, Tracked.wp_pure, Tracked.wp_lift, Run.wp_mk]
  refine Step.wp_mono (wp_captureBaseline_traced p _ w) fun x w' hx => ?_
  rcases hx with ⟨e, hw, rfl⟩ | ⟨evs, hw, b, rfl⟩
  · exact ⟨trivial, .inl ⟨e, hw, rfl⟩⟩
  · dsimp only
    rw [Tracked.wp_focus, hm, Option.getD_some]
    refine SubscriptionManager.subscribe_refused p.traced d _ _ _ _ hstate ?_
    -- the subscription written back is the one read
    have hback : { o with subscription := some m } = o := by
      cases o
      simp_all
    rw [hback, hname]
    exact ⟨rfl, .inr ⟨evs, hw, rfl⟩⟩

theorem wp_resolveDescriptor (config : ConfigSource) (product : String) (w : World (Traced σ)) :
    Run.wp (resolveDescriptor config product : Run (Traced σ) OperatorDescriptor)
      (fun x w' => x = Catalog.resolve config product ∧ w'.transcript = w.transcript) w := by
  unfold resolveDescriptor
  split
  · rename_i e h
    simp [h]
  · rename_i d h
    simp only [Run.wp_bind, Run.wp_log, Run.wp_pure, World.transcript_logs, h, and_self]

/-- What a configure from `config` leaves of `o`, by what it answers. On failure it leaves `o`,
and the error is that of the first resolution to fail, the descriptor's or the timings'. On
success it sets the descriptor it resolved and the timings, and keeps the subscription `o` had,
or starts one for the descriptor's package. -/
def Configured (config : ConfigSource) (o : Orchestrator) :
    Except ProvisionError OperatorDescriptor → Orchestrator → Prop
  | .error e, o' => o' = o ∧ (Catalog.resolve config o.adapter.productId = .error e ∨
      ∃ d, Catalog.resolve config o.adapter.productId = .ok d ∧
        WaitPolicy.fromConfig config o.adapter.productId = .error e)
  | .ok d, o' => Catalog.resolve config o.adapter.productId = .ok d ∧
      ∃ policy, WaitPolicy.fromConfig config o.adapter.productId = .ok policy ∧
        o' = { o with
          descriptor := some d
          waitPolicy := policy
          subscription := some (o.subscription.getD
            (SubscriptionManager.new o.adapter.namespaceName d.packageManifestId)) }

theorem wp_configure_setup (config : ConfigSource) (o : Orchestrator) (w : World (Traced σ)) :
    Tracked.wp (configure config : Tracked Orchestrator (Traced σ) OperatorDescriptor)
      (fun r o' w' => w'.transcript = w.transcript ∧ Configured config o r o') o w := by
  unfold configure
  simp only [Tracked.wp_bind, Tracked.wp_current, Tracked.wp_lift]
  refine Run.wp_mono (wp_resolveDescriptor config _ w) fun x w1 ⟨hx, h1⟩ => ?_
  cases x with
  | error e => exact ⟨h1, rfl, .inl hx.symm⟩
  | ok d =>
    simp only [orFail, Tracked.wp_ofExcept]
    cases hp : WaitPolicy.fromConfig config o.adapter.productId with
    | error e => exact ⟨h1, rfl, .inr ⟨d, hx.symm, hp⟩⟩
    | ok policy =>
      simp only [Tracked.wp_log, Tracked.wp_put, Tracked.wp_pure, World.transcript_logs]
      refine ⟨h1, hx.symm, policy, hp, ?_⟩
      cases o.subscription <;> rfl

end Traced

/-- Whether configuring `product` from `config` succeeds: both its descriptor and its wait
timings resolve. -/
def configures (product : String) (config : ConfigSource) : Bool :=
  (Catalog.resolve config product).isOk && (WaitPolicy.fromConfig config product).isOk

/-- An orchestrator for `adapter` that no configure has set up: it has neither a descriptor nor a
subscription. -/
structure Unconfigured (adapter : ProductAdapter) (o : Orchestrator) : Prop where
  adapter_eq : o.adapter = adapter
  descriptor_eq : o.descriptor = none
  subscription_eq : o.subscription = none

namespace Unconfigured

variable {σ : Type} (p : Platform σ) {adapter : ProductAdapter}

theorem new (adapter : ProductAdapter) : Unconfigured adapter (.new adapter) := ⟨rfl, rfl, rfl⟩

theorem of_setup {o o' : Orchestrator} (h : Unconfigured adapter o) (hs : o'.setup = o.setup) :
    Unconfigured adapter o' := by
  simp only [setup, Prod.mk.injEq] at hs
  obtain ⟨ha, hd, -, hsub⟩ := hs
  exact ⟨ha.trans h.adapter_eq, hd.trans h.descriptor_eq, hsub.trans h.subscription_eq⟩

/-- From an orchestrator no configure has set up, every call leaves one, but a configure from a
configuration that configures the product, which succeeds. -/
theorem step (call : OrchestratorCall) {o : Orchestrator} (h : Unconfigured adapter o)
    (w : World (Traced σ)) :
    Tracked.wp (call.run p) (fun r o' _ => Unconfigured adapter o' ∨
      ∃ config, call = .configure config ∧ configures adapter.productId config = true ∧
        r = .ok ()) o w := by
  cases call with
  | configure config =>
    rw [OrchestratorCall.run, Tracked.wp_bind]
    refine Tracked.wp_mono (wp_configure_setup config o w) ?_
    rintro x o' _ ⟨_, hc⟩
    cases x with
    | error e => exact .inl (hc.1 ▸ h)
    | ok d =>
      obtain ⟨hd, policy, hp, -⟩ := hc
      refine .inr ⟨config, rfl, ?_, rfl⟩
      rw [← h.adapter_eq]
      simp [configures, hd, hp, Except.isOk, Except.toBool]
  | subscribe =>
    exact (subscribe_before_configure _ o w (.inl h.descriptor_eq)).wp (.inl h)
  | deploy => exact (deploy_before_configure _ o w h.descriptor_eq).wp (.inl h)
  | scale replicas wait =>
    exact (keeps_setup_scale _ replicas wait).wp fun _ _ _ hs => .inl (h.of_setup hs)
  | undeploy => exact (keeps_setup_undeploy _).wp fun _ _ _ hs => .inl (h.of_setup hs)
  | unsubscribe => exact (unsubscribe_of_no_subscription _ o w h.subscription_eq).wp (.inl h)
  | adopt => exact (adopt_before_configure _ o w h.subscription_eq).wp (.inl h)

theorem runCalls (calls : List OrchestratorCall) {g : Progress σ}
    (h : Unconfigured adapter g.orchestrator)
    (hc : ∀ config, .configure config ∈ calls → configures adapter.productId config = false) :
    Unconfigured adapter (OlmProvision.runCalls p calls g).orchestrator := by
  induction calls generalizing g with
  | nil => exact h
  | cons call calls ih =>
    obtain ⟨r, hstep⟩ := call.perform_of_wp p (step p call h g.world)
    rcases hstep with h' | ⟨config, rfl, hyes, -⟩
    · exact ih h' fun config hm => hc config (List.mem_cons_of_mem _ hm)
    · rw [hc config List.mem_cons_self] at hyes
      cases hyes

end Unconfigured

end Orchestrator

open Orchestrator in
/-- A call made out of order is refused at once and changes nothing, a configure succeeds or
changes nothing, and an undeploy or unsubscribe with nothing to remove answers success. -/
theorem refused_calls_change_nothing {σ : Type} (p : Platform σ) :
    (∀ (adapter : ProductAdapter) (calls : List OrchestratorCall) (w : World (Traced σ)),
      (∀ config, .configure config ∈ calls → configures adapter.productId config = false) →
      Unconfigured adapter (runCalls p calls ⟨.new adapter, w, []⟩).orchestrator) ∧
    (∀ (o : Orchestrator) (w : World (Traced σ)), o.descriptor = none ∨ o.subscription = none →
      Tracked.Answers (subscribe p.traced) (.error (.lifecycle "subscribe" "before configure"))
        o w) ∧
    (∀ (o : Orchestrator) (w : World (Traced σ)), o.descriptor = none →
      Tracked.Answers (deploy p.traced) (.error (.lifecycle "deploy" "before configure")) o w) ∧
    (∀ (o : Orchestrator) (w : World (Traced σ)), o.subscription = none →
      Tracked.Answers (adopt p.traced) (.error (.lifecycle "adopt" "before configure")) o w ∧
      Tracked.Answers (unsubscribe p.traced) (.ok ()) o w) ∧
    (∀ (o : Orchestrator) (w : World (Traced σ)) (d : OperatorDescriptor),
      o.descriptor = some d → o.primary.isSome ∨ o.auxiliaries ≠ [] →
      Tracked.Answers (deploy p.traced) (.error (.lifecycle "deploy"
        "while a previous deployment is still tracked, undeploy it first")) o w) ∧
    (∀ (o : Orchestrator) (w : World (Traced σ)) (replicas : Int) (wait : Bool),
      o.primary = none →
      Tracked.Answers (scale p.traced replicas wait) (.error (.lifecycle "scale" "before deploy"))
        o w) ∧
    (∀ (o : Orchestrator) (w : World (Traced σ)) (d : OperatorDescriptor),
      o.descriptor = some d → o.subscriptionState ≠ .absent →
      Tracked.wp (subscribe p.traced) (fun r o' w' => o' = o ∧
        ((∃ e, w'.transcript = w.transcript ++ [.listEvents o.adapter.namespaceName (.error e)] ∧
            r = .error (.client ("list events in '" ++ o.adapter.namespaceName ++ "'") e)) ∨
          ∃ evs, w'.transcript = w.transcript ++ [.listEvents o.adapter.namespaceName (.ok evs)] ∧
            r = .error (.lifecycle ("subscribe to '" ++ d.packageManifestId ++ "'")
              ("while the subscription is " ++ o.subscriptionState.name)))) o w) ∧
    (∀ (config : ConfigSource) (o : Orchestrator) (w : World (Traced σ)),
      Tracked.wp (configure config : Tracked Orchestrator (Traced σ) OperatorDescriptor)
        (fun r o' w' => w'.transcript = w.transcript ∧ Configured config o r o') o w) ∧
    (∀ (o : Orchestrator) (w : World (Traced σ)), o.primary = none → o.auxiliaries = [] →
      Tracked.Answers (undeploy p.traced) (.ok ()) o w) :=
  ⟨fun adapter calls _ hc => Unconfigured.runCalls p calls (Unconfigured.new adapter) hc,
    fun o w h => subscribe_before_configure _ o w h,
    fun o w hd => deploy_before_configure _ o w hd,
    fun o w hs => ⟨adopt_before_configure _ o w hs, unsubscribe_of_no_subscription _ o w hs⟩,
    fun o w _ hd ht => deploy_while_tracked _ o w hd ht,
    fun o w replicas wait hp => scale_before_deploy _ replicas wait o w hp,
    fun _ w _ hd hs => subscribe_not_absent p hd hs w,
    fun config o w => wp_configure_setup config o w,
    fun o w hp ha => undeploy_of_untracked _ o w hp ha⟩

end OlmProvision
