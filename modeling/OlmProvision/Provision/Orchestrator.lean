import OlmProvision.Provision.Catalog
import OlmProvision.Provision.Lifecycle
import OlmProvision.Provision.Subscription
import OlmProvision.Provision.Adapter

/-
Sequencing the provisioning of one product:

1. `configure` resolves the operator descriptor and wait timings; nothing in the cluster is
   touched. Configuring again re-resolves both but keeps tracking the existing subscription.
2. `subscribe` installs the operator through OLM.
3. `deploy` creates the primary resource and its auxiliary resources and waits for them to
   become ready.
4. `scale` changes the primary resource's replica count.
5. `undeploy` deletes the resources, auxiliaries first, and waits for the primary and its pods
   to disappear.
6. `unsubscribe` removes the subscription and its CSV.

A failing step leaves whatever it already created in place, and tracked, so that it can be
inspected and cleaned up: `undeploy` and `unsubscribe` are safe to call when there is nothing
to remove. Every wait is guarded by a baseline captured before the step's first change: the
operator's with the default policy (operator pods are not named after the product), the
product's resources' with the product's policy.
-/
namespace OlmProvision

/-- The debug form of an outcome, as warnings print it. -/
def Outcome.debugText : Outcome → String
  | .success => "Success"
  | .timedOut => "TimedOut"
  | .failFast e =>
    "FailFast(ClusterEvent \x7b id: " ++ Text.quote e.id ++ ", namespace: " ++
      Text.quote e.namespaceName ++ ", timestamp: " ++ e.timestamp.toRfc3339 ++ ", severity: " ++
      e.severity.name ++ ", reason: " ++ Text.quote e.reason ++ ", message: " ++
      Text.quote e.message ++ ", involved_kind: " ++ Text.quote e.involvedKind ++
      ", involved_name: " ++ Text.quote e.involvedName ++ " \x7d)"

/-- Resolve the descriptor of `product`, logging it. -/
def resolveDescriptor {σ : Type} (config : ConfigSource) (product : String) :
    Run σ OperatorDescriptor := do
  match Catalog.resolve config product with
  | .error e => throw e
  | .ok d =>
    Run.log .catalog .debug (Catalog.resolvedMessage product d)
    return d

/-- The provisioning state of one product. -/
structure Orchestrator where
  adapter : ProductAdapter
  descriptor : Option OperatorDescriptor := none
  waitPolicy : WaitPolicy := .default
  subscription : Option SubscriptionManager := none
  primary : Option ManagedResource := none
  /-- In creation order. -/
  auxiliaries : List ManagedResource := []
  /-- The baseline captured by the last deploy. -/
  baseline : Option FailFastBaseline := none
deriving Inhabited

namespace Orchestrator

variable {σ : Type} (platform : Platform σ)

/-- A new orchestrator for the product of `adapter`, with nothing configured. -/
def new (adapter : ProductAdapter) : Orchestrator := { adapter := adapter }

/-- The state of the subscription; absent before configure. -/
def subscriptionState (o : Orchestrator) : SubscriptionState :=
  (o.subscription.map SubscriptionManager.state).getD .absent

/-- The installed CSV of the subscription. -/
def currentCsv (o : Orchestrator) : Option String := o.subscription.bind SubscriptionManager.currentCsv

/-- Fail with `e` when the result is an error. -/
def orFail {α : Type} (r : Except ProvisionError α) : Tracked Orchestrator σ α := Tracked.ofExcept r

/-- Wait for the resource of `h` to become ready. -/
def awaitReady (h : Handle) (spec : WaitSpec) (guard : Option (Step σ (Option ClusterEvent))) :
    Tracked Orchestrator σ Outcome :=
  Tracked.lift (Lifecycle.waitReady platform h spec guard)

/-- Resolve the descriptor and wait timings from `config`. -/
def configure (config : ConfigSource) : Tracked Orchestrator σ OperatorDescriptor := do
  let o ← Tracked.current
  let product := o.adapter.productId
  let d ← Tracked.lift (resolveDescriptor config product)
  let policy ← orFail (WaitPolicy.fromConfig config product)
  let subscription := match o.subscription with
    | some s => some s
    | none => some (SubscriptionManager.new o.adapter.namespaceName d.packageManifestId)
  Tracked.log .orchestrator .info ("Configured '" ++ product ++ "': package '" ++ d.packageManifestId ++
    "' from catalog source '" ++ d.catalogSourceNamespace ++ "/" ++ d.catalogSourceName ++ "'")
  Tracked.put { o with waitPolicy := policy, subscription := subscription, descriptor := some d }
  return d

/-- Subscribe to the product's operator and wait for it to be installed. The approval is the
product's override if it has one, manual if the product sets operator environment, and the
configured one otherwise. -/
def subscribe : Tracked Orchestrator σ Unit := do
  let o ← Tracked.current
  let d ← match o.descriptor with
    | some d => pure d
    | none => throw (.lifecycle "subscribe" "before configure")
  if o.subscription.isNone then throw (.lifecycle "subscribe" "before configure")
  let env := o.adapter.operatorEnv
  let approval := match o.adapter.installPlanApproval with
    | some a => a
    | none => if !env.isEmpty then .manual else d.installPlanApproval
  let baseline ← Tracked.lift (ExceptT.mk (captureBaseline platform o.adapter.namespaceName))
  let guard : FailFastGuard := ⟨baseline, .default⟩
  Tracked.focus (fun o => o.subscription.getD default)
    (fun o s => { o with subscription := some s })
    (SubscriptionManager.subscribe platform d approval env o.waitPolicy
      (some (guard.fatalEvent platform)))

/-- Create the primary and auxiliary resources and wait for them to become ready. -/
def deploy : Tracked Orchestrator σ Unit := do
  let o ← Tracked.current
  if o.descriptor.isNone then throw (.lifecycle "deploy" "before configure")
  if o.primary.isSome || !o.auxiliaries.isEmpty then
    throw (.lifecycle "deploy" "while a previous deployment is still tracked, undeploy it first")
  let primary ← orFail o.adapter.primary
  let auxiliaries ← orFail o.adapter.auxiliaries
  let baseline ← Tracked.lift (ExceptT.mk (captureBaseline platform o.adapter.namespaceName))
  Tracked.update (fun o => { o with baseline := some baseline })
  let h ← Tracked.lift (Lifecycle.create platform primary.handle primary.manifest)
  let primary := { primary with handle := h }
  Tracked.update (fun o => { o with primary := some primary })
  for aux in auxiliaries do
    let h ← Tracked.lift (Lifecycle.create platform aux.handle aux.manifest)
    Tracked.update (fun o => { o with auxiliaries := o.auxiliaries ++ [{ aux with handle := h }] })
  let guard : FailFastGuard := ⟨baseline, o.adapter.failFastPolicy⟩
  let check := some (guard.fatalEvent platform)
  let spec := o.waitPolicy.spec .deploy (primary.handle.kind ++ " '" ++ primary.handle.name ++
    "' to be ready")
  let outcome ← awaitReady platform primary.handle spec check
  orFail (outcome.intoResult .deploy spec)
  let tracked := (← Tracked.current).auxiliaries
  for aux in tracked do
    let spec := o.waitPolicy.spec .deploy (aux.handle.kind ++ " '" ++ aux.handle.name ++
      "' to be ready")
    let outcome ← awaitReady platform aux.handle spec check
    if o.adapter.auxiliaryReadinessRequired then orFail (outcome.intoResult .deploy spec)
    else if !outcome.isSuccess then
      Tracked.log .orchestrator .warn (aux.handle.kind ++ " '" ++ aux.handle.name ++
        "' did not become ready, continuing: " ++ outcome.debugText)
  Tracked.log .orchestrator .info ("Deployed '" ++ o.adapter.productId ++ "'")

/-- Scale the primary resource to `replicas`, waiting for exactly that many ready pods if
`wait`. -/
def scale (replicas : Int) (wait : Bool) : Tracked Orchestrator σ Unit := do
  let o ← Tracked.current
  let primary ← match o.primary with
    | some p => pure p
    | none => throw (.lifecycle "scale" "before deploy")
  let baseline ← Tracked.lift (ExceptT.mk (captureBaseline platform o.adapter.namespaceName))
  let guard : FailFastGuard := ⟨baseline, o.adapter.failFastPolicy⟩
  let spec := o.waitPolicy.spec .scale (primary.handle.kind ++ " '" ++ primary.handle.name ++
    "' to be ready with " ++ toString replicas ++ " replicas")
  let h ← Tracked.lift (Lifecycle.scale platform primary.handle replicas)
  Tracked.update (fun o => { o with primary := some { primary with handle := h } })
  let outcome ← if wait then awaitReady platform h spec (some (guard.fatalEvent platform))
    else pure .success
  orFail (outcome.intoResult .scale spec)

/-- Delete the auxiliary resources, last created first, then the primary resource, and wait
until the primary and its pods are gone. -/
def undeploy : Tracked Orchestrator σ Unit := do
  let o ← Tracked.current
  for aux in o.auxiliaries.reverse do
    let _ ← Tracked.lift (Lifecycle.delete platform aux.handle)
    Tracked.update (fun o => { o with auxiliaries := o.auxiliaries.dropLast })
  match o.primary with
  | none => pure ()
  | some primary =>
    let (_, h) ← Tracked.lift (Lifecycle.delete platform primary.handle)
    Tracked.update (fun o => { o with primary := some { primary with handle := h } })
    let spec := o.waitPolicy.spec .undeploy (h.kind ++ " '" ++ h.name ++
      "' and its pods to be removed")
    let outcome ← Tracked.lift (Lifecycle.waitAbsent platform h spec none)
    orFail (outcome.intoResult .undeploy spec)
    Tracked.update (fun o => { o with primary := none })
    Tracked.log .orchestrator .info ("Undeployed '" ++ o.adapter.productId ++ "'")

/-- Remove the subscription and its CSV; nothing to do without a subscription. -/
def unsubscribe : Tracked Orchestrator σ Unit := do
  let o ← Tracked.current
  match o.subscription with
  | none => pure ()
  | some _ =>
    Tracked.focus (fun o => o.subscription.getD default)
      (fun o s => { o with subscription := some s })
      (SubscriptionManager.unsubscribe platform)

/-- Start tracking the product's resources and subscription that exist in the cluster. -/
def adopt : Tracked Orchestrator σ Unit := do
  let o ← Tracked.current
  if o.subscription.isNone then throw (.lifecycle "adopt" "before configure")
  let _ ← Tracked.focus (fun o => o.subscription.getD default)
    (fun o s => { o with subscription := some s })
    (SubscriptionManager.adopt platform)
  if (← Tracked.current).primary.isNone then
    let primary ← orFail o.adapter.primary
    if ← Tracked.lift (Lifecycle.isPresent platform primary.handle) then
      Tracked.log .orchestrator .info ("Adopted " ++ primary.handle.kind ++ " '" ++ primary.handle.name ++ "'")
      Tracked.update (fun o => { o with primary := some { primary with handle := primary.handle.markCreated } })
  if (← Tracked.current).auxiliaries.isEmpty then
    let auxiliaries ← orFail o.adapter.auxiliaries
    for aux in auxiliaries do
      if ← Tracked.lift (Lifecycle.isPresent platform aux.handle) then
        Tracked.log .orchestrator .info ("Adopted " ++ aux.handle.kind ++ " '" ++ aux.handle.name ++ "'")
        Tracked.update (fun o => { o with auxiliaries := o.auxiliaries ++ [{ aux with handle := aux.handle.markCreated }] })

/-- End the orchestrator's life, warning about what it still tracks. -/
def dismiss (o : Orchestrator) : Step σ Unit := do
  if o.subscriptionState != .absent then
    Step.log .orchestrator .warn ("Dismissed '" ++ o.adapter.productId ++ "' while its subscription is " ++
      o.subscriptionState.name)
  if o.primary.isSome || !o.auxiliaries.isEmpty then
    let count := o.auxiliaries.length + (if o.primary.isSome then 1 else 0)
    Step.log .orchestrator .warn ("Dismissed '" ++ o.adapter.productId ++ "' while " ++ toString count ++
      " custom resources are still deployed")

end Orchestrator

end OlmProvision
