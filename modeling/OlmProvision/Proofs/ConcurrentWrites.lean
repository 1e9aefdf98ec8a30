import OlmProvision.Proofs.ResourceVersions
import OlmProvision.Proofs.ProgramLogic
import OlmProvision.Provision.Lifecycle

/-
Read-modify-writes on a cluster that other clients write to at the same time.

Scaling a resource reads it with `get`, changes the replica count and writes the whole object
back with `replace`, carrying the resource version it read; replacing an existing resource does
the same with the object of a new manifest. Between the read and the write, other clients may
create, replace, patch or delete the same object.

A `SharedCluster` is the simulated cluster together with the writes of the other clients still
to come, in batches: before each of our calls the next batch lands. Every interleaving of their
writes with our calls is a choice of batches.

What is proved:

1. `SimCluster.perform_advances`: a write of another client advances the resource versions
   with no in-place edit of the object it names.
2. `replace_accepted_untouched`: a replace carrying the version read at `k` is accepted only if
   every write that landed since the read left the object at `k` as it was read.
3. `scale_loses_no_update`, `replace_loses_no_update`: a scale, or a replace of an existing
   resource, on a shared cluster ends as `LosesNoUpdate` says. A write that is accepted lost no
   update of the others; one that is refused is a resource conflict or a client error, and
   writes nothing.
-/
namespace OlmProvision

/-- A write call of another client; what the cluster answers it is not ours to see. -/
inductive Write where
  | create (r : ApiResource) (ns : String) (o : DynamicObject)
  | replace (r : ApiResource) (ns : String) (o : DynamicObject)
  | patchMerge (r : ApiResource) (ns name : String) (patch : Json)
  | delete (r : ApiResource) (ns name : String)

/-- The key of the object a write names. -/
def Write.target : Write → ObjectKey
  | .create r ns o | .replace r ns o => ⟨r.kind, ns, o.name⟩
  | .patchMerge r ns name _ | .delete r ns name => ⟨r.kind, ns, name⟩

/-- The key of a handle's object in the simulated cluster. -/
def Handle.objectKey (h : Handle) : ObjectKey := ⟨h.kind, h.namespaceName, h.name⟩

namespace SimCluster

open SimState

/-- The cluster after another client's write at wall-clock time `now`. -/
def perform (now : Timestamp) (c : SimCluster) : Write → SimCluster
  | .create r ns o => (c.create r ns o now).2
  | .replace r ns o => (c.replace r ns o now).2
  | .patchMerge r ns name patch => (c.patchMerge r ns name patch now).2
  | .delete r ns name => (c.delete r ns name now).2

theorem perform_advances {c : SimCluster} (hs : c.state.Stamped) (now : Timestamp) (w : Write) :
    Advances (· ≠ w.target) c.state (c.perform now w).state := by
  cases w with
  | create r ns o => exact create_advances hs r ns o now
  | replace r ns o => exact replace_advances hs r ns o now
  | patchMerge r ns name patch => exact patchMerge_advances hs r ns name patch now
  | delete r ns name => exact delete_advances hs r ns name now

theorem performAll_advances (now : Timestamp) (k : ObjectKey) :
    ∀ (b : List Write) {c : SimCluster}, c.state.Stamped → (∀ w ∈ b, w.target = k) →
      Advances (· ≠ k) c.state (b.foldl (perform now) c).state
  | [], _, hs, _ => .refl hs
  | w :: b, c, hs, hb => by
    have h₁ : Advances (· ≠ k) c.state (c.perform now w).state :=
      hb w List.mem_cons_self ▸ perform_advances hs now w
    exact h₁.trans (performAll_advances now k b h₁.stamped fun w' hw' =>
      hb w' (List.mem_cons_of_mem _ hw'))

theorem stamped_performAll (now : Timestamp) :
    ∀ (b : List Write) {c : SimCluster}, c.state.Stamped → (b.foldl (perform now) c).state.Stamped
  | [], _, hs => hs
  | w :: b, _, hs => stamped_performAll now b
      (perform_advances hs now w : Advances (· ≠ w.target) _ _).stamped

theorem replace_cases (c : SimCluster) (r : ApiResource) (ns : String) (o : DynamicObject)
    (now : Timestamp) :
    (∃ e, c.replace r ns o now = (.error e, c)) ∨ ∃ x, (c.replace r ns o now).1 = .ok x := by
  unfold replace
  dsimp only
  split
  · exact .inl ⟨_, rfl⟩
  · split
    · exact .inl ⟨_, rfl⟩
    · exact .inr ⟨_, rfl⟩

theorem replace_accepted_version {c : SimCluster} {r : ApiResource} {ns : String}
    {o : DynamicObject} {now : Timestamp} {x : DynamicObject}
    (hok : (c.replace r ns o now).1 = .ok x) {v : String}
    (hv : o.metadata.resourceVersion = some v) :
    ∃ stored, c.state.objects.get? ⟨r.kind, ns, o.name⟩ = some stored ∧
      stored.metadata.resourceVersion = some v := by
  unfold replace at hok
  dsimp only at hok
  split at hok
  · cases hok
  · rename_i stored hget
    split at hok
    · cases hok
    · rename_i hcheck
      refine ⟨stored, hget, ?_⟩
      simp only [hv, Option.isSome_some, bne_iff_ne, ne_eq, Bool.true_and, not_not] at hcheck
      exact hcheck.symm

/-- The others' writes `b`, all naming `k`, land on `read`; a replace that then carries the
version read at `k` is accepted only if it names `k` and none of those writes touched the
object: after each of them it is the object read. -/
theorem replace_accepted_untouched {read : SimCluster} (hs : read.state.Stamped)
    (now : Timestamp) {b : List Write} {k : ObjectKey} (hb : ∀ w ∈ b, w.target = k)
    {o : DynamicObject} (hread : read.state.objects.get? k = some o) {r : ApiResource}
    {ns : String} {o' : DynamicObject}
    (hv : o'.metadata.resourceVersion = o.metadata.resourceVersion) {x : DynamicObject}
    (hok : ((b.foldl (perform now) read).replace r ns o' now).1 = .ok x) :
    ⟨r.kind, ns, o'.name⟩ = k ∧
      ∀ i, ((b.take i).foldl (perform now) read).state.objects.get? k = some o := by
  obtain ⟨n, _, hn⟩ := hs.counted k o hread
  obtain ⟨stored, hstored, hsv⟩ := replace_accepted_version hok (hv.trans hn)
  have hall := performAll_advances now k b hs hb
  -- the version read is carried only by the object read, at the key read
  obtain ⟨hk, rfl⟩ := hall.read_version hs (fun h => h rfl) hread hstored (hsv.trans hn.symm)
  refine ⟨hk, fun i => ?_⟩
  have h₁ := performAll_advances now k (b.take i) hs fun w hw => hb w (List.mem_of_mem_take hw)
  have h₂ := performAll_advances now k (b.drop i) h₁.stamped fun w hw =>
    hb w (List.mem_of_mem_drop hw)
  rw [← List.foldl_append, List.take_append_drop] at h₂
  exact h₁.keeps_read h₂ hs (fun h => h rfl) hread (hk ▸ hstored)

end SimCluster

/-- A simulated cluster shared with other clients, with their writes still to come in batches:
the next batch lands before each of our calls. -/
structure SharedCluster where
  cluster : SimCluster
  batches : List (List Write)

namespace SharedCluster

/-- The cluster our next call from `w` sees: the next batch of the others' writes has landed. -/
def next (w : World SharedCluster) : SimCluster :=
  (w.cluster.batches.headD []).foldl (SimCluster.perform w.now) w.cluster.cluster

/-- One of our calls: the next batch lands, then the call runs on the simulated cluster. -/
def call {α : Type} (c : Step SimCluster α) : Step SharedCluster α := fun w =>
  let r := c.exec ⟨next w, w.elapsed, w.logs, w.start, w.now⟩
  (r.1, ⟨⟨r.2.cluster, w.cluster.batches.tail⟩, r.2.elapsed, r.2.logs, r.2.start, r.2.now⟩)

/-- The simulated cluster, shared with other clients. -/
def platform : Platform SharedCluster where
  create r ns o := call (SimCluster.platform.create r ns o)
  replace r ns o := call (SimCluster.platform.replace r ns o)
  get r ns name := call (SimCluster.platform.get r ns name)
  list r ns selector := call (SimCluster.platform.list r ns selector)
  delete r ns name := call (SimCluster.platform.delete r ns name)
  patchMerge r ns name patch := call (SimCluster.platform.patchMerge r ns name patch)
  listPods ns selector := call (SimCluster.platform.listPods ns selector)
  listEvents ns := call (SimCluster.platform.listEvents ns)

@[simp] theorem wp_get (r : ApiResource) (ns name : String)
    (Q : Except ClientError (Option DynamicObject) → World SharedCluster → Prop)
    (w : World SharedCluster) :
    Step.wp (platform.get r ns name) Q w =
      Q (.ok ((next w).get r ns name)) { w with cluster := ⟨next w, w.cluster.batches.tail⟩ } :=
  rfl

@[simp] theorem wp_replace (r : ApiResource) (ns : String) (o : DynamicObject)
    (Q : Except ClientError DynamicObject → World SharedCluster → Prop) (w : World SharedCluster) :
    Step.wp (platform.replace r ns o) Q w =
      Q ((next w).replace r ns o w.now).1
        { w with cluster := ⟨((next w).replace r ns o w.now).2, w.cluster.batches.tail⟩ } :=
  rfl

/-- The write of a read-modify-write, after the others' writes `b` on the object read: accepted
only if none of them touched it, and when refused the cluster is what they left. -/
theorem wp_write_back {read : SimCluster} (hs : read.state.Stamped) {b : List Write}
    {h : Handle} (hb : ∀ wr ∈ b, wr.target = h.objectKey)
    {o o' : DynamicObject} (hread : read.get h.resource h.namespaceName h.name = some o)
    (hv : o'.metadata.resourceVersion = o.metadata.resourceVersion)
    {w : World SharedCluster} (hw : w.cluster.cluster = read) (hbatch : w.cluster.batches.headD [] = b)
    {Q : Except ClientError DynamicObject → World SharedCluster → Prop}
    (hok : ∀ x w', (∀ i, ((b.take i).foldl (SimCluster.perform w.now) read).get h.resource
      h.namespaceName h.name = some o) → Q (.ok x) w')
    (herr : ∀ e w', w'.cluster.cluster = b.foldl (SimCluster.perform w.now) read →
      Q (.error e) w') :
    Step.wp (platform.replace h.resource h.namespaceName o') Q w := by
  have hnext : next w = b.foldl (SimCluster.perform w.now) read := by rw [next, hw, hbatch]
  rw [wp_replace, hnext]
  rcases SimCluster.replace_cases (b.foldl (SimCluster.perform w.now) read) h.resource
    h.namespaceName o' w.now with ⟨e, he⟩ | ⟨x, hx⟩
  · rw [he]
    exact herr e _ rfl
  · rw [hx]
    exact hok x _ (SimCluster.replace_accepted_untouched hs w.now hb hread hv hx).2

end SharedCluster

/-- How a read-modify-write of `h`'s object on a shared cluster may end, where `read` is the
cluster it read from, `b` the others' writes that landed before its write, and `h'` the handle
it answers when it succeeds.

- Success: none of those writes touched the object; after each of them it is the object read.
- It stops before writing, with a lifecycle error of `action`, the cluster as it read it.
- Its write is refused, as a resource conflict or a client error of `action`: the cluster is
  what the others left. -/
def LosesNoUpdate (read : SimCluster) (b : List Write) (now : Timestamp) (action : String)
    (h h' : Handle) : Except ProvisionError Handle → World SharedCluster → Prop
  | .ok h'', _ => h'' = h' ∧ ∀ i, ((b.take i).foldl (SimCluster.perform now) read).get
      h.resource h.namespaceName h.name = read.get h.resource h.namespaceName h.name
  | .error e, w' =>
    (w'.cluster.cluster = read ∧ ∃ reason, e = .lifecycle (Lifecycle.subject action h) reason) ∨
    (w'.cluster.cluster = b.foldl (SimCluster.perform now) read ∧
      (e = .resourceConflict h.kind h.name h.namespaceName ∨
        ∃ ce, e = .client (Lifecycle.subject action h) ce))

theorem Lifecycle.mutationError_cases (e : ClientError) (action : String) (h : Handle) :
    Lifecycle.mutationError e action h = .resourceConflict h.kind h.name h.namespaceName ∨
      Lifecycle.mutationError e action h = .client (Lifecycle.subject action h) e := by
  unfold Lifecycle.mutationError
  split
  · exact .inl rfl
  · exact .inr rfl

theorem scale_loses_no_update {c : SimCluster} (hc : c.state.Stamped) (h : Handle)
    (replicas : Int) {b₀ b₁ : List Write} {later : List (List Write)}
    (hb₁ : ∀ wr ∈ b₁, wr.target = h.objectKey) {w : World SharedCluster}
    (hw : w.cluster = ⟨c, b₀ :: b₁ :: later⟩) :
    Run.wp (Lifecycle.scale SharedCluster.platform h replicas)
      (LosesNoUpdate (b₀.foldl (SimCluster.perform w.now) c) b₁ w.now "scale" h
        { h with desiredReplicas := some replicas }) w := by
  have hs := SimCluster.stamped_performAll w.now b₀ hc
  have hnext : SharedCluster.next w = b₀.foldl (SimCluster.perform w.now) c := by
    simp [SharedCluster.next, hw]
  unfold Lifecycle.scale Lifecycle.fetch
  simp only [Run.wp_bind, Run.wp_call, SharedCluster.wp_get, hnext]
  split
  · exact .inl ⟨rfl, _, rfl⟩
  · rename_i o hget
    split
    · exact .inl ⟨rfl, _, rfl⟩
    · simp only [Run.wp_bind, Run.wp_monadLift]
      refine SharedCluster.wp_write_back hs hb₁ hget (by rfl) (by rfl) (by simp [hw])
        (fun x w' hkept => ?_) (fun e w' hcl => ?_)
      · simp only [Run.wp_bind, Run.wp_log, Run.wp_pure]
        exact ⟨rfl, fun i => (hkept i).trans hget.symm⟩
      · simp only [Run.wp_throw]
        exact .inr ⟨hcl, (Lifecycle.mutationError_cases e _ h).imp_right fun he => ⟨e, he⟩⟩

theorem replace_loses_no_update {c : SimCluster} (hc : c.state.Stamped) (h : Handle)
    (manifest : DynamicObject) {b₀ b₁ : List Write} {later : List (List Write)}
    (hb₁ : ∀ wr ∈ b₁, wr.target = h.objectKey) {w : World SharedCluster}
    (hw : w.cluster = ⟨c, b₀ :: b₁ :: later⟩)
    (hexists : ((b₀.foldl (SimCluster.perform w.now) c).get h.resource h.namespaceName
      h.name).isSome) :
    Run.wp (Lifecycle.replace SharedCluster.platform h manifest)
      (LosesNoUpdate (b₀.foldl (SimCluster.perform w.now) c) b₁ w.now "replace" h
        h.markCreated) w := by
  have hs := SimCluster.stamped_performAll w.now b₀ hc
  have hnext : SharedCluster.next w = b₀.foldl (SimCluster.perform w.now) c := by
    simp [SharedCluster.next, hw]
  obtain ⟨existing, hget⟩ := Option.isSome_iff_exists.mp hexists
  unfold Lifecycle.replace Lifecycle.fetch
  simp only [Run.wp_bind, Run.wp_call, SharedCluster.wp_get, hnext, hget, Run.wp_monadLift]
  -- the object written is the manifest's, with the version of the object read
  refine SharedCluster.wp_write_back hs hb₁ hget (by rfl) (by rfl) (by simp [hw])
    (fun x w' hkept => ?_) (fun e w' hcl => ?_)
  · simp only [Run.wp_bind, Run.wp_log, Run.wp_pure]
    exact ⟨rfl, fun i => (hkept i).trans hget.symm⟩
  · simp only [Run.wp_throw]
    exact .inr ⟨hcl, (Lifecycle.mutationError_cases e _ h).imp_right fun he => ⟨e, he⟩⟩

/-- On a cluster other clients write to, an accepted scale or replace lost no update that landed
between its read and its write, and a refused one wrote nothing. -/
theorem read_modify_write_loses_no_update (c : SimCluster) (hc : c.state.Stamped) (h : Handle)
    (replicas : Int) (manifest : DynamicObject) (b₀ b₁ : List Write)
    (later : List (List Write)) (hb₁ : ∀ wr ∈ b₁, wr.target = h.objectKey)
    (w : World SharedCluster) (hw : w.cluster = ⟨c, b₀ :: b₁ :: later⟩) :
    Run.wp (Lifecycle.scale SharedCluster.platform h replicas)
        (LosesNoUpdate (b₀.foldl (SimCluster.perform w.now) c) b₁ w.now "scale" h
          { h with desiredReplicas := some replicas }) w ∧
      (((b₀.foldl (SimCluster.perform w.now) c).get h.resource h.namespaceName h.name).isSome →
        Run.wp (Lifecycle.replace SharedCluster.platform h manifest)
          (LosesNoUpdate (b₀.foldl (SimCluster.perform w.now) c) b₁ w.now "replace" h
            h.markCreated) w) :=
  ⟨scale_loses_no_update hc h replicas hb₁ hw, replace_loses_no_update hc h manifest hb₁ hw⟩

/-- A broker that another client replaces between our read and our write. -/
theorem read_modify_write_loses_no_update_broker :
    let broker : DynamicObject :=
      { types := some ⟨"example.com/v1", "Broker"⟩,
        metadata := { name := some "b", namespaceName := some "demo" },
        data := Json.object [("spec", Json.object [("replicas", Json.nat 1)])] }
    let c := ({ objects := [broker] } : ClusterSpec).build
    let h := Handle.new ⟨"example.com", "v1", "Broker", "brokers"⟩ "demo" "b"
    let b₁ := [Write.replace h.resource "demo" broker]
    let w : World SharedCluster := ⟨⟨c, [[], b₁]⟩, ⟨0⟩, [], ⟨0, 0⟩, ⟨0, 0⟩⟩
    c.state.Stamped ∧ (∀ wr ∈ b₁, wr.target = h.objectKey) ∧
      Run.wp (Lifecycle.scale SharedCluster.platform h 3)
          (LosesNoUpdate (([] : List Write).foldl (SimCluster.perform w.now) c) b₁ w.now "scale" h
            { h with desiredReplicas := some 3 }) w ∧
        (((([] : List Write).foldl (SimCluster.perform w.now) c).get h.resource h.namespaceName
          h.name).isSome →
          Run.wp (Lifecycle.replace SharedCluster.platform h broker)
            (LosesNoUpdate (([] : List Write).foldl (SimCluster.perform w.now) c) b₁ w.now
              "replace" h h.markCreated) w) :=
  ⟨ClusterSpec.build_stamped _, by decide,
    read_modify_write_loses_no_update _ (ClusterSpec.build_stamped _) _ 3 _ [] _ [] (by decide) _
      rfl⟩

end OlmProvision
