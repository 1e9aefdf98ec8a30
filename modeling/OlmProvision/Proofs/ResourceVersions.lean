import Mathlib
import OlmProvision.Proofs.Tables
import OlmProvision.Session.Cluster

/-
Resource versions of the simulated cluster.

Every write of an object goes through `SimState.store`, which stamps it with the next value of a
counter that only grows. The status edits of the simulated OLM and of the workload reconciler
(`editData`) change an object in place and keep its version, and deletions only remove objects.
So a version names at most one stored object, and a version once read is never stamped again.

What is proved:

1. `Stamped` is the invariant: the table is sorted, every stored version is a count at most
   the counter, and no two keys carry the same version. Every session cluster starts stamped
   (`ClusterSpec.build_stamped`).
2. `Advances E s s'` is what an operation does: `s'` is stamped, the counter has not gone
   back, and at every key the object is unchanged, or edited in place at a key of `E` with its
   version kept, or stamped after `s`, or gone. It composes along the code (`Advances.trans`).
3. One lemma per operation of the cluster says which keys it may edit in place: none for
   `store`, `removeOperator`, `renderOperator` and `installCsv`; the subscription for OLM's
   offers and installs; the workload itself for `reconcileWorkload`.
4. A client's `create`, `replace`, `patchMerge` or `delete` edits nothing in place at the key
   it names: there the object is unchanged, restamped or gone (`SimCluster.create_advances`,
   ...).
5. After operations that never edit `k` in place, a version read at `k` is carried by an
   object only if it is the object read, untouched (`Advances.read_version`).
-/
namespace OlmProvision

namespace SimState

/-- The resource version of the object stored at `k`, if there is an object. -/
def versionAt (s : SimState) (k : ObjectKey) : Option (Option String) :=
  (s.objects.get? k).map (·.metadata.resourceVersion)

/-- Whatever `s'` holds at `k` was stamped after `s`: its version is a count above `s`'s
counter. A key with no object is fresh. -/
def FreshAt (s s' : SimState) (k : ObjectKey) : Prop :=
  ∀ o, s'.objects.get? k = some o →
    ∃ n, s.version < n ∧ o.metadata.resourceVersion = some (toString n)

/-- The resource-version invariant of a cluster state. -/
structure Stamped (s : SimState) : Prop where
  sorted : s.objects.Sorted
  counted : ∀ k o, s.objects.get? k = some o →
    ∃ n, n ≤ s.version ∧ o.metadata.resourceVersion = some (toString n)
  distinct : ∀ k k' o o', s.objects.get? k = some o → s.objects.get? k' = some o' →
    o.metadata.resourceVersion = o'.metadata.resourceVersion → k = k'

/-- What an operation from `s` to `s'` does to the objects, where it may edit in place only
the keys of `edited`. -/
structure Advances (edited : ObjectKey → Prop) (s s' : SimState) : Prop where
  stamped : s'.Stamped
  counter : s.version ≤ s'.version
  objects : ∀ k, s'.objects.get? k = s.objects.get? k ∨
    (edited k ∧ s'.versionAt k = s.versionAt k) ∨ s.FreshAt s' k

variable {E E' : ObjectKey → Prop} {s s' s₁ s₂ : SimState} {k : ObjectKey} {o : DynamicObject}

theorem versionAt_of_get (h : s.objects.get? k = some o) :
    s.versionAt k = some o.metadata.resourceVersion := by
  simp [versionAt, h]

theorem get_of_versionAt {v : Option String} (h : s.versionAt k = some v) :
    ∃ o, s.objects.get? k = some o ∧ o.metadata.resourceVersion = v := by
  simpa [versionAt] using h

/-! ## Freshness -/

theorem FreshAt.of_versionAt (h : s.FreshAt s₁ k) (hv : s₂.versionAt k = s₁.versionAt k) :
    s.FreshAt s₂ k := by
  intro o ho
  have hat := versionAt_of_get ho
  rw [hv] at hat
  obtain ⟨o₁, ho₁, hrv⟩ := get_of_versionAt hat
  obtain ⟨n, hn, hrv₁⟩ := h o₁ ho₁
  exact ⟨n, hn, hrv ▸ hrv₁⟩

theorem FreshAt.of_get (h : s.FreshAt s₁ k) (he : s₂.objects.get? k = s₁.objects.get? k) :
    s.FreshAt s₂ k :=
  h.of_versionAt (by simp [versionAt, he])

theorem FreshAt.of_le (h : s₁.FreshAt s' k) (hv : s.version ≤ s₁.version) : s.FreshAt s' k := by
  intro o ho
  obtain ⟨n, hn, hrv⟩ := h o ho
  exact ⟨n, by omega, hrv⟩

theorem freshAt_of_none (h : s'.objects.get? k = none) : s.FreshAt s' k := by
  intro o ho
  simp [h] at ho

theorem FreshAt.ne_of_stamped (h : s.FreshAt s' k) (hs : s.Stamped) {k₀ : ObjectKey}
    {o₀ o' : DynamicObject} (h₀ : s.objects.get? k₀ = some o₀) (h' : s'.objects.get? k = some o') :
    o'.metadata.resourceVersion ≠ o₀.metadata.resourceVersion := by
  intro heq
  obtain ⟨n, hn, hrv⟩ := h o' h'
  obtain ⟨m, hm, hrv₀⟩ := hs.counted k₀ o₀ h₀
  rw [hrv, hrv₀] at heq
  have : n = m := Nat.repr_inj.mp (Option.some.inj heq)
  omega

/-! ## The invariant -/

/-- A state whose objects each carry a version that some object of a stamped state carried at
the same key is stamped. This covers removals and in-place edits. -/
theorem Stamped.of_versions (hs : s.Stamped) (hsorted : s'.objects.Sorted)
    (hv : s.version ≤ s'.version)
    (hat : ∀ k o', s'.objects.get? k = some o' →
      ∃ o, s.objects.get? k = some o ∧ o.metadata.resourceVersion = o'.metadata.resourceVersion) :
    s'.Stamped where
  sorted := hsorted
  counted k o' h := by
    obtain ⟨o, ho, hrv⟩ := hat k o' h
    obtain ⟨n, hn, hrvn⟩ := hs.counted k o ho
    exact ⟨n, hn.trans hv, hrv ▸ hrvn⟩
  distinct k k' o₁ o₂ h₁ h₂ heq := by
    obtain ⟨p₁, hp₁, hrv₁⟩ := hat k o₁ h₁
    obtain ⟨p₂, hp₂, hrv₂⟩ := hat k' o₂ h₂
    exact hs.distinct k k' p₁ p₂ hp₁ hp₂ (by rw [hrv₁, hrv₂, heq])

theorem stamped_empty : ({} : SimState).Stamped where
  sorted := Table.sorted_empty
  counted _ _ h := by simp [Table.get?, Table.getList, Table.empty] at h
  distinct _ _ _ _ h := by simp [Table.get?, Table.getList, Table.empty] at h

/-! ## Composing operations -/

theorem Advances.refl (hs : s.Stamped) : Advances E s s where
  stamped := hs
  counter := le_rfl
  objects _ := .inl rfl

theorem Advances.mono (h : Advances E s s') (hE : ∀ k, E k → E' k) : Advances E' s s' where
  stamped := h.stamped
  counter := h.counter
  objects k := by
    rcases h.objects k with he | ⟨hk, hv⟩ | hf
    · exact .inl he
    · exact .inr (.inl ⟨hE k hk, hv⟩)
    · exact .inr (.inr hf)

theorem Advances.trans (h₁ : Advances E s s₁) (h₂ : Advances E s₁ s₂) : Advances E s s₂ where
  stamped := h₂.stamped
  counter := h₁.counter.trans h₂.counter
  objects k := by
    -- an edit keeps whatever version came before it, and a restamp outdates everything
    rcases h₂.objects k with he₂ | ⟨hk₂, hv₂⟩ | hf₂
    · rcases h₁.objects k with he₁ | ⟨hk₁, hv₁⟩ | hf₁
      · exact .inl (he₂.trans he₁)
      · exact .inr (.inl ⟨hk₁, by rw [← hv₁]; simp [versionAt, he₂]⟩)
      · exact .inr (.inr (hf₁.of_get he₂))
    · rcases h₁.objects k with he₁ | ⟨_, hv₁⟩ | hf₁
      · exact .inr (.inl ⟨hk₂, by rw [hv₂]; simp [versionAt, he₁]⟩)
      · exact .inr (.inl ⟨hk₂, hv₂.trans hv₁⟩)
      · exact .inr (.inr (hf₁.of_versionAt hv₂))
    · exact .inr (.inr (hf₂.of_le h₁.counter))

theorem Advances.chain (h₁ : Advances E s s₁) (h₂ : s₁.Stamped → Advances E s₁ s₂) :
    Advances E s s₂ :=
  h₁.trans (h₂ h₁.stamped)

theorem Advances.of_objects (hs : s.Stamped) (ho : s'.objects = s.objects)
    (hv : s'.version = s.version) : Advances E s s' where
  stamped := hs.of_versions (ho ▸ hs.sorted) hv.ge fun k o' h => ⟨o', ho ▸ h, rfl⟩
  counter := hv.ge
  objects _ := .inl (by rw [ho])

theorem Advances.of_prune (hs : s.Stamped) (hsorted : s'.objects.Sorted)
    (hv : s'.version = s.version)
    (hk : ∀ k, s'.objects.get? k = s.objects.get? k ∨ s'.objects.get? k = none) :
    Advances E s s' where
  stamped := hs.of_versions hsorted hv.ge fun k o' h => by
    rcases hk k with he | hn
    · exact ⟨o', he ▸ h, rfl⟩
    · simp [hn] at h
  counter := hv.ge
  objects k := by
    rcases hk k with he | hn
    · exact .inl he
    · exact .inr (.inr (freshAt_of_none hn))

theorem Advances.foldl {γ : Type} {f : SimState → γ → SimState}
    (hf : ∀ s x, s.Stamped → Advances E s (f s x)) :
    ∀ (l : List γ) {s : SimState}, s.Stamped → Advances E s (l.foldl f s)
  | [], _, hs => .refl hs
  | x :: l, s, hs => (hf s x hs).trans (Advances.foldl hf l (hf s x hs).stamped)

theorem Advances.freshAt (h : Advances E s₁ s₂) (hf : s.FreshAt s₁ k)
    (hv : s.version ≤ s₁.version) : s.FreshAt s₂ k := by
  rcases h.objects k with he | ⟨_, hv'⟩ | hf'
  · exact hf.of_get he
  · exact hf.of_versionAt hv'
  · exact hf'.of_le hv

theorem Advances.restamp (h : Advances E s s') (hf : s.FreshAt s' k) :
    Advances (fun k' => E k' ∧ k' ≠ k) s s' where
  stamped := h.stamped
  counter := h.counter
  objects k' := by
    by_cases hk : k' = k
    · subst hk
      exact .inr (.inr hf)
    · rcases h.objects k' with he | ⟨hE, hv⟩ | hf'
      · exact .inl he
      · exact .inr (.inl ⟨⟨hE, hk⟩, hv⟩)
      · exact .inr (.inr hf')

/-- After operations that never edit `k` in place, an object carrying the version read at `k`
is the object read, at `k`. -/
theorem Advances.read_version (h : Advances E s s') (hs : s.Stamped) (hk : ¬ E k)
    {k' : ObjectKey} {o o' : DynamicObject} (hread : s.objects.get? k = some o)
    (h' : s'.objects.get? k' = some o')
    (hv : o'.metadata.resourceVersion = o.metadata.resourceVersion) : k' = k ∧ o' = o := by
  rcases h.objects k' with he | ⟨hE, hat⟩ | hf
  · have hk' : k' = k := hs.distinct k' k o' o (he ▸ h') hread hv
    subst hk'
    exact ⟨rfl, Option.some.inj (h'.symm.trans (he.trans hread))⟩
  · -- an edit keeps the version, so it was already at `k'`, which makes `k'` the key read
    obtain ⟨o₁, ho₁, hrv⟩ := get_of_versionAt (hat ▸ versionAt_of_get h')
    have hk' : k' = k := hs.distinct k' k o₁ o ho₁ hread (hrv.trans hv)
    exact absurd (hk' ▸ hE) hk
  · exact absurd hv (hf.ne_of_stamped hs hread h')

/-- An object read at `k` that is still there after two runs of operations that never edit `k`
in place was there in between: once restamped or gone, the version read cannot come back. -/
theorem Advances.keeps_read (h₁ : Advances E s s₁) (h₂ : Advances E s₁ s₂) (hs : s.Stamped)
    (hk : ¬ E k) (hread : s.objects.get? k = some o) (hlast : s₂.objects.get? k = some o) :
    s₁.objects.get? k = some o := by
  rcases h₁.objects k with he | ⟨hE, _⟩ | hf
  · exact he.trans hread
  · exact absurd hE hk
  · exact absurd rfl ((h₂.freshAt hf h₁.counter).ne_of_stamped hs hread hlast)

/-! ## Operations on cluster states -/

@[simp] theorem store_version (key : ObjectKey) (o : DynamicObject) :
    (s.store key o).version = s.version + 1 := rfl

theorem get?_store (key k' : ObjectKey) (o : DynamicObject) :
    (s.store key o).objects.get? k' = if k' = key then some { o with metadata :=
      { o.metadata with resourceVersion := some (toString (s.version + 1)) } }
    else s.objects.get? k' :=
  Table.get?_put _ _ _ _

theorem freshAt_store (key : ObjectKey) (o : DynamicObject) : s.FreshAt (s.store key o) key := by
  intro o' h
  rw [get?_store, if_pos rfl] at h
  cases h
  exact ⟨s.version + 1, by omega, rfl⟩

theorem store_advances (hs : s.Stamped) (key : ObjectKey) (o : DynamicObject) :
    Advances E s (s.store key o) where
  stamped := {
    sorted := hs.sorted.put _ _
    counted := fun k o' h => by
      rw [get?_store] at h
      split at h
      · cases h
        exact ⟨s.version + 1, le_rfl, rfl⟩
      · obtain ⟨n, hn, hrv⟩ := hs.counted k o' h
        exact ⟨n, by simp; omega, hrv⟩
    distinct := fun k k' o₁ o₂ h₁ h₂ heq => by
      -- the new version is above every count of `s`, so it pairs only with itself
      rw [get?_store] at h₁ h₂
      split at h₁ <;> split at h₂
      · simp_all
      · cases h₁
        obtain ⟨n, hn, hrv⟩ := hs.counted k' o₂ h₂
        rw [hrv] at heq
        have : s.version + 1 = n := Nat.repr_inj.mp (Option.some.inj heq)
        omega
      · cases h₂
        obtain ⟨n, hn, hrv⟩ := hs.counted k o₁ h₁
        rw [hrv] at heq
        have : n = s.version + 1 := Nat.repr_inj.mp (Option.some.inj heq)
        omega
      · exact hs.distinct k k' o₁ o₂ h₁ h₂ heq }
  counter := by simp
  objects k := by
    by_cases hk : k = key
    · subst hk
      exact .inr (.inr (freshAt_store _ _))
    · exact .inl (by rw [get?_store, if_neg hk])

theorem Stamped.store (hs : s.Stamped) (key : ObjectKey) (o : DynamicObject) :
    (s.store key o).Stamped :=
  (store_advances hs key o : Advances (fun _ => False) s _).stamped

/-- Storing at `key` and then anything at all edits nothing in place at `key`: it ends up
restamped. -/
theorem Advances.after_store (hs : s.Stamped) (key : ObjectKey) (o : DynamicObject)
    (h : Advances E (s.store key o) s') : Advances (fun k => E k ∧ k ≠ key) s s' :=
  ((store_advances hs key o).trans h).restamp (h.freshAt (freshAt_store key o) (by simp))

theorem editData_advances (hs : s.Stamped) {key : ObjectKey} (hE : E key) (f : Json → Json) :
    Advances E s (s.editData key f) := by
  have hget : ∀ k, (s.editData key f).objects.get? k = if k = key then
      (s.objects.get? k).map (fun o => { o with data := f o.data }) else s.objects.get? k :=
    fun k => Table.get?_modify _ _ _ _
  have hat : ∀ k, (s.editData key f).versionAt k = s.versionAt k := by
    intro k
    simp only [versionAt, hget]
    split <;> simp [Option.map_map, Function.comp_def]
  refine ⟨hs.of_versions (hs.sorted.modify _ _) le_rfl fun k o' h => ?_, le_rfl, fun k => ?_⟩
  · exact get_of_versionAt ((hat k).symm ▸ versionAt_of_get h)
  · by_cases hk : k = key
    · exact .inr (.inl ⟨hk ▸ hE, hat k⟩)
    · exact .inl (by rw [hget, if_neg hk])

theorem record_advances (hs : s.Stamped) (call : String) : Advances E s (s.record call) :=
  .of_objects hs rfl rfl

theorem pushEvent_advances (hs : s.Stamped) (e : ClusterEvent) : Advances E s (s.pushEvent e) :=
  .of_objects hs rfl rfl

theorem park_advances (hs : s.Stamped) (ns : String) (p : PendingInstall) :
    Advances E s (s.park ns p) :=
  .of_objects hs rfl rfl

theorem terminate_advances (hs : s.Stamped) (ns podName : String) (polls : Nat) (now : Timestamp) :
    Advances E s (s.terminate ns podName polls now) := by
  unfold terminate
  split <;> exact .of_objects hs rfl rfl

theorem erase_advances (hs : s.Stamped) (key : ObjectKey) :
    Advances E s { s with objects := s.objects.erase key } := by
  refine .of_prune hs (hs.sorted.erase _) rfl fun k => ?_
  show (s.objects.erase key).get? k = _ ∨ (s.objects.erase key).get? k = none
  rw [Table.get?_erase]
  split
  · exact .inr rfl
  · exact .inl rfl

theorem removeOperator_advances (hs : s.Stamped) (ns csvName : String) :
    Advances E s (s.removeOperator ns csvName) := by
  refine .of_prune hs (hs.sorted.filter _) rfl fun k => ?_
  show (s.objects.filter _).get? k = _ ∨ (s.objects.filter _).get? k = none
  rw [Table.get?_filter hs.sorted]
  cases s.objects.get? k with
  | none => exact .inl rfl
  | some o =>
    rw [Option.filter_some]
    split
    · exact .inl rfl
    · exact .inr rfl

theorem renderOperator_advances (hs : s.Stamped) (ns csvName : String) :
    Advances E s (s.renderOperator ns csvName) := by
  unfold renderOperator
  split
  · exact .refl hs
  · exact Advances.foldl (fun s _ hs => store_advances hs _ _) _ hs

theorem installCsv_advances (hs : s.Stamped) (ns : String) (p : PendingInstall) (phase : String)
    (now : Timestamp) : Advances E s (s.installCsv ns p phase now) := by
  let s₁ := s.store (csvObject ns p phase).key (csvObject ns p phase)
  have h₁ : Advances E s s₁ := store_advances hs _ _
  have h₂ : Advances E s { s₁ with operatorEnv := s₁.operatorEnv.put ⟨ns, p.csvName⟩ p.env } :=
    h₁.trans (.of_objects h₁.stamped rfl rfl)
  have h₃ := h₂.trans (renderOperator_advances h₂.stamped ns p.csvName)
  unfold installCsv
  dsimp only
  split
  · exact h₃.trans (pushEvent_advances h₃.stamped _)
  · exact h₃

theorem offerPlan_advances (hs : s.Stamped) (ns : String) (p : PendingInstall) (approved : Bool)
    (hE : E ⟨"Subscription", ns, p.subscription⟩) : Advances E s (s.offerPlan ns p approved) := by
  unfold offerPlan
  exact (store_advances hs _ _).chain fun hs => editData_advances hs hE _

end SimState

namespace SimCluster

open SimState

variable {E : ObjectKey → Prop} {s : SimState}

theorem install_advances (hs : s.Stamped) (settings : SimSettings) (ns : String)
    (p : PendingInstall) (now : Timestamp) (hE : E ⟨"Subscription", ns, p.subscription⟩) :
    Advances E s (install settings s ns p now) := by
  unfold install
  dsimp only
  split
  · exact ((installCsv_advances hs ns p _ now).chain fun hs => editData_advances hs hE _).chain
      fun hs => (offerPlan_advances hs ns _ false (by exact hE)).chain fun hs => park_advances hs ns _
  · exact (installCsv_advances hs ns p _ now).chain fun hs => editData_advances hs hE _

theorem offer_advances (hs : s.Stamped) (settings : SimSettings) (ns : String)
    (p : PendingInstall) (approved : Bool) (now : Timestamp)
    (hE : E ⟨"Subscription", ns, p.subscription⟩) :
    Advances E s (offer settings s ns p approved now) := by
  unfold offer
  dsimp only
  split
  · exact (offerPlan_advances hs ns p approved hE).chain fun hs =>
      install_advances hs settings ns p now hE
  · exact (offerPlan_advances hs ns p approved hE).chain fun hs => park_advances hs ns p

theorem afterSubscriptionCreated_advances (hs : s.Stamped) (settings : SimSettings)
    (key : ObjectKey) (now : Timestamp) (hE : E ⟨"Subscription", key.namespaceName, key.name⟩) :
    Advances E s (afterSubscriptionCreated settings s key now) := by
  unfold afterSubscriptionCreated
  split
  · exact .refl hs
  · split
    · exact .refl hs
    · exact offer_advances hs _ _ _ _ _ hE

/-- Approving a plan installs for whichever subscription parked it, so any subscription may be
edited in place. -/
theorem afterInstallPlanPatched_advances (hs : s.Stamped) (settings : SimSettings)
    (key : ObjectKey) (now : Timestamp) (hE : ∀ k : ObjectKey, k.kind = "Subscription" → E k) :
    Advances E s (afterInstallPlanPatched settings s key now) := by
  unfold afterInstallPlanPatched
  dsimp only
  split
  · exact .refl hs
  · split
    · exact .refl hs
    · exact (Advances.of_objects hs rfl rfl :
        Advances E s { s with pending := s.pending.erase ⟨key.namespaceName, key.name⟩ }).chain
        fun hs => install_advances hs _ _ _ _ (hE _ rfl)

theorem reconcileWorkload_advances (hs : s.Stamped) (settings : SimSettings) (key : ObjectKey)
    (now : Timestamp) (hE : E key) : Advances E s (reconcileWorkload settings s key now) := by
  unfold reconcileWorkload
  dsimp only
  split
  · exact .refl hs
  · split
    · exact pushEvent_advances hs _
    · -- the pods change, the objects only by the status edit of the workload
      refine ((Advances.foldl (fun s _ hs => ?_) _ hs).chain fun hs =>
        Advances.foldl (fun s _ hs => ?_) _ hs).chain fun hs => editData_advances hs hE _
      · split <;> exact .of_objects hs rfl rfl
      · split
        · exact terminate_advances hs _ _ _ _
        · exact .refl hs

/-- A write that records its call, stores the object at `key` and lets the cluster react edits
nothing in place at `key`, whatever the reaction edits. -/
theorem Advances.record_store (hs : s.Stamped) (call : String) (key : ObjectKey)
    (o : DynamicObject) {s' : SimState}
    (h : ((s.record call).store key o).Stamped →
      Advances (fun _ => True) ((s.record call).store key o) s') :
    Advances (· ≠ key) s s' :=
  ((record_advances hs call).chain fun hs =>
    Advances.after_store hs key o (h (hs.store key o))).mono fun _ h => h.2

theorem create_advances {c : SimCluster} (hs : c.state.Stamped) (r : ApiResource) (ns : String)
    (o : DynamicObject) (now : Timestamp) :
    Advances (· ≠ ⟨r.kind, ns, o.name⟩) c.state (c.create r ns o now).2.state := by
  unfold create
  dsimp only
  split
  · exact .refl hs
  · -- the new object is stamped; what OLM or the reconciler then does keeps its version
    split
    · exact Advances.record_store hs _ _ _ fun hs => afterSubscriptionCreated_advances hs _ _ _ trivial
    · split
      · exact Advances.record_store hs _ _ _ fun hs => .refl hs
      · exact Advances.record_store hs _ _ _ fun hs => reconcileWorkload_advances hs _ _ _ trivial

theorem replace_advances {c : SimCluster} (hs : c.state.Stamped) (r : ApiResource) (ns : String)
    (o : DynamicObject) (now : Timestamp) :
    Advances (· ≠ ⟨r.kind, ns, o.name⟩) c.state (c.replace r ns o now).2.state := by
  unfold replace
  dsimp only
  split
  · exact .refl hs
  · split
    · exact .refl hs
    · split
      · exact Advances.record_store hs _ _ _ fun hs => renderOperator_advances hs _ _
      · split
        · exact Advances.record_store hs _ _ _ fun hs => reconcileWorkload_advances hs _ _ _ trivial
        · exact Advances.record_store hs _ _ _ fun hs => .refl hs

theorem patchMerge_advances {c : SimCluster} (hs : c.state.Stamped) (r : ApiResource)
    (ns name : String) (patch : Json) (now : Timestamp) :
    Advances (· ≠ ⟨r.kind, ns, name⟩) c.state (c.patchMerge r ns name patch now).2.state := by
  unfold patchMerge
  dsimp only
  split
  · exact .refl hs
  · split
    · -- OLM's reaction to a patched plan edits subscriptions, never the plan itself
      rename_i hplan
      have hkind : ∀ k : ObjectKey, k.kind = "Subscription" → k ≠ ⟨r.kind, ns, name⟩ := by
        rintro k hk rfl
        simp_all
      split
      · exact Advances.record_store hs _ _ _ fun hs =>
          afterInstallPlanPatched_advances hs _ _ _ fun _ _ => trivial
      · exact (record_advances hs _).chain fun hs => afterInstallPlanPatched_advances hs _ _ _ hkind
    · split
      · exact Advances.record_store hs _ _ _ fun hs => .refl hs
      · exact record_advances hs _

theorem delete_advances {c : SimCluster} (hs : c.state.Stamped) (r : ApiResource)
    (ns name : String) (now : Timestamp) :
    Advances (· ≠ ⟨r.kind, ns, name⟩) c.state (c.delete r ns name now).2.state := by
  unfold delete
  dsimp only
  split
  · exact (((record_advances hs _).chain fun hs => erase_advances hs _).chain fun hs =>
      removeOperator_advances hs _ _).chain fun hs =>
      Advances.foldl (fun _ _ hs => terminate_advances hs _ _ _ _) _ hs
  · exact ((record_advances hs _).chain fun hs => erase_advances hs _).chain fun hs =>
      Advances.foldl (fun _ _ hs => terminate_advances hs _ _ _ _) _ hs

end SimCluster

theorem ClusterSpec.build_stamped (spec : ClusterSpec) : spec.build.state.Stamped := by
  unfold ClusterSpec.build
  dsimp only
  exact ((SimState.Advances.foldl (fun _ o hs => SimState.store_advances hs o.key o) _
    SimState.stamped_empty).chain fun hs =>
      SimState.Advances.foldl (fun _ e hs => SimState.pushEvent_advances hs e) _ hs :
    SimState.Advances (fun _ => False) _ _).stamped

end OlmProvision
