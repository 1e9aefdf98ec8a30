import OlmProvision.Proofs.ProgramLogic
import OlmProvision.Provision.Lifecycle

/-
Readiness checks of a custom resource, read against one snapshot of the cluster.

A readiness is a tree: `all` nests a list of readinesses. The check of a resource splits the
tree in two. What can be decided from the object is evaluated over the whole tree, as a
conjunction (`objectSatisfies`). The pods are counted for one selector only, the first met
depth first (`podSelector`), and the absence check waits for the pods of that selector alone.

So the check of `all rs` is the conjunction of the checks of its parts only when the tree names
at most one selector; with two, the second is never looked at. An empty `all` holds of any
object but, unlike an empty conjunction, still needs the object to exist.

What is proved:

1. The selectors of a tree, depth first (`Readiness.selectors`): the pod selector is the first
   of them (`Readiness.podSelector_eq_head?`), and the object part of `all rs` is the
   conjunction of the object parts of `rs` (`Readiness.objectSatisfies_all`).
2. On a platform whose reads of the resource answer from a snapshot (`Platform.Snapshot`), the
   readiness check answers `Handle.readyOn` and the absence check `Handle.absentOn`, both
   computed from the snapshot alone (`isReady_snapshot`, `isAbsent_snapshot`).
3. When the tree names at most one selector, `all rs` is ready exactly when the resource exists
   and each part is ready, and absent exactly when the resource is gone and no selector of the
   tree lists a pod (`all_ready_iff_parts_of_one_selector`). Without the resource an empty
   `all` is not ready, and with two selectors both checks read the first selector alone
   (`all_checks_read_first_selector_only`).
-/
namespace OlmProvision

namespace Readiness

/-- The pod selectors of a readiness, depth first. -/
def selectors : Readiness → List String
  | .podsRunning s => [s]
  | .all inner => selectorsOf inner
  | _ => []
where
  /-- The selectors of the readinesses of `rs`, in order. -/
  selectorsOf : List Readiness → List String
    | [] => []
    | r :: rest => selectors r ++ selectorsOf rest

theorem selectorsOf_eq_flatMap (rs : List Readiness) :
    selectors.selectorsOf rs = rs.flatMap selectors := by
  induction rs with
  | nil => rfl
  | cons r rest ih => rw [selectors.selectorsOf, ih, List.flatMap_cons]

@[simp] theorem selectors_all (rs : List Readiness) :
    (all rs).selectors = rs.flatMap selectors := by
  rw [selectors, selectorsOf_eq_flatMap]

-- `podSelector` and `selectors` recurse through the same nesting, so the two statements are
-- proved together, one case per constructor and one per list cell.
mutual

theorem podSelector_eq_head? : ∀ r : Readiness, r.podSelector = r.selectors.head?
  | .objectExists => rfl
  | .podsRunning _ => rfl
  | .condition _ _ => rfl
  | .statusField _ _ => rfl
  | .all inner => firstSelector_eq_head? inner

theorem firstSelector_eq_head? : ∀ rs : List Readiness,
    podSelector.firstSelector rs = (selectors.selectorsOf rs).head?
  | [] => rfl
  | r :: rest => by
    rw [podSelector.firstSelector, selectors.selectorsOf, podSelector_eq_head? r,
      firstSelector_eq_head? rest]
    cases selectors r <;> rfl

end

theorem allSatisfy_eq_all (data : Json) (rs : List Readiness) :
    objectSatisfies.allSatisfy data rs = rs.all (objectSatisfies data) := by
  induction rs with
  | nil => rfl
  | cons r rest ih => rw [objectSatisfies.allSatisfy, ih, List.all_cons]

@[simp] theorem objectSatisfies_all (data : Json) (rs : List Readiness) :
    (all rs).objectSatisfies data = rs.all (objectSatisfies data) := by
  rw [objectSatisfies, allSatisfy_eq_all]

/-- The tree names at most one pod selector, possibly several times. -/
def OneSelector (r : Readiness) : Prop := ∀ s ∈ r.selectors, ∀ t ∈ r.selectors, s = t

instance : DecidablePred OneSelector := fun r =>
  inferInstanceAs (Decidable (∀ s ∈ r.selectors, ∀ t ∈ r.selectors, s = t))

theorem OneSelector.of_mem {rs : List Readiness} {r : Readiness} (hone : (all rs).OneSelector)
    (hr : r ∈ rs) : r.OneSelector := by
  have hsub : ∀ u ∈ r.selectors, u ∈ (all rs).selectors := fun u hu => by
    rw [selectors_all]
    exact List.mem_flatMap.mpr ⟨r, hr, hu⟩
  intro s hs t ht
  exact hone s (hsub s hs) t (hsub t ht)

/-- With one selector, a property holds of the pod selector (when there is one) exactly when it
holds of every selector of the tree. -/
theorem OneSelector.podSelector_all_iff {r : Readiness} (hone : r.OneSelector)
    (f : String → Bool) : r.podSelector.all f = true ↔ ∀ s ∈ r.selectors, f s = true := by
  rw [podSelector_eq_head?]
  unfold OneSelector at hone
  generalize r.selectors = l at hone ⊢
  cases l with
  | nil => simp
  | cons a l =>
    simp only [List.head?_cons, Option.all_some, List.mem_cons, forall_eq_or_imp]
    refine ⟨fun ha => ⟨ha, fun s hs => ?_⟩, fun hall => hall.1⟩
    rw [hone s (List.mem_cons_of_mem a hs) a List.mem_cons_self]
    exact ha

end Readiness

namespace Handle

variable {σ : Type}

@[simp] theorem expectedPods_withReadiness (h : Handle) (r : Readiness) :
    ({ h with readiness := r } : Handle).expectedPods = h.expectedPods := rfl

/-- Whether the pods a selector lists are the expected number, all running. -/
def podsReady (h : Handle) (ps : List Pod) : Bool :=
  (ps.filter Pod.isRunning).length == h.expectedPods && ps.length == h.expectedPods

/-- What the readiness check answers on a snapshot, where `object` is the resource or its
absence and `pods s` what the selector `s` lists. -/
def readyOn (h : Handle) (object : Option DynamicObject) (pods : String → List Pod) : Bool :=
  match object with
  | none => false
  | some o =>
    h.readiness.objectSatisfies o.data && h.readiness.podSelector.all (fun s => h.podsReady (pods s))

/-- What the absence check answers on a snapshot. -/
def absentOn (h : Handle) (object : Option DynamicObject) (pods : String → List Pod) : Bool :=
  object.isNone && h.readiness.podSelector.all (fun s => (pods s).isEmpty)

theorem readyOn_all_iff {h : Handle} {rs : List Readiness} {object : Option DynamicObject}
    {pods : String → List Pod} (hone : (Readiness.all rs).OneSelector) :
    ({ h with readiness := .all rs } : Handle).readyOn object pods = true ↔
      object.isSome ∧ ∀ r ∈ rs, ({ h with readiness := r } : Handle).readyOn object pods = true := by
  cases object with
  | none => simp [readyOn]
  | some o =>
    simp only [readyOn, podsReady, expectedPods_withReadiness, Readiness.objectSatisfies_all,
      Bool.and_eq_true, List.all_eq_true, Option.isSome_some, true_and]
    rw [hone.podSelector_all_iff, Readiness.selectors_all]
    constructor
    · rintro ⟨hobj, hpods⟩ r hr
      refine ⟨hobj r hr, (hone.of_mem hr).podSelector_all_iff _ |>.mpr fun s hs => ?_⟩
      exact hpods s (List.mem_flatMap.mpr ⟨r, hr, hs⟩)
    · intro hparts
      refine ⟨fun r hr => (hparts r hr).1, fun s hs => ?_⟩
      obtain ⟨r, hr, hs⟩ := List.mem_flatMap.mp hs
      exact ((hone.of_mem hr).podSelector_all_iff _).mp (hparts r hr).2 s hs

theorem absentOn_all_iff {h : Handle} {rs : List Readiness} {object : Option DynamicObject}
    {pods : String → List Pod} (hone : (Readiness.all rs).OneSelector) :
    ({ h with readiness := .all rs } : Handle).absentOn object pods = true ↔
      object = none ∧ ∀ s ∈ (Readiness.all rs).selectors, pods s = [] := by
  simp only [absentOn, Bool.and_eq_true, Option.isNone_iff_eq_none]
  rw [hone.podSelector_all_iff]
  simp only [List.isEmpty_iff]

end Handle

/-- The platform's reads of the handle's resource answer from a fixed snapshot, whenever they
are made: `object` is the resource or its absence, and `pods s` what the selector `s` lists in
the resource's namespace. -/
structure Platform.Snapshot {σ : Type} (P : Platform σ) (h : Handle)
    (object : Option DynamicObject) (pods : String → List Pod) : Prop where
  get : ∀ w, ((P.get h.resource h.namespaceName h.name).exec w).1 = .ok object
  listPods : ∀ s w, ((P.listPods h.namespaceName s).exec w).1 = .ok (pods s)

namespace Platform.Snapshot

variable {σ : Type} {P : Platform σ} {h : Handle} {object : Option DynamicObject}
  {pods : String → List Pod}

/-- A snapshot of a resource does not depend on how its readiness is told. -/
theorem withReadiness (hs : P.Snapshot h object pods) (r : Readiness) :
    P.Snapshot { h with readiness := r } object pods :=
  ⟨hs.get, hs.listPods⟩

end Platform.Snapshot

section Checks

variable {σ : Type} {P : Platform σ} {h : Handle} {object : Option DynamicObject}
  {pods : String → List Pod}

theorem isReady_snapshot (hs : P.Snapshot h object pods) (w : World σ) :
    Run.wp (Lifecycle.isReady P h) (fun x _ => x = .ok (h.readyOn object pods)) w := by
  unfold Lifecycle.isReady Lifecycle.fetch
  simp only [Run.wp_bind, Run.wp_call]
  rw [Step.wp_iff_exec, hs.get w]
  cases object with
  | none => rfl
  | some o =>
    dsimp only
    by_cases hobj : h.readiness.objectSatisfies o.data = true
    · simp only [hobj, Bool.not_true, Bool.false_eq_true, if_false]
      cases hsel : h.readiness.podSelector with
      | none => simp [Handle.readyOn, hobj, hsel]
      | some s =>
        simp only [Lifecycle.pods, Run.wp_bind, Run.wp_call]
        rw [Step.wp_iff_exec, hs.listPods s]
        simp [Handle.readyOn, Handle.podsReady, hobj, hsel]
    · simp [Handle.readyOn, hobj]

theorem isAbsent_snapshot (hs : P.Snapshot h object pods) (w : World σ) :
    Run.wp (Lifecycle.isAbsent P h) (fun x _ => x = .ok (h.absentOn object pods)) w := by
  unfold Lifecycle.isAbsent Lifecycle.isPresent Lifecycle.fetch
  simp only [Run.wp_bind, Run.wp_call]
  rw [Step.wp_iff_exec, hs.get w]
  cases object with
  | some o => simp [Handle.absentOn]
  | none =>
    cases hsel : h.readiness.podSelector with
    | none => simp [Handle.absentOn, hsel]
    | some s =>
      simp only [Lifecycle.pods, Option.isSome_none, Bool.false_eq_true, if_false,
        Run.wp_bind, Run.wp_call, Run.wp_pure]
      rw [Step.wp_iff_exec, hs.listPods s]
      simp [Handle.absentOn, hsel]

/-- With at most one selector in the tree, `all rs` is ready exactly when the resource exists and
every part is ready, and absent when the resource is gone and no selector lists a pod. -/
theorem all_ready_iff_parts_of_one_selector (P : Platform σ) (h : Handle) (rs : List Readiness)
    (object : Option DynamicObject) (pods : String → List Pod) (w : World σ)
    (hs : P.Snapshot h object pods) (hone : (Readiness.all rs).OneSelector) :
    Run.wp (Lifecycle.isReady P { h with readiness := .all rs }) (fun x _ => ∃ b, x = .ok b ∧
      (b = true ↔ object.isSome ∧ ∀ r ∈ rs,
        Run.wp (Lifecycle.isReady P { h with readiness := r }) (fun y _ => y = .ok true) w)) w ∧
    Run.wp (Lifecycle.isAbsent P { h with readiness := .all rs }) (fun x _ => ∃ b, x = .ok b ∧
      (b = true ↔ object = none ∧ ∀ s ∈ (Readiness.all rs).selectors, pods s = [])) w := by
  -- each part's check answers what the snapshot says, so "answers ready" is `readyOn`
  have hparts : ∀ r, Run.wp (Lifecycle.isReady P { h with readiness := r })
      (fun y _ => y = .ok true) w ↔ ({ h with readiness := r } : Handle).readyOn object pods = true :=
    fun r => Run.wp_answer_iff (isReady_snapshot (hs.withReadiness r) w) true
  constructor
  · refine Run.wp_mono (isReady_snapshot (hs.withReadiness _) w) fun x _ hx => ⟨_, hx, ?_⟩
    rw [Handle.readyOn_all_iff hone]
    simp only [hparts]
  · refine Run.wp_mono (isAbsent_snapshot (hs.withReadiness _) w) fun x _ hx => ⟨_, hx, ?_⟩
    exact Handle.absentOn_all_iff hone

end Checks

/-- A platform frozen at one snapshot: every object read answers `object`, every pod listing
what `pods` gives for its selector, the other listings are empty, and writes are refused. -/
def Platform.frozen {σ : Type} (object : Option DynamicObject) (pods : String → List Pod) :
    Platform σ where
  create r _ _ := Call.fail (.apiCall "create" r.kind (.other "read-only snapshot"))
  replace r _ _ := Call.fail (.apiCall "replace" r.kind (.other "read-only snapshot"))
  get _ _ _ := (pure (.ok object) : Step σ (Except ClientError (Option DynamicObject)))
  list _ _ _ := (pure (.ok []) : Step σ (Except ClientError (List DynamicObject)))
  delete r _ _ := Call.fail (.apiCall "delete" r.kind (.other "read-only snapshot"))
  patchMerge r _ _ _ := Call.fail (.apiCall "patch" r.kind (.other "read-only snapshot"))
  listPods _ s := (pure (.ok (pods s)) : Step σ (Except ClientError (List Pod)))
  listEvents _ := (pure (.ok []) : Step σ (Except ClientError (List ClusterEvent)))

theorem Platform.frozen_snapshot {σ : Type} (h : Handle) (object : Option DynamicObject)
    (pods : String → List Pod) : (Platform.frozen object pods : Platform σ).Snapshot h object pods :=
  ⟨fun _ => rfl, fun _ _ => rfl⟩

/-- A tree naming one selector twice, once nested, read on a frozen cluster with no pods. -/
theorem all_ready_iff_parts_of_one_selector_repeated :
    let h := Handle.new ⟨"example.com", "v1", "Cache", "caches"⟩ "cache-test" "my-cache"
    let sel := "app.kubernetes.io/instance=my-cache"
    let rs : List Readiness := [.podsRunning sel, .all [.condition "Ready" "True", .podsRunning sel]]
    let pods : String → List Pod := fun _ => []
    let w : World Unit := ⟨(), ⟨0⟩, [], ⟨0, 0⟩, ⟨0, 0⟩⟩
    (Platform.frozen none pods : Platform Unit).Snapshot h none pods ∧
      (Readiness.all rs).OneSelector ∧
      Run.wp (Lifecycle.isReady (Platform.frozen none pods) { h with readiness := .all rs })
        (fun x _ => ∃ b, x = .ok b ∧ (b = true ↔ (none : Option DynamicObject).isSome ∧ ∀ r ∈ rs,
          Run.wp (Lifecycle.isReady (Platform.frozen none pods) { h with readiness := r })
            (fun y _ => y = .ok true) w)) w ∧
      Run.wp (Lifecycle.isAbsent (Platform.frozen none pods) { h with readiness := .all rs })
        (fun x _ => ∃ b, x = .ok b ∧
          (b = true ↔ (none : Option DynamicObject) = none ∧
            ∀ s ∈ (Readiness.all rs).selectors, pods s = [])) w :=
  ⟨Platform.frozen_snapshot _ _ _, by decide,
    all_ready_iff_parts_of_one_selector _ _ _ _ _ _ (Platform.frozen_snapshot _ _ _) (by decide)⟩

/-- Without the resource an empty `all` is not ready, and with two selectors both checks read the
first one alone. -/
theorem all_checks_read_first_selector_only :
    let h := Handle.new ⟨"example.com", "v1", "Cache", "caches"⟩ "cache-test" "my-cache"
    let mine := "app.kubernetes.io/instance=my-cache"
    let other := "app.kubernetes.io/instance=other"
    let both : Readiness := .all [.podsRunning mine, .podsRunning other]
    let running (name : String) : Pod :=
      ⟨name, "cache-test", [("app.kubernetes.io/instance", "my-cache")], some "Running", none⟩
    let listsMine : String → List Pod := fun s => if s = mine then [running "my-cache-0"] else []
    let listsOther : String → List Pod := fun s => if s = other then [running "other-0"] else []
    let w : World Unit := ⟨(), ⟨0⟩, [], ⟨0, 0⟩, ⟨0, 0⟩⟩
    Run.wp (Lifecycle.isReady (Platform.frozen none listsMine) { h with readiness := .all [] })
        (fun x _ => x = .ok false) w ∧
      Run.wp (Lifecycle.isReady (Platform.frozen (some default) listsMine)
        { h with readiness := .podsRunning mine }) (fun x _ => x = .ok true) w ∧
      Run.wp (Lifecycle.isReady (Platform.frozen (some default) listsMine)
        { h with readiness := .podsRunning other }) (fun x _ => x = .ok false) w ∧
      Run.wp (Lifecycle.isReady (Platform.frozen (some default) listsMine)
        { h with readiness := both }) (fun x _ => x = .ok true) w ∧
      listsOther other ≠ [] ∧
      Run.wp (Lifecycle.isAbsent (Platform.frozen none listsOther) { h with readiness := both })
        (fun x _ => x = .ok true) w := by
  intro h mine other both running listsMine listsOther w
  refine ⟨?_, ?_, ?_, ?_, by simp [listsOther], ?_⟩
  all_goals first
    | exact isReady_snapshot (Platform.frozen_snapshot _ _ _) w
    | exact isAbsent_snapshot (Platform.frozen_snapshot _ _ _) w

end OlmProvision
