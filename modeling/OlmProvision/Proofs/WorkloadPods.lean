import OlmProvision.Proofs.SimulatedPods
import OlmProvision.Proofs.ConcurrentWrites
import OlmProvision.Proofs.DocumentForms

/-
The pods of the workloads of the simulated cluster.

The workload reconciler names the pods of an instance `<inst>-<i>` and labels them with the
instance; when it scales down it reads the index back from the name. The names are made so
that both can be read back: the index is the number after the last `-`, and the instance is
what stands before it (`podIndex_podName`, `podName_inj`). So the pods of two instances never
share a place, and the reconciler never mistakes one pod for another.

What is proved:

1. Pod names read back (`podIndex_podName`, `podName_inj`).
2. `SimState.PodsWellFormed`: the pods are sorted by place, each sits at a name `<inst>-<i>`
   of the instance it carries, and the running ones are in phase `Running`. Every operation of
   the cluster that touches the pods keeps it (`SimState.PodsWellFormed.reconcileWorkload`,
   `SimState.PodsWellFormed.delete`, `SimState.PodsWellFormed.listPods`).
3. What each operation does to the running pods of an instance: only the reconciler and a
   delete change them. Reconciling a workload to `r` replicas leaves exactly `<inst>-0` …
   `<inst>-(r-1)` running and no other instance's pods touched; a delete stops the running pods
   of the name it deletes, whatever the kind deleted and whether it was there; a pod query
   stops none (`SimState.runs_reconcileWorkload`, `SimCluster.runs_delete`,
   `SimCluster.runs_listPods`).
-/
namespace OlmProvision

/-! ## Pod names -/

/-- The name of pod `i` of the instance `inst`, as the workload reconciler names it. -/
def podName (inst : String) (i : Nat) : String := inst ++ "-" ++ toString i

theorem podName_reverse (inst : String) (i : Nat) :
    (podName inst i).toList.reverse = (Nat.toDigits 10 i).reverse ++ '-' :: inst.toList.reverse := by
  simp [podName, String.toList_append, Nat.toString_eq_repr, Nat.toList_repr]

theorem ne_dash_of_mem_toDigits {i : Nat} {c : Char} (h : c ∈ Nat.toDigits 10 i) :
    (c != '-') = true := by
  have hdigit := Nat.isDigit_of_mem_toDigits (by decide) (by decide) h
  have hne : c ≠ '-' := by
    rintro rfl
    exact absurd hdigit (by decide)
  simpa using hne

theorem takeWhile_podName (inst : String) (i : Nat) :
    (podName inst i).toList.reverse.takeWhile (· != '-') = (Nat.toDigits 10 i).reverse := by
  rw [podName_reverse, List.takeWhile_append_of_pos]
  · simp
  · intro c hc
    exact ne_dash_of_mem_toDigits (List.mem_reverse.mp hc)

theorem dropWhile_podName (inst : String) (i : Nat) :
    (podName inst i).toList.reverse.dropWhile (· != '-') = '-' :: inst.toList.reverse := by
  rw [podName_reverse, List.dropWhile_append_of_pos]
  · simp
  · intro c hc
    exact ne_dash_of_mem_toDigits (List.mem_reverse.mp hc)

theorem podName_inj {inst inst' : String} {i j : Nat} (h : podName inst i = podName inst' j) :
    inst = inst' ∧ i = j := by
  have hdigits := congrArg (fun s : String => s.toList.reverse.takeWhile (· != '-')) h
  have hinst := congrArg (fun s : String => s.toList.reverse.dropWhile (· != '-')) h
  simp only [takeWhile_podName, dropWhile_podName, List.reverse_inj, List.cons.injEq,
    true_and] at hdigits hinst
  rw [← Nat.toList_repr, ← Nat.toList_repr, String.toList_inj, Nat.repr_inj] at hdigits
  exact ⟨String.toList_inj.mp hinst, hdigits⟩

theorem toNat!_repr (n : Nat) : (Nat.repr n).toNat! = n := by
  have h := Nat.toNat?_repr n
  have hnat := Nat.isNat_repr n
  unfold String.toNat? String.Slice.toNat? at h
  unfold String.isNat at hnat
  unfold String.toNat! String.Slice.toNat!
  rw [if_pos hnat] at h ⊢
  exact Option.some.inj h

/-- The reconciler reads back the index of every pod it names. -/
theorem podIndex_podName (inst : String) {i : Nat} (hi : i ≤ Number.u64Max) :
    podIndex (podName inst i) = i := by
  have hdigits : (Nat.toDigits 10 i).all Char.isDigit = true :=
    List.all_eq_true.mpr fun c hc => Nat.isDigit_of_mem_toDigits (by decide) (by decide) hc
  have hsign : (Nat.toDigits 10 i).head? ≠ some '+' := by
    intro h
    have hdigit := Nat.isDigit_of_mem_toDigits (by decide) (by decide) (List.mem_of_head? h)
    exact absurd hdigit (by decide)
  have hne : (Nat.toDigits 10 i).isEmpty = false :=
    List.isEmpty_eq_false_iff.mpr Nat.toDigits_ne_nil
  have hlen : (Nat.toDigits 10 i).length ≤ 20 :=
    (Nat.length_toDigits_le_iff (by decide) (by decide)).mpr (by unfold Number.u64Max at hi; omega)
  unfold podIndex
  simp only [takeWhile_podName, List.reverse_reverse, hsign, if_false, hdigits, hlen, hne,
    decide_true, Bool.and_true, Bool.not_false, if_true]
  rw [← Nat.repr_eq_ofList_toDigits, toNat!_repr, if_pos hi]

/-! ## Pods one at a time -/

namespace SimPod

/-- The instance a pod is labeled with. -/
def instanceLabel (p : SimPod) : Option String :=
  (p.pod.labels.find? (fun l => l.1 == appInstanceLabel)).map Prod.snd

/-- A pod after one pod query: a running pod stays as it is; a terminating one counts down and
is gone when the count reaches zero. -/
def countDown (p : SimPod) : Option SimPod :=
  match p.terminatingFor with
  | none => some p
  | some left => if left - 1 = 0 then none else some { p with terminatingFor := some (left - 1) }

/-- A pod told to stop: gone at once with no polls, otherwise terminating for `polls` pod
queries, deleted at `now`. -/
def stop (polls : Nat) (now : Timestamp) (p : SimPod) : Option SimPod :=
  if polls = 0 then none
  else some { terminatingFor := some polls, pod := { p.pod with deletionTimestamp := some now } }

@[simp] theorem instanceLabel_runningPod (ns inst podName : String) :
    (SimCluster.runningPod ns inst podName).instanceLabel = some inst := by
  simp [instanceLabel, SimCluster.runningPod]

@[simp] theorem runningPod_terminatingFor (ns inst podName : String) :
    (SimCluster.runningPod ns inst podName).terminatingFor = none := rfl

theorem countDown_of_running {p : SimPod} (h : p.terminatingFor = none) : p.countDown = some p := by
  simp [countDown, h]

theorem countDown_eq_some {p p' : SimPod} (h : p.countDown = some p') :
    p'.instanceLabel = p.instanceLabel ∧ (p'.terminatingFor = none → p' = p) := by
  unfold countDown at h
  split at h
  · cases h
    exact ⟨rfl, fun _ => rfl⟩
  · split at h
    · cases h
    · cases h
      exact ⟨rfl, nofun⟩

theorem stop_eq_some {polls : Nat} {now : Timestamp} {p p' : SimPod}
    (h : p.stop polls now = some p') : p'.instanceLabel = p.instanceLabel ∧ p'.terminatingFor ≠ none := by
  unfold stop at h
  split at h
  · cases h
  · cases h
    exact ⟨rfl, nofun⟩

theorem stop_bind_stop (polls : Nat) (now : Timestamp) (x : Option SimPod) :
    (x.bind (stop polls now)).bind (stop polls now) = x.bind (stop polls now) := by
  cases x with
  | none => rfl
  | some p =>
    unfold stop
    by_cases h : polls = 0 <;> simp [h]

end SimPod

namespace SimState

variable {s : SimState} {ns inst p : String} {polls : Nat} {now : Timestamp}

/-- `p` is the name of a running pod of `inst` in `ns`. -/
def Runs (s : SimState) (ns inst p : String) : Prop :=
  ∃ pod, s.pods.get? ⟨ns, p⟩ = some pod ∧ pod.terminatingFor = none ∧ pod.instanceLabel = some inst

instance (s : SimState) (ns inst p : String) : Decidable (s.Runs ns inst p) :=
  decidable_of_iff ((s.pods.get? ⟨ns, p⟩).any fun pod =>
      pod.terminatingFor.isNone && pod.instanceLabel == some inst) <| by
    unfold Runs
    cases s.pods.get? ⟨ns, p⟩ <;> simp

theorem mem_podsOf_iff_runs (hs : s.pods.Sorted) : p ∈ s.podsOf ns inst ↔ s.Runs ns inst p := by
  rw [mem_podsOf]
  constructor
  · rintro ⟨⟨⟨ns', p'⟩, pod⟩, he, hns, hrun, hinst, hname⟩
    dsimp only at hns hname
    subst hns hname
    exact ⟨pod, hs.get?_of_mem he, hrun, hinst⟩
  · rintro ⟨pod, hget, hrun, hinst⟩
    exact ⟨(⟨ns, p⟩, pod), Table.mem_entries_of_get? hget, rfl, hrun, hinst, rfl⟩

/-- The pods as the workload reconciler leaves them: sorted by place, each at a name
`<inst>-<i>` of the instance it is labeled with, for an index of 64 bits, and the running ones
in phase `Running`. -/
structure PodsWellFormed (s : SimState) : Prop where
  sorted : s.pods.Sorted
  named : ∀ q pod, s.pods.get? q = some pod →
    ∃ inst i, i ≤ Number.u64Max ∧ q.name = podName inst i ∧ pod.instanceLabel = some inst
  running : ∀ q pod, s.pods.get? q = some pod → pod.terminatingFor = none →
    pod.pod.phase = some podPhaseRunning

theorem podsWellFormed_empty : ({} : SimState).PodsWellFormed where
  sorted := Table.sorted_empty
  named _ _ h := by cases h
  running _ _ h := by cases h

theorem PodsWellFormed.runs_name (hwf : s.PodsWellFormed) (h : s.Runs ns inst p) :
    p = podName inst (podIndex p) ∧ podIndex p ≤ Number.u64Max := by
  obtain ⟨pod, hget, -, hinst⟩ := h
  obtain ⟨inst', i, hi, hname, hinst'⟩ := hwf.named _ pod hget
  rw [hinst] at hinst'
  cases hinst'
  dsimp only at hname
  rw [hname, podIndex_podName inst hi]
  exact ⟨rfl, hi⟩

/-! ### What the operations do to the pod table -/

theorem get?_terminate (s : SimState) (ns p : String) (polls : Nat) (now : Timestamp) (q : Place) :
    (s.terminate ns p polls now).pods.get? q =
      if q = ⟨ns, p⟩ then (s.pods.get? q).bind (SimPod.stop polls now) else s.pods.get? q := by
  unfold terminate
  split
  · rename_i hpolls
    rw [Table.get?_erase]
    split
    · cases s.pods.get? q <;> simp [SimPod.stop, hpolls]
    · rfl
  · rename_i hpolls
    rw [Table.get?_modify]
    split
    · cases s.pods.get? q <;> simp [SimPod.stop, hpolls]
    · rfl

/-- A fold of steps that each rewrite the pods at the places they name, the same way whatever the
earlier steps did, rewrites every place that some step names, and the others not. -/
theorem get?_foldl_pointwise {β : Type} (f : SimState → β → SimState) (names : β → Place → Prop)
    [∀ b q, Decidable (names b q)] (v : Place → Option SimPod → Option SimPod)
    (hf : ∀ s b q, (f s b).pods.get? q = if names b q then v q (s.pods.get? q) else s.pods.get? q)
    (hv : ∀ q o, v q (v q o) = v q o) (L : List β) (s : SimState) (q : Place) :
    (L.foldl f s).pods.get? q =
      if ∃ b ∈ L, names b q then v q (s.pods.get? q) else s.pods.get? q := by
  induction L generalizing s with
  | nil => simp
  | cons b L ih =>
    rw [List.foldl_cons, ih, hf]
    by_cases hb : names b q <;> by_cases hL : ∃ b' ∈ L, names b' q <;> simp [hb, hL, hv]

theorem get?_foldl_terminate (L : List String) (s : SimState) (q : Place) :
    (L.foldl (fun s p => s.terminate ns p polls now) s).pods.get? q =
      if q.namespaceName = ns ∧ q.name ∈ L then (s.pods.get? q).bind (SimPod.stop polls now)
      else s.pods.get? q := by
  rw [get?_foldl_pointwise _ (fun p q => q = ⟨ns, p⟩) (fun _ o => o.bind (SimPod.stop polls now))
    (fun s p q => get?_terminate s ns p polls now q) (fun _ o => SimPod.stop_bind_stop polls now o)]
  -- the places named are those of `ns` with a name in `L`
  obtain ⟨ns', q'⟩ := q
  simp only [Place.mk.injEq]
  by_cases h : ns' = ns ∧ q' ∈ L
  · rw [if_pos ⟨q', h.2, h.1, rfl⟩, if_pos h]
  · rw [if_neg (fun ⟨_, hp, hns, hq⟩ => h ⟨hns, hq ▸ hp⟩), if_neg h]

theorem get?_foldl_terminate_if (P : String → Prop) [DecidablePred P] (L : List String)
    (s : SimState) (q : Place) :
    (L.foldl (fun s p => if P p then s.terminate ns p polls now else s) s).pods.get? q =
      if q.namespaceName = ns ∧ q.name ∈ L ∧ P q.name then
        (s.pods.get? q).bind (SimPod.stop polls now)
      else s.pods.get? q := by
  have hfold : L.foldl (fun s p => if P p then s.terminate ns p polls now else s) s =
      (L.filter (fun p => decide (P p))).foldl (fun s p => s.terminate ns p polls now) s := by
    rw [List.foldl_filter]
    simp only [decide_eq_true_eq]
  rw [hfold, get?_foldl_terminate]
  simp only [List.mem_filter, decide_eq_true_eq]

/-- The reconciler's step for index `index` of `n`: start the pod of that name unless one of
that name runs. -/
def startPod (existing : List String) (ns n : String) (s : SimState) (index : Nat) : SimState :=
  if existing.contains (n ++ "-" ++ toString index) then s
  else
    { s with
      pods := s.pods.put ⟨ns, n ++ "-" ++ toString index⟩
        (SimCluster.runningPod ns n (n ++ "-" ++ toString index)) }

theorem get?_startPod (existing : List String) (ns n : String) (s : SimState) (i : Nat)
    (q : Place) :
    (startPod existing ns n s i).pods.get? q =
      if q.namespaceName = ns ∧ q.name = podName n i ∧ q.name ∉ existing then
        some (SimCluster.runningPod ns n q.name)
      else s.pods.get? q := by
  obtain ⟨ns', q'⟩ := q
  unfold startPod
  by_cases hq : ns' = ns ∧ q' = podName n i ∧ q' ∉ existing
  · obtain ⟨rfl, rfl, hnot⟩ := hq
    simp only [podName] at hnot ⊢
    have hcont : existing.contains (n ++ "-" ++ toString i) = false := by simpa using hnot
    simp only [hcont, Bool.false_eq_true, if_false, Table.get?_put_self, hnot, not_false_eq_true,
      and_self, if_true]
  · simp only [hq, if_false]
    split
    · rfl
    · rw [Table.get?_put]
      split
      · rename_i hcont heq
        cases heq
        exact absurd ⟨rfl, rfl, by simpa using hcont⟩ hq
      · rfl

theorem get?_foldl_startPod (existing : List String) (ns n : String) (L : List Nat)
    (s : SimState) (q : Place) :
    (L.foldl (startPod existing ns n) s).pods.get? q =
      if q.namespaceName = ns ∧ q.name ∈ L.map (podName n) ∧ q.name ∉ existing then
        some (SimCluster.runningPod ns n q.name)
      else s.pods.get? q := by
  rw [get?_foldl_pointwise _
    (fun i q => q.namespaceName = ns ∧ q.name = podName n i ∧ q.name ∉ existing)
    (fun q _ => some (SimCluster.runningPod ns n q.name)) (get?_startPod existing ns n)
    (fun _ _ => rfl)]
  -- the places named are those of `ns` with a name of an index in `L`
  by_cases h : q.namespaceName = ns ∧ q.name ∈ L.map (podName n) ∧ q.name ∉ existing
  · obtain ⟨i, hi, hname⟩ := List.mem_map.mp h.2.1
    rw [if_pos ⟨i, hi, h.1, hname.symm, h.2.2⟩, if_pos h]
  · refine (if_neg ?_).trans (if_neg h).symm
    rintro ⟨i, hi, hns, hname, hnot⟩
    exact h ⟨hns, List.mem_map.mpr ⟨i, hi, hname.symm⟩, hnot⟩

theorem get?_foldl_start (existing : List String) (ns n : String) (L : List Nat) (s : SimState)
    (q : Place) :
    (L.foldl (fun s index =>
        if existing.contains (n ++ "-" ++ toString index) then s
        else
          { s with
            pods := s.pods.put ⟨ns, n ++ "-" ++ toString index⟩
              (SimCluster.runningPod ns n (n ++ "-" ++ toString index)) }) s).pods.get? q =
      if q.namespaceName = ns ∧ q.name ∈ L.map (podName n) ∧ q.name ∉ existing then
        some (SimCluster.runningPod ns n q.name)
      else s.pods.get? q :=
  get?_foldl_startPod existing ns n L s q

/-! ### Operations that leave the pods alone -/

@[simp] theorem pods_store (s : SimState) (k : ObjectKey) (o : DynamicObject) :
    (s.store k o).pods = s.pods := rfl

@[simp] theorem pods_record (s : SimState) (call : String) : (s.record call).pods = s.pods := rfl

@[simp] theorem pods_pushEvent (s : SimState) (e : ClusterEvent) : (s.pushEvent e).pods = s.pods :=
  rfl

@[simp] theorem pods_editData (s : SimState) (k : ObjectKey) (f : Json → Json) :
    (s.editData k f).pods = s.pods := rfl

@[simp] theorem pods_removeOperator (s : SimState) (ns csvName : String) :
    (s.removeOperator ns csvName).pods = s.pods := rfl

@[simp] theorem pods_park (s : SimState) (ns : String) (p : PendingInstall) :
    (s.park ns p).pods = s.pods := rfl

@[simp] theorem pods_offerPlan (s : SimState) (ns : String) (p : PendingInstall) (approved : Bool) :
    (s.offerPlan ns p approved).pods = s.pods := rfl

theorem pods_foldl {β : Type} (f : SimState → β → SimState) (hf : ∀ s b, (f s b).pods = s.pods) :
    ∀ (L : List β) (s : SimState), (L.foldl f s).pods = s.pods
  | [], _ => rfl
  | b :: L, s => by rw [List.foldl_cons, pods_foldl f hf L, hf]

@[simp] theorem pods_renderOperator (s : SimState) (ns csvName : String) :
    (s.renderOperator ns csvName).pods = s.pods := by
  unfold renderOperator
  split
  · rfl
  · dsimp only
    apply pods_foldl
    intro _ _
    rfl

@[simp] theorem pods_installCsv (s : SimState) (ns : String) (p : PendingInstall) (phase : String)
    (now : Timestamp) : (s.installCsv ns p phase now).pods = s.pods := by
  unfold installCsv
  dsimp only
  split
  · rw [pods_pushEvent, pods_renderOperator]
    rfl
  · rw [pods_renderOperator]
    rfl

theorem runs_congr {s s' : SimState} (h : s'.pods = s.pods) (ns inst p : String) :
    s'.Runs ns inst p ↔ s.Runs ns inst p := by
  unfold Runs
  rw [h]

theorem PodsWellFormed.congr {s s' : SimState} (hwf : s.PodsWellFormed) (h : s'.pods = s.pods) :
    s'.PodsWellFormed where
  sorted := h ▸ hwf.sorted
  named q pod hget := hwf.named q pod (h ▸ hget)
  running q pod hget := hwf.running q pod (h ▸ hget)

/-- The replica count the reconciler reads for `key`: an unsigned 64-bit `spec.replicas`. -/
def replicasAt (s : SimState) (key : ObjectKey) : Option Nat :=
  (s.objects.get? key).bind fun o => (o.data.pointer "/spec/replicas").bind Json.asU64?

theorem le_u64Max_of_asU64? {j : Json} {r : Nat} (h : j.asU64? = some r) : r ≤ Number.u64Max := by
  cases j with
  | num n =>
    cases n with
    | nat m =>
      simp only [Json.asU64?, Number.toU64?] at h
      split at h
      · cases h
        assumption
      · cases h
    | _ => cases h
  | _ => cases h

theorem replicasAt_le {s : SimState} {key : ObjectKey} {r : Nat} (h : s.replicasAt key = some r) :
    r ≤ Number.u64Max := by
  obtain ⟨o, -, ho⟩ := Option.bind_eq_some_iff.mp h
  obtain ⟨j, -, hj⟩ := Option.bind_eq_some_iff.mp ho
  exact le_u64Max_of_asU64? hj

end SimState

namespace SimCluster

open SimState

@[simp] theorem pods_install (settings : SimSettings) (s : SimState) (ns : String)
    (p : PendingInstall) (now : Timestamp) : (install settings s ns p now).pods = s.pods := by
  unfold install
  dsimp only
  split <;> simp

@[simp] theorem pods_offer (settings : SimSettings) (s : SimState) (ns : String)
    (p : PendingInstall) (approved : Bool) (now : Timestamp) :
    (offer settings s ns p approved now).pods = s.pods := by
  unfold offer
  dsimp only
  split <;> simp

@[simp] theorem pods_afterSubscriptionCreated (settings : SimSettings) (s : SimState)
    (key : ObjectKey) (now : Timestamp) :
    (afterSubscriptionCreated settings s key now).pods = s.pods := by
  unfold afterSubscriptionCreated
  split
  · rfl
  · split
    · rfl
    · simp

@[simp] theorem pods_afterInstallPlanPatched (settings : SimSettings) (s : SimState)
    (key : ObjectKey) (now : Timestamp) :
    (afterInstallPlanPatched settings s key now).pods = s.pods := by
  unfold afterInstallPlanPatched
  dsimp only
  split
  · rfl
  · split
    · rfl
    · simp

theorem pods_patchMerge (c : SimCluster) (r : ApiResource) (ns name : String) (patch : Json)
    (now : Timestamp) : (c.patchMerge r ns name patch now).2.state.pods = c.state.pods := by
  unfold patchMerge
  dsimp only
  split
  · rfl
  · split <;> split <;> simp

/-! ### Pod queries -/

/-- A pod query counts every terminating pod down, in every namespace. -/
theorem listPods_pods (c : SimCluster) (ns selector : String) :
    (c.listPods ns selector).2.state.pods =
      ⟨c.state.pods.entries.filterMap fun e => e.2.countDown.map (e.1, ·)⟩ := by
  unfold listPods
  dsimp only
  congr 1
  apply List.filterMap_congr
  rintro ⟨k, pod⟩ -
  unfold SimPod.countDown
  split <;> simp_all
  split <;> simp_all

theorem get?_listPods {c : SimCluster} (hs : c.state.pods.Sorted) (ns selector : String) (q : Place) :
    (c.listPods ns selector).2.state.pods.get? q = (c.state.pods.get? q).bind SimPod.countDown := by
  rw [listPods_pods, Table.get?_filterMap hs]

/-! ### The reconciler and deletes -/

theorem get?_reconcileWorkload (settings : SimSettings) (s : SimState) (key : ObjectKey)
    (now : Timestamp) {r : Nat} (hr : s.replicasAt key = some r)
    (hfail : settings.failingKinds.contains key.kind = false) (q : Place) :
    (reconcileWorkload settings s key now).pods.get? q =
      if q.namespaceName = key.namespaceName ∧ q.name ∈ s.podsOf key.namespaceName key.name ∧
          r ≤ podIndex q.name then
        (s.pods.get? q).bind (SimPod.stop settings.podTerminationPolls now)
      else if q.namespaceName = key.namespaceName ∧ q.name ∈ (List.range r).map (podName key.name) ∧
          q.name ∉ s.podsOf key.namespaceName key.name then
        some (runningPod key.namespaceName key.name q.name)
      else s.pods.get? q := by
  unfold replicasAt at hr
  unfold reconcileWorkload
  rw [hr]
  dsimp only
  rw [if_neg (by rw [hfail]; exact Bool.false_ne_true), pods_editData, get?_foldl_terminate_if,
    get?_foldl_start]
  -- a pod that is stopped ran already, so none was started in its place
  by_cases hstop : q.namespaceName = key.namespaceName ∧ q.name ∈ s.podsOf key.namespaceName key.name ∧
      r ≤ podIndex q.name
  · have hno : ¬(q.namespaceName = key.namespaceName ∧ q.name ∈ (List.range r).map (podName key.name) ∧
        q.name ∉ s.podsOf key.namespaceName key.name) := fun h => h.2.2 hstop.2.1
    rw [if_pos hstop, if_pos hstop, if_neg hno]
  · rw [if_neg hstop, if_neg hstop]

/-- A delete stops the running pods of the name it deletes, whatever the kind, and nothing else. -/
theorem get?_delete_pods (c : SimCluster) (r : ApiResource) (ns name : String) (now : Timestamp)
    (q : Place) :
    (c.delete r ns name now).2.state.pods.get? q =
      if q.namespaceName = ns ∧ q.name ∈ c.state.podsOf ns name then
        (c.state.pods.get? q).bind (SimPod.stop c.settings.podTerminationPolls now)
      else c.state.pods.get? q := by
  unfold delete
  dsimp only
  by_cases hcsv : (r.kind == "ClusterServiceVersion") = true
  · simp only [hcsv, if_true]
    rw [get?_foldl_terminate]
    rfl
  · simp only [hcsv, Bool.false_eq_true, if_false]
    rw [get?_foldl_terminate]
    rfl

end SimCluster


/-! ## The invariant and the running pods, operation by operation -/

namespace SimState

variable {s s' : SimState} {ns inst p : String} {polls : Nat} {now : Timestamp}

/-- What an operation may do to a pod: each pod of `s'` is the pod of `s` at the same place,
with the same label and unchanged if it runs, or a new running pod of the reconciler at a name
`<inst>-<i>` of its instance. -/
def PodsFrom (s s' : SimState) : Prop :=
  ∀ q pod', s'.pods.get? q = some pod' →
    (∃ pod, s.pods.get? q = some pod ∧ pod'.instanceLabel = pod.instanceLabel ∧
      (pod'.terminatingFor = none → pod' = pod)) ∨
    ∃ inst i, i ≤ Number.u64Max ∧ q.name = podName inst i ∧
      pod' = SimCluster.runningPod q.namespaceName inst q.name

theorem PodsWellFormed.of_podsFrom (hwf : s.PodsWellFormed) (hsorted : s'.pods.Sorted)
    (h : PodsFrom s s') : s'.PodsWellFormed where
  sorted := hsorted
  named q pod' hget := by
    rcases h q pod' hget with ⟨pod, hpod, hlabel, -⟩ | ⟨inst, i, hi, hname, rfl⟩
    · obtain ⟨inst, i, hi, hname, hinst⟩ := hwf.named q pod hpod
      exact ⟨inst, i, hi, hname, hlabel.trans hinst⟩
    · exact ⟨inst, i, hi, hname, SimPod.instanceLabel_runningPod _ _ _⟩
  running q pod' hget hrun := by
    rcases h q pod' hget with ⟨pod, hpod, -, hsame⟩ | ⟨inst, i, -, -, rfl⟩
    · obtain rfl := hsame hrun
      exact hwf.running q pod' hpod hrun
    · rfl

theorem podsFrom_of_stop (C : Place → Prop) [DecidablePred C]
    (h : ∀ q, s'.pods.get? q = if C q then (s.pods.get? q).bind (SimPod.stop polls now)
      else s.pods.get? q) : PodsFrom s s' := by
  intro q pod' hget
  rw [h] at hget
  split at hget
  · obtain ⟨pod, hpod, hstop⟩ := Option.bind_eq_some_iff.mp hget
    obtain ⟨hlabel, hnotrun⟩ := SimPod.stop_eq_some hstop
    exact .inl ⟨pod, hpod, hlabel, fun hrun => absurd hrun hnotrun⟩
  · exact .inl ⟨pod', hget, rfl, fun _ => rfl⟩

theorem sorted_terminate (hs : s.pods.Sorted) (ns p : String) (polls : Nat) (now : Timestamp) :
    (s.terminate ns p polls now).pods.Sorted := by
  unfold terminate
  split
  · exact hs.erase _
  · exact hs.modify _ _

theorem sorted_foldl {β : Type} (f : SimState → β → SimState)
    (hf : ∀ s b, s.pods.Sorted → (f s b).pods.Sorted) :
    ∀ (L : List β) (s : SimState), s.pods.Sorted → (L.foldl f s).pods.Sorted
  | [], _, hs => hs
  | b :: L, s, hs => sorted_foldl f hf L (f s b) (hf s b hs)

/-! ### Deletes -/

theorem runs_of_stop_podsOf (hwf : s.PodsWellFormed) (n : String)
    (h : ∀ q, s'.pods.get? q = if q.namespaceName = ns ∧ q.name ∈ s.podsOf ns n then
      (s.pods.get? q).bind (SimPod.stop polls now) else s.pods.get? q) (ns' inst p : String) :
    s'.Runs ns' inst p ↔ ¬(ns' = ns ∧ inst = n) ∧ s.Runs ns' inst p := by
  unfold Runs
  rw [h]
  dsimp only
  by_cases hstop : ns' = ns ∧ p ∈ s.podsOf ns n
  · -- the pod at that place ran as a pod of `n`: it is stopped now, and no pod of another instance
    obtain ⟨rfl, hmem⟩ := hstop
    obtain ⟨pod, hget, hrun, hlabel⟩ := (mem_podsOf_iff_runs hwf.sorted).mp hmem
    rw [if_pos ⟨rfl, hmem⟩, hget, Option.bind_some]
    constructor
    · rintro ⟨pod', hstop', hrun', -⟩
      exact absurd hrun' (SimPod.stop_eq_some hstop').2
    · rintro ⟨hne, pod', hget', -, hlabel'⟩
      cases hget'
      rw [hlabel] at hlabel'
      cases hlabel'
      exact absurd ⟨rfl, rfl⟩ hne
  · rw [if_neg hstop]
    constructor
    · rintro ⟨pod, hget, hrun, hlabel⟩
      refine ⟨?_, pod, hget, hrun, hlabel⟩
      rintro ⟨rfl, rfl⟩
      exact hstop ⟨rfl, (mem_podsOf_iff_runs hwf.sorted).mpr ⟨pod, hget, hrun, hlabel⟩⟩
    · exact fun h => h.2

/-! ### The reconciler -/

variable {settings : SimSettings} {key : ObjectKey} {r : Nat}

theorem pointer_replicas_set_status (data v : Json) :
    (data.set "status" v).pointer "/spec/replicas" = data.pointer "/spec/replicas" := by
  have htokens : Pointer.tokens "/spec/replicas" = some ["spec", "replicas"] := by decide
  have hindex : Pointer.index? "spec" = none := by decide
  cases data with
  | obj fs =>
    simp [-String.lt_iff_ltb, Json.pointer, htokens, Json.set, Pointer.follow, Fields.get?_insert]
  | _ => simp [Json.pointer, htokens, Json.set, Pointer.follow, Fields.get?, hindex]

theorem objects_foldl {β : Type} (f : SimState → β → SimState)
    (hf : ∀ s b, (f s b).objects = s.objects) :
    ∀ (L : List β) (s : SimState), (L.foldl f s).objects = s.objects
  | [], _ => rfl
  | b :: L, s => by rw [List.foldl_cons, objects_foldl f hf L, hf]

theorem objects_foldl_start (existing : List String) (ns n : String) (L : List Nat) (s : SimState) :
    (L.foldl (fun s index =>
        if existing.contains (n ++ "-" ++ toString index) then s
        else
          { s with
            pods := s.pods.put ⟨ns, n ++ "-" ++ toString index⟩
              (SimCluster.runningPod ns n (n ++ "-" ++ toString index)) }) s).objects = s.objects :=
  objects_foldl _ (fun _ _ => by split <;> rfl) L s

theorem objects_foldl_terminate_if (P : String → Prop) [DecidablePred P] (L : List String)
    (s : SimState) :
    (L.foldl (fun s p => if P p then s.terminate ns p polls now else s) s).objects = s.objects :=
  objects_foldl _ (fun _ _ => by
    split
    · unfold terminate
      split <;> rfl
    · rfl) L s

/-- The reconciler writes the status of the object it reconciles, never its replica count. -/
theorem replicasAt_reconcileWorkload (settings : SimSettings) (s : SimState) (key : ObjectKey)
    (now : Timestamp) : (SimCluster.reconcileWorkload settings s key now).replicasAt key =
      s.replicasAt key := by
  unfold SimCluster.reconcileWorkload
  split
  · rfl
  · dsimp only
    split
    · rfl
    · unfold replicasAt editData
      dsimp only
      rw [Table.get?_modify, if_pos rfl, objects_foldl_terminate_if, objects_foldl_start]
      cases s.objects.get? key <;> simp [pointer_replicas_set_status]

theorem reconcileWorkload_cases (settings : SimSettings) (s : SimState) (key : ObjectKey)
    (now : Timestamp) :
    (SimCluster.reconcileWorkload settings s key now).pods = s.pods ∨
      ∃ r, s.replicasAt key = some r ∧ settings.failingKinds.contains key.kind = false := by
  unfold SimCluster.reconcileWorkload
  cases hr : s.replicasAt key with
  | none =>
    unfold replicasAt at hr
    rw [hr]
    exact .inl rfl
  | some r =>
    cases hfail : settings.failingKinds.contains key.kind with
    | true =>
      unfold replicasAt at hr
      rw [hr]
      dsimp only
      rw [if_pos rfl]
      exact .inl rfl
    | false => exact .inr ⟨r, rfl, rfl⟩

theorem sorted_reconcileWorkload (hs : s.pods.Sorted) (settings : SimSettings) (key : ObjectKey)
    (now : Timestamp) : (SimCluster.reconcileWorkload settings s key now).pods.Sorted := by
  unfold SimCluster.reconcileWorkload
  split
  · exact hs
  · dsimp only
    split
    · exact hs
    · rw [pods_editData]
      refine sorted_foldl _ (fun s p hs => ?_) _ _ (sorted_foldl _ (fun s i hs => ?_) _ _ hs)
      · split
        · exact sorted_terminate hs _ _ _ _
        · exact hs
      · split
        · exact hs
        · exact hs.put _ _

/-- Reconciling a workload to `r` replicas leaves exactly `<name>-0` … `<name>-(r-1)` running
for its name, and the running pods of every other instance as they were. -/
theorem runs_reconcileWorkload (hwf : s.PodsWellFormed) (hr : s.replicasAt key = some r)
    (hfail : settings.failingKinds.contains key.kind = false) (ns' inst p : String) :
    (SimCluster.reconcileWorkload settings s key now).Runs ns' inst p ↔
      if ns' = key.namespaceName ∧ inst = key.name then ∃ i < r, p = podName key.name i
      else s.Runs ns' inst p := by
  have hrmax := replicasAt_le hr
  unfold Runs
  rw [SimCluster.get?_reconcileWorkload settings s key now hr hfail]
  dsimp only
  -- the place is that of a pod stopped, of a pod started, or of one left alone
  by_cases hstop : ns' = key.namespaceName ∧ p ∈ s.podsOf key.namespaceName key.name ∧
      r ≤ podIndex p
  · obtain ⟨rfl, hmem, hle⟩ := hstop
    obtain ⟨pod, hget, -, hlabel⟩ := (mem_podsOf_iff_runs hwf.sorted).mp hmem
    rw [if_pos ⟨rfl, hmem, hle⟩, hget, Option.bind_some]
    have hstopped : ¬∃ pod', pod.stop settings.podTerminationPolls now = some pod' ∧
        pod'.terminatingFor = none ∧ pod'.instanceLabel = some inst :=
      fun ⟨_, hpod', hrun', _⟩ => (SimPod.stop_eq_some hpod').2 hrun'
    split
    · next hcase =>
      obtain ⟨-, rfl⟩ := hcase
      refine iff_of_false hstopped ?_
      rintro ⟨i, hi, rfl⟩
      rw [podIndex_podName _ (by omega)] at hle
      omega
    · next hcase =>
      refine iff_of_false hstopped ?_
      rintro ⟨pod', hget', -, hlabel'⟩
      cases hget'
      rw [hlabel] at hlabel'
      cases hlabel'
      exact hcase ⟨rfl, rfl⟩
  · rw [if_neg hstop]
    by_cases hstart : ns' = key.namespaceName ∧ p ∈ (List.range r).map (podName key.name) ∧
        p ∉ s.podsOf key.namespaceName key.name
    · obtain ⟨rfl, hmap, hnot⟩ := hstart
      rw [if_pos ⟨rfl, hmap, hnot⟩]
      obtain ⟨i, hi, rfl⟩ := List.mem_map.mp hmap
      split
      · next hcase =>
        obtain ⟨-, rfl⟩ := hcase
        exact iff_of_true ⟨_, rfl, rfl, by simp⟩ ⟨i, List.mem_range.mp hi, rfl⟩
      · next hcase =>
        -- no pod of another instance sits at a name of this one
        refine iff_of_false ?_ ?_
        · rintro ⟨pod', hpod', -, hlabel'⟩
          cases hpod'
          simp only [SimPod.instanceLabel_runningPod, Option.some.injEq] at hlabel'
          exact hcase ⟨rfl, hlabel'.symm⟩
        · rintro ⟨pod, hget, -, hlabel⟩
          obtain ⟨inst', j, -, hname, hlabel'⟩ := hwf.named _ pod hget
          rw [hlabel] at hlabel'
          cases hlabel'
          exact hcase ⟨rfl, (podName_inj hname).1.symm⟩
    · rw [if_neg hstart]
      split
      · next hcase =>
        obtain ⟨rfl, rfl⟩ := hcase
        constructor
        · rintro ⟨pod, hget, hrun, hlabel⟩
          have hruns : s.Runs _ _ p := ⟨pod, hget, hrun, hlabel⟩
          obtain ⟨hname, -⟩ := hwf.runs_name hruns
          -- it was not stopped, so its index is below `r`
          refine ⟨podIndex p, ?_, hname⟩
          by_contra hge
          exact hstop ⟨rfl, (mem_podsOf_iff_runs hwf.sorted).mpr hruns, by omega⟩
        · rintro ⟨i, hi, rfl⟩
          by_contra hnot
          exact hstart ⟨rfl, List.mem_map.mpr ⟨i, List.mem_range.mpr hi, rfl⟩,
            fun hmem => hnot ((mem_podsOf_iff_runs hwf.sorted).mp hmem)⟩
      · rfl

theorem PodsWellFormed.reconcileWorkload (hwf : s.PodsWellFormed) (settings : SimSettings)
    (key : ObjectKey) (now : Timestamp) :
    (SimCluster.reconcileWorkload settings s key now).PodsWellFormed := by
  refine hwf.of_podsFrom (sorted_reconcileWorkload hwf.sorted settings key now) ?_
  intro q pod' hget
  rcases reconcileWorkload_cases settings s key now with hsame | ⟨r, hr, hfail⟩
  · rw [hsame] at hget
    exact .inl ⟨pod', hget, rfl, fun _ => rfl⟩
  · rw [SimCluster.get?_reconcileWorkload settings s key now hr hfail] at hget
    split at hget
    · obtain ⟨pod, hpod, hstop⟩ := Option.bind_eq_some_iff.mp hget
      obtain ⟨hlabel, hnotrun⟩ := SimPod.stop_eq_some hstop
      exact .inl ⟨pod, hpod, hlabel, fun hrun => absurd hrun hnotrun⟩
    · split at hget
      · next hstart =>
        cases hget
        obtain ⟨i, hi, hname⟩ := List.mem_map.mp hstart.2.1
        refine .inr ⟨key.name, i, ?_, hname.symm, ?_⟩
        · have := replicasAt_le hr
          have := List.mem_range.mp hi
          omega
        · rw [hstart.1]
      · exact .inl ⟨pod', hget, rfl, fun _ => rfl⟩

end SimState

namespace SimCluster

open SimState

variable {c : SimCluster}

/-! ### Pod queries and deletes -/

theorem runs_listPods (hwf : c.state.PodsWellFormed) (ns selector ns' inst p : String) :
    (c.listPods ns selector).2.state.Runs ns' inst p ↔ c.state.Runs ns' inst p := by
  unfold Runs
  rw [get?_listPods hwf.sorted]
  constructor
  · rintro ⟨pod', hget, hrun, hlabel⟩
    obtain ⟨pod, hpod, hcount⟩ := Option.bind_eq_some_iff.mp hget
    obtain rfl := (SimPod.countDown_eq_some hcount).2 hrun
    exact ⟨pod', hpod, hrun, hlabel⟩
  · rintro ⟨pod, hget, hrun, hlabel⟩
    exact ⟨pod, by rw [hget, Option.bind_some, SimPod.countDown_of_running hrun], hrun, hlabel⟩

theorem sorted_delete_pods (hs : c.state.pods.Sorted) (r : ApiResource) (ns name : String)
    (now : Timestamp) : (c.delete r ns name now).2.state.pods.Sorted := by
  unfold delete
  dsimp only
  refine sorted_foldl _ (fun s p hs => sorted_terminate hs _ _ _ _) _ _ ?_
  split <;> exact hs

theorem runs_delete (hwf : c.state.PodsWellFormed) (r : ApiResource) (ns name : String)
    (now : Timestamp) (ns' inst p : String) :
    (c.delete r ns name now).2.state.Runs ns' inst p ↔ ¬(ns' = ns ∧ inst = name) ∧ c.state.Runs ns' inst p :=
  runs_of_stop_podsOf hwf name (get?_delete_pods c r ns name now) ns' inst p

end SimCluster

namespace SimState

open SimCluster

variable {c : SimCluster}

theorem PodsWellFormed.listPods (hwf : c.state.PodsWellFormed) (ns selector : String) :
    (c.listPods ns selector).2.state.PodsWellFormed := by
  refine hwf.of_podsFrom (by rw [SimCluster.listPods_pods]; exact hwf.sorted.filterMap _) ?_
  intro q pod' hget
  rw [get?_listPods hwf.sorted] at hget
  obtain ⟨pod, hpod, hcount⟩ := Option.bind_eq_some_iff.mp hget
  exact .inl ⟨pod, hpod, (SimPod.countDown_eq_some hcount).1, (SimPod.countDown_eq_some hcount).2⟩

theorem PodsWellFormed.delete (hwf : c.state.PodsWellFormed) (r : ApiResource) (ns name : String)
    (now : Timestamp) : (c.delete r ns name now).2.state.PodsWellFormed :=
  hwf.of_podsFrom (sorted_delete_pods hwf.sorted r ns name now)
    (podsFrom_of_stop _ (get?_delete_pods c r ns name now))

end SimState


end OlmProvision
