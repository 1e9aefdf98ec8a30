import OlmProvision.Proofs.PointerWrites
import OlmProvision.Proofs.OperatorEnvironment

/-
Setting an environment variable on any deployments.

`Deployments.setEnv ds n v` sets `n=v` on every container of every deployment and
`Deployments.haveEnv ds n v` looks for it on every container. Both find the containers at
`/spec/template/spec/containers`, but they do not treat the same containers alike: the writer
edits only objects whose `env` is missing or a list (`envWritable`) and skips the others, while
the check fails on any container without such a list, and on deployments without containers.
What is proved, for any documents:

1. One container: a writable one gets as its `env` the variables of other names, in order,
   followed by `n=v` (`putVar`), and no other member changes; any other container is left as
   it is (`setContainerEnv_writable`, `setContainerEnv_of_not_writable`).
2. One deployment: its containers are edited one by one, and nothing outside the container list
   changes (`follow_setDeploymentEnv_containers`, `follow_setDeploymentEnv_of_apart`).
3. A list of deployments: afterwards the check for `n=v` passes exactly when there are
   containers and all of them are writable (`haveEnv_setEnv_self`), the check for another name
   answers as before (`haveEnv_setEnv_of_ne`), and a second write changes nothing
   (`setEnv_setEnv`). Writing the entries of a map one after another, in any order, therefore
   leaves every entry in place (`haveEnv_foldl_setEnv`).
-/
namespace OlmProvision

namespace Deployments

/-! ## One container -/

/-- A container the writer can set a variable on: an object whose `env` is missing or a list. -/
def envWritable : Json → Bool
  | .obj fs =>
    match Fields.get? fs "env" with
    | none => true
    | some (.arr _) => true
    | some _ => false
  | _ => false

/-- The variables a writable container starts from: its `env` list, or none when `env` is
missing. -/
def envList (fs : Fields) : List Json := ((Fields.get? fs "env").bind Json.asArray?).getD []

/-- An environment with `name=value` set: the variables of other names, in order, and then
`name=value`. -/
def putVar (env : List Json) (name value : String) : List Json :=
  env.filter (fun var => (var.get? "name").bind Json.asString? != some name) ++
    [EnvVar.toJson ⟨name, value⟩]

/-- Whether a container carries `name=value`: its `env` is a list holding the variable. -/
def carries (c : Json) (name value : String) : Bool :=
  match (c.get? "env").bind Json.asArray? with
  | some env => envHas env name value
  | none => false

theorem haveEnv_eq_all (ds : List Json) (n v : String) :
    haveEnv ds n v =
      (!(ds.flatMap containers).isEmpty && (ds.flatMap containers).all (carries · n v)) := rfl

@[simp] theorem envHas_putVar_self (env : List Json) (n v : String) :
    envHas (putVar env n v) n v = true := by
  simp [envHas, putVar]

theorem envHas_append (l₁ l₂ : List Json) (n v : String) :
    envHas (l₁ ++ l₂) n v = (envHas l₁ n v || envHas l₂ n v) := by
  simp [envHas]

theorem envHas_putVar_of_ne {n n' : String} (h : n' ≠ n) (env : List Json) (v v' : String) :
    envHas (putVar env n v) n' v' = envHas env n' v' := by
  have hlast : envHas [EnvVar.toJson ⟨n, v⟩] n' v' = false := by
    simp [envHas, Ne.symm h]
  rw [putVar, envHas_append, hlast, Bool.or_false, envHas, envHas, List.any_filter]
  -- a variable named `n'` is not named `n`, so the filter keeps every one the check finds
  congr 1
  funext var
  cases (var.get? "name").bind Json.asString? with
  | none => simp
  | some m => by_cases hm : m = n' <;> simp [hm, h]

theorem putVar_putVar (env : List Json) (n v : String) :
    putVar (putVar env n v) n v = putVar env n v := by
  simp [putVar, List.filter_append, List.filter_filter]

theorem setContainerEnv_writable {fs : Fields} (h : envWritable (.obj fs) = true) (n v : String) :
    setContainerEnv n v (.obj fs) =
      (.obj (Fields.insert fs "env" (.arr (putVar (envList fs) n v))), true) := by
  unfold envWritable at h
  unfold setContainerEnv
  cases he : Fields.get? fs "env" with
  | none =>
    simp [he, Fields.get?_insert_self, Fields.insert_insert_self, envList, putVar, EnvVar.toJson]
  | some e =>
    cases e <;> simp_all [envList, putVar, EnvVar.toJson, Json.asArray?]

theorem setContainerEnv_of_not_writable {c : Json} (h : envWritable c = false) (n v : String) :
    setContainerEnv n v c = (c, false) := by
  cases c with
  | obj fs =>
    unfold envWritable at h
    unfold setContainerEnv
    cases he : Fields.get? fs "env" with
    | none => simp [he] at h
    | some e => cases e <;> simp_all
  | _ => rfl

theorem setContainerEnv_members {fs : Fields} (h : envWritable (.obj fs) = true) (n v : String) :
    ∃ fs', (setContainerEnv n v (.obj fs)).1 = .obj fs' ∧
      (∀ k, k ≠ "env" → Fields.get? fs' k = Fields.get? fs k) ∧
      Fields.get? fs' "env" = some (.arr (putVar (envList fs) n v)) := by
  refine ⟨_, by rw [setContainerEnv_writable h], fun k hk => ?_, Fields.get?_insert_self _ _ _⟩
  rw [Fields.get?_insert, if_neg (Ne.symm hk)]

theorem exists_obj_of_writable {c : Json} (h : envWritable c = true) : ∃ fs, c = .obj fs := by
  cases c with
  | obj fs => exact ⟨fs, rfl⟩
  | _ => simp [envWritable] at h

@[simp] theorem snd_setContainerEnv (n v : String) (c : Json) :
    (setContainerEnv n v c).2 = envWritable c := by
  cases hw : envWritable c
  · rw [setContainerEnv_of_not_writable hw]
  · obtain ⟨fs, rfl⟩ := exists_obj_of_writable hw
    rw [setContainerEnv_writable hw]

@[simp] theorem envWritable_setContainerEnv (n v : String) (c : Json) :
    envWritable (setContainerEnv n v c).1 = envWritable c := by
  cases hw : envWritable c
  · rw [setContainerEnv_of_not_writable hw, hw]
  · obtain ⟨fs, rfl⟩ := exists_obj_of_writable hw
    simp [setContainerEnv_writable hw, envWritable, Fields.get?_insert_self]

theorem setContainerEnv_setContainerEnv (n v : String) (c : Json) :
    setContainerEnv n v (setContainerEnv n v c).1 = setContainerEnv n v c := by
  cases hw : envWritable c
  · rw [setContainerEnv_of_not_writable hw, setContainerEnv_of_not_writable hw]
  · obtain ⟨fs, rfl⟩ := exists_obj_of_writable hw
    have hw' :
        envWritable (.obj (Fields.insert fs "env" (.arr (putVar (envList fs) n v)))) = true := by
      simp [envWritable, Fields.get?_insert_self]
    rw [setContainerEnv_writable hw, setContainerEnv_writable hw']
    simp [envList, Fields.get?_insert_self, Json.asArray?, putVar_putVar, Fields.insert_insert_self]

theorem carries_of_not_writable {c : Json} (h : envWritable c = false) (n v : String) :
    carries c n v = false := by
  cases c with
  | obj fs =>
    unfold envWritable at h
    unfold carries
    cases he : Fields.get? fs "env" with
    | none => simp [he] at h
    | some e => cases e <;> simp_all [Json.get?, Json.asArray?]
  | _ => rfl

theorem carries_of_writable {fs : Fields} (h : envWritable (.obj fs) = true) (n v : String) :
    carries (.obj fs) n v = envHas (envList fs) n v := by
  unfold envWritable at h
  unfold carries envList
  cases he : Fields.get? fs "env" with
  | none => simp [Json.get?, he, envHas]
  | some e => cases e <;> simp_all [Json.get?, Json.asArray?]

theorem carries_setContainerEnv_self (n v : String) (c : Json) :
    carries (setContainerEnv n v c).1 n v = envWritable c := by
  cases hw : envWritable c
  · rw [setContainerEnv_of_not_writable hw, carries_of_not_writable hw]
  · obtain ⟨fs, rfl⟩ := exists_obj_of_writable hw
    simp [setContainerEnv_writable hw, carries, Json.get?, Fields.get?_insert_self, Json.asArray?]

theorem carries_setContainerEnv_of_ne {n n' : String} (h : n' ≠ n) (v v' : String) (c : Json) :
    carries (setContainerEnv n v c).1 n' v' = carries c n' v' := by
  cases hw : envWritable c
  · rw [setContainerEnv_of_not_writable hw]
  · obtain ⟨fs, rfl⟩ := exists_obj_of_writable hw
    rw [setContainerEnv_writable hw, carries_of_writable hw]
    simp [carries, Json.get?, Fields.get?_insert_self, Json.asArray?, envHas_putVar_of_ne h]

/-! ## One deployment -/

/-- The tokens of `/spec/template/spec/containers`, where a deployment keeps its containers. -/
def containerPath : List String := ["spec", "template", "spec", "containers"]

theorem pointer_containerPath (d : Json) :
    d.pointer "/spec/template/spec/containers" = Pointer.follow d containerPath := by
  simp [Json.pointer, tokens_containers, containerPath]

theorem setAt_containerPath (d x : Json) :
    d.setAt "/spec/template/spec/containers" x = d.setTokens containerPath x := by
  simp [Json.setAt, tokens_containers, containerPath]

theorem containers_of_not_array {d : Json}
    (h : ∀ cs, Pointer.follow d containerPath ≠ some (.arr cs)) : containers d = [] := by
  unfold containers
  rw [pointer_containerPath]
  cases hf : Pointer.follow d containerPath with
  | none => rfl
  | some x => cases x <;> first | rfl | exact absurd hf (h _)

/-- A deployment with a container list has the list edited container by container and written
back in place; the write cannot be refused, since the path to the list runs through objects. -/
theorem setDeploymentEnv_of_array {d : Json} {cs : List Json}
    (h : Pointer.follow d containerPath = some (.arr cs)) (n v : String) :
    ∃ d', d.setTokens containerPath (.arr (cs.map fun c => (setContainerEnv n v c).1)) = some d' ∧
      setDeploymentEnv n v d = (d', cs.any envWritable) := by
  have hfree : ¬ Pointer.Blocked d containerPath := Pointer.not_blocked_of_follow h (by decide)
  obtain ⟨d', hd'⟩ := Option.ne_none_iff_exists'.mp fun hnone =>
    hfree ((Json.setTokens_eq_none_iff _ (by simp [containerPath])).mp hnone)
  refine ⟨d', hd', ?_⟩
  simp [setDeploymentEnv, pointer_containerPath, h, setAt_containerPath, List.map_map,
    Function.comp_def, hd', List.any_map]

theorem setDeploymentEnv_of_not_array {d : Json}
    (h : ∀ cs, Pointer.follow d containerPath ≠ some (.arr cs)) (n v : String) :
    setDeploymentEnv n v d = (d, false) := by
  unfold setDeploymentEnv
  rw [pointer_containerPath]
  split
  · exact absurd ‹_› (h _)
  · rfl

theorem setDeploymentEnv_cases (n v : String) (d : Json) :
    (∃ cs d', Pointer.follow d containerPath = some (.arr cs) ∧
      d.setTokens containerPath (.arr (cs.map fun c => (setContainerEnv n v c).1)) = some d' ∧
      setDeploymentEnv n v d = (d', cs.any envWritable)) ∨
    ((∀ cs, Pointer.follow d containerPath ≠ some (.arr cs)) ∧
      setDeploymentEnv n v d = (d, false)) := by
  by_cases h : ∃ cs, Pointer.follow d containerPath = some (.arr cs)
  · obtain ⟨cs, hcs⟩ := h
    obtain ⟨d', hd', hset⟩ := setDeploymentEnv_of_array hcs n v
    exact .inl ⟨cs, d', hcs, hd', hset⟩
  · rw [not_exists] at h
    exact .inr ⟨h, setDeploymentEnv_of_not_array h n v⟩

theorem containers_setDeploymentEnv (n v : String) (d : Json) :
    containers (setDeploymentEnv n v d).1 =
      (containers d).map fun c => (setContainerEnv n v c).1 := by
  rcases setDeploymentEnv_cases n v d with ⟨cs, d', hcs, hd', hset⟩ | ⟨h, hset⟩
  · simp [hset, containers, pointer_containerPath, Json.follow_setTokens_self hd', hcs,
      Json.asArray?]
  · simp [hset, containers_of_not_array h]

@[simp] theorem snd_setDeploymentEnv (n v : String) (d : Json) :
    (setDeploymentEnv n v d).2 = (containers d).any envWritable := by
  rcases setDeploymentEnv_cases n v d with ⟨cs, d', hcs, -, hset⟩ | ⟨h, hset⟩
  · simp [hset, containers, pointer_containerPath, hcs, Json.asArray?]
  · simp [hset, containers_of_not_array h]

theorem follow_setDeploymentEnv_of_apart (n v : String) (d : Json) {q : List String}
    (hpre : ¬ q <+: containerPath) (hext : ¬ containerPath <+: q) :
    Pointer.follow (setDeploymentEnv n v d).1 q = Pointer.follow d q := by
  rcases setDeploymentEnv_cases n v d with ⟨cs, d', -, hd', hset⟩ | ⟨-, hset⟩
  · rw [hset]
    exact Json.follow_setTokens_of_apart hd' hpre hext
  · rw [hset]

theorem follow_setDeploymentEnv_containers (n v : String) {d : Json} {cs : List Json}
    (h : Pointer.follow d containerPath = some (.arr cs)) :
    Pointer.follow (setDeploymentEnv n v d).1 containerPath =
      some (.arr (cs.map fun c => (setContainerEnv n v c).1)) := by
  obtain ⟨d', hd', hset⟩ := setDeploymentEnv_of_array h n v
  rw [hset]
  exact Json.follow_setTokens_self hd'

theorem setDeploymentEnv_setDeploymentEnv (n v : String) (d : Json) :
    setDeploymentEnv n v (setDeploymentEnv n v d).1 = setDeploymentEnv n v d := by
  rcases setDeploymentEnv_cases n v d with ⟨cs, d', -, hd', hset⟩ | ⟨-, hset⟩
  · -- the second write puts back the list the first one wrote, and finds its containers edited
    have hedited :
        ((cs.map fun c => (setContainerEnv n v c).1).map fun c => (setContainerEnv n v c).1) =
          cs.map fun c => (setContainerEnv n v c).1 := by
      simp [List.map_map, Function.comp_def, setContainerEnv_setContainerEnv]
    obtain ⟨d'', hd'', hset'⟩ := setDeploymentEnv_of_array (Json.follow_setTokens_self hd') n v
    rw [hedited, Json.setTokens_setTokens hd', hd', Option.some.injEq] at hd''
    rw [hset, hset', ← hd'']
    simp [List.any_map, Function.comp_def]
  · rw [hset]
    exact hset

theorem setDeploymentEnv_edits_containers_only (n v : String) (d : Json) :
    (∀ q, ¬ q <+: containerPath → ¬ containerPath <+: q →
      Pointer.follow (setDeploymentEnv n v d).1 q = Pointer.follow d q) ∧
    (∀ cs, Pointer.follow d containerPath = some (.arr cs) →
      Pointer.follow (setDeploymentEnv n v d).1 containerPath =
        some (.arr (cs.map fun c => (setContainerEnv n v c).1))) ∧
    ((∀ cs, Pointer.follow d containerPath ≠ some (.arr cs)) → (setDeploymentEnv n v d).1 = d) :=
  ⟨fun _ hpre hext => follow_setDeploymentEnv_of_apart n v d hpre hext,
    fun _ hcs => follow_setDeploymentEnv_containers n v hcs,
    fun h => by rw [setDeploymentEnv_of_not_array h]⟩

/-! ## A list of deployments -/

theorem flatMap_containers_setEnv (ds : List Json) (n v : String) :
    (setEnv ds n v).1.flatMap containers =
      (ds.flatMap containers).map fun c => (setContainerEnv n v c).1 := by
  simp [setEnv, List.flatMap_map, List.map_flatMap, containers_setDeploymentEnv]

theorem snd_setEnv (ds : List Json) (n v : String) :
    (setEnv ds n v).2 = (ds.flatMap containers).any envWritable := by
  simp [setEnv, List.any_map, List.any_flatMap, Function.comp_def]

theorem haveEnv_setEnv_self (ds : List Json) (n v : String) :
    haveEnv (setEnv ds n v).1 n v = true ↔
      ds.flatMap containers ≠ [] ∧ ∀ c ∈ ds.flatMap containers, envWritable c = true := by
  rw [haveEnv_eq_all, flatMap_containers_setEnv]
  generalize ds.flatMap containers = cs
  simp [List.all_map, Function.comp_def, carries_setContainerEnv_self]

theorem haveEnv_setEnv_of_ne {n n' : String} (h : n' ≠ n) (ds : List Json) (v v' : String) :
    haveEnv (setEnv ds n v).1 n' v' = haveEnv ds n' v' := by
  rw [haveEnv_eq_all, haveEnv_eq_all, flatMap_containers_setEnv]
  simp [List.all_map, Function.comp_def, carries_setContainerEnv_of_ne h]

theorem setEnv_setEnv (ds : List Json) (n v : String) :
    setEnv (setEnv ds n v).1 n v = setEnv ds n v := by
  simp [setEnv, List.map_map, Function.comp_def, setDeploymentEnv_setDeploymentEnv]

theorem haveEnv_foldl_setEnv_of_ne (n v : String) :
    ∀ (es : List (String × String)) (ds : List Json), (∀ e ∈ es, e.1 ≠ n) →
      haveEnv (es.foldl (fun ds e => (setEnv ds e.1 e.2).1) ds) n v = haveEnv ds n v
  | [], _, _ => rfl
  | e :: rest, ds, hne => by
    rw [List.foldl_cons, haveEnv_foldl_setEnv_of_ne n v rest _ fun e' he' => hne e' (by simp [he']),
      haveEnv_setEnv_of_ne (Ne.symm (hne e (by simp)))]

theorem haveEnv_foldl_setEnv :
    ∀ (es : List (String × String)) (ds : List Json), (es.map Prod.fst).Nodup →
      ds.flatMap containers ≠ [] → (∀ c ∈ ds.flatMap containers, envWritable c = true) →
      ∀ e ∈ es, haveEnv (es.foldl (fun ds e => (setEnv ds e.1 e.2).1) ds) e.1 e.2 = true
  | [], _, _, _, _ => by simp
  | e :: rest, ds, hnd, hcs, hw => by
    rw [List.map_cons, List.nodup_cons] at hnd
    -- the first write keeps the containers, all still writable
    have hcs' : (setEnv ds e.1 e.2).1.flatMap containers ≠ [] := by
      simpa [flatMap_containers_setEnv] using hcs
    have hw' : ∀ c ∈ (setEnv ds e.1 e.2).1.flatMap containers, envWritable c = true := by
      rw [flatMap_containers_setEnv]
      intro c hc
      obtain ⟨c₀, hc₀, rfl⟩ := List.mem_map.mp hc
      rw [envWritable_setContainerEnv]
      exact hw c₀ hc₀
    intro e' he'
    rw [List.foldl_cons]
    rcases List.mem_cons.mp he' with rfl | hrest
    · have hfresh : ∀ e'' ∈ rest, e''.1 ≠ e'.1 := fun e'' he'' heq =>
        hnd.1 (heq ▸ List.mem_map_of_mem he'')
      rw [haveEnv_foldl_setEnv_of_ne _ _ rest _ hfresh]
      exact (haveEnv_setEnv_self ds e'.1 e'.2).mpr ⟨hcs, hw⟩
    · exact haveEnv_foldl_setEnv rest _ hnd.2 hcs' hw' e' hrest

end Deployments

open Deployments in
/-- After setting `n=v`, the check for it passes exactly when there are containers and all are
writable; the write edits only the `env` of writable containers, is idempotent and keeps every
check of another name. -/
theorem setEnv_passes_haveEnv_iff_writable (ds : List Json) (n v : String) :
    (haveEnv (setEnv ds n v).1 n v = true ↔
      ds.flatMap containers ≠ [] ∧ ∀ c ∈ ds.flatMap containers, envWritable c = true) ∧
    ((setEnv ds n v).2 = true ↔ ∃ c ∈ ds.flatMap containers, envWritable c = true) ∧
    List.Forall₂ (fun d d' =>
      (∀ q, ¬ q <+: containerPath → ¬ containerPath <+: q →
        Pointer.follow d' q = Pointer.follow d q) ∧
      (∀ cs, Pointer.follow d containerPath = some (.arr cs) →
        Pointer.follow d' containerPath = some (.arr (cs.map fun c => (setContainerEnv n v c).1))) ∧
      ((∀ cs, Pointer.follow d containerPath ≠ some (.arr cs)) → d' = d)) ds (setEnv ds n v).1 ∧
    (∀ c, envWritable c = false → (setContainerEnv n v c).1 = c) ∧
    (∀ fs, envWritable (.obj fs) = true → ∃ fs', (setContainerEnv n v (.obj fs)).1 = .obj fs' ∧
      (∀ k, k ≠ "env" → Fields.get? fs' k = Fields.get? fs k) ∧
      Fields.get? fs' "env" = some (.arr (putVar (envList fs) n v))) ∧
    setEnv (setEnv ds n v).1 n v = setEnv ds n v ∧
    (∀ n' v', n' ≠ n → haveEnv (setEnv ds n v).1 n' v' = haveEnv ds n' v') ∧
    ∀ es : List (String × String), (es.map Prod.fst).Nodup →
      ds.flatMap containers ≠ [] → (∀ c ∈ ds.flatMap containers, envWritable c = true) →
      ∀ e ∈ es, haveEnv (es.foldl (fun ds e => (setEnv ds e.1 e.2).1) ds) e.1 e.2 = true := by
  refine ⟨haveEnv_setEnv_self ds n v, by rw [snd_setEnv, List.any_eq_true], ?_,
    fun c hc => by rw [setContainerEnv_of_not_writable hc], fun fs hw => setContainerEnv_members hw n v,
    setEnv_setEnv ds n v, fun n' v' h => haveEnv_setEnv_of_ne h ds v v',
    fun es hnd hcs hw => haveEnv_foldl_setEnv es ds hnd hcs hw⟩
  -- the deployments are written one by one, each by itself
  simp only [setEnv, List.map_map, Function.comp_def]
  rw [List.forall₂_map_right_iff, List.forall₂_same]
  exact fun d _ => setDeploymentEnv_edits_containers_only n v d

end OlmProvision
