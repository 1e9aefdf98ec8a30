import Mathlib
import OlmProvision.Proofs.DocumentForms
import OlmProvision.Cluster.Simulated

/-
Operator environments.

An operator runs in deployments whose containers carry environment variables in their `env`
lists. OLM and the provisioner set a variable on every container of every deployment,
replacing one of the same name (`Deployments.setEnv`), and look for it on every container
(`Deployments.haveEnv`). This module says what that does to the deployments the simulated OLM
writes.

1. On one container: setting a variable appends it after those of other names
   (`setContainerEnv_withEnv`), so setting variables of distinct names one after another on
   a container without an environment gives it exactly those variables, in order
   (`foldl_setContainerEnv`), and a variable is then found exactly when it is one of them
   (`envHas_toJson`).
2. On a deployment or an install strategy entry: a variable is set on each container at
   `/spec/template/spec/containers` and nothing else changes (`setDeploymentEnv_spec`).
3. The CSVs of the simulated OLM as a function of the containers of their operator
   (`csvDataWith`), and `strategyWithoutEnv`, what writing operator variables into a CSV
   leaves as it was.

As in `OlmDocuments`, the `simp` calls that order literal member names leave out
`String.lt_iff_ltb`.
-/
namespace OlmProvision

namespace Deployments

/-- A container whose environment is the list `env`. -/
def withEnv (container : Json) (env : List Json) : Json := container.set "env" (.arr env)

@[simp] theorem name_toJson (var : EnvVar) :
    (var.toJson.get? "name").bind Json.asString? = some var.name := by
  simp [-String.lt_iff_ltb, EnvVar.toJson, Json.object, Fields.ofList, Fields.insert, Json.get?, Fields.get?_cons,
    Json.asString?]

@[simp] theorem get?_withEnv_env (fs : Fields) (env : List Json) :
    (withEnv (.obj fs) env).get? "env" = some (.arr env) :=
  Fields.get?_insert_self fs "env" _

@[simp] theorem withEnv_withEnv (fs : Fields) (env env' : List Json) :
    withEnv (withEnv (.obj fs) env) env' = withEnv (.obj fs) env' := by
  simp [-String.lt_iff_ltb, withEnv, Json.set, Fields.insert_insert_self]

theorem setContainerEnv_of_none {fs : Fields} (h : Fields.get? fs "env" = none) (n v : String) :
    setContainerEnv n v (.obj fs) = (withEnv (.obj fs) [EnvVar.toJson ⟨n, v⟩], true) := by
  simp [-String.lt_iff_ltb, setContainerEnv, h, Fields.get?_insert_self, withEnv, Json.set, Fields.insert_insert_self,
    EnvVar.toJson]

theorem setContainerEnv_withEnv (fs : Fields) (env : List Json) (n v : String) :
    setContainerEnv n v (withEnv (.obj fs) env) =
      (withEnv (.obj fs) (env.filter (fun var => (var.get? "name").bind Json.asString? != some n) ++
        [EnvVar.toJson ⟨n, v⟩]), true) := by
  simp [-String.lt_iff_ltb, withEnv, Json.set, setContainerEnv, Fields.get?_insert_self, Fields.insert_insert_self,
    EnvVar.toJson]


@[simp] theorem value_toJson (var : EnvVar) :
    (var.toJson.get? "value").bind Json.asString? = some var.value := by
  simp [-String.lt_iff_ltb, EnvVar.toJson, Json.object, Fields.ofList, Fields.insert, Json.get?, Fields.get?_cons,
    Json.asString?]

theorem filter_toJson_of_not_mem {vars : List EnvVar} {n : String} (h : n ∉ vars.map EnvVar.name) :
    (vars.map EnvVar.toJson).filter (fun var => (var.get? "name").bind Json.asString? != some n) =
      vars.map EnvVar.toJson := by
  refine List.filter_eq_self.mpr fun j hj => ?_
  obtain ⟨var, hvar, rfl⟩ := List.mem_map.mp hj
  have hne : var.name ≠ n := fun heq => h (heq ▸ List.mem_map_of_mem hvar)
  simp [-String.lt_iff_ltb, hne]

theorem foldl_setContainerEnv_withEnv (fs : Fields) :
    ∀ (vars done : List EnvVar), ((done ++ vars).map EnvVar.name).Nodup →
      vars.foldl (fun c var => (setContainerEnv var.name var.value c).1)
          (withEnv (.obj fs) (done.map EnvVar.toJson)) =
        withEnv (.obj fs) ((done ++ vars).map EnvVar.toJson)
  | [], done, _ => by simp
  | var :: rest, done, hnd => by
    have hfresh : var.name ∉ done.map EnvVar.name := by
      intro hmem
      rw [List.map_append, List.map_cons] at hnd
      exact (List.nodup_append.mp hnd).2.2 _ hmem _ (List.mem_cons_self ..) rfl
    rw [List.foldl_cons, setContainerEnv_withEnv, filter_toJson_of_not_mem hfresh]
    have hstep := foldl_setContainerEnv_withEnv fs rest (done ++ [var]) (by simpa using hnd)
    simpa using hstep

theorem foldl_setContainerEnv {fs : Fields} (h : Fields.get? fs "env" = none) {vars : List EnvVar}
    (hne : vars ≠ []) (hnd : (vars.map EnvVar.name).Nodup) :
    vars.foldl (fun c var => (setContainerEnv var.name var.value c).1) (.obj fs) =
      withEnv (.obj fs) (vars.map EnvVar.toJson) := by
  obtain _ | ⟨var, rest⟩ := vars
  · exact absurd rfl hne
  · rw [List.foldl_cons, setContainerEnv_of_none h]
    simpa using foldl_setContainerEnv_withEnv fs rest [var] hnd

theorem envHas_toJson (vars : List EnvVar) (n v : String) :
    envHas (vars.map EnvVar.toJson) n v = true ↔ ⟨n, v⟩ ∈ vars := by
  simp only [envHas, List.any_map, List.any_eq_true, Function.comp_apply, name_toJson,
    value_toJson, Bool.and_eq_true, beq_iff_eq, Option.some.injEq]
  constructor
  · rintro ⟨var, hvar, rfl, rfl⟩
    exact hvar
  · exact fun h => ⟨_, h, rfl, rfl⟩


theorem tokens_containers :
    Pointer.tokens "/spec/template/spec/containers" = some ["spec", "template", "spec", "containers"] := by
  decide

end Deployments

namespace SimState

/-- The container of the operator the simulated OLM installs. -/
def operatorContainer : Json :=
  .obj [("image", .str "quay.io/example/operator:latest"), ("name", .str "operator")]

/-- The spec of an operator deployment running the containers `cs` under the service account
`op`. -/
def operatorSpec (op : String) (cs : List Json) : Json :=
  .obj [("replicas", Json.nat 1), ("template", .obj [("spec", .obj [("containers", .arr cs),
    ("serviceAccountName", .str op)])])]

/-- The install strategy entry of the operator deployment `op`. -/
def strategyEntry (op : String) (cs : List Json) : Json :=
  .obj [("name", .str op), ("spec", operatorSpec op cs)]

end SimState

namespace Deployments

open SimState

theorem pointer_containers {fs : Fields} {op : String} {cs : List Json}
    (h : Fields.get? fs "spec" = some (operatorSpec op cs)) :
    (Json.obj fs).pointer "/spec/template/spec/containers" = some (.arr cs) := by
  simp [-String.lt_iff_ltb, Json.pointer, tokens_containers, Pointer.follow, h, operatorSpec, Fields.get?_cons]

theorem setAt_containers {fs : Fields} {op : String} {cs : List Json}
    (h : Fields.get? fs "spec" = some (operatorSpec op cs)) (cs' : List Json) :
    (Json.obj fs).setAt "/spec/template/spec/containers" (.arr cs') =
      some (.obj (Fields.insert fs "spec" (operatorSpec op cs'))) := by
  simp [-String.lt_iff_ltb, Json.setAt, tokens_containers, Json.setTokens, h, operatorSpec, Fields.get?_cons,
    Fields.insert]

theorem setDeploymentEnv_spec {fs : Fields} {op : String} {cs : List Json}
    (h : Fields.get? fs "spec" = some (operatorSpec op cs)) (n v : String) :
    setDeploymentEnv n v (.obj fs) =
      (.obj (Fields.insert fs "spec" (operatorSpec op (cs.map fun c => (setContainerEnv n v c).1))),
        (cs.map (setContainerEnv n v)).any (·.2)) := by
  simp only [setDeploymentEnv, pointer_containers h, List.map_map, setAt_containers h]
  rfl

theorem containers_spec {fs : Fields} {op : String} {cs : List Json}
    (h : Fields.get? fs "spec" = some (operatorSpec op cs)) : containers (.obj fs) = cs := by
  simp [-String.lt_iff_ltb, containers, pointer_containers h, Json.asArray?]

/-- Setting variables one after another on an operator deployment sets them one after
another on each of its containers. -/
theorem foldl_setDeploymentEnv (op : String) (vars : List EnvVar) (cs : List Json) :
    vars.foldl (fun d var => (setDeploymentEnv var.name var.value d).1)
        (.obj [("spec", operatorSpec op cs)]) =
      .obj [("spec", operatorSpec op (cs.map fun c =>
        vars.foldl (fun c var => (setContainerEnv var.name var.value c).1) c))] := by
  induction vars generalizing cs with
  | nil => simp
  | cons var rest ih =>
    have hspec : Fields.get? [("spec", operatorSpec op cs)] "spec" = some (operatorSpec op cs) := by
      simp [-String.lt_iff_ltb, Fields.get?_cons]
    rw [List.foldl_cons, setDeploymentEnv_spec hspec]
    simpa [-String.lt_iff_ltb, Fields.insert, List.map_map, Function.comp_def] using ih (cs.map fun c => (setContainerEnv var.name var.value c).1)

theorem setEnv_strategyEntry (op : String) (cs : List Json) (n v : String) :
    setEnv [strategyEntry op cs] n v =
      ([strategyEntry op (cs.map fun c => (setContainerEnv n v c).1)],
        (cs.map (setContainerEnv n v)).any (·.2)) := by
  simp only [setEnv, List.map_cons, List.map_nil, strategyEntry,
    setDeploymentEnv_spec (show Fields.get? [("name", .str op), ("spec", operatorSpec op cs)] "spec" =
      some (operatorSpec op cs) by simp [-String.lt_iff_ltb, Fields.get?_cons])]
  simp [-String.lt_iff_ltb, Fields.insert]

theorem haveEnv_withEnv {fs cfs : Fields} {op : String} {env : List Json}
    (h : Fields.get? fs "spec" = some (operatorSpec op [withEnv (.obj cfs) env])) (n v : String) :
    haveEnv [.obj fs] n v = envHas env n v := by
  simp [-String.lt_iff_ltb, haveEnv, containers_spec h, Json.asArray?]

theorem haveEnv_of_none {fs cfs : Fields} {op : String}
    (h : Fields.get? fs "spec" = some (operatorSpec op [.obj cfs])) (hc : Fields.get? cfs "env" = none)
    (n v : String) : haveEnv [.obj fs] n v = false := by
  simp [-String.lt_iff_ltb, haveEnv, containers_spec h, Json.get?, hc]

end Deployments

namespace SimState

open Deployments

theorem tokens_deployments :
    Pointer.tokens "/spec/install/spec/deployments" = some ["spec", "install", "spec", "deployments"] := by
  decide

/-- The data of the CSV installed for `p`, with the containers `cs` in the operator deployment
of its install strategy. -/
def csvDataWith (ns : String) (p : PendingInstall) (phase : String) (cs : List Json) : Json :=
  ((csvObject ns p phase).data.setAt "/spec/install/spec/deployments"
    (.arr [strategyEntry (p.package ++ "-operator") cs])).getD .null

theorem pointer_csvDataWith (ns : String) (p : PendingInstall) (phase : String) (cs : List Json) :
    (csvDataWith ns p phase cs).pointer "/spec/install/spec/deployments" =
      some (.arr [strategyEntry (p.package ++ "-operator") cs]) := by
  simp [-String.lt_iff_ltb, csvDataWith, csvObject, Json.pointer, Json.setAt, tokens_deployments, Json.setTokens,
    Pointer.follow, Json.object, Fields.ofList, Fields.insert, Fields.get?_cons, Json.get?, Json.set,
    ClusterServiceVersion.toJson, TypedObject.json, TypedObject.present]

theorem setAt_csvDataWith (ns : String) (p : PendingInstall) (phase : String) (cs cs' : List Json) :
    (csvDataWith ns p phase cs).setAt "/spec/install/spec/deployments"
        (.arr [strategyEntry (p.package ++ "-operator") cs']) = some (csvDataWith ns p phase cs') := by
  simp [-String.lt_iff_ltb, csvDataWith, csvObject, Json.setAt, tokens_deployments, Json.setTokens,
    Json.object, Fields.ofList, Fields.insert, Fields.get?_cons, Json.get?, Json.set,
    ClusterServiceVersion.toJson, TypedObject.json, TypedObject.present]

/-- The installed CSV is the one whose operator runs the plain operator container. -/
theorem csvDataWith_operatorContainer (ns : String) (p : PendingInstall) (phase : String) :
    csvDataWith ns p phase [operatorContainer] = (csvObject ns p phase).data := by
  simp [-String.lt_iff_ltb, csvDataWith, csvObject, Json.setAt, tokens_deployments, Json.setTokens,
    Json.object, Fields.ofList, Fields.insert, Fields.get?_cons, Json.get?, Json.set,
    ClusterServiceVersion.toJson, TypedObject.json, TypedObject.present, strategyEntry, operatorSpec,
    operatorContainer]

/-- A CSV's data with the environment of every container of its install strategy removed: what
writing operator variables into the CSV leaves as it was. -/
def strategyWithoutEnv (data : Json) : Json :=
  match data.pointer "/spec/install/spec/deployments" with
  | some (.arr ds) =>
    (data.setAt "/spec/install/spec/deployments" (.arr (ds.map fun d =>
      match d.pointer "/spec/template/spec/containers" with
      | some (.arr cs) =>
        (d.setAt "/spec/template/spec/containers" (.arr (cs.map (·.erase "env")))).getD d
      | _ => d))).getD data
  | _ => data

theorem strategyWithoutEnv_csvDataWith (ns : String) (p : PendingInstall) (phase : String)
    (cs : List Json) :
    strategyWithoutEnv (csvDataWith ns p phase cs) = csvDataWith ns p phase (cs.map (·.erase "env")) := by
  have hspec : Fields.get? [("name", .str (p.package ++ "-operator")),
      ("spec", operatorSpec (p.package ++ "-operator") cs)] "spec" =
      some (operatorSpec (p.package ++ "-operator") cs) := by
    simp [-String.lt_iff_ltb, Fields.get?_cons]
  have hentry : Json.obj (Fields.insert [("name", .str (p.package ++ "-operator")),
      ("spec", operatorSpec (p.package ++ "-operator") cs)] "spec"
      (operatorSpec (p.package ++ "-operator") (cs.map (·.erase "env")))) =
      strategyEntry (p.package ++ "-operator") (cs.map (·.erase "env")) := by
    simp [-String.lt_iff_ltb, Fields.insert, strategyEntry]
  simp only [strategyWithoutEnv, pointer_csvDataWith, List.map_cons, List.map_nil, strategyEntry,
    pointer_containers hspec, setAt_containers hspec, Option.getD_some]
  rw [hentry, setAt_csvDataWith, Option.getD_some]

@[simp] theorem erase_withEnv (fs : Fields) (env : List Json) :
    (withEnv (.obj fs) env).erase "env" = .obj (Fields.erase fs "env") := by
  simp [withEnv, Json.set, Json.erase, Fields.erase_insert_self]

@[simp] theorem erase_operatorContainer : operatorContainer.erase "env" = operatorContainer := by
  simp [operatorContainer, Json.erase, Fields.erase]

end SimState
end OlmProvision
