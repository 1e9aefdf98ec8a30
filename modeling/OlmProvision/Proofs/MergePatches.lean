import Mathlib
import OlmProvision.Proofs.DocumentForms
import OlmProvision.Json.Pointer

/-
Merge patches.

A merge patch describes a change of a document by example (RFC 7386). `Json.MergesTo target
patch result` states the rules of the RFC without computing them: a patch that is not an object
is the result; an object patch gives an object that keeps the target's members the patch does
not name (none when the target is not an object), drops those the patch sets to null, and holds
for every other member of the patch its value merged into the target's member of that name, a
missing member entering as null. Results keep their members in ascending key order, as every
object of the document model does.

Documents as the cluster holds them are maps: no object repeats a key, and stored objects keep
their keys ascending. `Json.AllObjects P j` says that `P` holds of the members of every object
reached from `j` through object members; a merge looks no further, since it copies or replaces
arrays whole.

What is proved:

1. One member `(k, v)` of an object patch writes the target's member `k` alone
   (`Json.get?_mergeStep`), so with distinct patch keys each member of the result is computed
   on its own (`Json.get?_mergeFields`), and sorted members stay sorted
   (`Json.sorted_mergeFields`).
2. The rules determine the result (`Json.MergesTo.unique`), a result of them is its own merge by
   the same patch (`Json.MergesTo.self`), and a merge into a target with sorted objects has
   sorted objects (`Json.MergesTo.allObjects`).
3. `mergePatch` follows the rules on a target with sorted objects and a patch with distinct keys
   (`Json.mergesTo_mergePatch`), so merging a patch twice is merging it once
   (`Json.mergePatch_mergePatch`); `mergePatch_merges_idempotently` states both.
-/
namespace OlmProvision

namespace Fields

theorem get?_erase (fs : Fields) (k k' : String) :
    get? (erase fs k) k' = if k = k' then none else get? fs k' := by
  induction fs with
  | nil => simp [erase]
  | cons p rest ih =>
    obtain ⟨k₀, v₀⟩ := p
    simp only [erase, List.filter_cons] at ih ⊢
    by_cases h₀ : k₀ = k
    · subst h₀
      simp only [bne_self_eq_false, Bool.false_eq_true, if_false, ih, get?_cons]
      split <;> rfl
    · simp only [bne_iff_ne, ne_eq, h₀, not_false_eq_true, if_true, get?_cons, ih]
      by_cases h₁ : k = k'
      · subst h₁
        simp [h₀]
      · simp [h₁]

theorem Sorted.erase {fs : Fields} (h : Sorted fs) (k : String) : Sorted (erase fs k) :=
  h.sublist ((List.filter_sublist (l := fs)).map Prod.fst)

theorem mem_of_get? {fs : Fields} {k : String} {v : Json} (h : get? fs k = some v) :
    (k, v) ∈ fs := by
  induction fs with
  | nil => cases h
  | cons p rest ih =>
    obtain ⟨k₀, v₀⟩ := p
    rw [get?_cons] at h
    split at h
    · next heq =>
      cases h
      exact heq ▸ List.mem_cons_self ..
    · exact List.mem_cons_of_mem _ (ih h)

theorem get?_eq_none_of_not_mem {fs : Fields} {k : String} (h : k ∉ fs.keys) : get? fs k = none :=
  Option.eq_none_iff_forall_ne_some.mpr fun _ hv => h (mem_keys_of_get? hv)

theorem get?_of_mem {fs : Fields} (h : fs.keys.Nodup) {k : String} {v : Json} (hm : (k, v) ∈ fs) :
    get? fs k = some v := by
  induction fs with
  | nil => cases hm
  | cons p rest ih =>
    obtain ⟨k₀, v₀⟩ := p
    obtain ⟨hfresh, hrest⟩ := List.nodup_cons.mp h
    rw [get?_cons]
    rcases List.mem_cons.mp hm with heq | hm
    · cases heq
      simp
    · -- `k` is a key of the rest, so it is not the first key
      have hk : k₀ ≠ k := by
        rintro rfl
        exact hfresh (List.mem_map.mpr ⟨_, hm, rfl⟩)
      rw [if_neg hk, ih hrest hm]

end Fields

namespace Json

theorem isNull_eq_false_iff {v : Json} : v.isNull = false ↔ v ≠ .null := by
  cases v <;> simp [isNull]

/-! ## Documents whose objects are maps -/

mutual
/-- `P` holds of the members of every object reached from the document through object members:
of the document's own when it is an object, and so on down each member. -/
def AllObjects (P : Fields → Prop) : Json → Prop
  | .obj fs => P fs ∧ AllMembers P fs
  | _ => True

/-- `AllObjects P` of every member value. -/
def AllMembers (P : Fields → Prop) : List (String × Json) → Prop
  | [] => True
  | (_, j) :: rest => AllObjects P j ∧ AllMembers P rest
end

theorem allMembers_iff {P : Fields → Prop} {fs : List (String × Json)} :
    AllMembers P fs ↔ ∀ p ∈ fs, AllObjects P p.2 := by
  induction fs with
  | nil => simp [AllMembers]
  | cons p rest ih =>
    obtain ⟨k, v⟩ := p
    simp [AllMembers, ih]

theorem allObjects_obj {P : Fields → Prop} {fs : Fields} :
    AllObjects P (.obj fs) ↔ P fs ∧ ∀ p ∈ fs, AllObjects P p.2 := by
  rw [AllObjects, allMembers_iff]

theorem allObjects_of_isObject_eq_false {P : Fields → Prop} {j : Json} (h : j.isObject = false) :
    AllObjects P j := by
  cases j
  case obj => cases h
  all_goals trivial

theorem allObjects_getD {P : Fields → Prop} {j : Json} (h : AllObjects P j) (k : String) :
    AllObjects P ((j.get? k).getD .null) := by
  cases j
  case obj fs =>
    change AllObjects P ((Fields.get? fs k).getD .null)
    cases hk : Fields.get? fs k with
    | none => trivial
    | some v => exact (allObjects_obj.mp h).2 _ (Fields.mem_of_get? hk)
  all_goals trivial

/-! ## One member of a patch at a time -/

/-- The members a merge into `target` starts from: the target's own, none for a target that is
not an object. -/
theorem get?_asObject (target : Json) (k : String) :
    Fields.get? (target.asObject?.getD []) k = target.get? k := by
  cases target <;> rfl

theorem sorted_asObject {target : Json} (h : target.AllObjects Fields.Sorted) :
    Fields.Sorted (target.asObject?.getD []) := by
  cases target
  case obj fs => exact h.1
  all_goals exact Fields.sorted_nil

theorem mergePatch_obj (target : Json) (ps : Fields) :
    mergePatch target (.obj ps) = .obj (mergeFields (target.asObject?.getD []) ps) := by
  cases target <;> simp [mergePatch, asObject?]

theorem mergePatch_of_isObject_eq_false {patch : Json} (h : patch.isObject = false)
    (target : Json) : mergePatch target patch = patch := by
  cases patch
  case obj => cases h
  all_goals simp [mergePatch]

/-- The write one member `(k, v)` of an object patch makes: null removes member `k`, any other
value is merged into it, a missing member entering as null. -/
def mergeStep (fs : Fields) (k : String) (v : Json) : Fields :=
  if v.isNull then Fields.erase fs k
  else Fields.insert fs k (mergePatch ((Fields.get? fs k).getD .null) v)

theorem mergeFields_cons (fs : Fields) (k : String) (v : Json) (rest : List (String × Json)) :
    mergeFields fs ((k, v) :: rest) = mergeFields (mergeStep fs k v) rest := by
  cases v <;> simp [mergeFields, mergeStep, isNull]

theorem get?_mergeStep (fs : Fields) (k : String) (v : Json) (k' : String) :
    Fields.get? (mergeStep fs k v) k' =
      if k = k' then (if v.isNull then none else some (mergePatch ((Fields.get? fs k).getD .null) v))
      else Fields.get? fs k' := by
  unfold mergeStep
  split
  · rw [Fields.get?_erase]
  · rw [Fields.get?_insert]

theorem sorted_mergeStep {fs : Fields} (h : Fields.Sorted fs) (k : String) (v : Json) :
    Fields.Sorted (mergeStep fs k v) := by
  unfold mergeStep
  split
  · exact h.erase k
  · exact h.insert _ _

theorem sorted_mergeFields {fs : Fields} (h : Fields.Sorted fs) (ps : List (String × Json)) :
    Fields.Sorted (mergeFields fs ps) := by
  induction ps generalizing fs with
  | nil => exact h
  | cons p rest ih =>
    obtain ⟨k, v⟩ := p
    rw [mergeFields_cons]
    exact ih (sorted_mergeStep h k v)

theorem get?_mergeFields (fs ps : Fields) (h : ps.keys.Nodup) (k : String) :
    Fields.get? (mergeFields fs ps) k =
      match Fields.get? ps k with
      | none => Fields.get? fs k
      | some v => if v.isNull then none else some (mergePatch ((Fields.get? fs k).getD .null) v) := by
  induction ps generalizing fs with
  | nil => rfl
  | cons p rest ih =>
    obtain ⟨k₀, v₀⟩ := p
    obtain ⟨hfresh, hrest⟩ := List.nodup_cons.mp h
    rw [mergeFields_cons, ih _ hrest, Fields.get?_cons]
    by_cases hk : k₀ = k
    · -- the rest of the patch never names `k₀` again, so the first step decides it
      subst hk
      rw [Fields.get?_eq_none_of_not_mem hfresh, get?_mergeStep, if_pos rfl, if_pos rfl]
    · rw [if_neg hk]
      -- later steps read the target's member `k`, which the first step left alone
      have hkeep : Fields.get? (mergeStep fs k₀ v₀) k = Fields.get? fs k := by
        rw [get?_mergeStep, if_neg hk]
      rw [hkeep]

/-! ## The rules of a merge -/

/-- `result` is the merge of `patch` into `target` by the rules of RFC 7386. -/
inductive MergesTo : Json → Json → Json → Prop
  /-- A patch that is not an object replaces the target. -/
  | replace {target patch : Json} : patch.isObject = false → MergesTo target patch patch
  /-- An object patch gives an object with ascending keys that keeps the members the patch does
  not name, drops those it sets to null, and holds each other member of the patch merged into
  the target's member of its name (null when there is none). A target that is not an object has
  no members. -/
  | merge {target : Json} {ps fs : Fields} (sorted : Fields.Sorted fs)
      (kept : ∀ k, Fields.get? ps k = none → Fields.get? fs k = target.get? k)
      (removed : ∀ k, Fields.get? ps k = some .null → Fields.get? fs k = none)
      (present : ∀ k v, Fields.get? ps k = some v → v ≠ .null → (Fields.get? fs k).isSome)
      (merged : ∀ k v r, Fields.get? ps k = some v → v ≠ .null → Fields.get? fs k = some r →
        MergesTo ((target.get? k).getD .null) v r) :
      MergesTo target (.obj ps) (.obj fs)

namespace MergesTo

theorem unique {target patch r₁ r₂ : Json} (h₁ : MergesTo target patch r₁)
    (h₂ : MergesTo target patch r₂) : r₁ = r₂ := by
  induction h₁ generalizing r₂ with
  | replace hp =>
    cases h₂ with
    | replace _ => rfl
    | merge => cases hp
  | @merge target ps fs sorted kept removed present merged ih =>
    cases h₂ with
    | replace hp => cases hp
    | merge sorted₂ kept₂ removed₂ present₂ merged₂ =>
      -- both results are sorted, so they agree when every key finds the same member
      refine congrArg Json.obj (Fields.Sorted.ext sorted sorted₂ fun k => ?_)
      cases hk : Fields.get? ps k with
      | none => rw [kept k hk, kept₂ k hk]
      | some v =>
        by_cases hv : v = .null
        · subst hv
          rw [removed k hk, removed₂ k hk]
        · obtain ⟨r, hr⟩ := Option.isSome_iff_exists.mp (present k v hk hv)
          obtain ⟨r', hr'⟩ := Option.isSome_iff_exists.mp (present₂ k v hk hv)
          rw [hr, hr', ih k v r hk hv hr (merged₂ k v r' hk hv hr')]

theorem self {target patch result : Json} (h : MergesTo target patch result) :
    MergesTo result patch result := by
  induction h with
  | replace hp => exact .replace hp
  | @merge target ps fs sorted kept removed present merged ih =>
    refine .merge sorted (fun k _ => rfl) removed present fun k v r hk hv hr => ?_
    -- the member `k` of the result is `r` itself
    have hself : ((Json.obj fs).get? k).getD .null = r := by
      simp [Json.get?, hr]
    exact hself ▸ ih k v r hk hv hr

theorem allObjects {target patch result : Json} (h : MergesTo target patch result)
    (ht : target.AllObjects Fields.Sorted) : result.AllObjects Fields.Sorted := by
  induction h with
  | replace hp => exact allObjects_of_isObject_eq_false hp
  | @merge target ps fs sorted kept removed present merged ih =>
    refine allObjects_obj.mpr ⟨sorted, fun ⟨k, x⟩ hx => ?_⟩
    have hget : Fields.get? fs k = some x := Fields.get?_of_mem sorted.nodup hx
    cases hk : Fields.get? ps k with
    | none =>
      -- a member the patch does not name is the target's
      have hx' : (target.get? k).getD .null = x := by rw [← kept k hk, hget]; rfl
      exact hx' ▸ allObjects_getD ht k
    | some v =>
      by_cases hv : v = .null
      · subst hv
        rw [removed k hk] at hget
        cases hget
      · exact ih k v x hk hv hget (allObjects_getD ht k)

end MergesTo

theorem mergesTo_mergePatch (target patch : Json) (ht : target.AllObjects Fields.Sorted)
    (hp : patch.AllObjects (·.keys.Nodup)) : MergesTo target patch (mergePatch target patch) := by
  cases patch
  case obj ps =>
    obtain ⟨hnd, hvals⟩ := allObjects_obj.mp hp
    rw [mergePatch_obj]
    have hget := get?_mergeFields (target.asObject?.getD []) ps hnd
    refine .merge (sorted_mergeFields (sorted_asObject ht) ps) (fun k hk => ?_) (fun k hk => ?_)
      (fun k v hk hv => ?_) (fun k v r hk hv hr => ?_)
    · rw [hget k, hk, get?_asObject]
    · rw [hget k, hk]
      rfl
    · simp only [hget k, hk, isNull_eq_false_iff.mpr hv, Bool.false_eq_true, if_false,
        Option.isSome_some]
    · simp only [hget k, hk, isNull_eq_false_iff.mpr hv, Bool.false_eq_true, if_false,
        get?_asObject, Option.some.injEq] at hr
      subst hr
      -- the member's value is a smaller patch than the whole
      have hmem : (k, v) ∈ ps := Fields.mem_of_get? hk
      exact mergesTo_mergePatch _ v (allObjects_getD ht k) (hvals _ hmem)
  all_goals
    rw [mergePatch_of_isObject_eq_false rfl]
    exact .replace rfl
termination_by sizeOf patch
decreasing_by
  subst_vars
  have hlt := List.sizeOf_lt_of_mem hmem
  simp only [Json.obj.sizeOf_spec, Prod.mk.sizeOf_spec] at hlt ⊢
  omega

theorem mergePatch_mergePatch {target patch : Json} (ht : target.AllObjects Fields.Sorted)
    (hp : patch.AllObjects (·.keys.Nodup)) :
    mergePatch (mergePatch target patch) patch = mergePatch target patch := by
  have h := mergesTo_mergePatch target patch ht hp
  -- the result is its own merge by the patch, and the rules leave one result
  exact (h.self.unique (mergesTo_mergePatch _ patch (h.allObjects ht) hp)).symm

end Json

/-- On targets with sorted objects and patches with distinct keys, `mergePatch` is the result of
the rules of RFC 7386, and merging the same patch again changes nothing. -/
theorem mergePatch_merges_idempotently (target patch : Json)
    (ht : target.AllObjects Fields.Sorted) (hp : patch.AllObjects (·.keys.Nodup)) :
    (∀ result, Json.MergesTo target patch result ↔ result = Json.mergePatch target patch) ∧
      Json.mergePatch (Json.mergePatch target patch) patch = Json.mergePatch target patch := by
  have h := Json.mergesTo_mergePatch target patch ht hp
  exact ⟨fun result => ⟨fun hr => hr.unique h, fun hr => hr ▸ h⟩, Json.mergePatch_mergePatch ht hp⟩

/-- The approval patch of an install plan, which also drops the plan's labels. -/
theorem mergePatch_merges_idempotently_installPlan :
    let target : Json := .obj [("metadata", .obj [("labels", .obj [("app", .str "broker")]),
      ("name", .str "install-broker")]), ("spec", .obj [("approved", .bool false)])]
    let patch : Json := .obj [("metadata", .obj [("labels", .null)]),
      ("spec", .obj [("approved", .bool true)])]
    target.AllObjects Fields.Sorted ∧ patch.AllObjects (·.keys.Nodup) ∧
      (∀ result, Json.MergesTo target patch result ↔ result = Json.mergePatch target patch) ∧
      Json.mergePatch (Json.mergePatch target patch) patch = Json.mergePatch target patch := by
  intro target patch
  have ht : target.AllObjects Fields.Sorted := by
    simp [target, Json.AllObjects, Json.AllMembers, Fields.Sorted, Fields.keys, -String.lt_iff_ltb]
  have hp : patch.AllObjects (·.keys.Nodup) := by
    simp [patch, Json.AllObjects, Json.AllMembers, Fields.keys]
  exact ⟨ht, hp, mergePatch_merges_idempotently target patch ht hp⟩

end OlmProvision
