import OlmProvision.Proofs.DocumentForms
import OlmProvision.Json.Pointer

/-
Writing through a JSON pointer.

`Json.setAt t p x` writes `x` at the pointer `p`, creating the objects that are missing on the
way, and refuses (answers `none`, so the document stays as it was) a pointer that does not
start with `/` or whose path runs into something other than an object. Every reader of the
written document looks values up with `Json.pointer`, which follows the same tokens. What is
proved, for the tokens `ts` of `p`:

1. `Pointer.follow_append`: looking up a path in two parts is looking up the first part and
   then the second part inside what it found.
2. `setTokens_eq_none_iff`: a write is refused exactly when the walk meets an existing value
   that is not an object before the last token (`Pointer.Blocked`). The walk creates nothing
   before it meets such a value, so a refused write has nothing to undo.
3. After a write: the value at `ts` is `x` (`follow_setTokens_self`), every proper prefix of
   `ts` holds an object (`follow_setTokens_of_prefix`), and the value at every path that is
   neither a prefix nor an extension of `ts` is the one before (`follow_setTokens_of_apart`).
-/
namespace OlmProvision

namespace Pointer

theorem follow_append (j : Json) (p q : List String) :
    follow j (p ++ q) = (follow j p).bind (fun v => follow v q) := by
  induction p generalizing j with
  | nil => rfl
  | cons t p ih =>
    cases j with
    | obj fs =>
      simp only [List.cons_append, follow, Option.bind_assoc]
      congr 1
      funext v
      exact ih v
    | arr xs =>
      simp only [List.cons_append, follow, Option.bind_assoc]
      congr 1
      funext i
      cases xs[i]? with
      | none => rfl
      | some v => exact ih v
    | null => rfl
    | bool b => rfl
    | num n => rfl
    | str s => rfl

theorem ne_nil_of_not_isPrefixOf {q ts : List String} (h : ¬ q <+: ts) : q ≠ [] := by
  rintro rfl
  exact h List.nil_prefix

theorem follow_empty_of_ne_nil {ts : List String} (h : ts ≠ []) : follow (.obj []) ts = none := by
  obtain ⟨t, ts, rfl⟩ := List.exists_cons_of_ne_nil h
  rfl

/-- The walk of `ts` through `j` meets an existing value that is not an object before it
reaches the last token, where a write would have to place a member. -/
def Blocked (j : Json) (ts : List String) : Prop :=
  ∃ q, q <+: ts ∧ q ≠ ts ∧ ∃ v, follow j q = some v ∧ v.isObject = false

theorem not_blocked_nil (j : Json) : ¬ Blocked j [] := by
  rintro ⟨q, hq, hne, -⟩
  exact hne (List.prefix_nil.mp hq)

theorem blocked_obj_cons (fs : Fields) (t : String) (rest : List String) :
    Blocked (.obj fs) (t :: rest) ↔ ∃ c, Fields.get? fs t = some c ∧ Blocked c rest := by
  constructor
  · rintro ⟨q, hq, hne, v, hv, hobj⟩
    cases q with
    | nil => simp [follow] at hv; simp [← hv, Json.isObject] at hobj
    | cons t' q =>
      obtain ⟨rfl, hq'⟩ := List.cons_prefix_cons.mp hq
      simp only [follow, Option.bind_eq_some_iff] at hv
      obtain ⟨c, hc, hv⟩ := hv
      exact ⟨c, hc, q, hq', fun h => hne (h ▸ rfl), v, hv, hobj⟩
  · rintro ⟨c, hc, q, hq, hne, v, hv, hobj⟩
    refine ⟨t :: q, List.cons_prefix_cons.mpr ⟨rfl, hq⟩, fun h => hne (List.cons.inj h).2, v, ?_,
      hobj⟩
    simp [follow, hc, hv]

theorem tokens_eq_some_cons_iff {p : String} :
    (∃ t ts, tokens p = some (t :: ts)) ↔ p.toList.head? = some '/' := by
  unfold tokens
  by_cases he : p.isEmpty
  · have hnil : p.toList = [] := by simp_all
    simp [he, hnil]
  · simp only [he, Bool.false_eq_true, if_false]
    cases hp : p.toList with
    | nil => simp
    | cons c rest =>
      by_cases hc : c = '/'
      · subst hc
        obtain ⟨t, ts, hts⟩ := List.exists_cons_of_ne_nil (List.splitOn_ne_nil '/' rest)
        simp [hts]
      · simp [hc]

theorem not_blocked_empty (ts : List String) : ¬ Blocked (.obj []) ts := by
  cases ts with
  | nil => exact not_blocked_nil _
  | cons t rest =>
    rw [blocked_obj_cons]
    rintro ⟨c, hc, -⟩
    simp [Fields.get?] at hc

/-- A path that exists and has no array index among its tokens runs through objects only, so a
write through it is not blocked. -/
theorem not_blocked_of_follow {j v : Json} {ts : List String} (h : follow j ts = some v)
    (hidx : ∀ t ∈ ts, index? t = none) : ¬ Blocked j ts := by
  rintro ⟨q, ⟨r, rfl⟩, hne, w, hw, hobj⟩
  obtain ⟨t, r, rfl⟩ := List.exists_cons_of_ne_nil (show r ≠ [] by rintro rfl; simp at hne)
  rw [follow_append, hw, Option.bind_some] at h
  have ht : index? t = none := hidx t (by simp)
  cases w with
  | obj fs => simp [Json.isObject] at hobj
  | arr xs => simp [follow, ht] at h
  | _ => simp [follow] at h

end Pointer

namespace Json

open Pointer

theorem setTokens_eq_none_iff {j : Json} {ts : List String} (x : Json) (hts : ts ≠ []) :
    j.setTokens ts x = none ↔ Blocked j ts := by
  fun_induction setTokens j ts x with
  | case1 fs t x =>
    simp only [reduceCtorEq, false_iff]
    rw [blocked_obj_cons]
    rintro ⟨c, -, hc⟩
    exact not_blocked_nil c hc
  | case2 fs t rest x hrest child ih =>
    rw [Option.map_eq_none_iff, ih hrest, blocked_obj_cons]
    cases hc : Fields.get? fs t with
    | none => simp [child, hc, not_blocked_empty]
    | some c => simp [child, hc]
  | case3 ts j x hone hmany =>
    simp only [true_iff]
    obtain ⟨t, rest, rfl⟩ := List.exists_cons_of_ne_nil hts
    -- the root itself is not an object: otherwise one of the first two cases applies
    refine ⟨[], List.nil_prefix, List.cons_ne_nil t rest |>.symm, j, rfl, ?_⟩
    cases j with
    | obj fs => cases rest with
      | nil => exact absurd rfl (hone fs t rfl)
      | cons t' rest => exact absurd rfl (hmany fs t (t' :: rest) rfl)
    | _ => rfl

theorem follow_setTokens_self {j j' : Json} {ts : List String} {x : Json}
    (h : j.setTokens ts x = some j') : follow j' ts = some x := by
  fun_induction setTokens j ts x generalizing j' with
  | case1 fs t x =>
    cases h
    simp [follow, Fields.get?_insert]
  | case2 fs t rest x hrest child =>
    rename_i ih
    obtain ⟨c, hc, rfl⟩ := Option.map_eq_some_iff.mp h
    simp [follow, Fields.get?_insert, ih hc]
  | case3 => cases h

theorem follow_setTokens_of_prefix {j j' : Json} {ts : List String} {x : Json}
    (h : j.setTokens ts x = some j') {q : List String} (hq : q <+: ts) (hne : q ≠ ts) :
    ∃ fs, follow j' q = some (.obj fs) := by
  fun_induction setTokens j ts x generalizing j' q with
  | case1 fs t x =>
    cases h
    rcases List.prefix_cons_iff.mp hq with rfl | ⟨q', rfl, hq'⟩
    · exact ⟨_, rfl⟩
    · exact absurd (by rw [List.prefix_nil.mp hq']) hne
  | case2 fs t rest x hrest child =>
    rename_i ih
    obtain ⟨c, hc, rfl⟩ := Option.map_eq_some_iff.mp h
    rcases List.prefix_cons_iff.mp hq with rfl | ⟨q', rfl, hq'⟩
    · exact ⟨_, rfl⟩
    · have hne' : q' ≠ rest := fun h' => hne (h' ▸ rfl)
      simpa [follow, Fields.get?_insert] using ih hc hq' hne'
  | case3 => cases h

/-- Writing a path again is writing it once: the second write finds the members the first one
placed or created. -/
theorem setTokens_setTokens {j j' : Json} {ts : List String} {x : Json}
    (h : j.setTokens ts x = some j') (y : Json) : j'.setTokens ts y = j.setTokens ts y := by
  fun_induction setTokens j ts x generalizing j' with
  | case1 fs t x =>
    cases h
    simp [setTokens, Fields.insert_insert_self]
  | case2 fs t rest x hrest child =>
    rename_i ih
    obtain ⟨c, hc, rfl⟩ := Option.map_eq_some_iff.mp h
    rw [setTokens.eq_2 _ _ _ _ hrest, setTokens.eq_2 _ _ _ _ hrest, Fields.get?_insert, if_pos rfl,
      Option.getD_some, ih hc]
    simp only [Fields.insert_insert_self]
    rfl
  | case3 => cases h

theorem follow_setTokens_of_apart {j j' : Json} {ts : List String} {x : Json}
    (h : j.setTokens ts x = some j') {q : List String} (hpre : ¬ q <+: ts) (hext : ¬ ts <+: q) :
    follow j' q = follow j q := by
  fun_induction setTokens j ts x generalizing j' q with
  | case1 fs t x =>
    cases h
    -- the path leaves through another member than the one written
    obtain ⟨t', q', rfl⟩ := List.exists_cons_of_ne_nil (ne_nil_of_not_isPrefixOf hpre)
    have ht : t ≠ t' := by
      rintro rfl
      exact hext (List.cons_prefix_cons.mpr ⟨rfl, List.nil_prefix⟩)
    simp [follow, Fields.get?_insert, ht]
  | case2 fs t rest x hrest child =>
    rename_i ih
    obtain ⟨c, hc, rfl⟩ := Option.map_eq_some_iff.mp h
    obtain ⟨t', q', rfl⟩ := List.exists_cons_of_ne_nil (ne_nil_of_not_isPrefixOf hpre)
    by_cases ht : t = t'
    · subst ht
      have hpre' : ¬ q' <+: rest := fun h' => hpre (List.cons_prefix_cons.mpr ⟨rfl, h'⟩)
      have hext' : ¬ rest <+: q' := fun h' => hext (List.cons_prefix_cons.mpr ⟨rfl, h'⟩)
      have hq' : q' ≠ [] := ne_nil_of_not_isPrefixOf hpre'
      simp only [follow, Fields.get?_insert, if_true, Option.bind_some, ih hc hpre' hext']
      -- the member entered was there, or was created empty and holds nothing below
      cases hv : Fields.get? fs t with
      | none => simpa [child, hv] using follow_empty_of_ne_nil hq'
      | some v => simp [child, hv]
    · simp [follow, Fields.get?_insert, ht]
  | case3 => cases h

theorem setAt_eq_none_iff (j : Json) (p : String) (x : Json) :
    j.setAt p x = none ↔
      p.toList.head? ≠ some '/' ∨ ∃ ts, Pointer.tokens p = some ts ∧ Blocked j ts := by
  unfold setAt
  by_cases hroot : p.toList.head? = some '/'
  · obtain ⟨t, ts, htok⟩ := tokens_eq_some_cons_iff.mpr hroot
    simp [htok, hroot, setTokens_eq_none_iff x (List.cons_ne_nil t ts)]
  · -- without a leading `/` there is no token to write through
    have hnone : ∀ t ts, Pointer.tokens p ≠ some (t :: ts) := fun t ts h =>
      hroot (tokens_eq_some_cons_iff.mp ⟨t, ts, h⟩)
    split
    · exact absurd ‹_› (hnone _ _)
    · simp [hroot]

theorem setTokens_of_setAt {j j' : Json} {p : String} {x : Json} (h : j.setAt p x = some j') :
    ∃ ts, Pointer.tokens p = some ts ∧ j.setTokens ts x = some j' := by
  unfold setAt at h
  split at h
  · exact ⟨_, ‹_›, h⟩
  · cases h

end Json

/-- A write at `p` is refused exactly when `p` is malformed or its walk is blocked; otherwise `p`
reads back `x`, its prefixes hold objects and every path apart from it keeps its value. -/
theorem setAt_reads_back_and_keeps_rest (j : Json) (p : String) (x : Json) :
    (j.setAt p x = none ↔
      p.toList.head? ≠ some '/' ∨ ∃ ts, Pointer.tokens p = some ts ∧ Pointer.Blocked j ts) ∧
    ∀ j', j.setAt p x = some j' →
      j'.pointer p = some x ∧
      (∀ ts, Pointer.tokens p = some ts → ∀ q, q <+: ts → q ≠ ts →
        ∃ fs, Pointer.follow j' q = some (.obj fs)) ∧
      (∀ ts rest, Pointer.tokens p = some ts →
        Pointer.follow j' (ts ++ rest) = Pointer.follow x rest) ∧
      ∀ q, (∀ ts qs, Pointer.tokens p = some ts → Pointer.tokens q = some qs →
          ¬ qs <+: ts ∧ ¬ ts <+: qs) →
        j'.pointer q = j.pointer q := by
  refine ⟨Json.setAt_eq_none_iff j p x, fun j' h => ?_⟩
  obtain ⟨ts, htok, hset⟩ := Json.setTokens_of_setAt h
  have hself := Json.follow_setTokens_self hset
  refine ⟨by simp [Json.pointer, htok, hself], ?_, ?_, ?_⟩
  · intro ts' htok' q hq hne
    obtain rfl : ts' = ts := Option.some.inj (htok'.symm.trans htok)
    exact Json.follow_setTokens_of_prefix hset hq hne
  · intro ts' rest htok'
    obtain rfl : ts' = ts := Option.some.inj (htok'.symm.trans htok)
    rw [Pointer.follow_append, hself, Option.bind_some]
  · intro q hapart
    unfold Json.pointer
    cases hq : Pointer.tokens q with
    | none => rfl
    | some qs =>
      obtain ⟨hpre, hext⟩ := hapart ts qs htok hq
      exact Json.follow_setTokens_of_apart hset hpre hext

end OlmProvision
