import Mathlib
import OlmProvision.Model.Olm

/-
Document forms read back.

Objects reach the cluster as documents and are read again by decoding them, so what the
provisioner and the simulated cluster agree on rests on decoding giving back what encoding
wrote. This module holds the general part of that.

1. The members of an object are a finite map: kept in ascending key order (`Fields.Sorted`),
   which every write preserves, and a lookup after a write is computed key by key
   (`Fields.get?_insert`, `Fields.get?_ofList`, `Fields.get?_present`). Sorted members are
   determined by their lookups (`Fields.Sorted.ext`), so writing a member of a record written
   by `present` gives the record with that field set (`TypedObject.present_set`).
2. A `Canonical` document has sorted members at every level and only finite numbers; reading
   it without a target type and writing it again gives it back (`Json.toJson_toContent`).
3. A record decoded from a sorted object reads each of its fields from the member of that
   name (`Input.find?_members`), so a field decoder sees exactly the member the encoder wrote.
-/
namespace OlmProvision

/-! ## Decoding results -/

namespace Except

variable {ε α β : Type}

@[simp] theorem ok_bind (a : α) (f : α → Except ε β) : (Except.ok a >>= f) = f a := rfl

@[simp] theorem error_bind (e : ε) (f : α → Except ε β) : (Except.error e >>= f) = .error e := rfl

@[simp] theorem map_ok (f : α → β) (a : α) : Except.map f (.ok a : Except ε α) = .ok (f a) := rfl

@[simp] theorem fmap_ok (f : α → β) (a : α) : (f <$> (.ok a : Except ε α)) = .ok (f a) := rfl

@[simp] theorem pure_eq_ok (a : α) : (pure a : Except ε α) = .ok a := rfl

end Except

/-! ## Members as a finite map -/

namespace Fields

/-- The keys ascend strictly, so no key is written twice. -/
def Sorted (fs : Fields) : Prop := fs.keys.Pairwise (· < ·)

@[simp] theorem keys_nil : keys [] = [] := rfl

@[simp] theorem keys_cons (k : String) (v : Json) (fs : Fields) :
    keys ((k, v) :: fs) = k :: keys fs := rfl

theorem sorted_nil : Sorted [] := List.Pairwise.nil

theorem sorted_cons {k : String} {v : Json} {fs : Fields} :
    Sorted ((k, v) :: fs) ↔ (∀ k' ∈ fs.keys, k < k') ∧ Sorted fs :=
  List.pairwise_cons

@[simp] theorem get?_nil (k : String) : get? [] k = none := rfl

theorem get?_cons (k : String) (v : Json) (fs : Fields) (k' : String) :
    get? ((k, v) :: fs) k' = if k = k' then some v else get? fs k' := by
  by_cases h : k = k'
  · simp [get?, h]
  · simp [get?, beq_eq_false_iff_ne.mpr h, h]

theorem get?_append (l₁ l₂ : Fields) (k : String) :
    get? (l₁ ++ l₂) k = (get? l₁ k).or (get? l₂ k) := by
  induction l₁ with
  | nil => rfl
  | cons p rest ih =>
    obtain ⟨k₀, v₀⟩ := p
    rw [List.cons_append, get?_cons, get?_cons, ih]
    split <;> rfl

theorem get?_eq_none_of_lt {fs : Fields} {k : String} (h : ∀ k' ∈ fs.keys, k < k') :
    get? fs k = none := by
  induction fs with
  | nil => rfl
  | cons p rest ih =>
    obtain ⟨k₀, v₀⟩ := p
    have hlt : k < k₀ := h k₀ (List.mem_cons_self ..)
    rw [get?_cons, if_neg (String.ne_of_lt hlt).symm]
    exact ih fun k' hk' => h k' (List.mem_cons_of_mem _ hk')

theorem get?_insert (fs : Fields) (k : String) (v : Json) (k' : String) :
    get? (insert fs k v) k' = if k = k' then some v else get? fs k' := by
  induction fs with
  | nil => simp [insert, get?_cons]
  | cons p rest ih =>
    obtain ⟨k₀, v₀⟩ := p
    unfold insert
    split
    · rw [get?_cons]
    · split
      · next heq =>
        subst heq
        rw [get?_cons, get?_cons]
        split <;> rfl
      · rw [get?_cons, ih, get?_cons]
        by_cases h₁ : k = k'
        · subst h₁
          simp only [if_true]
          next hne => exact if_neg (Ne.symm hne)
        · simp only [h₁, if_false]

theorem insert_insert_self (fs : Fields) (k : String) (v v' : Json) :
    insert (insert fs k v) k v' = insert fs k v' := by
  induction fs with
  | nil => simp [insert]
  | cons p rest ih =>
    obtain ⟨k₀, v₀⟩ := p
    by_cases hlt : k < k₀
    · simp [insert, hlt]
    · by_cases heq : k = k₀
      · subst heq
        simp [insert]
      · simp [insert, hlt, heq, ih]

theorem erase_insert_self (fs : Fields) (k : String) (v : Json) :
    erase (insert fs k v) k = erase fs k := by
  induction fs with
  | nil => simp [insert, erase]
  | cons p rest ih =>
    obtain ⟨k₀, v₀⟩ := p
    by_cases hlt : k < k₀
    · simp [insert, erase, hlt]
    · by_cases heq : k = k₀
      · subst heq
        simp [insert, erase]
      · have hne : k₀ ≠ k := Ne.symm heq
        simp only [erase] at ih
        simp [insert, erase, hlt, heq, hne, ih]

theorem mem_keys_insert {fs : Fields} {k k' : String} {v : Json} :
    k' ∈ (insert fs k v).keys ↔ k' = k ∨ k' ∈ fs.keys := by
  induction fs with
  | nil => simp [insert]
  | cons p rest ih =>
    obtain ⟨k₀, v₀⟩ := p
    unfold insert
    split
    · simp
    · split
      · next heq => subst heq; simp
      · simp only [keys_cons, List.mem_cons, ih]
        exact or_left_comm

theorem insert_of_lt {fs : Fields} {k : String} (v : Json) (h : ∀ k' ∈ fs.keys, k < k') :
    insert fs k v = (k, v) :: fs := by
  cases fs with
  | nil => rfl
  | cons p rest =>
    obtain ⟨k₀, v₀⟩ := p
    unfold insert
    rw [if_pos (h k₀ (List.mem_cons_self ..))]

theorem Sorted.insert {fs : Fields} (h : Sorted fs) (k : String) (v : Json) :
    Sorted (insert fs k v) := by
  induction fs with
  | nil => exact List.pairwise_singleton _ _
  | cons p rest ih =>
    obtain ⟨k₀, v₀⟩ := p
    obtain ⟨hhead, hrest⟩ := sorted_cons.mp h
    unfold Fields.insert
    split
    · next hlt =>
      refine sorted_cons.mpr ⟨fun k' hk' => ?_, h⟩
      rcases List.mem_cons.mp hk' with rfl | hk'
      · exact hlt
      · exact String.lt_trans hlt (hhead k' hk')
    · split
      · next heq => subst heq; exact sorted_cons.mpr ⟨hhead, hrest⟩
      · next hnlt hne =>
        -- `k₀ < k`, so `k₀` stays below the keys of the rest after the write
        have hgt : k₀ < k := by
          refine Classical.byContradiction fun hge => hne ?_
          exact String.le_antisymm (String.not_lt.mp hge) (String.not_lt.mp hnlt)
        refine sorted_cons.mpr ⟨fun k' hk' => ?_, ih hrest⟩
        rcases mem_keys_insert.mp hk' with rfl | hk'
        · exact hgt
        · exact hhead k' hk'

theorem get?_foldl_insert (pairs acc : Fields) (k : String) :
    get? (pairs.foldl (fun acc p => insert acc p.1 p.2) acc) k =
      (get? pairs.reverse k).or (get? acc k) := by
  induction pairs generalizing acc with
  | nil => rfl
  | cons p rest ih =>
    rw [List.foldl_cons, ih, List.reverse_cons, get?_append, get?_insert, get?_cons,
      Option.or_assoc]
    split <;> rfl

theorem get?_ofList (pairs : Fields) (k : String) : get? (ofList pairs) k = get? pairs.reverse k := by
  rw [ofList, get?_foldl_insert, get?_nil, Option.or_none]

theorem sorted_ofList (pairs : Fields) : Sorted (ofList pairs) := by
  suffices ∀ acc : Fields, Sorted acc → Sorted (pairs.foldl (fun acc p => insert acc p.1 p.2) acc) from
    this [] sorted_nil
  induction pairs with
  | nil => exact fun _ h => h
  | cons p rest ih => exact fun acc h => ih _ (h.insert _ _)

theorem mem_keys_of_get? {fs : Fields} {k : String} {v : Json} (h : get? fs k = some v) :
    k ∈ fs.keys := by
  induction fs with
  | nil => cases h
  | cons p rest ih =>
    obtain ⟨k₀, v₀⟩ := p
    rw [get?_cons] at h
    split at h
    · next heq => exact heq ▸ List.mem_cons_self ..
    · exact List.mem_cons_of_mem _ (ih h)

/-- With no key written twice, the last write of a key is its only one. -/
theorem get?_reverse {l : Fields} (h : l.keys.Nodup) (k : String) : get? l.reverse k = get? l k := by
  induction l with
  | nil => rfl
  | cons p rest ih =>
    obtain ⟨k₀, v₀⟩ := p
    obtain ⟨hfresh, hrest⟩ := List.nodup_cons.mp h
    rw [List.reverse_cons, get?_append, ih hrest, get?_cons, get?_cons, get?_nil]
    by_cases hk : k₀ = k
    · subst hk
      have : get? rest k₀ = none := by
        cases hget : get? rest k₀ with
        | none => rfl
        | some v => exact absurd (mem_keys_of_get? hget) hfresh
      simp [this]
    · simp only [hk, if_false, Option.or_none]

theorem Sorted.nodup {fs : Fields} (h : Sorted fs) : fs.keys.Nodup := h.imp String.ne_of_lt

theorem get?_eq_none_of_lt_head {k k' : String} {v' : Json} {b : Fields} (hs : Sorted ((k', v') :: b))
    (hlt : k < k') : get? ((k', v') :: b) k = none := by
  refine get?_eq_none_of_lt fun k'' hk'' => ?_
  rcases List.mem_cons.mp hk'' with rfl | hk''
  · exact hlt
  · exact String.lt_trans hlt ((sorted_cons.mp hs).1 k'' hk'')

/-- Sorted members are determined by their lookups. -/
theorem Sorted.ext : ∀ {a b : Fields}, Sorted a → Sorted b → (∀ k, get? a k = get? b k) → a = b
  | [], [], _, _, _ => rfl
  | [], (k, v) :: _, _, _, h => by simpa [get?_cons] using h k
  | (k, v) :: _, [], _, _, h => by simpa [get?_cons] using (h k).symm
  | (k, v) :: a, (k', v') :: b, ha, hb, h => by
    obtain ⟨ha₁, ha₂⟩ := sorted_cons.mp ha
    obtain ⟨hb₁, hb₂⟩ := sorted_cons.mp hb
    -- the least keys agree: a key below the other side's least key is missing there
    have hlt : ¬ k < k' := fun hlt => by
      simpa [← h k, get?_cons] using get?_eq_none_of_lt_head hb hlt
    have hgt : ¬ k' < k := fun hgt => by
      simpa [h k', get?_cons] using get?_eq_none_of_lt_head ha hgt
    have hk : k = k' := String.le_antisymm (String.not_lt.mp hgt) (String.not_lt.mp hlt)
    subst hk
    have hv : v = v' := by simpa [get?_cons] using h k
    subst hv
    refine congrArg _ (Sorted.ext ha₂ hb₂ fun k'' => ?_)
    by_cases hk'' : k = k''
    · subst hk''
      rw [get?_eq_none_of_lt ha₁, get?_eq_none_of_lt hb₁]
    · simpa [get?_cons, hk''] using h k''

theorem mem_insert {fs : Fields} {k : String} {v : Json} {p : String × Json}
    (h : p ∈ insert fs k v) : p = (k, v) ∨ p ∈ fs := by
  induction fs with
  | nil => simpa [insert] using h
  | cons q rest ih =>
    obtain ⟨k₀, v₀⟩ := q
    unfold insert at h
    split at h
    · simpa using h
    · split at h
      · rcases List.mem_cons.mp h with h | h
        · exact .inl h
        · exact .inr (List.mem_cons_of_mem _ h)
      · rcases List.mem_cons.mp h with h | h
        · exact .inr (h ▸ List.mem_cons_self ..)
        · rcases ih h with h | h
          · exact .inl h
          · exact .inr (List.mem_cons_of_mem _ h)

end Fields

namespace TypedObject

theorem get?_filterMap_set {l : List (String × Option Json)} (h : (l.map Prod.fst).Nodup)
    (k : String) :
    Fields.get? (l.filterMap fun (k, v) => v.map fun j => (k, j)) k =
      (l.find? (·.1 == k)).bind Prod.snd := by
  induction l with
  | nil => rfl
  | cons p rest ih =>
    obtain ⟨k₀, v₀⟩ := p
    obtain ⟨hfresh, hrest⟩ := List.nodup_cons.mp h
    by_cases hk : k₀ = k
    · subst hk
      have hnone : rest.find? (·.1 == k₀) = none :=
        List.find?_eq_none.mpr fun p hp hbeq => hfresh (by
          rw [← beq_iff_eq.mp hbeq]
          exact List.mem_map.mpr ⟨p, hp, rfl⟩)
      cases v₀ with
      | none => simp [ih hrest, hnone]
      | some j => simp [Fields.get?_cons]
    · have hne : (k₀ == k) = false := beq_eq_false_iff_ne.mpr hk
      cases v₀ with
      | none => simp [ih hrest, hne]
      | some j => simp [Fields.get?_cons, hk, ih hrest, hne]

theorem get?_present {fields : List (String × Option Json)} (h : (fields.map Prod.fst).Nodup)
    (k : String) :
    (present fields).get? k = (fields.find? (·.1 == k)).bind Prod.snd := by
  have hnodup : (Fields.keys (fields.filterMap fun (k, v) => v.map fun j => (k, j))).Nodup := by
    refine List.Sublist.nodup ?_ h
    induction fields with
    | nil => exact List.Sublist.slnil
    | cons p rest ih =>
      obtain ⟨k₀, v₀⟩ := p
      cases v₀ with
      | none => exact (ih (List.nodup_cons.mp h).2).cons _
      | some j => exact (ih (List.nodup_cons.mp h).2).cons_cons _
  rw [present, Json.object, Json.get?, Fields.get?_ofList, Fields.get?_reverse hnodup,
    get?_filterMap_set h]

theorem present_set {fields : List (String × Option Json)} (h : (fields.map Prod.fst).Nodup)
    {k : String} (hk : k ∈ fields.map Prod.fst) (j : Json) :
    (present fields).set k j = present (fields.map fun p => if p.1 = k then (k, some j) else p) := by
  -- the write keeps every field name, so it keeps the names distinct
  have hname : ∀ p : String × Option Json, (if p.1 = k then (k, some j) else p).1 = p.1 := by
    intro p
    split <;> simp_all
  have hnd : ((fields.map fun p => if p.1 = k then (k, some j) else p).map Prod.fst).Nodup := by
    simpa [List.map_map, Function.comp_def, hname] using h
  have h₁ := get?_present h
  have h₂ := get?_present hnd
  simp only [present, Json.object, Json.get?] at h₁ h₂
  simp only [present, Json.object, Json.set]
  refine congrArg Json.obj (Fields.Sorted.ext ((Fields.sorted_ofList _).insert _ _)
    (Fields.sorted_ofList _) fun k' => ?_)
  rw [Fields.get?_insert, h₁, h₂, List.find?_map]
  have hpred : ((fun p : String × Option Json => p.1 == k') ∘
      fun p => if p.1 = k then (k, some j) else p) = fun p => p.1 == k' := by
    funext p
    simp [hname]
  rw [hpred]
  by_cases hkk : k = k'
  · subst hkk
    obtain ⟨q, hq⟩ : ∃ q, fields.find? (·.1 == k) = some q := by
      obtain ⟨p, hp, rfl⟩ := List.mem_map.mp hk
      exact Option.isSome_iff_exists.mp (List.find?_isSome.mpr ⟨p, hp, by simp⟩)
    have hqk : q.1 = k := by simpa using List.find?_some hq
    simp [hq, hqk]
  · cases hfind : fields.find? (·.1 == k') with
    | none => simp [hkk]
    | some q =>
      have hqk : q.1 = k' := by simpa using List.find?_some hfind
      simp [hkk, hqk, Ne.symm hkk]

end TypedObject

/-! ## Canonical documents -/

namespace Json

mutual
/-- Members sorted at every level, and every number finite: a document as the document model
writes it. -/
def Canonical : Json → Prop
  | .num (.float x) => x.isFinite = true
  | .arr items => CanonicalItems items
  | .obj fs => Fields.Sorted fs ∧ CanonicalFields fs
  | _ => True

/-- Canonical items. -/
def CanonicalItems : List Json → Prop
  | [] => True
  | j :: rest => Canonical j ∧ CanonicalItems rest

/-- Canonical member values. -/
def CanonicalFields : List (String × Json) → Prop
  | [] => True
  | (_, j) :: rest => Canonical j ∧ CanonicalFields rest
end

mutual
theorem toJson_toContent : ∀ j : Json, j.Canonical → j.toContent.toJson = .ok j
  | .null, _ => rfl
  | .bool _, _ => rfl
  | .num (.nat _), _ => rfl
  | .num (.neg _), _ => rfl
  | .num (.float x), h => by
    simp only [toContent, Content.toJson]
    rw [if_pos (show x.isFinite = true from h)]
  | .str _, _ => rfl
  | .arr items, h => by
    simp only [toContent, Content.toJson, itemsToJson_itemsToContent items h]
    rfl
  | .obj fs, h => by
    simp only [toContent, Content.toJson, entriesToJson_fieldsToContent fs h.1 h.2]
    rfl

theorem itemsToJson_itemsToContent :
    ∀ items : List Json, CanonicalItems items → Content.itemsToJson (itemsToContent items) = .ok items
  | [], _ => rfl
  | j :: rest, h => by
    simp only [itemsToContent, Content.itemsToJson, toJson_toContent j h.1,
      itemsToJson_itemsToContent rest h.2, Except.ok_bind, Except.pure_eq_ok]

theorem entriesToJson_fieldsToContent : ∀ fs : Fields, Fields.Sorted fs → CanonicalFields fs →
    Content.entriesToJson (fieldsToContent fs) = .ok fs
  | [], _, _ => rfl
  | (k, j) :: rest, hs, h => by
    -- the first key is below the rest, so it is new to them and goes in front
    obtain ⟨hlt, hrest⟩ := Fields.sorted_cons.mp hs
    simp only [fieldsToContent, Content.entriesToJson, toJson_toContent j h.1,
      entriesToJson_fieldsToContent rest hrest h.2, Except.ok_bind, Except.pure_eq_ok,
      Fields.get?_eq_none_of_lt hlt, Fields.insert_of_lt _ hlt]
end

theorem canonicalFields_iff {fs : Fields} : CanonicalFields fs ↔ ∀ p ∈ fs, p.2.Canonical := by
  induction fs with
  | nil => simp [CanonicalFields]
  | cons p rest ih =>
    obtain ⟨k, v⟩ := p
    simp [CanonicalFields, ih]

theorem canonicalItems_iff {items : List Json} : CanonicalItems items ↔ ∀ j ∈ items, j.Canonical := by
  induction items with
  | nil => simp [CanonicalItems]
  | cons j rest ih => simp [CanonicalItems, ih]

@[simp] theorem canonical_str (s : String) : (Json.str s).Canonical := trivial

@[simp] theorem canonical_bool (b : Bool) : (Json.bool b).Canonical := trivial

@[simp] theorem canonical_null : Json.null.Canonical := trivial

theorem canonical_arr {items : List Json} (h : ∀ j ∈ items, j.Canonical) : (Json.arr items).Canonical :=
  canonicalItems_iff.mpr h

theorem canonical_object {pairs : Fields} (h : ∀ p ∈ pairs, p.2.Canonical) :
    (Json.object pairs).Canonical := by
  refine ⟨Fields.sorted_ofList pairs, canonicalFields_iff.mpr ?_⟩
  -- every member of the object is one of the pairs
  suffices ∀ acc : Fields, (∀ p ∈ acc, p.2.Canonical) →
      ∀ p ∈ pairs.foldl (fun acc p => Fields.insert acc p.1 p.2) acc, p.2.Canonical from
    this [] nofun
  induction pairs with
  | nil => exact fun _ hacc => hacc
  | cons q rest ih =>
    refine fun acc hacc => ih (fun p hp => h p (List.mem_cons_of_mem _ hp)) _ fun p hp => ?_
    rcases Fields.mem_insert hp with rfl | hp
    · exact h q (List.mem_cons_self ..)
    · exact hacc p hp

end Json

/-! ## Records read from sorted objects -/

namespace Input

/-- The fields of a record read from an object with no repeated key: its members with known
names, in order. -/
theorem fieldList_go (known : List String) :
    ∀ (fs : Fields) (acc : List (String × Input)), fs.keys.Nodup → (∀ p ∈ acc, p.1 ∉ fs.keys) →
      fieldList.go known (fs.map fun p => (Input.json (.str p.1), Input.json p.2)) acc =
        .ok (acc.reverse ++ (fs.filter fun p => known.contains p.1).map fun p => (p.1, .json p.2))
  | [], acc, _, _ => by simp [fieldList.go]
  | (k, v) :: rest, acc, hfs, hacc => by
    obtain ⟨hfresh, hrest⟩ := List.nodup_cons.mp hfs
    -- no field read so far has the name of this member
    have hnew : (acc.any fun p => p.1 == k) = false := by
      simp only [List.any_eq_false, beq_iff_eq]
      intro p hp hpk
      exact hacc p hp (hpk ▸ List.mem_cons_self ..)
    have hacc' : ∀ p ∈ acc, p.1 ∉ Fields.keys rest := fun p hp hmem =>
      hacc p hp (List.mem_cons_of_mem _ hmem)
    simp only [List.map_cons, fieldList.go, string, Except.ok_bind]
    by_cases hk : known.contains k = true
    · rw [if_pos hk, hnew, if_neg Bool.false_ne_true, fieldList_go known rest ((k, .json v) :: acc)
        hrest (by
          intro p hp
          rcases List.mem_cons.mp hp with rfl | hp
          · exact hfresh
          · exact hacc' p hp),
        List.filter_cons_of_pos (by exact hk)]
      simp
    · rw [if_neg hk, fieldList_go known rest acc hrest hacc',
        List.filter_cons_of_neg (by exact hk)]

theorem members_obj (known : List String) {fs : Fields} (h : fs.keys.Nodup) :
    (Input.json (.obj fs)).members known =
      .ok ⟨(fs.filter fun p => known.contains p.1).map fun p => (p.1, .json p.2)⟩ := by
  simp only [members, fieldList, entries, Except.ok_bind]
  -- the entries of the object are its members as pairs of inputs, which `fieldList_go` reads
  erw [fieldList_go known fs [] h (by rintro _ ⟨⟩)]
  rfl

@[simp] theorem find?_nil (name : String) : Members.find? ⟨[]⟩ name = none := rfl

@[simp] theorem find?_cons (k : String) (i : Input) (fields : List (String × Input)) (name : String) :
    Members.find? ⟨(k, i) :: fields⟩ name = if k = name then some i else Members.find? ⟨fields⟩ name := by
  by_cases h : k = name
  · simp [Members.find?, h]
  · simp [Members.find?, h]

theorem find?_members (known : List String) (fs : Fields) (name : String) :
    Members.find? ⟨(fs.filter fun p => known.contains p.1).map fun p => (p.1, .json p.2)⟩ name =
      if known.contains name then (Fields.get? fs name).map .json else none := by
  induction fs with
  | nil => split <;> rfl
  | cons p rest ih =>
    obtain ⟨k, v⟩ := p
    rw [Fields.get?_cons]
    by_cases hk : known.contains k = true
    · rw [List.filter_cons_of_pos (by exact hk), List.map_cons, find?_cons, ih]
      by_cases h : k = name
      · subst h
        simp [List.contains_iff_mem.mp hk]
      · simp [h]
    · rw [List.filter_cons_of_neg (by exact hk), ih]
      by_cases h : k = name
      · subst h
        have hk' : k ∉ known := fun hmem => hk (List.contains_iff_mem.mpr hmem)
        simp [hk']
      · simp [h]

/-- The fields a record reads from an object written by `present`. -/
def presentMembers (known : List String) (fields : List (String × Option Json)) : Members :=
  ⟨((Fields.ofList (fields.filterMap fun (k, v) => v.map fun j => (k, j))).filter
    fun p => known.contains p.1).map fun p => (p.1, .json p.2)⟩

theorem members_present (known : List String) (fields : List (String × Option Json)) :
    (Input.json (TypedObject.present fields)).members known = .ok (presentMembers known fields) :=
  members_obj known (Fields.sorted_ofList _).nodup

/-- A record encoded by `present` and read with the same field names: each field is the value
set under its name. -/
theorem find?_presentMembers (known : List String) (fields : List (String × Option Json))
    (h : (fields.map Prod.fst).Nodup) (name : String) :
    (presentMembers known fields).find? name =
      if known.contains name then ((fields.find? (·.1 == name)).bind Prod.snd).map .json
      else none := by
  rw [presentMembers, find?_members]
  have := TypedObject.get?_present h name
  simp only [TypedObject.present, Json.object, Json.get?] at this
  rw [this]

end Input

namespace Members

variable {α : Type} (ms : Members) (name : String)

theorem required_of_find? {dec : Input → Decoded α} {i : Input} (h : ms.find? name = some i) :
    ms.required name dec = dec i := by
  simp [required, h]

/-- An optional field written as `o.map enc` reads back as `o` when `dec` inverts `enc`. -/
theorem optional_of_find? {dec : Input → Decoded α} (o : Option α) (enc : α → Json)
    (h : ms.find? name = o.map fun a => .json (enc a)) (hnull : ∀ a, (enc a).isNull = false)
    (hdec : ∀ a, dec (.json (enc a)) = .ok a) : ms.optional name dec = .ok o := by
  cases o with
  | none => simp [optional, h]
  | some a => simp [optional, h, Input.option, Input.isNone, hnull, hdec]

theorem withDefault_of_find? {dec : Input → Decoded α} {default : α} {i : Input}
    (h : ms.find? name = some i) : ms.withDefault name default dec = dec i := by
  simp [withDefault, h]

theorem withDefault_of_find?_none {dec : Input → Decoded α} (default : α)
    (h : ms.find? name = none) : ms.withDefault name default dec = .ok default := by
  simp [withDefault, h]

end Members

end OlmProvision
