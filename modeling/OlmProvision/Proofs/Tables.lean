import OlmProvision.Cluster.Table

/-
Keyed tables as finite maps.

A lookup answers the first entry whose key compares equal to the one asked for. With a lawful
comparison (`compare a b = .eq` exactly when `a = b`) a write at `k` is then seen at `k` and
nowhere else, a removal hides `k` and nothing else, and an in-place change at `k` changes what
`k` answers. Filtering needs more: with a key written twice it could uncover an entry no
lookup saw. A sorted table (keys strictly ascending under a transitive comparison) has no key
twice; `put`, `erase`, `modify` and `filter` keep it sorted, and on it a filter answers what
the lookup answered when that entry is kept.

What is proved:
  1. Lookups after `put`, `erase` and `modify`, at the key written and elsewhere, and the
     entries each of them can leave.
  2. `Table.Sorted` is kept by the four writes, and on a sorted table `get?_filter` reads a
     filter through the lookup.
  3. The comparisons of object keys and of places are lawful and transitive.
-/
namespace OlmProvision

namespace Table

variable {κ α : Type} [Ord κ]

theorem mem_of_getList {k : κ} {v : α} {l : List (κ × α)} (h : getList k l = some v) :
    ∃ k', compare k k' = .eq ∧ (k', v) ∈ l := by
  induction l with
  | nil => simp [getList] at h
  | cons e rest ih =>
    simp only [getList] at h
    split at h
    · rename_i heq
      exact ⟨e.1, by simpa using heq, by simp [← Option.some.inj h]⟩
    · obtain ⟨k', hk, hm⟩ := ih h
      exact ⟨k', hk, List.mem_cons_of_mem _ hm⟩

theorem mem_putList {k : κ} {v : α} {l : List (κ × α)} {e : κ × α} (h : e ∈ putList k v l) :
    e = (k, v) ∨ e ∈ l := by
  induction l with
  | nil => simpa [putList] using h
  | cons e' rest ih =>
    unfold putList at h
    split at h
    · rcases List.mem_cons.mp h with h | h
      · exact .inl h
      · exact .inr h
    · rcases List.mem_cons.mp h with h | h
      · exact .inl h
      · exact .inr (List.mem_cons_of_mem _ h)
    · rcases List.mem_cons.mp h with h | h
      · exact .inr (h ▸ List.mem_cons_self)
      · rcases ih h with h | h
        · exact .inl h
        · exact .inr (List.mem_cons_of_mem _ h)

theorem mem_entries_put {t : Table κ α} {k : κ} {v : α} {e : κ × α} (h : e ∈ (t.put k v).entries) :
    e = (k, v) ∨ e ∈ t.entries :=
  mem_putList h

theorem mem_entries_erase {t : Table κ α} {k : κ} {e : κ × α} (h : e ∈ (t.erase k).entries) :
    e ∈ t.entries :=
  (List.mem_filter.mp h).1

omit [Ord κ] in
theorem mem_entries_filter {t : Table κ α} {p : κ → α → Bool} {e : κ × α}
    (h : e ∈ (t.filter p).entries) : e ∈ t.entries :=
  (List.mem_filter.mp h).1

section Lawful

variable [Std.LawfulEqOrd κ]

theorem mem_entries_of_get? {t : Table κ α} {k : κ} {v : α} (h : t.get? k = some v) :
    (k, v) ∈ t.entries := by
  obtain ⟨k', hk, hm⟩ := mem_of_getList h
  rwa [Std.LawfulEqOrd.compare_eq_iff_eq.mp hk]

theorem getList_putList_self (k : κ) (v : α) (l : List (κ × α)) :
    getList k (putList k v l) = some v := by
  induction l with
  | nil => simp [putList, getList]
  | cons e rest ih =>
    unfold putList
    split
    · simp [getList]
    · simp [getList]
    · rename_i hgt
      simp [getList, hgt, ih]

theorem getList_putList_of_ne {k k' : κ} (v : α) (l : List (κ × α)) (hne : k' ≠ k) :
    getList k' (putList k v l) = getList k' l := by
  induction l with
  | nil => simp [putList, getList, hne]
  | cons e rest ih =>
    unfold putList
    split
    · simp [getList, hne]
    · -- the entry of `k` is replaced in place: neither answers `k'`
      rename_i heq
      have hk : k = e.1 := Std.LawfulEqOrd.compare_eq_iff_eq.mp heq
      subst hk
      simp [getList, hne]
    · simp only [getList]
      split <;> simp [ih]

@[simp] theorem get?_put_self (t : Table κ α) (k : κ) (v : α) : (t.put k v).get? k = some v :=
  getList_putList_self k v t.entries

theorem get?_put_of_ne (t : Table κ α) {k k' : κ} (v : α) (hne : k' ≠ k) :
    (t.put k v).get? k' = t.get? k' :=
  getList_putList_of_ne v t.entries hne

theorem get?_put [DecidableEq κ] (t : Table κ α) (k k' : κ) (v : α) :
    (t.put k v).get? k' = if k' = k then some v else t.get? k' := by
  split
  · rename_i h
    subst h
    exact get?_put_self t k' v
  · exact get?_put_of_ne t v ‹_›

@[simp] theorem get?_erase_self (t : Table κ α) (k : κ) : (t.erase k).get? k = none := by
  unfold get? erase
  induction t.entries with
  | nil => rfl
  | cons e rest ih =>
    simp only [List.filter_cons]
    split
    · rename_i hkeep
      have hne : e.1 ≠ k := by simpa using hkeep
      simp [getList, Ne.symm hne, ih]
    · exact ih

theorem get?_erase_of_ne (t : Table κ α) {k k' : κ} (hne : k' ≠ k) :
    (t.erase k).get? k' = t.get? k' := by
  unfold get? erase
  induction t.entries with
  | nil => rfl
  | cons e rest ih =>
    simp only [List.filter_cons]
    split
    · simp only [getList]
      split <;> simp [ih]
    · -- the dropped entry has key `k`, which a lookup of `k'` passes over
      rename_i hdrop
      have he : e.1 = k := by simpa using hdrop
      simp [getList, he, hne, ih]

theorem get?_erase [DecidableEq κ] (t : Table κ α) (k k' : κ) :
    (t.erase k).get? k' = if k' = k then none else t.get? k' := by
  split
  · rename_i h
    subst h
    exact get?_erase_self t k'
  · exact get?_erase_of_ne t ‹_›

theorem erase_of_get?_eq_none {t : Table κ α} {k : κ} (h : t.get? k = none) : t.erase k = t := by
  obtain ⟨l⟩ := t
  simp only [get?] at h
  simp only [erase, Table.mk.injEq]
  induction l with
  | nil => rfl
  | cons e rest ih =>
    have hne : e.1 ≠ k := by
      rintro rfl
      simp [getList] at h
    have hrest : getList k rest = none := by
      simpa [getList, Ne.symm hne] using h
    simp [hne, ih hrest]

theorem get?_modify [DecidableEq κ] (t : Table κ α) (k k' : κ) (f : α → α) :
    (t.modify k f).get? k' = if k' = k then (t.get? k').map f else t.get? k' := by
  obtain ⟨l⟩ := t
  have hcond : ∀ e : κ × α, ((compare e.1 k == .eq) = true) = (e.1 = k) := by simp
  simp only [get?, modify, hcond]
  induction l with
  | nil => simp [getList]
  | cons e rest ih =>
    by_cases he : e.1 = k <;> by_cases hk : k' = k
    · simp [getList, he, hk]
    · simp [getList, he, hk, ih]
    · subst hk
      simp [getList, he, Ne.symm he, ih]
    · simp [getList, he, hk, ih]

end Lawful

/-! ## Sorted tables -/

/-- The entries are in strictly ascending key order, so no key occurs twice. -/
def Sorted (t : Table κ α) : Prop := t.entries.Pairwise (fun a b => compare a.1 b.1 = .lt)

theorem sorted_empty : (empty : Table κ α).Sorted := List.Pairwise.nil

section Sorted

variable [Std.TransOrd κ] [Std.LawfulEqOrd κ]

theorem pairwise_putList (k : κ) (v : α) {l : List (κ × α)}
    (h : l.Pairwise (fun a b => compare a.1 b.1 = .lt)) :
    (putList k v l).Pairwise (fun a b => compare a.1 b.1 = .lt) := by
  induction l with
  | nil => simp [putList]
  | cons e rest ih =>
    obtain ⟨hhead, hrest⟩ := List.pairwise_cons.mp h
    unfold putList
    split
    · -- `k` goes first: it is below `e`, hence below everything after `e`
      rename_i hlt
      refine List.Pairwise.cons ?_ h
      intro b hb
      rcases List.mem_cons.mp hb with rfl | hb
      · exact hlt
      · exact Std.TransCmp.lt_trans hlt (hhead b hb)
    · rename_i heq
      have hk : k = e.1 := Std.LawfulEqOrd.compare_eq_iff_eq.mp heq
      refine List.Pairwise.cons ?_ hrest
      intro b hb
      rw [hk]
      exact hhead b hb
    · rename_i hgt
      refine List.Pairwise.cons ?_ (ih hrest)
      intro b hb
      rcases mem_putList hb with rfl | hb
      · exact Std.OrientedCmp.lt_of_gt hgt
      · exact hhead b hb

theorem Sorted.put {t : Table κ α} (h : t.Sorted) (k : κ) (v : α) : (t.put k v).Sorted :=
  pairwise_putList k v h

omit [Std.TransOrd κ] [Std.LawfulEqOrd κ] in
theorem Sorted.erase {t : Table κ α} (h : t.Sorted) (k : κ) : (t.erase k).Sorted :=
  List.Pairwise.filter _ h

omit [Std.TransOrd κ] [Std.LawfulEqOrd κ] in
theorem Sorted.filter {t : Table κ α} (h : t.Sorted) (p : κ → α → Bool) : (t.filter p).Sorted :=
  List.Pairwise.filter _ h

omit [Std.TransOrd κ] [Std.LawfulEqOrd κ] in
theorem Sorted.modify {t : Table κ α} (h : t.Sorted) (k : κ) (f : α → α) : (t.modify k f).Sorted := by
  unfold Sorted Table.modify
  rw [List.pairwise_map]
  refine h.imp ?_
  intro a b hab
  split <;> split <;> exact hab

theorem Sorted.get?_of_mem {t : Table κ α} (hs : t.Sorted) {e : κ × α} (h : e ∈ t.entries) :
    t.get? e.1 = some e.2 := by
  obtain ⟨l⟩ := t
  unfold Sorted at hs
  unfold get?
  dsimp only at hs h ⊢
  induction l with
  | nil => cases h
  | cons e' rest ih =>
    obtain ⟨hhead, hrest⟩ := List.pairwise_cons.mp hs
    rcases List.mem_cons.mp h with rfl | hmem
    · simp [getList]
    · -- every later key is above the head, so the lookup passes it
      have hgt : compare e.1 e'.1 = .gt := Std.OrientedCmp.gt_of_lt (hhead e hmem)
      simp only [getList, hgt]
      exact ih hrest hmem

omit [Std.TransOrd κ] [Std.LawfulEqOrd κ] in
theorem Sorted.filterMap {t : Table κ α} (hs : t.Sorted) (f : α → Option α) :
    (⟨t.entries.filterMap fun e => (f e.2).map (e.1, ·)⟩ : Table κ α).Sorted := by
  unfold Sorted at hs ⊢
  refine List.Pairwise.filterMap _ (fun a b hab a' ha' b' hb' => ?_) hs
  obtain ⟨_, -, rfl⟩ := Option.map_eq_some_iff.mp ha'
  obtain ⟨_, -, rfl⟩ := Option.map_eq_some_iff.mp hb'
  exact hab

omit [Std.TransOrd κ] [Std.LawfulEqOrd κ] in
/-- Every key after one entry is above it, so a lookup of that key finds nothing there. -/
theorem getList_eq_none_of_below {k : κ} {l : List (κ × α)}
    (h : ∀ b ∈ l, compare k b.1 = .lt) : getList k l = none := by
  induction l with
  | nil => rfl
  | cons e rest ih =>
    have he := h e List.mem_cons_self
    simp only [getList, he]
    exact ih fun b hb => h b (List.mem_cons_of_mem _ hb)

omit [Std.TransOrd κ] in
theorem getList_filter {l : List (κ × α)} (hs : l.Pairwise (fun a b => compare a.1 b.1 = .lt))
    (q : κ × α → Bool) (k : κ) :
    getList k (l.filter q) = (getList k l).filter (fun v => q (k, v)) := by
  induction l with
  | nil => rfl
  | cons e rest ih =>
    obtain ⟨hhead, hrest⟩ := List.pairwise_cons.mp hs
    obtain ⟨k₀, v₀⟩ := e
    by_cases hk : k = k₀
    · -- the entry of `k` is the only one: every later key is above it
      subst hk
      have hnone : getList k (rest.filter q) = none :=
        getList_eq_none_of_below fun b hb => hhead b (List.mem_filter.mp hb).1
      by_cases hq : q (k, v₀) = true
      · simp [getList, hq, Option.filter_some]
      · simp [getList, hq, hnone, Option.filter_some]
    · have hne : (compare k k₀ == .eq) = false := by simpa using hk
      simp only [List.filter_cons]
      split <;> simp [getList, hne, ih hrest]

omit [Std.TransOrd κ] in
/-- On a sorted table, a filter keeps or drops what the lookup found: there is no second entry
of the key behind it. -/
theorem get?_filter {t : Table κ α} (hs : t.Sorted) (p : κ → α → Bool) (k : κ) :
    (t.filter p).get? k = (t.get? k).filter (p k) :=
  getList_filter hs (fun e => p e.1 e.2) k

omit [Std.TransOrd κ] in
theorem get?_filterMap {t : Table κ α} (hs : t.Sorted) (f : α → Option α) (k : κ) :
    (⟨t.entries.filterMap fun e => (f e.2).map (e.1, ·)⟩ : Table κ α).get? k =
      (t.get? k).bind f := by
  obtain ⟨l⟩ := t
  unfold Sorted at hs
  unfold get?
  dsimp only at hs ⊢
  induction l with
  | nil => rfl
  | cons e rest ih =>
    obtain ⟨hhead, hrest⟩ := List.pairwise_cons.mp hs
    obtain ⟨k₀, v₀⟩ := e
    by_cases hk : k = k₀
    · -- the entry of `k` is the only one: every later key is above it
      subst hk
      have hnone : getList k (rest.filterMap fun e => (f e.2).map (e.1, ·)) = none :=
        getList_eq_none_of_below fun b hb => by
          obtain ⟨a, ha, hab⟩ := List.mem_filterMap.mp hb
          obtain ⟨_, -, rfl⟩ := Option.map_eq_some_iff.mp hab
          exact hhead a ha
      cases hf : f v₀ <;> simp [getList, hf, hnone]
    · have hne : (compare k k₀ == .eq) = false := by simpa using hk
      cases hf : f v₀ <;> simp [getList, hf, hne, ih hrest]

end Sorted

end Table

/-! ## Object keys -/

instance : Std.LawfulEqOrd ObjectKey where
  compare_self := by
    intro a
    show (compare a.kind a.kind).then ((compare a.namespaceName a.namespaceName).then
      (compare a.name a.name)) = .eq
    simp
  eq_of_compare := by
    intro a b h
    change (compare a.kind b.kind).then ((compare a.namespaceName b.namespaceName).then
      (compare a.name b.name)) = .eq at h
    simp only [Ordering.then_eq_eq, Std.LawfulEqOrd.compare_eq_iff_eq] at h
    obtain ⟨h₁, h₂, h₃⟩ := h
    cases a
    cases b
    simp_all

instance : Std.TransOrd ObjectKey :=
  inferInstanceAs (Std.TransCmp (compareLex (compareOn ObjectKey.kind)
    (compareLex (compareOn ObjectKey.namespaceName) (compareOn ObjectKey.name))))

/-! ## Places -/

instance : Std.LawfulEqOrd Place where
  compare_self := by
    intro a
    show (compare a.namespaceName a.namespaceName).then (compare a.name a.name) = .eq
    simp
  eq_of_compare := by
    intro a b h
    change (compare a.namespaceName b.namespaceName).then (compare a.name b.name) = .eq at h
    simp only [Ordering.then_eq_eq, Std.LawfulEqOrd.compare_eq_iff_eq] at h
    cases a
    cases b
    simp_all

instance : Std.TransOrd Place :=
  inferInstanceAs (Std.TransCmp (compareLex (compareOn Place.namespaceName)
    (compareOn Place.name)))

end OlmProvision
