import OlmProvision.Config.Source

/-
Dotted keys of a flattened document.

Flattening walks a document's mappings depth first, in the order their entries are written,
and writes every string, number or boolean it meets under the key texts on its way down joined
with dots; a later write of a dotted key replaces an earlier one. So the table holds, for each
dotted key, the leaf of the last path that spells it. What is proved:

1. `ConfigFlatten.leaves` lists the paths to leaves in depth-first order, and a path is listed
   exactly when it leads to a leaf (`LeafPath`, said rule by rule): `mem_leaves_iff`.
2. `flatten_eq_foldl`: flattening under a dotted key `pre` writes the leaves one after another,
   each under `pre` extended by its path (`under`).
3. `valueOf_foldl_place`: in the table a sequence of writes leaves, a key holds the value of the
   last write to it; `under_none` turns the writes' keys into the paths joined with dots, and
   `lookup_ofValue` puts the two together.
-/
namespace OlmProvision

namespace ConfigFlatten

mutual
/-- The leaves of a value in depth-first order of its mappings: the key texts on the way down
from the root, and the text of the leaf. A string, number or boolean root is the leaf of the
empty path. -/
def leaves : Content → List (List String × String)
  | .map entries => entryLeaves entries
  | c =>
    match leafText c with
    | some text => [([], text)]
    | none => []

/-- The leaves under the entries of a mapping, entry by entry; an entry whose key has no text
has none. -/
def entryLeaves : List (Content × Content) → List (List String × String)
  | [] => []
  | (k, v) :: rest =>
    (match keyText k with
      | some key => (leaves v).map (fun l => (key :: l.1, l.2))
      | none => []) ++ entryLeaves rest
end

/-- `LeafPath v p s`: going down the mapping entries of `v` whose keys have the texts `p` leads
to a string, number or boolean whose text is `s`. -/
inductive LeafPath : Content → List String → String → Prop
  | leaf {c : Content} {s : String} : leafText c = some s → LeafPath c [] s
  | entry {entries : List (Content × Content)} {k v : Content} {key : String} {p : List String}
      {s : String} :
      (k, v) ∈ entries → keyText k = some key → LeafPath v p s → LeafPath (.map entries) (key :: p) s

@[simp] theorem leafText_map (entries : List (Content × Content)) :
    leafText (.map entries) = none := rfl

theorem LeafPath.cons_entry {entries : List (Content × Content)} {p : List String} {s : String}
    (e : Content × Content) (h : LeafPath (.map entries) p s) : LeafPath (.map (e :: entries)) p s := by
  cases h with
  | leaf hs => simp at hs
  | entry hmem hk hv => exact .entry (List.mem_cons_of_mem e hmem) hk hv

theorem leaves_of_leafText {c : Content} {s : String} (h : leafText c = some s) :
    leaves c = [([], s)] := by
  cases c with
  | map entries => simp at h
  | _ => simp_all [leaves]

theorem leafPath_of_leafText {c : Content} {t : String} (ht : leafText c = some t)
    {p : List String} {s : String} (h : (p, s) ∈ leaves c) : LeafPath c p s := by
  rw [leaves_of_leafText ht, List.mem_singleton, Prod.mk.injEq] at h
  obtain ⟨rfl, rfl⟩ := h
  exact .leaf ht

mutual
theorem leafPath_of_mem_leaves :
    ∀ (v : Content) {p : List String} {s : String}, (p, s) ∈ leaves v → LeafPath v p s
  | .map entries, _, _, h => leafPath_of_mem_entryLeaves entries h
  | .unit, _, _, h => by simp [leaves, leafText, keyText] at h
  | .seq _, _, _, h => by simp [leaves, leafText, keyText] at h
  | .str _, _, _, h => leafPath_of_leafText rfl h
  | .num _, _, _, h => leafPath_of_leafText rfl h
  | .bool _, _, _, h => leafPath_of_leafText rfl h

theorem leafPath_of_mem_entryLeaves :
    ∀ (entries : List (Content × Content)) {p : List String} {s : String},
      (p, s) ∈ entryLeaves entries → LeafPath (.map entries) p s
  | [], _, _, h => by simp [entryLeaves] at h
  | (k, v) :: rest, p, s, h => by
    simp only [entryLeaves, List.mem_append] at h
    rcases h with hhere | hrest
    · -- the leaf lies below this entry, whose key has a text
      cases hk : keyText k with
      | none => simp [hk] at hhere
      | some key =>
        simp only [hk, List.mem_map, Prod.exists, Prod.mk.injEq] at hhere
        obtain ⟨p', s', hmem, rfl, rfl⟩ := hhere
        exact .entry List.mem_cons_self hk (leafPath_of_mem_leaves v hmem)
    · exact (leafPath_of_mem_entryLeaves rest hrest).cons_entry (k, v)
end

theorem mem_entryLeaves {entries : List (Content × Content)} {k v : Content} {key : String}
    {p : List String} {s : String} (hmem : (k, v) ∈ entries) (hk : keyText k = some key)
    (hv : (p, s) ∈ leaves v) : (key :: p, s) ∈ entryLeaves entries := by
  induction entries with
  | nil => simp at hmem
  | cons e rest ih =>
    simp only [entryLeaves, List.mem_append]
    rcases List.mem_cons.mp hmem with rfl | hrest
    · left
      simp only [hk, List.mem_map, Prod.exists, Prod.mk.injEq]
      exact ⟨p, s, hv, rfl, rfl⟩
    · exact .inr (ih hrest)

theorem mem_leaves_of_leafPath {v : Content} {p : List String} {s : String} (h : LeafPath v p s) :
    (p, s) ∈ leaves v := by
  induction h with
  | leaf hs => simp [leaves_of_leafText hs]
  | entry hmem hk _ ih => exact mem_entryLeaves hmem hk ih

theorem mem_leaves_iff {v : Content} {p : List String} {s : String} :
    (p, s) ∈ leaves v ↔ LeafPath v p s :=
  ⟨leafPath_of_mem_leaves v, mem_leaves_of_leafPath⟩

/-- The dotted key of a path under the dotted key `pre`; the empty path under no key has
none. -/
def under : Option String → List String → Option String
  | pre, [] => pre
  | pre, key :: rest => under (some (join pre key)) rest

/-- Write a leaf into a table under its dotted key below `pre`. -/
def place (pre : Option String) (out : List (String × String)) (l : List String × String) :
    List (String × String) :=
  match under pre l.1 with
  | some key => ConfigTable.set out key l.2
  | none => out

theorem under_cons (pre : Option String) (key : String) (rest : List String) :
    under pre (key :: rest) = some (join pre (".".intercalate (key :: rest))) := by
  induction rest generalizing pre key with
  | nil => simp [under]
  | cons key' rest ih =>
    rw [under, ih, String.intercalate_cons_cons]
    cases pre <;> simp [join, String.append_assoc]

theorem under_none (p : List String) :
    under none p = if p = [] then none else some (".".intercalate p) := by
  cases p with
  | nil => rfl
  | cons key rest => simp [under_cons, join]

mutual
theorem flatten_eq_foldl :
    ∀ (pre : Option String) (v : Content) (out : List (String × String)),
      flatten pre v out = (leaves v).foldl (place pre) out
  | pre, .map entries, out => flattenEntries_eq_foldl pre entries out
  | _, .unit, _ => by simp [flatten, leaves, leafText, keyText]
  | _, .seq _, _ => by simp [flatten, leaves, leafText, keyText]
  | pre, .str _, _ => by cases pre <;> rfl
  | pre, .num _, _ => by cases pre <;> rfl
  | pre, .bool _, _ => by cases pre <;> rfl

theorem flattenEntries_eq_foldl :
    ∀ (pre : Option String) (entries : List (Content × Content)) (out : List (String × String)),
      flattenEntries pre entries out = (entryLeaves entries).foldl (place pre) out
  | _, [], _ => rfl
  | pre, (k, v) :: rest, out => by
    rw [flattenEntries, entryLeaves, List.foldl_append]
    cases hk : keyText k with
    | none => exact flattenEntries_eq_foldl pre rest out
    | some key =>
      -- a leaf below the entry is placed under the entry's dotted key
      have hplace : ∀ acc (l : List String × String),
          place pre acc (key :: l.1, l.2) = place (some (join pre key)) acc l := fun _ _ => rfl
      simp only [List.foldl_map, hplace]
      rw [← flatten_eq_foldl, flattenEntries_eq_foldl]
end

end ConfigFlatten

namespace ConfigTable

/-- The value a table holds for `key`. -/
def valueOf (t : List (String × String)) (key : String) : Option String :=
  (t.find? (fun e => e.1 == key)).map Prod.snd

theorem valueOf_set (t : List (String × String)) (k v key : String) :
    valueOf (set t k v) key = if k = key then some v else valueOf t key := by
  induction t with
  | nil => by_cases h : k = key <;> simp [set, valueOf, h]
  | cons e rest ih =>
    obtain ⟨k', v'⟩ := e
    simp only [valueOf] at ih ⊢
    by_cases hk : k = k'
    · subst hk
      by_cases h : k = key <;> simp [set, h]
    · by_cases hlt : k < k'
      · by_cases h : k = key
        · subst h
          simp [set, hk, hlt]
        · simp [set, hk, hlt, h]
      · by_cases h' : k' = key
        · subst h'
          simp [set, hk, hlt]
        · simp [set, hk, hlt, h', ih]

end ConfigTable

namespace ConfigFlatten

theorem valueOf_foldl_place (pre : Option String) (ls : List (List String × String))
    (out : List (String × String)) (key : String) :
    ConfigTable.valueOf (ls.foldl (place pre) out) key =
      (((ls.filter (fun l => under pre l.1 == some key)).getLast?).map Prod.snd).or
        (ConfigTable.valueOf out key) := by
  induction ls generalizing out with
  | nil => simp
  | cons l rest ih =>
    rw [List.foldl_cons, ih]
    have hfirst : ConfigTable.valueOf (place pre out l) key =
        if under pre l.1 = some key then some l.2 else ConfigTable.valueOf out key := by
      unfold place
      cases hu : under pre l.1 with
      | none => simp
      | some k => simp [ConfigTable.valueOf_set]
    rw [hfirst, List.filter_cons]
    by_cases hl : under pre l.1 = some key
    · cases hlast : (rest.filter (fun l => under pre l.1 == some key)).getLast? <;>
        simp [hl, hlast, List.getLast?_cons]
    · simp [hl]

/-- A dotted key of a flattened value holds the text of the last leaf whose path spells it. -/
theorem lookup_ofValue (v : Content) (k : String) :
    (ConfigSource.ofValue v).lookup k =
      (((leaves v).filter (fun l => under none l.1 == some k)).getLast?).map Prod.snd := by
  have h := valueOf_foldl_place none (leaves v) [] k
  simp only [ConfigTable.valueOf, List.find?_nil, Option.map_none, Option.or_none] at h
  rw [← h, ← flatten_eq_foldl]
  rfl

theorem under_none_beq (q : List String) (k : String) :
    (under none q == some k) = decide (q ≠ [] ∧ ".".intercalate q = k) := by
  rw [under_none]
  by_cases hq : q = [] <;> simp [hq, Bool.beq_eq_decide_eq]

end ConfigFlatten

/-- The last element of a list satisfying `f`, found as the element after which no other
satisfies it. -/
theorem List.getLast?_filter_eq_some_iff {α : Type} {l : List α} {f : α → Bool} {x : α} :
    (l.filter f).getLast? = some x ↔
      ∃ before after, l = before ++ x :: after ∧ f x = true ∧ ∀ y ∈ after, f y = false := by
  rw [← List.head?_reverse, ← List.filter_reverse, List.head?_filter, List.find?_eq_some_iff_append]
  constructor
  · rintro ⟨hx, as, bs, hrev, has⟩
    refine ⟨bs.reverse, as.reverse, ?_, hx, fun y hy => by simpa using has y (by simpa using hy)⟩
    rw [← List.reverse_reverse l, hrev]
    simp
  · rintro ⟨before, after, rfl, hx, hafter⟩
    exact ⟨hx, after.reverse, before.reverse, by simp,
      fun y hy => by simpa using hafter y (by simpa using hy)⟩

open ConfigFlatten in
/-- The listed paths are exactly the paths to string, number or boolean leaves, and a dotted key
holds the text of the last listed path that spells it. -/
theorem flattened_key_holds_last_leaf_spelling_it (v : Content) :
    (∀ p s, (p, s) ∈ leaves v ↔ LeafPath v p s) ∧
    ∀ k s, (ConfigSource.ofValue v).lookup k = some s ↔
      ∃ p before after, leaves v = before ++ (p, s) :: after ∧
        p ≠ [] ∧ ".".intercalate p = k ∧
        ∀ q ∈ after, q.1 = [] ∨ ".".intercalate q.1 ≠ k := by
  refine ⟨fun p s => mem_leaves_iff, fun k s => ?_⟩
  rw [lookup_ofValue, Option.map_eq_some_iff]
  simp only [under_none_beq]
  constructor
  · rintro ⟨⟨p, s'⟩, hlast, rfl⟩
    obtain ⟨before, after, hsplit, hp, hafter⟩ := List.getLast?_filter_eq_some_iff.mp hlast
    obtain ⟨hne, hk⟩ := of_decide_eq_true hp
    refine ⟨p, before, after, hsplit, hne, hk, fun q hq => ?_⟩
    -- a later leaf does not spell `k`: its path is empty or joins to another key
    have hnot := of_decide_eq_false (hafter q hq)
    by_cases hq0 : q.1 = []
    · exact .inl hq0
    · exact .inr fun hk' => hnot ⟨hq0, hk'⟩
  · rintro ⟨p, before, after, hsplit, hne, hk, hafter⟩
    refine ⟨(p, s), List.getLast?_filter_eq_some_iff.mpr ⟨before, after, hsplit,
      decide_eq_true ⟨hne, hk⟩, fun q hq => decide_eq_false ?_⟩, rfl⟩
    rintro ⟨hq0, hk'⟩
    rcases hafter q hq with h | h
    · exact hq0 h
    · exact h hk'

-- a nested mapping written after a literal dotted key replaces it
example : (ConfigSource.ofValue (.map [(.str "a.b", .str "x"),
    (.str "a", .map [(.str "b", .str "y"), (.bool true, .unit)])])).lookup "a.b" = some "y" := by
  decide

end OlmProvision
