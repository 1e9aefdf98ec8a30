import OlmProvision.Config.Source

/-
Stacks of configuration sources.

A stack answers a key with the first layer's trimmed, non-blank value. Since every layer is
asked through `get`, a value a stack passes on is already trimmed and not blank, and asking
the stack itself through `get` trims it again without changing it: trimming is idempotent. What
is proved:

1. `Text.trim_trim`: trimming twice is trimming once.
2. `ConfigSource.get_layered`: a stack's `get` is the first layer's `get` that has a value.
3. `ConfigSource.AnswersAlike`: two sources whose `get` agree on every key agree on every typed
   lookup built on it (`firstOf`, `seconds`, `parse`).
4. `ConfigSource.layered_flatten`: a stack nested inside a stack answers as its layers spliced
   in its place, so layering is associative; the empty stack knows no key and a stack of one
   source answers as the source.
-/
namespace OlmProvision

namespace Text

theorem dropBlanks_of_head {cs : List Char} (h : ∀ c ∈ cs.head?, isBlank c = false) :
    dropBlanks cs = cs := by
  cases cs with
  | nil => rfl
  | cons c rest =>
    have hc : isBlank c = false := h c rfl
    simp [dropBlanks, hc]

theorem dropBlanks_dropBlanks (cs : List Char) : dropBlanks (dropBlanks cs) = dropBlanks cs := by
  apply dropBlanks_of_head
  intro c hc
  obtain ⟨rest, hrest⟩ := List.head?_eq_some_iff.mp hc
  exact dropBlanks_head cs c rest hrest

/-- When the last character of `cs` is not blank, neither is the last character left after
dropping the blanks at its front: that part is a suffix of `cs`. -/
theorem getLast?_dropBlanks {cs : List Char} (h : ∀ c ∈ cs.getLast?, isBlank c = false) :
    ∀ c ∈ (dropBlanks cs).getLast?, isBlank c = false := by
  intro c hc
  obtain ⟨pre, hpre⟩ := List.dropWhile_suffix (l := cs) isBlank
  apply h c
  simp only [dropBlanks, Option.mem_def] at hc
  rw [← hpre, List.getLast?_append, hc]
  rfl

theorem head?_trim (s : String) : ∀ c ∈ (trim s).toList.head?, isBlank c = false := by
  have hlast : ∀ c ∈ (dropBlanks s.toList).reverse.getLast?, isBlank c = false := by
    intro c hc
    rw [List.getLast?_reverse] at hc
    obtain ⟨rest, hrest⟩ := List.head?_eq_some_iff.mp hc
    exact dropBlanks_head _ c rest hrest
  simpa [trim, List.head?_reverse] using getLast?_dropBlanks hlast

theorem trim_trim (s : String) : trim (trim s) = trim s := by
  have hfront : dropBlanks (trim s).toList = (trim s).toList := dropBlanks_of_head (head?_trim s)
  show String.ofList (dropBlanks (dropBlanks (trim s).toList).reverse).reverse = trim s
  rw [hfront]
  simp only [trim, String.toList_ofList, List.reverse_reverse, dropBlanks_dropBlanks]

end Text

namespace ConfigSource

theorem lookupLayers_cons (l : ConfigSource) (rest : List ConfigSource) (k : String) :
    lookupLayers (l :: rest) k = (l.get k).or (lookupLayers rest k) := by
  simp only [lookupLayers, get]
  cases (lookup l k).map Text.trim with
  | none => rfl
  | some v => by_cases hv : v.isEmpty <;> simp [hv]

theorem lookupLayers_eq_findSome? (ls : List ConfigSource) (k : String) :
    lookupLayers ls k = ls.findSome? (fun l => l.get k) := by
  induction ls with
  | nil => simp [lookupLayers]
  | cons l rest ih =>
    rw [lookupLayers_cons, ih, List.findSome?_cons]
    cases l.get k <;> rfl

theorem get_clean {c : ConfigSource} {k v : String} (h : c.get k = some v) :
    Text.trim v = v ∧ v.isEmpty = false := by
  simp only [get] at h
  cases hl : c.lookup k with
  | none => simp [hl] at h
  | some raw =>
    cases he : (Text.trim raw).isEmpty with
    | true => simp [hl, he] at h
    | false =>
      simp only [hl, Option.map_some, he, Bool.false_eq_true, if_false, Option.some.injEq] at h
      subst h
      exact ⟨Text.trim_trim raw, he⟩

theorem get_of_lookup_clean {c : ConfigSource} {k v : String} (h : c.lookup k = some v)
    (ht : Text.trim v = v) (he : v.isEmpty = false) : c.get k = some v := by
  simp [get, h, ht, he]

theorem get_of_lookup_none {c : ConfigSource} {k : String} (h : c.lookup k = none) :
    c.get k = none := by
  simp [get, h]

theorem get_layered (ls : List ConfigSource) (k : String) :
    (layered ls).get k = ls.findSome? (fun l => l.get k) := by
  have hlookup : (layered ls).lookup k = ls.findSome? (fun l => l.get k) := by
    rw [lookup, lookupLayers_eq_findSome?]
  cases hfirst : ls.findSome? (fun l => l.get k) with
  | none => exact get_of_lookup_none (hlookup.trans hfirst)
  | some v =>
    -- the value came out of some layer's `get`, so it is already clean
    obtain ⟨-, l, -, -, hl, -⟩ := List.findSome?_eq_some_iff.mp hfirst
    obtain ⟨ht, he⟩ := get_clean hl
    exact get_of_lookup_clean (hlookup.trans hfirst) ht he

example : (layered [.table [("x", "first"), ("y", "")],
    .table [("x", "second"), ("y", " fallback ")]]).get "y" = some "fallback" := by decide

/-- Two sources that answer every typed lookup alike. -/
structure AnswersAlike (c d : ConfigSource) : Prop where
  get : ∀ k, c.get k = d.get k
  firstOf : ∀ ks, c.firstOf ks = d.firstOf ks
  seconds : ∀ k, c.seconds k = d.seconds k
  parse : ∀ {α : Type} (table : List (String × α)) (k : String), c.parse table k = d.parse table k

/-- Every typed lookup is built on `get`, so sources whose `get` agree answer alike. -/
theorem AnswersAlike.of_get {c d : ConfigSource} (h : ∀ k, c.get k = d.get k) :
    AnswersAlike c d where
  get := h
  firstOf := by
    intro ks
    induction ks with
    | nil => rfl
    | cons k rest ih => simp only [ConfigSource.firstOf, h k, ih]
  seconds := fun k => by simp only [ConfigSource.seconds, h k]
  parse := fun table k => by simp only [ConfigSource.parse, h k]

theorem layered_flatten (xs ys zs : List ConfigSource) :
    AnswersAlike (layered (xs ++ layered ys :: zs)) (layered (xs ++ ys ++ zs)) := by
  apply AnswersAlike.of_get
  intro k
  simp only [get_layered, List.findSome?_append, List.findSome?_cons, Option.or_assoc]
  cases ys.findSome? (fun l => l.get k) <;> rfl

theorem get_layered_nil (k : String) : (layered []).get k = none := by
  simp [get_layered]

theorem layered_singleton (c : ConfigSource) : AnswersAlike (layered [c]) c :=
  AnswersAlike.of_get fun k => by
    rw [get_layered, List.findSome?_cons]
    cases c.get k <;> rfl

end ConfigSource

open ConfigSource in
/-- A stack answers a key with its first layer's trimmed, non-blank value; layering is
associative for every typed lookup, the empty stack knows no key and a stack of one source
answers as the source. -/
theorem layered_answers_first_layer_and_associates :
    (∀ (ls : List ConfigSource) (k : String),
      (layered ls).get k = ls.findSome? (fun l => l.get k)) ∧
    (∀ a b c : ConfigSource,
      AnswersAlike (layered [layered [a, b], c]) (layered [a, b, c]) ∧
      AnswersAlike (layered [a, layered [b, c]]) (layered [a, b, c])) ∧
    (∀ k, (layered []).get k = none) ∧
    (∀ c : ConfigSource, AnswersAlike (layered [c]) c) := by
  refine ⟨get_layered, fun a b c => ⟨?_, ?_⟩, get_layered_nil, layered_singleton⟩
  · exact layered_flatten [] [a, b] [c]
  · exact layered_flatten [a] [b, c] []

end OlmProvision
