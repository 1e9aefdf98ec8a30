import Mathlib
import OlmProvision.Provision.Catalog

/-
How a product's subscription parameters are resolved from configuration.

Every field of the descriptor is read down a chain of keys: the product key
`<product>.operators.<field>`, then for some fields the global key `olm.operators.<field>`, then
a fixed default. A key counts only with a non-blank value (`ConfigSource.get`). What is proved:

1. `ConfigSource.firstOf_pair`: the first of two keys with a value is the value of the first,
   or else of the second.
2. `Catalog.packageManifest_fst`, `Catalog.packageManifest_snd`: the package is the productized
   one when that key is set, and the distribution follows.
3. `InstallPlanApproval.read_name`, `InstallPlanApproval.read_of_not_name`: an approval is read
   from exactly its name, and any other text is refused with the names it could have been; so a
   key's text is read as the approval it names or refused naming the key
   (`InstallPlanApproval.parse_table_of_get`).
4. `Catalog.resolve_cases`: resolving either gives the descriptor whose approval is named by the
   first approval key with a value (`Automatic` without one), or fails on that value, naming
   its key.
-/
namespace OlmProvision

namespace ConfigSource

theorem firstOf_pair (c : ConfigSource) (a b : String) :
    c.firstOf [a, b] = (c.get a).or (c.get b) := by
  cases ha : c.get a <;> cases hb : c.get b <;> simp [firstOf, ha, hb]

theorem parse_of_get_none {α : Type} {c : ConfigSource} {table : List (String × α)} {k : String}
    (h : c.get k = none) : c.parse table k = .ok none := by
  simp [parse, h]

end ConfigSource

namespace InstallPlanApproval

@[simp] theorem readVariant_table (t : String) : readVariant table t = read t := rfl

@[simp] theorem read_name (a : InstallPlanApproval) : read a.name = .ok a := by
  cases a <;> decide

theorem read_of_not_name {t : String} (h : ∀ a : InstallPlanApproval, a.name ≠ t) :
    read t = .error ("unknown variant `" ++ t ++ "`, expected `Automatic` or `Manual`") := by
  have hauto : "Automatic" ≠ t := h .automatic
  have hmanual : "Manual" ≠ t := h .manual
  have hnone : table.find? (fun p => p.1 == t) = none := by
    simp [table, hauto, hmanual]
  rw [read, readVariant, hnone]
  simp [unknownVariant, table, String.append_assoc]

/-- The approval at a key with the text `t` is the one `t` names, or, when `t` names none, an
error naming the key and `t`. -/
theorem parse_table_of_get {c : ConfigSource} {k t : String} (h : c.get k = some t) :
    (∃ a : InstallPlanApproval, a.name = t ∧ c.parse table k = .ok (some a)) ∨
    ((∀ a : InstallPlanApproval, a.name ≠ t) ∧ c.parse table k = .error (.configValue k t
      ("unknown variant `" ++ t ++ "`, expected `Automatic` or `Manual`"))) := by
  by_cases hn : ∃ a : InstallPlanApproval, a.name = t
  · obtain ⟨a, rfl⟩ := hn
    exact .inl ⟨a, rfl, by simp [ConfigSource.parse, h]⟩
  · push Not at hn
    exact .inr ⟨hn, by simp [ConfigSource.parse, h, read_of_not_name hn]⟩

end InstallPlanApproval

namespace Catalog

theorem packageManifest_fst (c : ConfigSource) (p : String) :
    (packageManifest c p).1 =
      if (c.get (key p "productized.package_manifest")).isSome then .productized else .community := by
  unfold packageManifest
  cases c.get (key p "productized.package_manifest") with
  | some id => rfl
  | none => cases c.get (key p "community.package_manifest") <;> rfl

theorem packageManifest_snd (c : ConfigSource) (p : String) :
    (packageManifest c p).2 = ((c.get (key p "productized.package_manifest")).or
      ((c.get (key p "community.package_manifest")).or (c.get (key p "package_manifest")))).getD p := by
  unfold packageManifest
  cases c.get (key p "productized.package_manifest") with
  | some id => rfl
  | none => cases c.get (key p "community.package_manifest") <;> rfl

/-- The descriptor resolved for `product` when its approval is `a`: every other field read down
its chain of keys. -/
def descriptorWith (c : ConfigSource) (product : String) (a : InstallPlanApproval) :
    OperatorDescriptor where
  packageManifestId := (packageManifest c product).2
  catalogSourceName := (c.firstOf [key product "catalog_source", "olm.operators.catalog_source"]).getD
    (match (packageManifest c product).1 with
      | .community => defaultCommunityCatalog
      | .productized => defaultProductizedCatalog)
  catalogSourceNamespace := (c.firstOf [key product "namespace", "olm.operators.namespace"]).getD
    defaultCatalogNamespace
  indexImage := c.firstOf [key product "index_image", "olm.operators.index_image"]
  channel := c.get (key product "channel")
  startingCsv := c.get (key product "starting_csv")
  installPlanApproval := a
  distribution := (packageManifest c product).1

/-- The keys an approval is read from, in order. -/
def approvalKeys (product : String) : List String :=
  [key product "install_plan_approval", "olm.operators.install_plan_approval"]

theorem approvalText_of_findSome? {c : ConfigSource} {p k t : String}
    (h : (approvalKeys p).findSome? (fun k => (c.get k).map (k, ·)) = some (k, t)) :
    (c.get (key p "install_plan_approval")).or (c.get "olm.operators.install_plan_approval") =
      some t := by
  simp only [approvalKeys, List.findSome?_cons, List.findSome?_nil] at h
  cases hp : c.get (key p "install_plan_approval") with
  | some t' => simp_all
  | none => cases hg : c.get "olm.operators.install_plan_approval" <;> simp_all

/-- Resolving gives the descriptor whose approval is named by the first approval key with a
value, `Automatic` when none has one; or it fails on that value, when it names no approval, with
an error naming the key and the value. -/
theorem resolve_cases (c : ConfigSource) (p : String) :
    (∃ a, resolve c p = .ok (descriptorWith c p a) ∧
      a.name = ((c.get (key p "install_plan_approval")).or
        (c.get "olm.operators.install_plan_approval")).getD "Automatic") ∨
    ∃ k t, (approvalKeys p).findSome? (fun k => (c.get k).map (k, ·)) = some (k, t) ∧
      (∀ a : InstallPlanApproval, a.name ≠ t) ∧
      resolve c p = .error (.configurationValue (.configValue k t
        ("unknown variant `" ++ t ++ "`, expected `Automatic` or `Manual`"))) := by
  -- the product key decides when it has a value; the global key is read only without one
  cases hp : c.get (key p "install_plan_approval") with
  | some t =>
    rcases InstallPlanApproval.parse_table_of_get hp with ⟨a, rfl, hparse⟩ | ⟨hbad, hparse⟩
    · refine .inl ⟨a, ?_, by simp⟩
      simp [resolve, hparse, descriptorWith]
      rfl
    · refine .inr ⟨key p "install_plan_approval", t, by simp [approvalKeys, hp], hbad, ?_⟩
      simp [resolve, hparse]
      rfl
  | none =>
    have hnone : c.parse InstallPlanApproval.table (key p "install_plan_approval") = .ok none :=
      ConfigSource.parse_of_get_none hp
    cases hg : c.get "olm.operators.install_plan_approval" with
    | some t =>
      rcases InstallPlanApproval.parse_table_of_get hg with ⟨a, rfl, hparse⟩ | ⟨hbad, hparse⟩
      · refine .inl ⟨a, ?_, by simp⟩
        simp [resolve, hnone, hparse, descriptorWith]
        rfl
      · refine .inr ⟨"olm.operators.install_plan_approval", t, by simp [approvalKeys, hp, hg],
          hbad, ?_⟩
        simp [resolve, hnone, hparse]
        rfl
    | none =>
      refine .inl ⟨.automatic, ?_, rfl⟩
      simp [resolve, hnone, ConfigSource.parse_of_get_none hg, descriptorWith]
      rfl

end Catalog

open Catalog in
/-- Resolving a descriptor reads every field down its own chain of keys, a key counting only with
a non-blank value, and fails exactly when the first approval value names no approval. -/
theorem resolve_reads_each_field_down_its_chain (c : ConfigSource) (p : String) :
    (∀ d, resolve c p = .ok d →
      (d.distribution = .productized ↔ (c.get (key p "productized.package_manifest")).isSome) ∧
      d.packageManifestId = ((c.get (key p "productized.package_manifest")).or
        ((c.get (key p "community.package_manifest")).or
          (c.get (key p "package_manifest")))).getD p ∧
      d.catalogSourceName = ((c.get (key p "catalog_source")).or
        (c.get "olm.operators.catalog_source")).getD
          (match d.distribution with
            | .community => "community-operators"
            | .productized => "redhat-operators") ∧
      d.catalogSourceNamespace = ((c.get (key p "namespace")).or
        (c.get "olm.operators.namespace")).getD "openshift-marketplace" ∧
      d.indexImage = (c.get (key p "index_image")).or (c.get "olm.operators.index_image") ∧
      d.channel = c.get (key p "channel") ∧
      d.startingCsv = c.get (key p "starting_csv") ∧
      d.installPlanApproval.name = ((c.get (key p "install_plan_approval")).or
        (c.get "olm.operators.install_plan_approval")).getD "Automatic") ∧
    ∀ e, resolve c p = .error e ↔
      ∃ k t, [key p "install_plan_approval", "olm.operators.install_plan_approval"].findSome?
          (fun k => (c.get k).map (k, ·)) = some (k, t) ∧
        (∀ a : InstallPlanApproval, a.name ≠ t) ∧
        e = .configurationValue (.configValue k t
          ("unknown variant `" ++ t ++ "`, expected `Automatic` or `Manual`")) := by
  rcases resolve_cases c p with ⟨a, hok, hname⟩ | ⟨k, t, hfirst, hbad, herr⟩
  · refine ⟨fun d hd => ?_, fun e => ⟨fun h => (by rw [hok] at h; cases h), ?_⟩⟩
    · obtain rfl : descriptorWith c p a = d := Except.ok.inj (hok.symm.trans hd)
      refine ⟨?_, packageManifest_snd c p, ?_, ?_, ConfigSource.firstOf_pair .., rfl, rfl, hname⟩
      · simp only [descriptorWith, packageManifest_fst]
        split <;> simp_all
      · simp only [descriptorWith, ConfigSource.firstOf_pair]
        cases (packageManifest c p).1 <;> rfl
      · simp only [descriptorWith, ConfigSource.firstOf_pair]
        rfl
    · -- a first approval text that names no approval contradicts the one resolved
      rintro ⟨k, t, hfirst, hbad, -⟩
      rw [approvalText_of_findSome? hfirst, Option.getD_some] at hname
      exact absurd hname (hbad a)
  · refine ⟨fun d hd => (by rw [herr] at hd; cases hd), fun e => ⟨fun h => ?_, ?_⟩⟩
    · rw [herr] at h
      exact ⟨k, t, hfirst, hbad, (Except.error.inj h).symm⟩
    · rintro ⟨k', t', hfirst', -, rfl⟩
      obtain ⟨rfl, rfl⟩ := Prod.mk.inj (Option.some.inj (hfirst'.symm.trans hfirst))
      exact herr

end OlmProvision
