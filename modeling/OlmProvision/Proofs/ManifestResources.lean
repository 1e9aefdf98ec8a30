import OlmProvision.Provision.Manifest
import OlmProvision.Proofs.PointerWrites

/-
Resources of a product manifest.

The primary resource of a manifest is its primary template's manifest with the manifest's
replica count written at the template's replica pointer (the default `/spec/replicas` when it
names none), described by a handle read back from that manifest; each auxiliary resource is
its template's manifest as written, described the same way. Building a resource fails when
the write is refused, and otherwise when the manifest lacks its type or its name. What is
proved:

1. `Handle.replicasAt_eq_some_iff`: the count a handle reads is the integer at its pointer
   when that fits 32 bits; a 32-bit integer written as a document value is that integer
   (`Handle.toI64?_ofInt`).
2. `ManagedResource.fromManifest_cases`: a manifest describes a resource (`Describes`) unless
   it lacks a field (`DynamicObject.missingField`), which the error names.
3. `ProductManifest.managed_cases`: building a template's resource is writing the count, then
   describing the manifest written.
4. `Except.mapM_eq_error_iff`, `Except.forall₂_of_mapM_eq_ok`: the auxiliaries are built in
   order, and the first that cannot be built is the error.
5. `ProductManifest.accepted_of_fromYaml`: every manifest read from YAML is accepted and holds a
   count that fits 32 bits, so the main statement covers every manifest a product is read
   from.
-/
namespace OlmProvision

namespace Except

variable {ε α β : Type}

theorem bind_eq_ok_iff {x : Except ε α} {f : α → Except ε β} {b : β} :
    (x >>= f) = .ok b ↔ ∃ a, x = .ok a ∧ f a = .ok b := by
  cases x with
  | error e => simp
  | ok a => simp

theorem forall₂_of_mapM_eq_ok {f : α → Except ε β} :
    ∀ {xs : List α} {ys : List β}, xs.mapM f = .ok ys → List.Forall₂ (fun x y => f x = .ok y) xs ys
  | [], ys, h => by
    simp only [List.mapM_nil, pure_eq_ok, Except.ok.injEq] at h
    subst h
    exact .nil
  | x :: xs, ys, h => by
    simp only [List.mapM_cons, bind_eq_ok_iff, pure_eq_ok, Except.ok.injEq] at h
    obtain ⟨y, hy, ys', hys', rfl⟩ := h
    exact .cons hy (forall₂_of_mapM_eq_ok hys')

theorem exists_ok_of_mapM_eq_ok {f : α → Except ε β} :
    ∀ {xs : List α} {ys : List β}, xs.mapM f = .ok ys → ∀ x ∈ xs, ∃ b, f x = .ok b
  | [], _, _, _, hx => by simp at hx
  | y :: xs, ys, h, x, hx => by
    simp only [List.mapM_cons, bind_eq_ok_iff, pure_eq_ok, Except.ok.injEq] at h
    obtain ⟨b, hb, ys', hys', -⟩ := h
    rcases List.mem_cons.mp hx with rfl | hx
    · exact ⟨b, hb⟩
    · exact exists_ok_of_mapM_eq_ok hys' x hx

theorem mapM_eq_error_iff {f : α → Except ε β} {e : ε} :
    ∀ {xs : List α}, xs.mapM f = .error e ↔
      ∃ before x after, xs = before ++ x :: after ∧ (∀ y ∈ before, ∃ b, f y = .ok b) ∧
        f x = .error e
  | [] => by simp
  | x :: xs => by
    rw [List.mapM_cons]
    cases hx : f x with
    | error e' =>
      -- the first item fails, so it is the first that fails
      simp only [error_bind, Except.error.injEq]
      constructor
      · rintro rfl
        exact ⟨[], x, xs, rfl, by simp, hx⟩
      · rintro ⟨before, y, after, hsplit, hbefore, hy⟩
        cases before with
        | nil =>
          obtain ⟨rfl, rfl⟩ := List.cons.inj hsplit
          exact Except.error.inj (hx.symm.trans hy)
        | cons z before =>
          have hxz : x = z := (List.cons.inj hsplit).1
          obtain ⟨b, hb⟩ := hbefore z List.mem_cons_self
          rw [← hxz] at hb
          cases hx.symm.trans hb
    | ok b =>
      simp only [ok_bind]
      cases hrest : xs.mapM f with
      | ok ys =>
        -- nothing fails: neither the first item nor any of the rest
        simp only [ok_bind, pure_eq_ok, reduceCtorEq, false_iff, not_exists, not_and]
        intro before y after hsplit _ hy
        have hmem : y ∈ x :: xs := by rw [hsplit]; simp
        rcases List.mem_cons.mp hmem with rfl | hmem
        · cases hx.symm.trans hy
        · obtain ⟨c, hc⟩ := exists_ok_of_mapM_eq_ok hrest y hmem
          cases hc.symm.trans hy
      | error e' =>
        simp only [error_bind, Except.error.injEq]
        have ih := mapM_eq_error_iff.mp hrest
        constructor
        · rintro rfl
          obtain ⟨before, y, after, hsplit, hbefore, hy⟩ := ih
          refine ⟨x :: before, y, after, by rw [hsplit]; rfl, ?_, hy⟩
          intro z hz
          rcases List.mem_cons.mp hz with rfl | hz
          · exact ⟨b, hx⟩
          · exact hbefore z hz
        · -- the first failing item lies in the rest, so its error is the rest's
          rintro ⟨before, y, after, hsplit, hbefore, hy⟩
          cases before with
          | nil =>
            obtain ⟨rfl, -⟩ := List.cons.inj hsplit
            cases hx.symm.trans hy
          | cons z before =>
            obtain ⟨-, rfl⟩ := List.cons.inj hsplit
            have : (before ++ y :: after).mapM f = .error e := mapM_eq_error_iff.mpr
              ⟨before, y, after, rfl, fun w hw => hbefore w (List.mem_cons_of_mem z hw), hy⟩
            exact Except.error.inj (hrest.symm.trans this)

end Except

namespace Json

theorem pointer_setAt_self {j j' x : Json} {p : String} (h : j.setAt p x = some j') :
    j'.pointer p = some x := by
  obtain ⟨ts, htok, hset⟩ := setTokens_of_setAt h
  simp [pointer, htok, follow_setTokens_self hset]

end Json

namespace Handle

theorem replicasAt_eq_some_iff {data : Json} {q : String} {r : Int} :
    replicasAt data q = some r ↔
      ∃ n, data.pointer q = some (.num n) ∧ n.toI64? = some r ∧
        -2147483648 ≤ r ∧ r ≤ 2147483647 := by
  unfold replicasAt
  split
  · next n hp =>
    split
    · next r' hn =>
      simp only [hp, hn, Option.some.injEq, Json.num.injEq, exists_eq_left']
      split
      · next hfit =>
        constructor
        · intro h
          obtain rfl := Option.some.inj h
          exact ⟨rfl, hfit⟩
        · rintro ⟨rfl, -⟩
          rfl
      · next hfit =>
        simp only [reduceCtorEq, false_iff, not_and]
        rintro rfl hlo hhi
        exact hfit ⟨hlo, hhi⟩
    · next hn => simp [hp, hn]
  · -- nothing, or no number, at the pointer
    next hnot =>
    simp only [reduceCtorEq, false_iff, not_exists, not_and]
    intro n hp
    exact absurd hp (hnot n)

theorem toI64?_ofInt {r : Int} (hlo : -2147483648 ≤ r) (hhi : r ≤ 2147483647) :
    (Number.ofInt r).toI64? = some r := by
  unfold Number.ofInt
  by_cases hneg : r < 0
  · have hfit : -r ≤ (Number.i64Max : Int) + 1 := by simp only [Number.i64Max]; omega
    simp [hneg, hfit, Number.toI64?]
  · have hfit : r.toNat ≤ Number.u64Max := by simp only [Number.u64Max]; omega
    have hi64 : r.toNat ≤ Number.i64Max := by simp only [Number.i64Max]; omega
    simp only [hneg, if_false, hfit, if_true, Number.toI64?, hi64, Option.some.injEq]
    omega

end Handle

namespace Input

theorem intIn_bounds {lo hi x : Int} {i : Input} (h : intIn lo hi i = .ok x) :
    lo ≤ x ∧ x ≤ hi := by
  unfold intIn at h
  cases hc : i.content with
  | error e => simp [hc] at h
  | ok c =>
    simp only [hc, Except.ok_bind] at h
    split at h
    · split at h
      · next hfit => exact (Except.ok.inj h) ▸ hfit
      · cases h
    · split at h
      · next hfit => exact (Except.ok.inj h) ▸ hfit
      · cases h
    · cases h

theorem option_eq_some {α : Type} {dec : Input → Decoded α} {i : Input} {x : α}
    (h : option dec i = .ok (some x)) : dec i = .ok x := by
  unfold option at h
  cases hn : i.isNone with
  | error e => simp [hn] at h
  | ok b =>
    cases b with
    | true => simp [hn] at h
    | false =>
      cases hd : dec i with
      | error e => simp [hn, hd, Except.map] at h
      | ok y => simp_all [Except.map]

theorem Members.optional_eq_some {α : Type} {ms : Members} {name : String}
    {dec : Input → Decoded α} {x : α} (h : ms.optional name dec = .ok (some x)) :
    ∃ j, dec j = .ok x := by
  unfold Members.optional at h
  split at h
  · exact ⟨_, option_eq_some h⟩
  · cases h

end Input

namespace DynamicObject

/-- The field a manifest lacks to describe a resource; its type is looked at before its
name. -/
def missingField (o : DynamicObject) : Option String :=
  match o.types, o.metadata.name with
  | none, _ => some "apiVersion/kind"
  | some _, none => some "metadata.name"
  | some _, some _ => none

/-- Writing a manifest's data leaves its type and name, so the field it lacks. -/
@[simp] theorem missingField_with_data (o : DynamicObject) (d : Json) :
    missingField { o with data := d } = missingField o := rfl

end DynamicObject

namespace ManagedResource

/-- `res` is the resource the manifest `o` describes, in the default namespace `ns` and with
its replica count at the pointer `q`: the manifest itself, under its own name and its own
namespace or else `ns`, not yet created, expecting the 32-bit integer at `q` as its replica
count, and one pod when there is none. -/
structure Describes (ns q : String) (o : DynamicObject) (res : ManagedResource) : Prop where
  manifest : res.manifest = o
  name : o.metadata.name = some res.handle.name
  namespaceName : res.handle.namespaceName = o.metadata.namespaceName.getD ns
  replicasPointer : res.handle.replicasPointer = q
  desiredReplicas : ∀ r, res.handle.desiredReplicas = some r ↔
    ∃ n, o.data.pointer q = some (.num n) ∧ n.toI64? = some r ∧
      -2147483648 ≤ r ∧ r ≤ 2147483647
  expectedPods : res.handle.desiredReplicas = none → res.handle.expectedPods = 1
  created : res.handle.created = false

theorem fromManifest_cases (o : DynamicObject) (ns : String) (ptr : Option String)
    (readiness : Readiness) :
    (∃ f, o.missingField = some f ∧
      fromManifest o ns ptr readiness = .error (.manifestModel (.manifestField f))) ∨
    (o.missingField = none ∧ ∃ res, fromManifest o ns ptr readiness = .ok res ∧
      Describes ns (ptr.getD defaultReplicasPointer) o res) := by
  unfold fromManifest Handle.forManifest Handle.resourceFor DynamicObject.missingField
  cases ht : o.types with
  | none => exact .inl ⟨_, rfl, rfl⟩
  | some t =>
    cases hn : o.metadata.name with
    | none => exact .inl ⟨_, rfl, rfl⟩
    | some n =>
      refine .inr ⟨rfl, _, rfl, ?_⟩
      exact {
        manifest := rfl
        name := hn
        namespaceName := rfl
        replicasPointer := rfl
        desiredReplicas := fun r => Handle.replicasAt_eq_some_iff
        expectedPods := fun h => by
          simp only at h
          simp [Handle.expectedPods, h]
        created := rfl }

theorem fromManifest_eq_error_iff {o : DynamicObject} {ns : String} {ptr : Option String}
    {readiness : Readiness} {e : ProvisionError} :
    fromManifest o ns ptr readiness = .error e ↔
      ∃ f, o.missingField = some f ∧ e = .manifestModel (.manifestField f) := by
  rcases fromManifest_cases o ns ptr readiness with ⟨f, hf, herr⟩ | ⟨hf, res, hres, -⟩
  · rw [herr, hf]
    constructor
    · rintro ⟨⟩
      exact ⟨f, rfl, rfl⟩
    · rintro ⟨f', hf', rfl⟩
      cases hf'
      rfl
  · simp [hres, hf]

theorem exists_fromManifest_eq_ok_iff {o : DynamicObject} {ns : String} {ptr : Option String}
    {readiness : Readiness} :
    (∃ res, fromManifest o ns ptr readiness = .ok res) ↔ o.missingField = none := by
  rcases fromManifest_cases o ns ptr readiness with ⟨f, hf, herr⟩ | ⟨hf, res, hres, -⟩
  · simp [herr, hf]
  · exact ⟨fun _ => hf, fun _ => ⟨res, hres⟩⟩

end ManagedResource

namespace ResourceTemplate

/-- The pointer of a template's replica count: its own, or the default. -/
def pointer (t : ResourceTemplate) : String := t.replicasPointer.getD defaultReplicasPointer

end ResourceTemplate

namespace ProductManifest

/-- A manifest's replica count, when it has one, fits a signed 32-bit integer. -/
def ReplicasFit (m : ProductManifest) : Prop :=
  ∀ r ∈ m.replicas, -2147483648 ≤ r ∧ r ≤ 2147483647

/-- A manifest read from a document holds a count that fits 32 bits: the count is read as
one. -/
theorem replicasFit_of_decode {i : Input} {m : ProductManifest} (h : decode i = .ok m) :
    m.ReplicasFit := by
  simp only [decode, Except.bind_eq_ok_iff, Except.pure_eq_ok, Except.ok.injEq] at h
  obtain ⟨ms, -, p, -, ns, -, r, hr, -, -, -, -, -, -, -, -, -, -, -, -, rfl⟩ := h
  intro x hx
  rw [Option.mem_def] at hx
  subst hx
  obtain ⟨j, hj⟩ := Input.Members.optional_eq_some hr
  exact Input.intIn_bounds hj

theorem eq_of_validate {m m' : ProductManifest} (h : m.validate = .ok m') : m' = m := by
  unfold validate at h
  cases hp : Text.isBlankText m.product <;> cases hn : Text.isBlankText m.namespaceName <;>
    cases hr : m.replicas <;> simp_all [bind, Except.bind, pure, Except.pure, throw, throwThe,
      MonadExceptOf.throw]
  -- what is left is a count: a negative one is refused, any other lets the manifest through
  split at h
  · cases h
  · exact (Except.ok.inj h).symm

theorem accepted_of_fromYaml {text : String} {m : ProductManifest} (h : fromYaml text = .ok m) :
    m.validate = .ok m ∧ m.ReplicasFit := by
  unfold fromYaml at h
  split at h
  · cases h
  · split at h
    · cases h
    · next m' hdecode =>
      obtain rfl := eq_of_validate h
      exact ⟨h, replicasFit_of_decode hdecode⟩

theorem replicas_nonneg_of_validate {m : ProductManifest} (h : m.validate = .ok m) :
    ∀ r ∈ m.replicas, 0 ≤ r := by
  intro r hr
  rw [Option.mem_def] at hr
  by_cases hneg : r < 0
  · -- a negative count is refused, after the checks of product and namespace
    have : m.validate ≠ .ok m := by
      unfold validate
      cases Text.isBlankText m.product <;> cases Text.isBlankText m.namespaceName <;>
        simp [hr, hneg, bind, Except.bind, pure, Except.pure]
    exact absurd h this
  · omega

theorem managed_cases (m : ProductManifest) (t : ResourceTemplate) (replicas : Option Int) :
    (∃ r, replicas = some r ∧ t.manifest.data.setAt t.pointer (Json.int r) = none ∧
      m.managed t replicas = .error (.manifest ("cannot set replicas at '" ++ t.pointer ++ "'"))) ∨
    ∃ data, (replicas = none ∧ data = t.manifest.data ∨
        ∃ r, replicas = some r ∧ t.manifest.data.setAt t.pointer (Json.int r) = some data) ∧
      m.managed t replicas = ManagedResource.fromManifest { t.manifest with data := data }
        m.namespaceName t.replicasPointer t.readiness := by
  cases replicas with
  | none => exact .inr ⟨t.manifest.data, .inl ⟨rfl, rfl⟩, rfl⟩
  | some r =>
    cases hset : t.manifest.data.setAt t.pointer (Json.int r) with
    | none =>
      refine .inl ⟨r, rfl, hset, ?_⟩
      simp only [managed, ResourceTemplate.pointer] at hset ⊢
      simp [hset, bind, Except.bind, throw, throwThe, MonadExceptOf.throw]
    | some d =>
      refine .inr ⟨d, .inr ⟨r, rfl, hset⟩, ?_⟩
      simp only [managed, ResourceTemplate.pointer] at hset ⊢
      simp [hset, bind, Except.bind, pure, Except.pure]

open ManagedResource in
/-- Building a template's resource with a count that fits: a manifest error exactly when the
count cannot be written, else a model error when a field is missing, else the manifest written. -/
theorem managed_follows_template (m : ProductManifest) (t : ResourceTemplate)
    (replicas : Option Int) (hfit : ∀ r ∈ replicas, 0 ≤ r ∧ r ≤ 2147483647) :
    (∀ msg, m.managed t replicas = .error (.manifest msg) ↔
      ∃ r, replicas = some r ∧ t.manifest.data.setAt t.pointer (Json.int r) = none ∧
        msg = "cannot set replicas at '" ++ t.pointer ++ "'") ∧
    (∀ e, m.managed t replicas = .error (.manifestModel e) ↔
      (∀ r, replicas = some r → (t.manifest.data.setAt t.pointer (Json.int r)).isSome) ∧
      ∃ f, t.manifest.missingField = some f ∧ e = .manifestField f) ∧
    ((∃ res, m.managed t replicas = .ok res) ↔
      (∀ r, replicas = some r → (t.manifest.data.setAt t.pointer (Json.int r)).isSome) ∧
      t.manifest.missingField = none) ∧
    (∀ res, m.managed t replicas = .ok res →
      ∃ data, Describes m.namespaceName t.pointer { t.manifest with data := data } res ∧
        (replicas = none → data = t.manifest.data) ∧
        ∀ r, replicas = some r →
          t.manifest.data.setAt t.pointer (Json.int r) = some data ∧
          data.pointer t.pointer = some (Json.int r) ∧
          res.handle.desiredReplicas = some r ∧ (res.handle.expectedPods : Int) = r) := by
  rcases managed_cases m t replicas with ⟨r, rfl, hset, herr⟩ | ⟨data, hdata, heq⟩
  · -- the count cannot be written: that is the only error, and there is no resource
    rw [herr]
    refine ⟨fun msg => ?_, fun e => by simp [hset], by simp [hset], fun res h => by cases h⟩
    constructor
    · rintro ⟨⟩
      exact ⟨r, rfl, hset, rfl⟩
    · rintro ⟨r', hr', -, rfl⟩
      rfl
  · -- the count is written (or none is given), and the manifest written is described
    have hwritten : ∀ r, replicas = some r →
        t.manifest.data.setAt t.pointer (Json.int r) = some data := by
      rintro r rfl
      rcases hdata with ⟨hnone, -⟩ | ⟨r', hr', hset⟩
      · cases hnone
      · cases hr'
        exact hset
    have hwrites : ∀ r, replicas = some r →
        (t.manifest.data.setAt t.pointer (Json.int r)).isSome := fun r hr => by
      simp [hwritten r hr]
    rw [heq]
    refine ⟨fun msg => ?_, fun e => ?_, ?_, fun res hres => ?_⟩
    · rw [fromManifest_eq_error_iff]
      constructor
      · rintro ⟨f, -, ⟨⟩⟩
      · rintro ⟨r, hr, hset, -⟩
        simp [hwritten r hr] at hset
    · rw [fromManifest_eq_error_iff]
      constructor
      · rintro ⟨f, hf, he⟩
        cases he
        exact ⟨hwrites, f, hf, rfl⟩
      · rintro ⟨-, f, hf, rfl⟩
        exact ⟨f, hf, rfl⟩
    · rw [exists_fromManifest_eq_ok_iff, DynamicObject.missingField_with_data]
      exact ⟨fun h => ⟨hwrites, h⟩, fun h => h.2⟩
    · rcases fromManifest_cases { t.manifest with data := data } m.namespaceName t.replicasPointer
        t.readiness with ⟨f, -, herr⟩ | ⟨-, res', hres', hdesc⟩
      · rw [herr] at hres
        cases hres
      · obtain rfl : res' = res := Except.ok.inj (hres'.symm.trans hres)
        refine ⟨data, hdesc, fun hnone => ?_, fun r hr => ?_⟩
        · rcases hdata with ⟨-, rfl⟩ | ⟨r, hr, -⟩
          · rfl
          · rw [hnone] at hr
            cases hr
        · -- the count written at the pointer reads back as the handle's count
          obtain ⟨hlo, hhi⟩ := hfit r hr
          have hback : data.pointer t.pointer = some (Json.int r) :=
            Json.pointer_setAt_self (hwritten r hr)
          have hdesired : res'.handle.desiredReplicas = some r :=
            (hdesc.desiredReplicas r).mpr
              ⟨_, hback, Handle.toI64?_ofInt (by omega) hhi, by omega, hhi⟩
          refine ⟨hwritten r hr, hback, hdesired, ?_⟩
          simp only [Handle.expectedPods, hdesired]
          omega

end ProductManifest

open ProductManifest ManagedResource in
/-- The resources of an accepted manifest follow their templates: the primary with the replica
count written at its pointer, each auxiliary as written, and the first error named. -/
theorem manifest_resources_follow_their_templates (m : ProductManifest)
    (haccept : m.validate = .ok m) (hfit : m.ReplicasFit) :
    (∀ msg, m.primaryResource = .error (.manifest msg) ↔
      ∃ r, m.replicas = some r ∧ m.primary.manifest.data.setAt m.primary.pointer (Json.int r) = none ∧
        msg = "cannot set replicas at '" ++ m.primary.pointer ++ "'") ∧
    (∀ e, m.primaryResource = .error (.manifestModel e) ↔
      (∀ r, m.replicas = some r →
        (m.primary.manifest.data.setAt m.primary.pointer (Json.int r)).isSome) ∧
      ∃ f, m.primary.manifest.missingField = some f ∧ e = .manifestField f) ∧
    ((∃ res, m.primaryResource = .ok res) ↔
      (∀ r, m.replicas = some r →
        (m.primary.manifest.data.setAt m.primary.pointer (Json.int r)).isSome) ∧
      m.primary.manifest.missingField = none) ∧
    (∀ res, m.primaryResource = .ok res →
      ∃ data, Describes m.namespaceName m.primary.pointer { m.primary.manifest with data := data } res ∧
        (m.replicas = none → data = m.primary.manifest.data) ∧
        ∀ r, m.replicas = some r →
          m.primary.manifest.data.setAt m.primary.pointer (Json.int r) = some data ∧
          data.pointer m.primary.pointer = some (Json.int r) ∧
          res.handle.desiredReplicas = some r ∧ (res.handle.expectedPods : Int) = r) ∧
    (∀ rs, m.auxiliaryResources = .ok rs →
      List.Forall₂ (fun t res => Describes m.namespaceName t.pointer t.manifest res)
        m.auxiliaries rs) ∧
    (∀ e, m.auxiliaryResources = .error e ↔
      ∃ before t after f, m.auxiliaries = before ++ t :: after ∧
        (∀ t' ∈ before, t'.manifest.missingField = none) ∧
        t.manifest.missingField = some f ∧ e = .manifestModel (.manifestField f)) := by
  -- an accepted count that fits 32 bits is neither negative nor too large
  have hcount : ∀ r ∈ m.replicas, 0 ≤ r ∧ r ≤ 2147483647 := fun r hr =>
    ⟨replicas_nonneg_of_validate haccept r hr, (hfit r hr).2⟩
  obtain ⟨hmanifest, hmodel, hok, hdescribes⟩ := managed_follows_template m m.primary m.replicas hcount
  -- an auxiliary is its template's manifest as written, described
  have haux : ∀ t : ResourceTemplate,
      m.managed t none = fromManifest t.manifest m.namespaceName t.replicasPointer t.readiness :=
    fun _ => rfl
  refine ⟨hmanifest, hmodel, hok, hdescribes, fun rs hrs => ?_, fun e => ?_⟩
  · refine (Except.forall₂_of_mapM_eq_ok hrs).imp (fun t res hres => ?_)
    rw [haux] at hres
    rcases fromManifest_cases t.manifest m.namespaceName t.replicasPointer t.readiness with
      ⟨f, -, herr⟩ | ⟨-, res', hres', hdesc⟩
    · rw [herr] at hres
      cases hres
    · rwa [Except.ok.inj (hres'.symm.trans hres)] at hdesc
  · simp only [auxiliaryResources, Except.mapM_eq_error_iff, haux, fromManifest_eq_error_iff,
      exists_fromManifest_eq_ok_iff]
    constructor
    · rintro ⟨before, t, after, hsplit, hbefore, f, hf, rfl⟩
      exact ⟨before, t, after, f, hsplit, hbefore, hf, rfl⟩
    · rintro ⟨before, t, after, f, hsplit, hbefore, hf, rfl⟩
      exact ⟨before, t, after, hsplit, hbefore, f, hf, rfl⟩

open ProductManifest ManagedResource in
/-- A Kafka cluster of three brokers, its count written below `spec.kafka`, with a topic in the
product's namespace and a user in a namespace of its own. -/
theorem manifest_resources_follow_their_templates_kafka :
    let aux (kind name : String) (ns : Option String) : ResourceTemplate :=
      { replicasPointer := none, readiness := .objectExists,
        manifest :=
          { types := some ⟨"kafka.strimzi.io/v1beta2", kind⟩,
            metadata := { name := some name, namespaceName := ns }, data := Json.object [] } }
    let m : ProductManifest :=
      { product := "kafka", namespaceName := "kafka-test", replicas := some 3,
        installPlanApproval := some .manual,
        operatorEnv := [("RELATED_IMAGE_KAFKA", "quay.io/example/kafka:latest")],
        auxiliaryReadinessRequired := false,
        failFast := { appPrefix := some "my-cluster", ignoredReasons := ["BackOff"] },
        primary :=
          { replicasPointer := some "/spec/kafka/replicas",
            readiness := .all [.condition "Ready" "True",
              .podsRunning "strimzi.io/cluster=my-cluster"],
            manifest :=
              { types := some ⟨"kafka.strimzi.io/v1beta2", "Kafka"⟩,
                metadata := { name := some "my-cluster" },
                data := Json.object [("spec", Json.object [("kafka",
                  Json.object [("replicas", Json.int 1)])])] } },
        auxiliaries := [aux "KafkaTopic" "my-topic" none, aux "KafkaUser" "my-user" (some "kafka-users")] }
    m.validate = .ok m ∧ m.ReplicasFit ∧
    (∀ msg, m.primaryResource = .error (.manifest msg) ↔
      ∃ r, m.replicas = some r ∧ m.primary.manifest.data.setAt m.primary.pointer (Json.int r) = none ∧
        msg = "cannot set replicas at '" ++ m.primary.pointer ++ "'") ∧
    (∀ e, m.primaryResource = .error (.manifestModel e) ↔
      (∀ r, m.replicas = some r →
        (m.primary.manifest.data.setAt m.primary.pointer (Json.int r)).isSome) ∧
      ∃ f, m.primary.manifest.missingField = some f ∧ e = .manifestField f) ∧
    ((∃ res, m.primaryResource = .ok res) ↔
      (∀ r, m.replicas = some r →
        (m.primary.manifest.data.setAt m.primary.pointer (Json.int r)).isSome) ∧
      m.primary.manifest.missingField = none) ∧
    (∀ res, m.primaryResource = .ok res →
      ∃ data, Describes m.namespaceName m.primary.pointer { m.primary.manifest with data := data } res ∧
        (m.replicas = none → data = m.primary.manifest.data) ∧
        ∀ r, m.replicas = some r →
          m.primary.manifest.data.setAt m.primary.pointer (Json.int r) = some data ∧
          data.pointer m.primary.pointer = some (Json.int r) ∧
          res.handle.desiredReplicas = some r ∧ (res.handle.expectedPods : Int) = r) ∧
    (∀ rs, m.auxiliaryResources = .ok rs →
      List.Forall₂ (fun t res => Describes m.namespaceName t.pointer t.manifest res)
        m.auxiliaries rs) ∧
    (∀ e, m.auxiliaryResources = .error e ↔
      ∃ before t after f, m.auxiliaries = before ++ t :: after ∧
        (∀ t' ∈ before, t'.manifest.missingField = none) ∧
        t.manifest.missingField = some f ∧ e = .manifestModel (.manifestField f)) :=
  ⟨rfl, by simp [ReplicasFit], manifest_resources_follow_their_templates _ rfl (by simp [ReplicasFit])⟩

end OlmProvision
