import Mathlib
import OlmProvision.Proofs.DocumentForms
import OlmProvision.Client.Typed

/-
The OLM objects read back from the documents they are written as.

A typed object is written as a document with `apiVersion`, `kind`, `metadata`, a `spec` and an
optional `status`; the cluster keeps it as a generic object whose data are the spec and the
status (`TypedObject.dynamic`). Reading that document as a generic object, or the generic
object's document as the typed object, gives back what was written:

1. `ObjectMeta.decode_toJson_named`: the metadata the provisioner and the simulated OLM write
   (a name, a namespace, at most one label and a resource version) read back.
2. `TypedObject.decode_json`: a typed document read as a generic object is its spec and status
   as data, and `TypedObject.toJson_dynamic` writes that object back as the same document.
3. `Subscription.decode_toJson`: a subscription reads back from its document, whatever its
   spec and status, once its metadata does; field by field, each optional field set as
   `o.map enc` comes back as `o`.

Members are written in the order of their literal names, which `simp` decides by evaluating
`<` on the literals; the calls that need it leave out Mathlib's `String.lt_iff_ltb`, which
would turn those comparisons into a function it cannot evaluate.
-/
namespace OlmProvision

/-! ## Metadata -/

theorem ObjectMeta.decode_toJson_named (a b : String) (labels : Option (List (String × String)))
    (hl : ∀ l ∈ labels, l.length ≤ 1) (rv : Option String) :
    ObjectMeta.decode (.json ({ name := some a, namespaceName := some b, labels := labels,
                                resourceVersion := rv } : ObjectMeta).toJson) =
      .ok { name := some a, namespaceName := some b, labels := labels, resourceVersion := rv } := by
  rcases labels with _ | _ | ⟨⟨x, y⟩, _ | ⟨z, l⟩⟩
  -- at most one label
  all_goals try (simp at hl; done)
  all_goals
    cases rv <;> simp [-String.lt_iff_ltb, ObjectMeta.toJson, ObjectMeta.tableJson, Json.object, Fields.ofList,
      Fields.insert, ObjectMeta.decode, Input.entries, Input.string, ObjectMeta.opt,
      ObjectMeta.lastOf, ObjectMeta.fieldNames, Input.option, Input.isNone, Json.isNull,
      Input.stringMap]

/-! ## Typed objects as generic objects -/

namespace TypedObject

/-- The generic object a typed document is kept as: its type, its metadata, and its spec and
status as data. -/
def dynamic (k : OlmKind) (m : ObjectMeta) (spec : Json) (status : Option Json) : DynamicObject :=
  { types := some ⟨olmGroup ++ "/" ++ olmVersion, k.name⟩, metadata := m,
    data := .obj (("spec", spec) :: status.toList.map fun s => ("status", s)) }

theorem toJson_dynamic (k : OlmKind) (m : ObjectMeta) (spec : Json) (status : Option Json) :
    (dynamic k m spec status).toJson = json k m spec status := by
  cases status <;> simp [-String.lt_iff_ltb, dynamic, DynamicObject.toJson, json, Json.object, Fields.ofList,
    Fields.insert]

theorem decode_json (k : OlmKind) {m : ObjectMeta} (hm : ObjectMeta.decode (.json m.toJson) = .ok m)
    {spec : Json} (hspec : spec.Canonical) {status : Option Json} (hst : ∀ s ∈ status, s.Canonical) :
    DynamicObject.decode (.json (json k m spec status)) = .ok (dynamic k m spec status) := by
  cases status with
  | none =>
    simp [-String.lt_iff_ltb, json, Json.object, Fields.ofList, Fields.insert, DynamicObject.decode,
      DynamicObject.decode.scan, Input.entries, Input.string, Input.content, hm,
      DynamicObject.takeTypes, DynamicObject.takeTypes.go, Content.toJson, Json.toContent,
      Content.entriesToJson, Json.toJson_toContent spec hspec, dynamic]
  | some st =>
    simp [-String.lt_iff_ltb, json, Json.object, Fields.ofList, Fields.insert, DynamicObject.decode,
      DynamicObject.decode.scan, Input.entries, Input.string, Input.content, hm,
      DynamicObject.takeTypes, DynamicObject.takeTypes.go, Content.toJson, Json.toContent,
      Content.entriesToJson, Json.toJson_toContent spec hspec,
      Json.toJson_toContent st (hst st rfl), dynamic, Fields.get?_cons]

end TypedObject

/-! ## Subscriptions -/

/-- The document of a subscription's `config`: its environment, when there is any. -/
def EnvVar.configJson (env : List EnvVar) : Json :=
  if env.isEmpty then Json.object [] else Json.object [("env", .arr (env.map EnvVar.toJson))]

/-- The document of a subscription's spec. -/
def SubscriptionSpec.toJson (s : SubscriptionSpec) : Json :=
  TypedObject.present [("name", some (.str s.name)), ("source", some (.str s.source)),
    ("sourceNamespace", some (.str s.sourceNamespace)), ("channel", s.channel.map .str),
    ("installPlanApproval", s.installPlanApproval.map (fun a => .str a.name)),
    ("startingCSV", s.startingCsv.map .str), ("config", s.config.map EnvVar.configJson)]

/-- The document of an object reference. -/
def ObjectReference.toJson (r : ObjectReference) : Json :=
  TypedObject.present [("name", some (.str r.name)), ("namespace", r.namespaceName.map .str)]

/-- The document of a subscription's status. -/
def SubscriptionStatus.toJson (st : SubscriptionStatus) : Json :=
  TypedObject.present [("currentCSV", st.currentCsv.map .str),
    ("installedCSV", st.installedCsv.map .str),
    ("installPlanRef", st.installPlanRef.map ObjectReference.toJson), ("state", st.state.map .str)]

theorem Subscription.toJson_eq (o : Subscription) :
    o.toJson = TypedObject.json .subscription o.metadata o.spec.toJson
      (o.status.map SubscriptionStatus.toJson) := rfl

theorem EnvVar.decode_toJson (v : EnvVar) : EnvVar.decode (.json v.toJson) = .ok v := by
  simp only [EnvVar.decode, EnvVar.toJson, Json.object,
    Input.members_obj _ (Fields.sorted_ofList _).nodup, Except.ok_bind]
  simp [-String.lt_iff_ltb, Members.required, Members.withDefault, Fields.ofList, Fields.insert,
    Input.string]

theorem Input.list_map {α : Type} {dec : Input → Decoded α} (enc : α → Json)
    (h : ∀ a, dec (.json (enc a)) = .ok a) (l : List α) :
    Input.list dec (.json (.arr (l.map enc))) = .ok l := by
  simp only [Input.list, Input.items, Except.ok_bind, List.map_map]
  induction l with
  | nil => rfl
  | cons a rest ih =>
    simp only [List.map_cons, List.mapM_cons, Function.comp, h, Except.ok_bind, ih,
      Except.pure_eq_ok]

theorem InstallPlanApproval.decodeVariant_name (a : InstallPlanApproval) :
    decodeVariant InstallPlanApproval.table (.json (.str a.name)) = .ok a := by
  cases a <;> rfl

theorem EnvVar.configJson_isNull (env : List EnvVar) : (EnvVar.configJson env).isNull = false := by
  unfold EnvVar.configJson
  split <;> rfl

theorem EnvVar.decode_configJson (env : List EnvVar) :
    (do
      let cm ← (Input.json (EnvVar.configJson env)).members ["env"]
      cm.withDefault "env" [] (Input.list EnvVar.decode) : Decoded (List EnvVar)) = .ok env := by
  unfold EnvVar.configJson
  split
  · next h =>
    simp only [List.isEmpty_iff] at h
    subst h
    rfl
  · simp only [Json.object, Input.members_obj _ (Fields.sorted_ofList _).nodup, Except.ok_bind]
    simp [Members.withDefault, Fields.ofList, Fields.insert,
      Input.list_map EnvVar.toJson EnvVar.decode_toJson]

theorem Subscription.decodeSpec_toJson (s : SubscriptionSpec) :
    Subscription.decodeSpec (.json s.toJson) = .ok s := by
  have hfind := Input.find?_presentMembers ["name", "source", "sourceNamespace", "channel",
    "installPlanApproval", "startingCSV", "config"] ([("name", some (.str s.name)),
    ("source", some (.str s.source)), ("sourceNamespace", some (.str s.sourceNamespace)),
    ("channel", s.channel.map .str),
    ("installPlanApproval", s.installPlanApproval.map (fun a => .str a.name)),
    ("startingCSV", s.startingCsv.map .str), ("config", s.config.map EnvVar.configJson)]) (by simp)
  simp only [Subscription.decodeSpec, SubscriptionSpec.toJson, Input.members_present,
    Except.ok_bind]
  rw [Members.optional_of_find? _ "config" s.config EnvVar.configJson
      (by simp [hfind, Function.comp_def]) EnvVar.configJson_isNull EnvVar.decode_configJson,
    Members.optional_of_find? _ "channel" s.channel Json.str (by simp [hfind, Function.comp_def])
      (fun _ => rfl) (fun _ => rfl),
    Members.optional_of_find? _ "installPlanApproval" s.installPlanApproval (fun a => Json.str a.name)
      (by simp [hfind, Function.comp_def]) (fun _ => rfl) InstallPlanApproval.decodeVariant_name,
    Members.optional_of_find? _ "startingCSV" s.startingCsv Json.str
      (by simp [hfind, Function.comp_def]) (fun _ => rfl) (fun _ => rfl)]
  simp [Members.required, hfind, Input.string]

theorem Subscription.decodeReference_toJson (r : ObjectReference) :
    Subscription.decodeReference (.json r.toJson) = .ok r := by
  have hfind := Input.find?_presentMembers ["name", "namespace"]
    ([("name", some (.str r.name)), ("namespace", r.namespaceName.map .str)]) (by simp)
  simp only [Subscription.decodeReference, ObjectReference.toJson, Input.members_present,
    Except.ok_bind]
  rw [Members.optional_of_find? _ "namespace" r.namespaceName Json.str
      (by simp [-String.lt_iff_ltb, hfind, Function.comp_def]) (fun _ => rfl) (fun _ => rfl)]
  simp [-String.lt_iff_ltb, Members.required, hfind, Input.string]

theorem Subscription.decodeStatus_toJson (st : SubscriptionStatus) :
    Subscription.decodeStatus (.json st.toJson) = .ok st := by
  have hfind := Input.find?_presentMembers ["currentCSV", "installedCSV", "installPlanRef", "state"]
    ([("currentCSV", st.currentCsv.map .str), ("installedCSV", st.installedCsv.map .str),
      ("installPlanRef", st.installPlanRef.map ObjectReference.toJson),
      ("state", st.state.map .str)]) (by simp)
  simp only [Subscription.decodeStatus, SubscriptionStatus.toJson, Input.members_present,
    Except.ok_bind]
  rw [Members.optional_of_find? _ "currentCSV" st.currentCsv Json.str
      (by simp [-String.lt_iff_ltb, hfind, Function.comp_def]) (fun _ => rfl) (fun _ => rfl),
    Members.optional_of_find? _ "installedCSV" st.installedCsv Json.str
      (by simp [-String.lt_iff_ltb, hfind, Function.comp_def]) (fun _ => rfl) (fun _ => rfl),
    Members.optional_of_find? _ "installPlanRef" st.installPlanRef ObjectReference.toJson
      (by simp [-String.lt_iff_ltb, hfind, Function.comp_def]) (fun _ => rfl) Subscription.decodeReference_toJson,
    Members.optional_of_find? _ "state" st.state Json.str
      (by simp [-String.lt_iff_ltb, hfind, Function.comp_def]) (fun _ => rfl) (fun _ => rfl)]
  rfl

theorem Subscription.decode_toJson (o : Subscription)
    (hm : ObjectMeta.decode (.json o.metadata.toJson) = .ok o.metadata) :
    Subscription.decode (.json o.toJson) = .ok o := by
  obtain ⟨metadata, spec, status⟩ := o
  rw [Subscription.toJson_eq]
  simp only [Subscription.decode, TypedObject.root, TypedObject.json, Json.object,
    Input.members_obj _ (Fields.sorted_ofList _).nodup, Except.ok_bind]
  cases status with
  | none =>
    simp [-String.lt_iff_ltb, Members.required, Members.optional, Fields.ofList, Fields.insert, hm,
      Subscription.decodeSpec_toJson]
  | some st =>
    have hnull : st.toJson.isNull = false := rfl
    simp [-String.lt_iff_ltb, Members.required, Members.optional, Fields.ofList, Fields.insert, hm,
      Subscription.decodeSpec_toJson, Input.option, Input.isNone, hnull,
      Subscription.decodeStatus_toJson]

/-! ## Canonical documents of subscriptions -/

theorem TypedObject.canonical_present {fields : List (String × Option Json)}
    (h : ∀ p ∈ fields, ∀ j ∈ p.2, j.Canonical) : (TypedObject.present fields).Canonical := by
  refine Json.canonical_object fun p hp => ?_
  obtain ⟨⟨k, v⟩, hmem, heq⟩ := List.mem_filterMap.mp hp
  cases v with
  | none => cases heq
  | some j =>
    cases heq
    exact h _ hmem j rfl

theorem EnvVar.canonical_toJson (v : EnvVar) : v.toJson.Canonical :=
  Json.canonical_object (by simp)

theorem EnvVar.canonical_configJson (env : List EnvVar) : (EnvVar.configJson env).Canonical := by
  unfold EnvVar.configJson
  split
  · exact Json.canonical_object nofun
  · refine Json.canonical_object ?_
    simp only [List.mem_singleton, forall_eq]
    exact Json.canonical_arr (by simpa using fun v _ => EnvVar.canonical_toJson v)

theorem SubscriptionSpec.canonical_toJson (s : SubscriptionSpec) : s.toJson.Canonical := by
  refine TypedObject.canonical_present ?_
  simp only [List.mem_cons, List.mem_nil_iff, or_false, forall_eq_or_imp, forall_eq]
  refine ⟨by simp, by simp, by simp, ?_, ?_, ?_, ?_⟩ <;> intro j hj
  · obtain ⟨c, -, rfl⟩ := Option.map_eq_some_iff.mp hj
    trivial
  · obtain ⟨a, -, rfl⟩ := Option.map_eq_some_iff.mp hj
    trivial
  · obtain ⟨c, -, rfl⟩ := Option.map_eq_some_iff.mp hj
    trivial
  · obtain ⟨env, -, rfl⟩ := Option.map_eq_some_iff.mp hj
    exact EnvVar.canonical_configJson env

theorem SubscriptionStatus.canonical_toJson (st : SubscriptionStatus) : st.toJson.Canonical := by
  refine TypedObject.canonical_present ?_
  simp only [List.mem_cons, List.mem_nil_iff, or_false, forall_eq_or_imp, forall_eq]
  refine ⟨?_, ?_, ?_, ?_⟩ <;> intro j hj
  · obtain ⟨c, -, rfl⟩ := Option.map_eq_some_iff.mp hj
    trivial
  · obtain ⟨c, -, rfl⟩ := Option.map_eq_some_iff.mp hj
    trivial
  · obtain ⟨r, -, rfl⟩ := Option.map_eq_some_iff.mp hj
    refine TypedObject.canonical_present ?_
    simp only [List.mem_cons, List.mem_nil_iff, or_false, forall_eq_or_imp, forall_eq]
    refine ⟨by simp, fun j hj => ?_⟩
    obtain ⟨c, -, rfl⟩ := Option.map_eq_some_iff.mp hj
    trivial
  · obtain ⟨c, -, rfl⟩ := Option.map_eq_some_iff.mp hj
    trivial

/-! ## Subscriptions on the cluster -/

/-- The generic object the cluster keeps for a subscription. -/
def Subscription.toDynamic (o : Subscription) : DynamicObject :=
  TypedObject.dynamic .subscription o.metadata o.spec.toJson (o.status.map SubscriptionStatus.toJson)

/-- Sending a subscription to the cluster: its generic object. -/
theorem TypedKind.toDynamic_subscription (o : Subscription)
    (hm : ObjectMeta.decode (.json o.metadata.toJson) = .ok o.metadata) :
    TypedKind.subscription.toDynamic o = .ok o.toDynamic := by
  have hst : ∀ j ∈ o.status.map SubscriptionStatus.toJson, j.Canonical := by
    intro j hj
    obtain ⟨st, -, rfl⟩ := Option.map_eq_some_iff.mp hj
    exact SubscriptionStatus.canonical_toJson st
  have hdec := TypedObject.decode_json .subscription hm (SubscriptionSpec.canonical_toJson o.spec) hst
  simp only [TypedKind.toDynamic, TypedKind.subscription, Subscription.toJson_eq, hdec]
  rfl

/-- Reading the cluster's generic object of a subscription gives the subscription. -/
theorem TypedKind.fromDynamic_subscription (o : Subscription)
    (hm : ObjectMeta.decode (.json o.metadata.toJson) = .ok o.metadata) :
    TypedKind.subscription.fromDynamic o.toDynamic = .ok o := by
  simp only [TypedKind.fromDynamic, TypedKind.subscription, Subscription.toDynamic,
    TypedObject.toJson_dynamic, ← Subscription.toJson_eq, Subscription.decode_toJson o hm]

end OlmProvision
