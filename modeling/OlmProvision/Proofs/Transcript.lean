import OlmProvision.Proofs.ProgramLogic
import OlmProvision.Client.Typed
import OlmProvision.Model.Handle
import OlmProvision.Provision.FailFast

/-
Platforms that keep a transcript of their calls.

The theorems about provisioning hold for every cluster: they take a platform `p` whose calls
answer anything at all, and run the provisioner on `p.traced`, which forwards each call to `p`
and appends a record of it (what was asked and what `p` answered) to a transcript kept beside
`p`'s world. What the provisioner did to the cluster is then read off the transcript.

A `Mutation` is a call that brings an object into being or removes it: a create or a delete,
with the object it names and whether the call succeeded. Replaces and merge patches change an
object that exists and are not counted.

`Appends ok c` says that `c` only appends to the transcript, and only records satisfying `ok`,
from every world; it is the frame property of everything that is not a platform call. The
rules below build it along the code, as the request log of a query-counting monad is bounded
call by call.
-/
namespace OlmProvision

/-- The object a call names: its API resource, namespace and name. -/
structure ObjectRef where
  resource : ApiResource
  namespaceName : String
  name : String
deriving DecidableEq

/-- The object a handle names. -/
def Handle.ref (h : Handle) : ObjectRef := ⟨h.resource, h.namespaceName, h.name⟩

/-- One platform call with its arguments and its answer. -/
inductive CallRecord where
  | create (resource : ApiResource) (ns : String) (object : DynamicObject)
      (answer : Except ClientError DynamicObject)
  | replace (resource : ApiResource) (ns : String) (object : DynamicObject)
      (answer : Except ClientError DynamicObject)
  | get (resource : ApiResource) (ns name : String)
      (answer : Except ClientError (Option DynamicObject))
  | list (resource : ApiResource) (ns : String) (selector : Option String)
      (answer : Except ClientError (List DynamicObject))
  | delete (resource : ApiResource) (ns name : String) (answer : Except ClientError Bool)
  | patchMerge (resource : ApiResource) (ns name : String) (patch : Json)
      (answer : Except ClientError DynamicObject)
  | listPods (ns selector : String) (answer : Except ClientError (List Pod))
  | listEvents (ns : String) (answer : Except ClientError (List ClusterEvent))

/-- Whether a call brings an object into being or removes it. -/
inductive Verb where
  | create
  | delete
deriving DecidableEq

/-- A create or delete call: the object it names and whether it succeeded. -/
structure Mutation where
  verb : Verb
  target : ObjectRef
  succeeded : Bool
deriving DecidableEq

/-- The create or delete call a record is, if it is one. -/
def CallRecord.mutation? : CallRecord → Option Mutation
  | .create r ns o a => some ⟨.create, ⟨r, ns, o.metadata.name.getD ""⟩, a.isOk⟩
  | .delete r ns n a => some ⟨.delete, ⟨r, ns, n⟩, a.isOk⟩
  | _ => none

/-- A record that neither creates nor deletes an object. -/
def CallRecord.IsQuiet (r : CallRecord) : Prop := r.mutation? = none

/-- A cluster of type `σ` together with the calls made to it so far, oldest first. -/
structure Traced (σ : Type) where
  inner : σ
  transcript : List CallRecord

namespace World

variable {σ : Type}

/-- The calls made so far. -/
def transcript (w : World (Traced σ)) : List CallRecord := w.cluster.transcript

/-- The world of the cluster itself. -/
def untraced (w : World (Traced σ)) : World σ := ⟨w.cluster.inner, w.elapsed, w.logs, w.start, w.now⟩

/-- The world `v` with the transcript `t`. -/
def traced (v : World σ) (t : List CallRecord) : World (Traced σ) :=
  ⟨⟨v.cluster, t⟩, v.elapsed, v.logs, v.start, v.now⟩

@[simp] theorem transcript_traced (v : World σ) (t : List CallRecord) :
    (v.traced t).transcript = t := rfl

@[simp] theorem transcript_logs (w : World (Traced σ)) (l : List LogRecord) :
    ({ w with logs := l } : World (Traced σ)).transcript = w.transcript := rfl

@[simp] theorem transcript_elapsed (w : World (Traced σ)) (d : Duration) :
    ({ w with elapsed := d } : World (Traced σ)).transcript = w.transcript := rfl

end World

namespace Traced

variable {σ α : Type}

/-- A computation on the cluster's own world, run inside a traced one; the transcript is
kept as it is. -/
def lift (c : Step σ α) : Step (Traced σ) α := fun w =>
  let p := c.exec w.untraced
  (p.1, p.2.traced w.transcript)

/-- A call to the cluster, recorded with its answer. -/
def call (c : Call σ α) (record : Except ClientError α → CallRecord) : Call (Traced σ) α :=
  fun w =>
    let p := c.exec w.untraced
    (p.1, p.2.traced (w.transcript ++ [record p.1]))

theorem wp_lift {c : Step σ α} {Q : α → World (Traced σ) → Prop} {w : World (Traced σ)}
    (h : ∀ a w', w'.transcript = w.transcript → Q a w') : Step.wp (lift c) Q w :=
  h _ _ rfl

theorem wp_call {c : Call σ α} {record : Except ClientError α → CallRecord}
    {Q : Except ClientError α → World (Traced σ) → Prop} {w : World (Traced σ)}
    (h : ∀ a w', w'.transcript = w.transcript ++ [record a] → Q a w') :
    Step.wp (call c record) Q w :=
  h _ _ rfl

end Traced

/-- The platform `p` with every call recorded. -/
def Platform.traced {σ : Type} (p : Platform σ) : Platform (Traced σ) where
  create r ns o := Traced.call (p.create r ns o) (.create r ns o)
  replace r ns o := Traced.call (p.replace r ns o) (.replace r ns o)
  get r ns n := Traced.call (p.get r ns n) (.get r ns n)
  list r ns s := Traced.call (p.list r ns s) (.list r ns s)
  delete r ns n := Traced.call (p.delete r ns n) (.delete r ns n)
  patchMerge r ns n j := Traced.call (p.patchMerge r ns n j) (.patchMerge r ns n j)
  listPods ns s := Traced.call (p.listPods ns s) (.listPods ns s)
  listEvents ns := Traced.call (p.listEvents ns) (.listEvents ns)

namespace World

variable {σ : Type}

/-- `w'` has the transcript of `w` followed by records that all satisfy `ok`. -/
def Extends (ok : CallRecord → Prop) (w w' : World (Traced σ)) : Prop :=
  ∃ L, w'.transcript = w.transcript ++ L ∧ ∀ r ∈ L, ok r

namespace Extends

variable {ok ok' : CallRecord → Prop} {w w' w'' : World (Traced σ)}

theorem of_eq (h : w'.transcript = w.transcript) : w.Extends ok w' :=
  ⟨[], by rw [h, List.append_nil], by simp⟩

theorem refl (w : World (Traced σ)) : w.Extends ok w := of_eq rfl

theorem trans (h : w.Extends ok w') (h' : w'.Extends ok w'') : w.Extends ok w'' := by
  obtain ⟨L, hL, hok⟩ := h
  obtain ⟨L', hL', hok'⟩ := h'
  refine ⟨L ++ L', by rw [hL', hL, List.append_assoc], ?_⟩
  intro r hr
  rcases List.mem_append.mp hr with hr | hr
  · exact hok r hr
  · exact hok' r hr

theorem mono (h : w.Extends ok w') (hok : ∀ r, ok r → ok' r) : w.Extends ok' w' := by
  obtain ⟨L, hL, hr⟩ := h
  exact ⟨L, hL, fun r m => hok r (hr r m)⟩

end Extends

/-- The creates and deletes made so far, oldest first. -/
def mutations (w : World (Traced σ)) : List Mutation := w.transcript.filterMap CallRecord.mutation?

/-- Quiet records leave the creates and deletes as they were. -/
theorem Extends.mutations_eq {w w' : World (Traced σ)} (h : w.Extends CallRecord.IsQuiet w') :
    w'.mutations = w.mutations := by
  obtain ⟨L, hL, hq⟩ := h
  have hnil : L.filterMap CallRecord.mutation? = [] := by
    rw [List.filterMap_eq_nil_iff]
    exact hq
  rw [mutations, mutations, hL, List.filterMap_append, hnil, List.append_nil]

end World

section Appends

variable {σ μ α β : Type} {ok : CallRecord → Prop}

/-- `c` only appends records satisfying `ok` to the transcript, from every world. -/
def Step.Appends (ok : CallRecord → Prop) (c : Step (Traced σ) α) : Prop :=
  ∀ w, Step.wp c (fun _ w' => w.Extends ok w') w

/-- A run that only appends records satisfying `ok`, whether it fails or not. -/
def Run.Appends (ok : CallRecord → Prop) (r : Run (Traced σ) α) : Prop := Step.Appends ok r.run

/-- `t` leaves the local state as it is and only appends records satisfying `ok` to the
transcript, from every local state and world, whether it fails or not. -/
def Tracked.Frame (ok : CallRecord → Prop) (t : Tracked μ (Traced σ) α) : Prop :=
  ∀ m w, Tracked.wp t (fun _ m' w' => m' = m ∧ w.Extends ok w') m w

namespace Step.Appends

theorem wp {c : Step (Traced σ) α} {Q : α → World (Traced σ) → Prop} {w : World (Traced σ)}
    (h : Step.Appends ok c) (hQ : ∀ a w', w.Extends ok w' → Q a w') : Step.wp c Q w :=
  Step.wp_mono (h w) hQ

theorem pure (a : α) : Step.Appends ok (pure a : Step (Traced σ) α) :=
  fun w => World.Extends.refl w

theorem bind {c : Step (Traced σ) α} {f : α → Step (Traced σ) β} (hc : Step.Appends ok c)
    (hf : ∀ a, Step.Appends ok (f a)) : Step.Appends ok (c >>= f) := by
  intro w
  rw [Step.wp_bind]
  exact hc.wp fun a w' h => (hf a).wp fun _ w'' h' => h.trans h'

theorem mono {ok' : CallRecord → Prop} {c : Step (Traced σ) α} (h : Step.Appends ok c)
    (hok : ∀ r, ok r → ok' r) : Step.Appends ok' c :=
  fun _ => h.wp fun _ _ hw => hw.mono hok

theorem lift (c : Step σ α) : Step.Appends ok (Traced.lift c) :=
  fun _ => Traced.wp_lift fun _ _ h => World.Extends.of_eq h

theorem call {c : Call σ α} {record : Except ClientError α → CallRecord}
    (h : ∀ a, ok (record a)) : Step.Appends ok (Traced.call c record) :=
  fun _ => Traced.wp_call fun a _ ht => ⟨[record a], ht, by simp [h a]⟩

theorem log (source : LogSource) (level : LogLevel) (message : String) :
    Step.Appends ok (Step.log source level message : Step (Traced σ) Unit) :=
  fun w => World.Extends.refl w

theorem sleep (d : Duration) : Step.Appends ok (Step.sleep d : Step (Traced σ) Unit) :=
  fun w => World.Extends.refl w

theorem elapsed : Step.Appends ok (Step.elapsed : Step (Traced σ) Duration) :=
  fun w => World.Extends.refl w

theorem get : Step.Appends ok (get : Step (Traced σ) (World (Traced σ))) :=
  fun w => World.Extends.refl w

end Step.Appends

namespace Run.Appends

theorem wp {r : Run (Traced σ) α} {Q : Except ProvisionError α → World (Traced σ) → Prop}
    {w : World (Traced σ)} (h : Run.Appends ok r) (hQ : ∀ x w', w.Extends ok w' → Q x w') :
    Run.wp r Q w :=
  Step.Appends.wp h hQ

theorem pure (a : α) : Run.Appends ok (pure a : Run (Traced σ) α) :=
  fun w => World.Extends.refl w

theorem throw (e : ProvisionError) : Run.Appends ok (throw e : Run (Traced σ) α) :=
  fun w => World.Extends.refl w

theorem bind {r : Run (Traced σ) α} {f : α → Run (Traced σ) β} (hr : Run.Appends ok r)
    (hf : ∀ a, Run.Appends ok (f a)) : Run.Appends ok (r >>= f) := by
  intro w
  show Run.wp (r >>= f) _ w
  rw [Run.wp_bind]
  refine hr.wp fun x w' h => ?_
  cases x with
  | error e => exact h
  | ok a => exact (hf a).wp fun _ w'' h' => h.trans h'

theorem mono {ok' : CallRecord → Prop} {r : Run (Traced σ) α} (h : Run.Appends ok r)
    (hok : ∀ r, ok r → ok' r) : Run.Appends ok' r :=
  Step.Appends.mono h hok

theorem monadLift {c : Step (Traced σ) α} (h : Step.Appends ok c) :
    Run.Appends ok (monadLift c : Run (Traced σ) α) :=
  fun _ => h.wp fun _ _ hw => hw

theorem mk {c : Step (Traced σ) (Except ProvisionError α)} (h : Step.Appends ok c) :
    Run.Appends ok (ExceptT.mk c) := h

theorem call (action : String) {c : Call (Traced σ) α} (h : Step.Appends ok c) :
    Run.Appends ok (Run.call action c) := by
  intro w
  show Run.wp (Run.call action c) _ w
  rw [Run.wp_call]
  exact h.wp fun x w' hw => by cases x <;> exact hw

theorem log (source : LogSource) (level : LogLevel) (message : String) :
    Run.Appends ok (Run.log source level message : Run (Traced σ) Unit) :=
  fun w => World.Extends.refl w

end Run.Appends

namespace Tracked.Frame

theorem wp {t : Tracked μ (Traced σ) α}
    {Q : Except ProvisionError α → μ → World (Traced σ) → Prop} {m : μ} {w : World (Traced σ)}
    (h : Tracked.Frame ok t) (hQ : ∀ x w', w.Extends ok w' → Q x m w') : Tracked.wp t Q m w :=
  Tracked.wp_mono (h m w) fun x _ w' ⟨hm, hw⟩ => hm ▸ hQ x w' hw

theorem pure (a : α) : Tracked.Frame ok (pure a : Tracked μ (Traced σ) α) :=
  fun _ w => ⟨rfl, World.Extends.refl w⟩

theorem throw (e : ProvisionError) : Tracked.Frame ok (throw e : Tracked μ (Traced σ) α) :=
  fun _ w => ⟨rfl, World.Extends.refl w⟩

theorem bind {t : Tracked μ (Traced σ) α} {f : α → Tracked μ (Traced σ) β}
    (ht : Tracked.Frame ok t) (hf : ∀ a, Tracked.Frame ok (f a)) : Tracked.Frame ok (t >>= f) := by
  intro m w
  rw [Tracked.wp_bind]
  refine ht.wp fun x w' hw => ?_
  cases x with
  | error e => exact ⟨rfl, hw⟩
  | ok a => exact (hf a).wp fun _ _ hw' => ⟨rfl, hw.trans hw'⟩

theorem lift {r : Run (Traced σ) α} (h : Run.Appends ok r) :
    Tracked.Frame ok (Tracked.lift r : Tracked μ (Traced σ) α) := by
  intro _ _
  rw [Tracked.wp_lift]
  exact h.wp fun _ _ hw => ⟨rfl, hw⟩

theorem step {c : Step (Traced σ) α} (h : Step.Appends ok c) :
    Tracked.Frame ok (Tracked.step c : Tracked μ (Traced σ) α) := by
  intro _ _
  rw [Tracked.wp_step]
  exact h.wp fun _ _ hw => ⟨rfl, hw⟩

theorem current : Tracked.Frame ok (Tracked.current : Tracked μ (Traced σ) μ) :=
  fun _ w => ⟨rfl, World.Extends.refl w⟩

theorem log (source : LogSource) (level : LogLevel) (message : String) :
    Tracked.Frame ok (Tracked.log source level message : Tracked μ (Traced σ) Unit) :=
  fun _ w => ⟨rfl, World.Extends.refl w⟩

theorem ofExcept (x : Except ProvisionError α) :
    Tracked.Frame ok (Tracked.ofExcept x : Tracked μ (Traced σ) α) := by
  cases x with
  | error e => exact throw e
  | ok a => exact pure a

theorem forIn {γ : Type} (l : List γ) (b : β) {f : γ → β → Tracked μ (Traced σ) (ForInStep β)}
    (hf : ∀ x b, Tracked.Frame ok (f x b)) : Tracked.Frame ok (forIn l b f) := by
  induction l generalizing b with
  | nil => exact pure b
  | cons x l ih =>
    rw [List.forIn_cons]
    refine bind (hf x b) fun step => ?_
    cases step with
    | done b' => exact pure b'
    | yield b' => exact ih b'

end Tracked.Frame

end Appends

section Calls

variable {σ α : Type} (p : Platform σ) {ok : CallRecord → Prop}

open Step.Appends

theorem Platform.appends_getTyped (k : TypedKind α) (ns name : String)
    (h : ∀ a, ok (.get k.kind.resource ns name a)) :
    Step.Appends ok (p.traced.getTyped k ns name) := by
  refine bind (call h) fun a => ?_
  split <;> exact Step.Appends.pure _

theorem Platform.appends_callGetTyped (action : String) (k : TypedKind α) (ns name : String) :
    Run.Appends CallRecord.IsQuiet (Run.call action (p.traced.getTyped k ns name)) :=
  Run.Appends.call action (p.appends_getTyped k ns name fun _ => rfl)

theorem Platform.appends_callDeleteTyped (action : String) (k : TypedKind α) (ns name : String) :
    Run.Appends (fun _ => True) (Run.call action (p.traced.deleteTyped k ns name)) :=
  Run.Appends.call action (Step.Appends.call fun _ => trivial)

/-- A typed read answers what the record of its call says: a found object decodes to what it
answers, and a failure is a failed call or an object that does not decode. -/
theorem Platform.wp_callGetTyped (action : String) (k : TypedKind α) (ns name : String)
    (w : World (Traced σ)) :
    Run.wp (Run.call action (p.traced.getTyped k ns name)) (fun x w' =>
      ∃ a, w'.transcript = w.transcript ++ [.get k.kind.resource ns name a] ∧
        (∀ v, x = .ok (some v) → ∃ o, a = .ok (some o) ∧ k.fromDynamic o = .ok v) ∧
        (x.isOk = false → a.isOk = false ∨ ∃ o e, a = .ok (some o) ∧ k.fromDynamic o = .error e))
      w := by
  simp only [Run.wp_call, Platform.getTyped, Step.wp_bind]
  refine Traced.wp_call fun a w' h => ?_
  rcases a with e | _ | o
  · exact ⟨_, h, nofun, fun _ => .inl rfl⟩
  · exact ⟨_, h, nofun, nofun⟩
  · dsimp only
    cases hd : k.fromDynamic o with
    | error e => exact ⟨_, h, nofun, fun _ => .inr ⟨o, e, rfl, hd⟩⟩
    | ok v =>
      refine ⟨_, h, ?_, nofun⟩
      rintro v' ⟨⟩
      exact ⟨o, rfl, hd⟩

/-- A typed create appends at most the record of its one create call, and succeeds only when
the cluster accepted that create. -/
theorem Platform.wp_createTyped (k : TypedKind α) (ns : String) (v : α) (w : World (Traced σ)) :
    Step.wp (p.traced.createTyped k ns v) (fun x w' =>
      ∃ L, w'.transcript = w.transcript ++ L ∧ (∀ r ∈ L, ∃ o a, r = .create k.kind.resource ns o a) ∧
        (x.isOk = true → ∃ o a, L = [.create k.kind.resource ns o (.ok a)])) w := by
  unfold Platform.createTyped
  split
  · -- the object has no generic form: nothing is sent
    simp only [Step.wp_pure]
    refine ⟨[], (List.append_nil _).symm, ?_, ?_⟩
    · simp
    · simp [Except.isOk, Except.toBool]
  · simp only [Step.wp_bind]
    refine Traced.wp_call fun a w' h => ?_
    cases a with
    | error e =>
      simp only [Step.wp_pure]
      exact ⟨_, h, by simp, by simp [Except.isOk, Except.toBool]⟩
    | ok created =>
      simp only [Step.wp_pure]
      exact ⟨_, h, by simp, fun _ => ⟨_, _, rfl⟩⟩

theorem appends_waitFor {spec : WaitSpec} {predicate : Step (Traced σ) (Except String Bool)}
    {guard : Option (Step (Traced σ) (Option ClusterEvent))} (hp : Step.Appends ok predicate)
    (hg : ∀ g, guard = some g → Step.Appends ok g) :
    Step.Appends ok (waitFor spec predicate guard) := by
  -- one poll per unit of fuel; the loop calls nothing but the predicate and the guard
  have hloop : ∀ start fuel, Step.Appends ok (waitFor.loop spec predicate guard start fuel) := by
    intro start fuel
    induction fuel with
    | zero => exact Step.Appends.pure _
    | succ fuel ih =>
      rw [waitFor.loop.eq_2]
      refine bind hp fun r => ?_
      dsimp only
      split
      · exact bind elapsed fun _ => bind (log _ _ _) fun _ => Step.Appends.pure _
      -- not there yet, or an error: the guard, then give up or sleep and poll again
      all_goals
        refine bind (log _ _ _) fun _ => ?_
        split
        all_goals
          refine bind ?_ fun fatal => ?_
          · first
            | exact hg _ rfl
            | exact Step.Appends.pure _
          · split
            · exact bind elapsed fun _ => bind (log _ _ _) fun _ => Step.Appends.pure _
            · refine bind elapsed fun _ => ?_
              split
              · exact bind (log _ _ _) fun _ => Step.Appends.pure _
              · exact bind (sleep _) fun _ => ih
  exact bind elapsed fun _ => bind (log _ _ _) fun _ => hloop _ _

theorem Run.Appends.predicate {r : Run (Traced σ) Bool} (h : Run.Appends ok r) :
    Step.Appends ok (Run.predicate r) := by
  intro w
  rw [Run.wp_predicate]
  exact h.wp fun x _ hw => by cases x <;> exact hw

theorem FailFastGuard.appends_fatalEvent (g : FailFastGuard)
    (h : ∀ a, ok (.listEvents g.baseline.namespaceName a)) :
    Step.Appends ok (g.fatalEvent p.traced) := by
  refine bind (call h) fun a => ?_
  split
  · exact bind (log _ _ _) fun _ => Step.Appends.pure _
  · exact Step.Appends.pure _

theorem appends_captureBaseline (ns : String) (h : ∀ a, ok (.listEvents ns a)) :
    Step.Appends ok (captureBaseline p.traced ns) := by
  refine bind (call h) fun a => ?_
  split
  · exact Step.Appends.pure _
  · exact bind get fun _ => bind (log _ _ _) fun _ => Step.Appends.pure _

end Calls

end OlmProvision
