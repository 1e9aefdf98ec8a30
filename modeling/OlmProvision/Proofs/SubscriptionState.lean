import OlmProvision.Proofs.Transcript
import OlmProvision.Provision.Subscription

/-
The state of a subscription manager across its calls.

A manager is consistent when a subscribed manager knows its installed CSV and an absent one
knows none. The calls are run against `p.traced` for an arbitrary platform `p`, so every
platform answer, failures included, is covered, and what the manager asked the cluster is
read off the transcript.

What is proved:
  1. Frame lemmas: everything a manager calls besides the create of its subscription appends
     only quiet records (no create, no delete) to the transcript.
  2. One spec lemma per call (`subscribe_refused`, `subscribe_from_absent`,
     `unsubscribe_spec`, `adopt_spec`) saying how the manager's state changes, by what the
     platform answered.
  3. `subscription_state_consistency`: subscribe and unsubscribe keep consistency from every
     consistent state, and adopt keeps it except when, started in `absent`, it fails after
     recording the installed CSV (`ManagerCall.Strands`); so a run of calls keeps it unless
     one of its adopts does that (`ManagerCall.consistent_runAll`). A refused subscribe calls
     nothing, a failed subscribe is left `absent` unless its create succeeded, only a
     successful subscribe or an adopt that read a succeeded CSV makes the manager subscribed,
     and a successful unsubscribe always ends absent with no CSV.
-/
namespace OlmProvision

namespace SubscriptionManager

/-- A subscribed manager knows its installed CSV; an absent one knows none. -/
def Consistent (m : SubscriptionManager) : Prop :=
  (m.state = .subscribed → m.currentCsv.isSome) ∧ (m.state = .absent → m.currentCsv = none)

instance (m : SubscriptionManager) : Decidable m.Consistent :=
  inferInstanceAs (Decidable (_ ∧ _))

/-! ## Frames -/

section Frames

variable {σ : Type} (p : Platform σ)

open Run.Appends

theorem appends_fetchSubscription (ns name : String) :
    Run.Appends CallRecord.IsQuiet (fetchSubscription p.traced ns name) :=
  p.appends_callGetTyped _ _ _ _

theorem appends_fetchCsv (ns csvName : String) :
    Run.Appends CallRecord.IsQuiet (fetchCsv p.traced ns csvName) :=
  p.appends_callGetTyped _ _ _ _

theorem appends_hasInstallPlan (ns name : String) :
    Run.Appends CallRecord.IsQuiet (hasInstallPlan p.traced ns name) :=
  bind (appends_fetchSubscription p ns name) fun _ => Run.Appends.pure _

theorem appends_csvSucceeded (ns name : String) :
    Run.Appends CallRecord.IsQuiet (csvSucceeded p.traced ns name) := by
  refine bind (appends_fetchSubscription p ns name) fun s => ?_
  split
  · exact Run.Appends.pure _
  · refine bind (appends_fetchCsv p _ _) fun csv => ?_
    split
    · split
      · exact bind (log _ _ _) fun _ => Run.Appends.pure _
      · exact Run.Appends.pure _
    · exact Run.Appends.pure _

theorem appends_deploymentData (ns : String) (names : List String) :
    Run.Appends CallRecord.IsQuiet (deploymentData p.traced ns names) := by
  induction names with
  | nil => exact Run.Appends.pure _
  | cons n rest ih =>
    refine bind (call _ (Step.Appends.call fun _ => rfl)) fun d => ?_
    split
    · exact Run.Appends.pure _
    · refine bind ih fun ds => ?_
      split <;> exact Run.Appends.pure _

theorem appends_operatorHasEnv (ns csvName : String) (env : List (String × String)) :
    Run.Appends CallRecord.IsQuiet (operatorHasEnv p.traced ns csvName env) := by
  refine bind (appends_fetchCsv p ns csvName) fun csv => ?_
  split
  · exact Run.Appends.pure _
  · dsimp only
    split
    · exact Run.Appends.pure _
    · refine bind (appends_deploymentData p _ _) fun ds => ?_
      split <;> exact Run.Appends.pure _

theorem appends_applyEnv_apply (csvName : String) (env : List (String × String))
    (ds : List Json) (changed : Bool) :
    Run.Appends CallRecord.IsQuiet
      (applyEnv.apply csvName env ds changed : Run (Traced σ) _) := by
  induction env generalizing ds changed with
  | nil => exact Run.Appends.pure _
  | cons entry rest ih =>
    simp only [applyEnv.apply]
    split
    · exact ih _ _
    · refine bind (log _ _ _) fun _ => ?_
      split
      · exact bind (log _ _ _) fun _ => Run.Appends.pure _
      · exact ih _ _

theorem appends_applyEnv (ns csvName : String) (env : List (String × String)) :
    Run.Appends CallRecord.IsQuiet (applyEnv p.traced ns csvName env) := by
  refine bind (call _ (Step.Appends.call fun _ => rfl)) fun o => ?_
  split
  all_goals
    refine bind ?_ fun csv => ?_
    · first
      | exact Run.Appends.pure _
      | exact Run.Appends.throw _
    · dsimp only
      split
      · exact bind (log _ _ _) fun _ => Run.Appends.pure _
      · refine bind (appends_applyEnv_apply _ _ _ _) fun r => ?_
        split
        · exact Run.Appends.pure _
        · exact Run.Appends.pure _
        · refine bind (monadLift (Step.Appends.call fun _ => rfl)) fun a => ?_
          split
          · exact bind (log _ _ _) fun _ => Run.Appends.pure _
          · split <;> exact Run.Appends.throw _

theorem appends_approveInstallPlan (m : SubscriptionManager) :
    Run.Appends CallRecord.IsQuiet (approveInstallPlan p.traced m) := by
  refine bind (appends_fetchSubscription p _ _) fun s => ?_
  dsimp only
  split
  all_goals
    refine Run.Appends.bind ?_ fun plan => ?_
    · first
      | exact Run.Appends.pure _
      | exact Run.Appends.throw _
    · exact Run.Appends.bind (call _ (Step.Appends.call fun _ => rfl)) fun _ => log _ _ _

variable {ok : CallRecord → Prop}

theorem appends_awaitSubscribe (policy : WaitPolicy) (description : String)
    {predicate : Run (Traced σ) Bool} {guard : Option (Step (Traced σ) (Option ClusterEvent))}
    (hp : Run.Appends ok predicate) (hg : ∀ g, guard = some g → Step.Appends ok g) :
    Run.Appends ok (awaitSubscribe policy description predicate guard) := by
  refine bind (monadLift (appends_waitFor hp.predicate hg)) fun o => ?_
  split
  · exact Run.Appends.pure _
  · exact Run.Appends.throw _

theorem appends_waitForCsv (m : SubscriptionManager) (policy : WaitPolicy)
    {guard : Option (Step (Traced σ) (Option ClusterEvent))}
    (hg : ∀ g, guard = some g → Step.Appends CallRecord.IsQuiet g) :
    Run.Appends CallRecord.IsQuiet (waitForCsv p.traced m policy guard) :=
  appends_awaitSubscribe _ _ (appends_csvSucceeded p _ _) hg

end Frames

/-! ## What the transcript shows -/

section Records

variable {σ : Type}

/-- The records hold a successful create of a subscription object in `ns`. -/
def CreatedSubscription (ns : String) (L : List CallRecord) : Prop :=
  ∃ o a, CallRecord.create OlmKind.subscription.resource ns o (.ok a) ∈ L

/-- The records hold a read of the subscription `name` in `ns` that found it with the installed
CSV `c`. -/
def InstalledRead (ns name c : String) (L : List CallRecord) : Prop :=
  ∃ o s, CallRecord.get OlmKind.subscription.resource ns name (.ok (some o)) ∈ L ∧
    TypedKind.subscription.fromDynamic o = .ok s ∧ s.installedCsv = some c

/-- The records hold a read of the CSV `c` in `ns` that found it succeeded. -/
def SucceededRead (ns c : String) (L : List CallRecord) : Prop :=
  ∃ o csv, CallRecord.get OlmKind.clusterServiceVersion.resource ns c (.ok (some o)) ∈ L ∧
    TypedKind.clusterServiceVersion.fromDynamic o = .ok csv ∧ csv.isSucceeded = true

/-- The records hold a read of the CSV `c` in `ns` that failed: the call failed, or what it
answered is not a CSV. -/
def FailedRead (ns c : String) (L : List CallRecord) : Prop :=
  ∃ a, CallRecord.get OlmKind.clusterServiceVersion.resource ns c a ∈ L ∧
    (a.isOk = false ∨ ∃ o e, a = .ok (some o) ∧
      TypedKind.clusterServiceVersion.fromDynamic o = .error e)

/-- `w'` has the transcript of `w` followed by records that include a successful create of a
subscription object in `ns`. -/
def CreatedSince (ns : String) (w w' : World (Traced σ)) : Prop :=
  ∃ L, w'.transcript = w.transcript ++ L ∧ CreatedSubscription ns L

theorem CreatedSince.extend {ns : String} {ok : CallRecord → Prop} {w w1 w2 : World (Traced σ)}
    (h : CreatedSince ns w w1) (h' : w1.Extends ok w2) : CreatedSince ns w w2 := by
  obtain ⟨L, hL, o, a, hmem⟩ := h
  obtain ⟨L', hL', -⟩ := h'
  exact ⟨L ++ L', by rw [hL', hL, List.append_assoc], o, a, List.mem_append_left _ hmem⟩

end Records

/-! ## One spec per call -/

section Specs

variable {σ : Type}

/-- A subscribe started anywhere but `absent` fails with a lifecycle error and changes nothing:
no call, no log, no state. -/
theorem subscribe_refused (platform : Platform σ) (d : OperatorDescriptor)
    (approval : InstallPlanApproval) (env : List (String × String)) (policy : WaitPolicy)
    (guard : Option (Step σ (Option ClusterEvent))) {m : SubscriptionManager}
    (hm : m.state ≠ .absent) {Q : Except ProvisionError Unit → SubscriptionManager → World σ → Prop}
    {w : World σ}
    (hQ : Q (.error (.lifecycle ("subscribe to '" ++ d.packageManifestId ++ "'")
      ("while the subscription is " ++ m.state.name))) m w) :
    Tracked.wp (subscribe platform d approval env policy guard) Q m w := by
  have hne : (m.state != .absent) = true := bne_iff_ne.mpr hm
  simp only [subscribe, Tracked.wp_bind, Tracked.wp_current, hne, if_true, Tracked.wp_throw]
  exact hQ

variable (p : Platform σ)

theorem createSubscription_spec (m : SubscriptionManager) (d : OperatorDescriptor)
    (approval : InstallPlanApproval) (env : List (String × String)) (w : World (Traced σ)) :
    Run.wp (createSubscription p.traced m d approval env) (fun x w' =>
      ∃ L, w'.transcript = w.transcript ++ L ∧ (x = .ok () → CreatedSubscription m.namespaceName L))
      w := by
  unfold createSubscription
  simp only [Run.wp_bind, Run.wp_monadLift]
  refine Step.wp_mono (p.wp_createTyped .subscription m.namespaceName _ w) fun x w1 h1 => ?_
  obtain ⟨L, hL, -, hok⟩ := h1
  rcases x with e | s
  · simp only [Run.wp_ite, Run.wp_throw]
    split <;> exact ⟨L, hL, nofun⟩
  · -- the create was accepted: its record is the one appended
    obtain ⟨o, a, rfl⟩ := hok rfl
    exact ⟨_, hL, fun _ => ⟨o, a, List.mem_singleton_self _⟩⟩

/-- How a subscribe from `m` in `absent` and the world `w` ends: subscribed with the CSV it read,
or failed with the manager as it was, or failed while subscribing; the last two after its
create of the subscription succeeded. -/
def SubscribeEnds (m : SubscriptionManager) (w : World (Traced σ)) (r : Except ProvisionError Unit)
    (m' : SubscriptionManager) (w' : World (Traced σ)) : Prop :=
  (∃ c, r = .ok () ∧ m' = { m with currentCsv := some c, state := .subscribed } ∧
    CreatedSince m.namespaceName w w') ∨
  (r ≠ .ok () ∧ ((m' = m ∧ ∃ L, w'.transcript = w.transcript ++ L) ∨
    (m' = { m with state := .subscribing } ∧ CreatedSince m.namespaceName w w')))

theorem subscribe_from_absent (d : OperatorDescriptor) (approval : InstallPlanApproval)
    (env : List (String × String)) (policy : WaitPolicy)
    {guard : Option (Step (Traced σ) (Option ClusterEvent))}
    (hg : ∀ g, guard = some g → Step.Appends CallRecord.IsQuiet g) {m : SubscriptionManager}
    (hm : m.state = .absent) (w : World (Traced σ)) :
    Tracked.wp (subscribe p.traced d approval env policy guard) (SubscribeEnds m w) m w := by
  have hreset : ({ namespaceName := m.namespaceName, name := m.name, currentCsv := m.currentCsv } :
      SubscriptionManager) = m := by
    cases m
    simp_all
  unfold subscribe
  simp only [Tracked.wp_bind, Tracked.wp_current, hm, bne_self_eq_false, Bool.false_eq_true,
    if_false]
  refine (Tracked.Frame.lift (p.appends_callGetTyped _ _ _ _)).wp fun x w1 h1 => ?_
  obtain ⟨L1, hL1, -⟩ := h1
  rcases x with e | catalog
  · exact .inr ⟨Except.error_ne_ok _ _, .inl ⟨rfl, L1, hL1⟩⟩
  simp only [Tracked.wp_ite, Tracked.wp_bind, Tracked.wp_throw]
  split
  · exact .inr ⟨Except.error_ne_ok _ _, .inl ⟨rfl, L1, hL1⟩⟩
  simp only [Tracked.wp_put, Tracked.wp_step]
  refine Step.wp_mono (createSubscription_spec p m d approval env w1) fun x w2 h2 => ?_
  obtain ⟨L2, hL2, hcreated⟩ := h2
  rcases x with e | u
  · simp only [Tracked.wp_bind, Tracked.wp_put, Tracked.wp_throw, hreset]
    exact .inr ⟨Except.error_ne_ok _ _, .inl ⟨rfl, L1 ++ L2, by rw [hL2, hL1, List.append_assoc]⟩⟩
  -- from here on the manager is subscribing and the create is in the transcript
  have hsub : CreatedSince m.namespaceName w w2 := by
    obtain ⟨o, a, hmem⟩ := hcreated rfl
    exact ⟨L1 ++ L2, by rw [hL2, hL1, List.append_assoc], o, a, List.mem_append_right _ hmem⟩
  simp only [Tracked.wp_bind, Tracked.wp_ite]
  split
  case' isTrue =>
    -- manual approval: wait for the install plan and approve it
    refine (Tracked.Frame.lift (appends_awaitSubscribe _ _ (appends_hasInstallPlan p _ _) hg)).wp
      fun x w3 h3 => ?_
    rcases x with e | _
    · exact .inr ⟨Except.error_ne_ok _ _, .inr ⟨rfl, hsub.extend h3⟩⟩
    replace hsub := hsub.extend h3
    simp only []
    refine (Tracked.Frame.lift (appends_approveInstallPlan p m)).wp fun x w4 h4 => ?_
    rcases x with e | _
    · exact .inr ⟨Except.error_ne_ok _ _, .inr ⟨rfl, hsub.extend h4⟩⟩
    replace hsub := hsub.extend h4
    simp only []
  all_goals
    refine (Tracked.Frame.lift (appends_waitForCsv p m policy hg)).wp fun x w5 h5 => ?_
    rcases x with e | _
    · exact .inr ⟨Except.error_ne_ok _ _, .inr ⟨rfl, hsub.extend h5⟩⟩
    replace hsub := hsub.extend h5
    simp only []
    refine (Tracked.Frame.lift (appends_fetchSubscription p _ _)).wp fun x w6 h6 => ?_
    rcases x with e | installed
    · exact .inr ⟨Except.error_ne_ok _ _, .inr ⟨rfl, hsub.extend h6⟩⟩
    replace hsub := hsub.extend h6
    simp only []
    split
    · -- the installed CSV is known: check the operator environment, then record the CSV
      simp only [Tracked.wp_bind, Tracked.wp_pure, Tracked.wp_ite]
      split
      · refine (Tracked.Frame.lift (appends_operatorHasEnv p _ _ _)).wp fun x w7 h7 => ?_
        rcases x with e | has
        · exact .inr ⟨Except.error_ne_ok _ _, .inr ⟨rfl, hsub.extend h7⟩⟩
        replace hsub := hsub.extend h7
        simp only []
        split
        · refine (Tracked.Frame.lift (appends_applyEnv p _ _ _)).wp fun x w8 h8 => ?_
          rcases x with e | applied
          · exact .inr ⟨Except.error_ne_ok _ _, .inr ⟨rfl, hsub.extend h8⟩⟩
          replace hsub := hsub.extend h8
          simp only []
          split
          · refine (Tracked.Frame.lift (appends_waitForCsv p m policy hg)).wp fun x w9 h9 => ?_
            rcases x with e | _
            · exact .inr ⟨Except.error_ne_ok _ _, .inr ⟨rfl, hsub.extend h9⟩⟩
            replace hsub := hsub.extend h9
            simp only []
            refine (Tracked.Frame.lift
              (appends_awaitSubscribe _ _ (appends_operatorHasEnv p _ _ _) hg)).wp
              fun x w10 h10 => ?_
            rcases x with e | _
            · exact .inr ⟨Except.error_ne_ok _ _, .inr ⟨rfl, hsub.extend h10⟩⟩
            simp only [Tracked.wp_log, Tracked.wp_put]
            exact .inl ⟨_, rfl, rfl, hsub.extend h10⟩
          · simp only [Tracked.wp_log, Tracked.wp_put]
            exact .inl ⟨_, rfl, rfl, hsub⟩
        · simp only [Tracked.wp_log, Tracked.wp_put]
          exact .inl ⟨_, rfl, rfl, hsub⟩
      · simp only [Tracked.wp_log, Tracked.wp_put]
        exact .inl ⟨_, rfl, rfl, hsub⟩
    · simp only [Tracked.wp_bind, Tracked.wp_throw]
      exact .inr ⟨Except.error_ne_ok _ _, .inr ⟨rfl, hsub⟩⟩

/-- An unsubscribe ends absent with no CSV when it succeeds; when it fails, the manager is as it
was, or unsubscribing once its lookup of the subscription succeeded. -/
theorem unsubscribe_spec (m : SubscriptionManager) (w : World (Traced σ)) :
    Tracked.wp (unsubscribe p.traced) (fun r m' w' => w.Extends (fun _ => True) w' ∧
      ((r = .ok () ∧ m' = { m with currentCsv := none, state := .absent }) ∨
       (r ≠ .ok () ∧ (m' = m ∨ m' = { m with state := .unsubscribing })))) m w := by
  unfold unsubscribe
  simp only [Tracked.wp_bind, Tracked.wp_current]
  refine (Tracked.Frame.lift (appends_fetchSubscription p _ _)).wp fun x w1 h1 => ?_
  replace h1 := h1.mono fun _ _ => trivial
  rcases x with e | found
  · exact ⟨h1, .inr ⟨Except.error_ne_ok _ _, .inl rfl⟩⟩
  simp only [Tracked.wp_put]
  refine (Tracked.Frame.lift (p.appends_callDeleteTyped _ _ _ _)).wp fun x w2 h2 => ?_
  replace h2 := h1.trans h2
  rcases x with e | deleted
  · exact ⟨h2, .inr ⟨Except.error_ne_ok _ _, .inr rfl⟩⟩
  simp only [Tracked.wp_ite, Tracked.wp_bind, Tracked.wp_log]
  -- whether the subscription was there only changes the log; then the CSVs are deleted
  split
  all_goals
    refine (Tracked.Frame.forIn _ _ fun csvName _ => Tracked.Frame.bind
      (Tracked.Frame.lift (p.appends_callDeleteTyped _ _ _ _)) fun gone => ?_).wp
      fun x w3 h3 => ?_
    · split
      · exact Tracked.Frame.bind (Tracked.Frame.log _ _ _) fun _ => Tracked.Frame.pure _
      · exact Tracked.Frame.pure _
    · rcases x with e | _
      · exact ⟨h2.trans h3, .inr ⟨Except.error_ne_ok _ _, .inr rfl⟩⟩
      · exact ⟨h2.trans h3, .inl ⟨rfl, rfl⟩⟩

/-- How an adopt from `m` and `w` ends, after reading only: as it was; failed with the installed
CSV it read recorded, when the read of that CSV failed; or adopted, subscribing, or subscribed
with the installed CSV it read succeeded. -/
def AdoptEnds (m : SubscriptionManager) (w : World (Traced σ)) (r : Except ProvisionError Bool)
    (m' : SubscriptionManager) (w' : World (Traced σ)) : Prop :=
  ∃ L, w'.transcript = w.transcript ++ L ∧ (∀ x ∈ L, x.IsQuiet) ∧
    (m' = m ∨
     (∃ c, r.isOk = false ∧ m' = { m with currentCsv := some c } ∧
       InstalledRead m.namespaceName m.name c L ∧ FailedRead m.namespaceName c L) ∨
     (r = .ok true ∧ ∃ inst, m' = { m with currentCsv := inst, state := .subscribing }) ∨
     (r = .ok true ∧ ∃ c, m' = { m with currentCsv := some c, state := .subscribed } ∧
       InstalledRead m.namespaceName m.name c L ∧ SucceededRead m.namespaceName c L))

theorem adopt_spec (m : SubscriptionManager) (w : World (Traced σ)) :
    Tracked.wp (adopt p.traced) (AdoptEnds m w) m w := by
  unfold adopt
  simp only [Tracked.wp_bind, Tracked.wp_current, Tracked.wp_lift]
  refine Run.wp_mono (p.wp_callGetTyped _ _ _ _ w) ?_
  rintro x w1 ⟨a1, h1, hfound, _⟩
  have hq1 : ∀ x ∈ [CallRecord.get OlmKind.subscription.resource m.namespaceName m.name a1],
      x.IsQuiet := by simp [CallRecord.IsQuiet, CallRecord.mutation?]
  rcases x with e | _ | s
  · exact ⟨_, h1, hq1, .inl rfl⟩
  · exact ⟨_, h1, hq1, .inl rfl⟩
  obtain ⟨o, rfl, hs⟩ := hfound s rfl
  simp only [Tracked.wp_bind, Tracked.wp_put]
  cases hc : s.installedCsv with
  | none =>
    simp only [Tracked.wp_bind, Tracked.wp_pure, Tracked.wp_update, Tracked.wp_log]
    exact ⟨_, h1, hq1, .inr (.inr (.inl ⟨rfl, none, rfl⟩))⟩
  | some c =>
    simp only [Tracked.wp_bind, Tracked.wp_lift]
    refine Run.wp_mono (p.wp_callGetTyped _ _ _ _ w1) ?_
    rintro x w2 ⟨a2, h2, hfound2, hfail2⟩
    have hL : w2.transcript = w.transcript ++
        [.get OlmKind.subscription.resource m.namespaceName m.name (.ok (some o)),
         .get OlmKind.clusterServiceVersion.resource m.namespaceName c a2] := by
      rw [h2, h1, List.append_assoc]
      rfl
    have hq : ∀ x ∈ [CallRecord.get OlmKind.subscription.resource m.namespaceName m.name
        (.ok (some o)), .get OlmKind.clusterServiceVersion.resource m.namespaceName c a2],
        x.IsQuiet := by
      simp [CallRecord.IsQuiet, CallRecord.mutation?]
    have hinst : InstalledRead m.namespaceName m.name c [CallRecord.get
        OlmKind.subscription.resource m.namespaceName m.name (.ok (some o)),
        .get OlmKind.clusterServiceVersion.resource m.namespaceName c a2] :=
      ⟨o, s, List.mem_cons_self, hs, hc⟩
    rcases x with e | csv
    · exact ⟨_, hL, hq, .inr (.inl ⟨c, rfl, rfl, hinst, a2, by simp, hfail2 rfl⟩)⟩
    simp only [Tracked.wp_pure, Tracked.wp_update, Tracked.wp_log]
    split
    · -- the CSV was read and has succeeded
      rename_i hsucc
      cases csv with
      | none => simp at hsucc
      | some v =>
        obtain ⟨o', rfl, hv⟩ := hfound2 v rfl
        exact ⟨_, hL, hq, .inr (.inr (.inr ⟨rfl, c, rfl, hinst, o', v, by simp, hv,
          by simpa using hsucc⟩))⟩
    · exact ⟨_, hL, hq, .inr (.inr (.inl ⟨rfl, some c, rfl⟩))⟩

end Specs

end SubscriptionManager

/-! ## Calls and their contract -/

open SubscriptionManager

/-- A call a client makes on a subscription manager. A subscribe's fail-fast check runs on the
cluster's own world, so the transcript does not show what it calls. -/
inductive ManagerCall (σ : Type) where
  | subscribe (d : OperatorDescriptor) (approval : InstallPlanApproval)
      (env : List (String × String)) (policy : WaitPolicy)
      (guard : Option (Step σ (Option ClusterEvent)))
  | unsubscribe
  | adopt

namespace ManagerCall

variable {σ : Type}

/-- Whether the call is a subscribe. -/
def IsSubscribe : ManagerCall σ → Prop
  | subscribe .. => True
  | _ => False

/-- Run a call on `p`, recording what the manager asks of it. -/
def run (p : Platform σ) : ManagerCall σ → Tracked SubscriptionManager (Traced σ) Unit
  | subscribe d approval env policy guard =>
    SubscriptionManager.subscribe p.traced d approval env policy (guard.map Traced.lift)
  | unsubscribe => SubscriptionManager.unsubscribe p.traced
  | adopt => do
    let _ ← SubscriptionManager.adopt p.traced
    pure ()

/-- What a call guarantees, from the manager `m` and the world `w` to the result `r`, the
manager `m'` and the world `w'`: it only appends records `L` to the transcript, and
- from a consistent manager it leaves a consistent one, except exactly after an adopt started
  in `absent` that fails having recorded a CSV;
- an adopt that fails and changes the manager has recorded the installed CSV it read, whose own
  read failed;
- a subscribe outside `absent` fails with a lifecycle error, and nothing else happens;
- a subscribe from `absent` that fails is left `absent` unless its create of the subscription
  succeeded;
- only a successful subscribe, or an adopt that read the installed CSV succeeded, makes the
  manager subscribed;
- a successful unsubscribe ends absent with no CSV. -/
def Contract (call : ManagerCall σ) (m : SubscriptionManager) (w : World (Traced σ))
    (r : Except ProvisionError Unit) (m' : SubscriptionManager) (w' : World (Traced σ)) : Prop :=
  ∃ L, w'.transcript = w.transcript ++ L ∧
    (m.Consistent → (m'.Consistent ↔
      ¬(call = adopt ∧ m.state = .absent ∧ r ≠ .ok () ∧ m'.currentCsv.isSome))) ∧
    (call = adopt → r ≠ .ok () → m' ≠ m → ∃ c, m' = { m with currentCsv := some c } ∧
      InstalledRead m.namespaceName m.name c L ∧ FailedRead m.namespaceName c L) ∧
    (∀ d approval env policy guard, call = subscribe d approval env policy guard →
      m.state ≠ .absent → r = .error (.lifecycle ("subscribe to '" ++ d.packageManifestId ++ "'")
        ("while the subscription is " ++ m.state.name)) ∧ m' = m ∧ w' = w) ∧
    (call.IsSubscribe → m.state = .absent → r ≠ .ok () →
      m'.state = .absent ∨ (m'.state = .subscribing ∧ CreatedSubscription m.namespaceName L)) ∧
    (m.state ≠ .subscribed → m'.state = .subscribed →
      (call.IsSubscribe ∧ r = .ok ()) ∨
      (call = adopt ∧ r = .ok () ∧ ∃ c, m'.currentCsv = some c ∧
        InstalledRead m.namespaceName m.name c L ∧ SucceededRead m.namespaceName c L)) ∧
    (call = unsubscribe → r = .ok () → m'.state = .absent ∧ m'.currentCsv = none)

variable (p : Platform σ)

theorem subscribe_contract (d : OperatorDescriptor) (approval : InstallPlanApproval)
    (env : List (String × String)) (policy : WaitPolicy)
    (guard : Option (Step σ (Option ClusterEvent))) (m : SubscriptionManager)
    (w : World (Traced σ)) :
    Tracked.wp ((subscribe d approval env policy guard).run p)
      ((subscribe d approval env policy guard).Contract m w) m w := by
  by_cases hm : m.state = .absent
  · -- from `absent`: subscribed, or failed as it was or subscribing after its create
    have hg : ∀ g, guard.map Traced.lift = some g → Step.Appends CallRecord.IsQuiet g := by
      intro g hg
      cases guard with
      | none => cases hg
      | some g' =>
        cases hg
        exact Step.Appends.lift g'
    refine Tracked.wp_mono (subscribe_from_absent p d approval env policy hg hm w) ?_
    rintro r m' w' (⟨c, rfl, rfl, L, hL, -⟩ | ⟨hr, ⟨rfl, L, hL⟩ | ⟨rfl, L, hL, hcreated⟩⟩)
    · refine ⟨L, hL, fun _ => iff_of_true ?_ (fun h => nomatch h.1), nofun,
        fun _ _ _ _ _ _ h => absurd hm h, fun _ _ h => absurd rfl h,
        fun _ _ => .inl ⟨trivial, rfl⟩, nofun⟩
      simp [Consistent]
    · refine ⟨L, hL, fun hc => iff_of_true hc (fun h => nomatch h.1), nofun,
        fun _ _ _ _ _ _ h => absurd hm h, fun _ _ _ => .inl hm,
        fun h h' => absurd h' h, nofun⟩
    · refine ⟨L, hL, fun _ => iff_of_true ?_ (fun h => nomatch h.1), nofun,
        fun _ _ _ _ _ _ h => absurd hm h, fun _ _ _ => .inr ⟨rfl, hcreated⟩,
        (fun _ h => nomatch h), nofun⟩
      simp [Consistent]
  · -- outside `absent` the subscribe is refused before anything happens
    refine subscribe_refused p.traced d approval env policy _ hm ?_
    refine ⟨[], (List.append_nil _).symm, fun hc => iff_of_true hc (fun h => nomatch h.1), nofun,
      ?_, fun _ h => absurd h hm, fun h h' => absurd h' h, nofun⟩
    intro d' approval' env' policy' guard' heq _
    cases heq
    exact ⟨rfl, rfl, rfl⟩

theorem unsubscribe_contract (m : SubscriptionManager) (w : World (Traced σ)) :
    Tracked.wp (unsubscribe.run p) (unsubscribe.Contract m w) m w := by
  refine Tracked.wp_mono (unsubscribe_spec p m w) ?_
  rintro r m' w' ⟨⟨L, hL, -⟩, ⟨rfl, rfl⟩ | ⟨hr, rfl | rfl⟩⟩
  · refine ⟨L, hL, fun _ => iff_of_true ?_ (fun h => nomatch h.1), nofun, nofun, nofun,
      (fun _ h => nomatch h), fun _ _ => ⟨rfl, rfl⟩⟩
    simp [Consistent]
  · exact ⟨L, hL, fun hc => iff_of_true hc (fun h => nomatch h.1), nofun, nofun, nofun,
      (fun h h' => absurd h' h), fun _ h => absurd h hr⟩
  · refine ⟨L, hL, fun _ => iff_of_true ?_ (fun h => nomatch h.1), nofun, nofun, nofun,
      (fun _ h => nomatch h), fun _ h => absurd h hr⟩
    simp [Consistent]

theorem adopt_contract (m : SubscriptionManager) (w : World (Traced σ)) :
    Tracked.wp (adopt.run p) (adopt.Contract m w) m w := by
  simp only [run, Tracked.wp_bind]
  refine Tracked.wp_mono (adopt_spec p m w) ?_
  rintro r m' w' ⟨L, hL, -, hm' | ⟨c, hr, rfl, hinst, hfail⟩ | ⟨rfl, inst, rfl⟩ |
    ⟨rfl, c, rfl, hinst, hsucc⟩⟩
  · -- nothing changed
    subst m'
    have hkeep : ∀ x : Except ProvisionError Unit, adopt.Contract m w x m w' := by
      intro x
      refine ⟨L, hL, fun hc => iff_of_true hc ?_, fun _ _ h => absurd rfl h, nofun, nofun,
        (fun h h' => absurd h' h), nofun⟩
      rintro ⟨-, habsent, -, hsome⟩
      rw [hc.2 habsent] at hsome
      cases hsome
    cases r <;> exact hkeep _
  · -- failed after recording the installed CSV: consistent exactly when not `absent`
    cases r with
    | ok b => cases hr
    | error e =>
      refine ⟨L, hL, fun hc => ?_, fun _ _ _ => ⟨c, rfl, hinst, hfail⟩, nofun, nofun,
        (fun h h' => absurd h' h), nofun⟩
      constructor
      · rintro ⟨-, habsent⟩ ⟨-, habsent', -, -⟩
        cases habsent habsent'
      · intro hnot
        refine ⟨fun _ => rfl, fun habsent => absurd ⟨rfl, habsent, nofun, rfl⟩ hnot⟩
  · simp only [Tracked.wp_pure]
    refine ⟨L, hL, fun _ => iff_of_true ?_ ?_, fun _ h => absurd rfl h, nofun, nofun,
      (fun _ h => nomatch h), nofun⟩
    · simp [Consistent]
    · rintro ⟨-, -, h, -⟩
      exact h rfl
  · simp only [Tracked.wp_pure]
    refine ⟨L, hL, fun _ => iff_of_true ?_ ?_, fun _ h => absurd rfl h, nofun, nofun,
      fun _ _ => .inr ⟨rfl, rfl, c, rfl, hinst, hsucc⟩, nofun⟩
    · simp [Consistent]
    · rintro ⟨-, -, h, -⟩
      exact h rfl

theorem contract (call : ManagerCall σ) (m : SubscriptionManager) (w : World (Traced σ)) :
    Tracked.wp (call.run p) (call.Contract m w) m w := by
  cases call with
  | subscribe d approval env policy guard => exact subscribe_contract p _ _ _ _ _ m w
  | unsubscribe => exact unsubscribe_contract p m w
  | adopt => exact adopt_contract p m w

/-- The one step that breaks consistency: an adopt started in `absent` that fails after recording
a CSV. -/
def Strands (call : ManagerCall σ) (m : SubscriptionManager) (r : Except ProvisionError Unit)
    (m' : SubscriptionManager) : Prop :=
  call = adopt ∧ m.state = .absent ∧ r ≠ .ok () ∧ m'.currentCsv.isSome

/-- Run calls in order from `m` and `w`, each from where the previous one left the manager and
the world, whatever it answered. -/
def runAll (p : Platform σ) : List (ManagerCall σ) → SubscriptionManager → World (Traced σ) →
    SubscriptionManager × World (Traced σ)
  | [], m, w => (m, w)
  | call :: rest, m, w =>
    let ((_, m'), w') := Step.exec ((call.run p).run.run m) w
    runAll p rest m' w'

/-- No call of the run, each from where the previous one left the manager and the world,
strands a CSV. -/
def NoneStrands (p : Platform σ) : List (ManagerCall σ) → SubscriptionManager →
    World (Traced σ) → Prop
  | [], _, _ => True
  | call :: rest, m, w =>
    let ((r, m'), w') := Step.exec ((call.run p).run.run m) w
    ¬ call.Strands m r m' ∧ NoneStrands p rest m' w'

theorem consistent_step (call : ManagerCall σ) (m : SubscriptionManager) (w : World (Traced σ))
    (hm : m.Consistent) :
    Tracked.wp (call.run p) (fun r m' _ => ¬ call.Strands m r m' → m'.Consistent) m w :=
  Tracked.wp_mono (contract p call m w) fun _ _ _ ⟨_, _, hkept, _⟩ => (hkept hm).mpr

/-- A run keeps a consistent manager consistent, whatever the platform answers, as long as no
adopt of it strands a CSV. -/
theorem consistent_runAll (calls : List (ManagerCall σ)) (m : SubscriptionManager)
    (w : World (Traced σ)) (hm : m.Consistent) (hnone : NoneStrands p calls m w) :
    (runAll p calls m w).1.Consistent := by
  -- induction on the calls, from wherever the previous call left the manager and the world
  induction calls generalizing m w with
  | nil => exact hm
  | cons call rest ih =>
    obtain ⟨hstep, hrest⟩ := hnone
    exact ih _ _ (consistent_step p call m w hm hstep) hrest

end ManagerCall

/-- Every call on a subscription manager honours its contract, whatever the platform answers, and
a run keeps the manager consistent unless one of its adopts strands a CSV. -/
theorem subscription_state_consistency (p : Platform σ) :
    (∀ (call : ManagerCall σ) (m : SubscriptionManager) (w : World (Traced σ)),
      Tracked.wp (call.run p) (call.Contract m w) m w) ∧
    ∀ (calls : List (ManagerCall σ)) (m : SubscriptionManager) (w : World (Traced σ)),
      m.Consistent → ManagerCall.NoneStrands p calls m w →
        (ManagerCall.runAll p calls m w).1.Consistent :=
  ⟨ManagerCall.contract p, ManagerCall.consistent_runAll p⟩

end OlmProvision
