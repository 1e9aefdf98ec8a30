import Mathlib
import OlmProvision.Provision.Wait

/-
Wait timings read from configuration.

Each of the five timings (the poll interval, then the subscribe, deploy, scale and undeploy
timeouts) is read from `<product>.wait.<field>` and then `wait.<field>`: the first of the two
keys with a non-blank value decides, and its value must be a number of seconds, so a bad
product value fails even where the global value is good, while a bad global value behind a
good product value is never read. A timing with no value takes its default. The timings are read
in that order and the first that fails is the error; only when all are read is a zero poll
interval refused. What is proved:

1. `seconds_eq_timing`: one timing, as its two keys give it (`timing`).
2. `fromConfig_cases`: the policy is the first error of the timings, or the policy of their
   values with a zero interval refused; `fromConfig_eq_ok_iff` and `fromConfig_eq_error_iff`
   read both outcomes off it.
3. `pollInterval_pos`: an accepted policy polls at least once a second, the bound the waits'
   schedule rests on.
-/
namespace OlmProvision

namespace WaitPolicy

/-- The two keys a timing is read from, the product's first. -/
def timingKeys (product field : String) : List String :=
  [product ++ ".wait." ++ field, "wait." ++ field]

/-- The first of a timing's keys with a non-blank value, and that value. -/
def timingSource (c : ConfigSource) (product field : String) : Option (String × String) :=
  (timingKeys product field).findSome? (fun k => (c.get k).map (k, ·))

/-- A timing as its keys give it: the seconds of the first non-blank value, or a
configuration value error naming its key when that value is no number of seconds, and
`fallback` when no key has a value. -/
def timing (c : ConfigSource) (product field : String) (fallback : Duration) :
    Except ProvisionError Duration :=
  match timingSource c product field with
  | none => .ok fallback
  | some (k, v) =>
    match Text.readUnsigned 64 v with
    | .ok n => .ok (.ofSecs n)
    | .error e => .error (.configurationValue (.configNumber k v e))

/-- The five timings in the order they are read, each with its default. -/
def timings (c : ConfigSource) (product : String) : List (Except ProvisionError Duration) :=
  [timing c product "poll_interval_secs" default.pollInterval,
    timing c product "subscribe_timeout_secs" default.subscribeTimeout,
    timing c product "deploy_timeout_secs" default.deployTimeout,
    timing c product "scale_timeout_secs" default.scaleTimeout,
    timing c product "undeploy_timeout_secs" default.undeployTimeout]

/-- The timings of a policy, in the order they are read. -/
def durations (p : WaitPolicy) : List Duration :=
  [p.pollInterval, p.subscribeTimeout, p.deployTimeout, p.scaleTimeout, p.undeployTimeout]

/-- The first error among results, in order. -/
def firstError {ε α : Type} (rs : List (Except ε α)) : Option ε :=
  rs.findSome? (fun r => match r with
    | .error e => some e
    | .ok _ => none)

/-- The error of a policy whose poll interval is zero. -/
def zeroIntervalError : ProvisionError :=
  .configuration "the poll interval must be at least one second"

theorem firstError_map_ok {ε α : Type} (xs : List α) :
    firstError (xs.map (Except.ok : α → Except ε α)) = none := by
  simp [firstError, List.findSome?_map, Function.comp_def]

theorem eq_of_durations_map_ok {ε : Type} {p q : WaitPolicy}
    (h : p.durations.map (Except.ok : Duration → Except ε Duration) = q.durations.map .ok) :
    p = q := by
  cases p
  cases q
  simp_all [durations]

/-- A timing is read from the product key when that has a value, and from the global key only
when it has none. -/
theorem seconds_eq_timing (c : ConfigSource) (product field : String) (fallback : Duration) :
    seconds c product field fallback = timing c product field fallback := by
  cases hp : c.get (product ++ ".wait." ++ field) with
  | some v =>
    cases hn : Text.readUnsigned 64 v <;>
      simp [seconds, timing, timingSource, timingKeys, ConfigSource.seconds, hp, hn,
        Except.mapError, bind, Except.bind, pure, Except.pure]
  | none =>
    cases hg : c.get ("wait." ++ field) with
    | some v =>
      cases hn : Text.readUnsigned 64 v <;>
        simp [seconds, timing, timingSource, timingKeys, ConfigSource.seconds, hp, hg, hn,
          Except.mapError, bind, Except.bind, pure, Except.pure]
    | none =>
      simp [seconds, timing, timingSource, timingKeys, ConfigSource.seconds, hp, hg,
        Except.mapError, bind, Except.bind, pure, Except.pure]

theorem timing_ok_cases {c : ConfigSource} {product field : String} {fallback d : Duration}
    (h : timing c product field fallback = .ok d) : d = fallback ∨ ∃ n, d = .ofSecs n := by
  unfold timing at h
  split at h
  · exact .inl (Except.ok.inj h).symm
  · split at h
    · exact .inr ⟨_, (Except.ok.inj h).symm⟩
    · cases h

theorem fromConfig_cases (c : ConfigSource) (p : String) :
    (∃ e, firstError (timings c p) = some e ∧ fromConfig c p = .error e) ∨
    ∃ policy : WaitPolicy, timings c p = policy.durations.map .ok ∧
      fromConfig c p =
        if policy.pollInterval.nanos = 0 then .error zeroIntervalError else .ok policy := by
  simp only [fromConfig, seconds_eq_timing]
  -- the timings are read in order; each case below stops at the first that fails
  cases h1 : timing c p "poll_interval_secs" default.pollInterval with
  | error e => exact .inl ⟨e, by simp [timings, firstError, h1], rfl⟩
  | ok a =>
  cases h2 : timing c p "subscribe_timeout_secs" default.subscribeTimeout with
  | error e => exact .inl ⟨e, by simp [timings, firstError, h1, h2], rfl⟩
  | ok b =>
  cases h3 : timing c p "deploy_timeout_secs" default.deployTimeout with
  | error e => exact .inl ⟨e, by simp [timings, firstError, h1, h2, h3], rfl⟩
  | ok d =>
  cases h4 : timing c p "scale_timeout_secs" default.scaleTimeout with
  | error e => exact .inl ⟨e, by simp [timings, firstError, h1, h2, h3, h4], rfl⟩
  | ok s =>
  cases h5 : timing c p "undeploy_timeout_secs" default.undeployTimeout with
  | error e => exact .inl ⟨e, by simp [timings, firstError, h1, h2, h3, h4, h5], rfl⟩
  | ok u =>
    refine .inr ⟨⟨a, b, d, s, u⟩, by simp [timings, durations, h1, h2, h3, h4, h5], ?_⟩
    rfl

theorem pollInterval_pos {c : ConfigSource} {product : String} {d : Duration}
    (h : timing c product "poll_interval_secs" default.pollInterval = .ok d) (hd : d.nanos ≠ 0) :
    Duration.ofSecs 1 ≤ d := by
  show (Duration.ofSecs 1).nanos ≤ d.nanos
  rcases timing_ok_cases h with rfl | ⟨n, rfl⟩
  · decide
  · simp only [Duration.ofSecs] at hd ⊢
    have hn : n ≠ 0 := fun hn => hd (by simp [hn])
    omega

theorem timing_poll_of_timings {c : ConfigSource} {p : String} {policy : WaitPolicy}
    (h : timings c p = policy.durations.map .ok) :
    timing c p "poll_interval_secs" default.pollInterval = .ok policy.pollInterval := by
  simpa [timings, durations] using congrArg List.head? h

theorem fromConfig_eq_ok_iff (c : ConfigSource) (p : String) (policy : WaitPolicy) :
    fromConfig c p = .ok policy ↔
      timings c p = policy.durations.map .ok ∧ policy.pollInterval.nanos ≠ 0 := by
  rcases fromConfig_cases c p with ⟨e, hfirst, herr⟩ | ⟨read, hread, hpolicy⟩
  · -- a timing failed, so the timings are not all values
    rw [herr]
    refine ⟨fun h => (by cases h), fun ⟨hts, _⟩ => ?_⟩
    rw [hts, firstError_map_ok] at hfirst
    cases hfirst
  · rw [hpolicy, hread]
    constructor
    · intro h
      by_cases h0 : read.pollInterval.nanos = 0
      · simp [h0] at h
      · simp only [h0, if_false, Except.ok.injEq] at h
        subst h
        exact ⟨rfl, h0⟩
    · rintro ⟨hts, h0⟩
      obtain rfl : read = policy := eq_of_durations_map_ok hts
      simp [h0]

theorem fromConfig_eq_error_iff (c : ConfigSource) (p : String) (e : ProvisionError) :
    fromConfig c p = .error e ↔
      firstError (timings c p) = some e ∨
      (firstError (timings c p) = none ∧
        timing c p "poll_interval_secs" default.pollInterval = .ok ⟨0⟩ ∧ e = zeroIntervalError) := by
  rcases fromConfig_cases c p with ⟨e', hfirst, herr⟩ | ⟨read, hread, hpolicy⟩
  · -- the first failing timing is the error; the zero check is never reached
    rw [herr, hfirst]
    constructor
    · rintro ⟨⟩
      exact .inl rfl
    · rintro (h | ⟨h, -⟩)
      · rw [Option.some.inj h]
      · cases h
  · rw [hpolicy, hread, firstError_map_ok, timing_poll_of_timings hread]
    by_cases h0 : read.pollInterval.nanos = 0
    · have hzero : read.pollInterval = ⟨0⟩ := by cases hr : read.pollInterval; simp_all
      simp only [if_true, hzero, reduceCtorEq, false_or, true_and]
      constructor
      · rintro ⟨⟩
        rfl
      · rintro rfl
        rfl
    · have hne : read.pollInterval ≠ ⟨0⟩ := fun h => h0 (by rw [h])
      simp [h0, hne]

end WaitPolicy

open WaitPolicy in
/-- Each timing is read down `<product>.wait.<field>` and `wait.<field>` to its default; the
first bad timing or a zero poll interval is the error, and each stage takes its own timeout. -/
theorem wait_policy_reads_each_timing_down_its_keys (c : ConfigSource) (p : String) :
    (∀ policy, fromConfig c p = .ok policy ↔
      timings c p = policy.durations.map .ok ∧ policy.pollInterval.nanos ≠ 0) ∧
    (∀ e, fromConfig c p = .error e ↔
      firstError (timings c p) = some e ∨
      (firstError (timings c p) = none ∧
        timing c p "poll_interval_secs" default.pollInterval = .ok ⟨0⟩ ∧
        e = .configuration "the poll interval must be at least one second")) ∧
    (∀ policy, fromConfig c p = .ok policy → Duration.ofSecs 1 ≤ policy.pollInterval) ∧
    ∀ (policy : WaitPolicy) (stage : Stage) (description : String),
      (policy.spec stage description).pollInterval = policy.pollInterval ∧
      (policy.spec .subscribe description).timeout = policy.subscribeTimeout ∧
      (policy.spec .configure description).timeout = policy.subscribeTimeout ∧
      (policy.spec .deploy description).timeout = policy.deployTimeout ∧
      (policy.spec .scale description).timeout = policy.scaleTimeout ∧
      (policy.spec .undeploy description).timeout = policy.undeployTimeout ∧
      (policy.spec .unsubscribe description).timeout = policy.undeployTimeout := by
  refine ⟨fromConfig_eq_ok_iff c p, fromConfig_eq_error_iff c p, fun policy h => ?_,
    fun policy stage description => ?_⟩
  · obtain ⟨hts, h0⟩ := (fromConfig_eq_ok_iff c p policy).mp h
    exact pollInterval_pos (timing_poll_of_timings hts) h0
  · cases stage <;> exact ⟨rfl, rfl, rfl, rfl, rfl, rfl, rfl⟩

-- a product value is read where it is good; the bad global value behind it is never read
example : (WaitPolicy.fromConfig (.table [("kafka.wait.deploy_timeout_secs", " 42 "),
    ("wait.deploy_timeout_secs", "soon")]) "kafka").toOption =
      some { WaitPolicy.default with deployTimeout := .ofSecs 42 } := by
  decide

end OlmProvision
