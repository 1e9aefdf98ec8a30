import OlmProvision.Provision.Wait

/-
  The poll schedule of a wait

  A wait evaluates its predicate, asks its fail-fast guard when the predicate does not hold,
  gives up once the timeout has passed, and otherwise sleeps for the poll interval cut short
  to the time left. Here `waitFor` runs against a probe: a predicate and a guard that answer
  from scripts, one answer per evaluation and one per consultation, and write down when they
  were asked. The clock moves only in the wait's own sleeps.

  What is proved, for a timeout `T` and a poll interval `I` with `0 < I` or `T = 0`:
    1. `pollTime_lt_iff`, `pollTime_succ` — the `k`-th evaluation is due at `min (k * I) T`;
       that is before `T` for all but the last of `⌈T / I⌉ + 1` polls, and the shortened
       sleep takes the clock from one poll time to the next.
    2. `loop_ends`, `loop_continues` — one poll: a poll that decides the wait (the predicate
       held, or the guard reported an event) or that comes at `T` ends it, with the outcome
       `outcomeAt` gives; any other poll sleeps until the next poll time.
    3. `loop_settles` — by induction over the polls left, the loop ends at the first deciding
       poll, or at the last poll if none decides, before its fuel runs out.
    4. `waitFor_poll_schedule` — the whole wait: `Success` or `FailFast` at the first
       deciding poll among the first `⌈T / I⌉ + 1`, at that poll's time; otherwise `TimedOut`
       at exactly `T`, after exactly `⌈T / I⌉ + 1` evaluations. The predicate is evaluated
       once per poll and the guard asked exactly at the polls whose evaluation did not hold.
       Only whether an answer is `ok true` matters, so an error counts as `ok false`.
-/

namespace OlmProvision

/-- What a probe saw of a wait: the times at which the predicate was evaluated, oldest first,
and the polls (numbered from `0`) at which the guard was asked. -/
structure Probe where
  evaluations : List Duration
  consulted : List Nat

namespace Probe

/-- A predicate that answers from a script, the `n`-th evaluation with `answers n`, and writes
down the time of each evaluation. -/
def predicate (answers : Nat → Except String Bool) : Step Probe (Except String Bool) := do
  let w ← get
  set { w with cluster := { w.cluster with evaluations := w.cluster.evaluations ++ [w.elapsed] } }
  return answers w.cluster.evaluations.length

/-- A guard that answers from a script, the `n`-th consultation with `fatal n`, and writes
down the poll it was asked at, that of the last evaluation. -/
def guard (fatal : Nat → Option ClusterEvent) : Step Probe (Option ClusterEvent) := do
  let w ← get
  set { w with cluster := { w.cluster with
    consulted := w.cluster.consulted ++ [w.cluster.evaluations.length - 1] } }
  return fatal w.cluster.consulted.length

end Probe

/-- Whether a predicate's answer is that it holds; an error is not. -/
def held : Except String Bool → Bool
  | .ok true => true
  | _ => false

theorem held_eq_true {r : Except String Bool} : held r = true ↔ r = .ok true := by
  cases r with
  | error e => simp [held]
  | ok b => cases b <;> simp [held]

theorem eq_of_held_eq_false {r : Except String Bool} (h : held r = false) :
    r = .ok false ∨ ∃ e, r = .error e := by
  cases r with
  | error e => exact .inr ⟨e, rfl⟩
  | ok b => cases b <;> simp_all [held]

/-! ## The schedule -/

namespace WaitSpec

variable (spec : WaitSpec)

/-- The time of the `k`-th evaluation, from the start of the wait: `k` intervals, but never
past the timeout. -/
def pollTime (k : Nat) : Duration := ⟨min (k * spec.pollInterval.nanos) spec.timeout.nanos⟩

/-- The number of evaluations of a wait that runs out, `⌈T / I⌉ + 1`. -/
def pollCount : Nat :=
  (spec.timeout.nanos + spec.pollInterval.nanos - 1) / spec.pollInterval.nanos + 1

theorem pollCount_pos : 0 < spec.pollCount := Nat.succ_pos _

theorem pollTime_zero : spec.pollTime 0 = ⟨0⟩ := by
  simp [pollTime]

theorem pollTime_le (k : Nat) : (spec.pollTime k).nanos ≤ spec.timeout.nanos :=
  Nat.min_le_right _ _

theorem pollCount_of_timeout_zero (hT : spec.timeout.nanos = 0) : spec.pollCount = 1 := by
  have hq : (spec.pollInterval.nanos - 1) / spec.pollInterval.nanos = 0 := by
    rcases Nat.eq_zero_or_pos spec.pollInterval.nanos with h | h
    · simp [h]
    · exact Nat.div_eq_of_lt (by omega)
  simp [pollCount, hT, hq]

theorem pollTime_lt_iff (hI : 0 < spec.pollInterval.nanos ∨ spec.timeout.nanos = 0) (k : Nat) :
    (spec.pollTime k).nanos < spec.timeout.nanos ↔ k + 1 < spec.pollCount := by
  rcases hI with hI | hT
  · have hq : k < (spec.timeout.nanos + spec.pollInterval.nanos - 1) / spec.pollInterval.nanos ↔
        k * spec.pollInterval.nanos < spec.timeout.nanos := by
      rw [Nat.lt_iff_add_one_le, Nat.le_div_iff_mul_le hI, Nat.succ_mul]
      omega
    simp only [pollTime, pollCount]
    rw [Nat.add_lt_add_iff_right, hq]
    omega
  · rw [spec.pollCount_of_timeout_zero hT]
    simp only [pollTime, hT]
    omega

theorem pollTime_succ {k : Nat} (h : (spec.pollTime k).nanos < spec.timeout.nanos) :
    spec.pollTime (k + 1) =
      spec.pollTime k + Duration.min spec.pollInterval (spec.timeout - spec.pollTime k) := by
  simp only [pollTime] at h ⊢
  ext
  simp only [Duration.add_nanos, Duration.min_nanos, Duration.sub_nanos, Nat.succ_mul]
  omega

theorem pollTime_last (hI : 0 < spec.pollInterval.nanos ∨ spec.timeout.nanos = 0) :
    spec.pollTime (spec.pollCount - 1) = spec.timeout := by
  have h : ¬ (spec.pollTime (spec.pollCount - 1)).nanos < spec.timeout.nanos := fun h' => by
    have := (spec.pollTime_lt_iff hI _).mp h'
    omega
  have := spec.pollTime_le (spec.pollCount - 1)
  ext
  omega

/-- The loop's fuel covers every poll of the schedule. -/
theorem pollCount_le_evaluationBound
    (hI : 0 < spec.pollInterval.nanos ∨ spec.timeout.nanos = 0) :
    spec.pollCount ≤ spec.evaluationBound := by
  rcases hI with hI | hT
  · have h : (spec.timeout.nanos + spec.pollInterval.nanos - 1) / spec.pollInterval.nanos ≤
        spec.timeout.nanos / spec.pollInterval.nanos + 1 := by
      rw [← Nat.add_div_right _ hI]
      exact Nat.div_le_div_right (by omega)
    simp only [pollCount, evaluationBound, Nat.pos_iff_ne_zero.mp hI, if_false]
    omega
  · rw [spec.pollCount_of_timeout_zero hT]
    simp only [evaluationBound, hT, if_true, Nat.zero_div]
    split <;> omega

end WaitSpec

/-! ## One poll, and the loop -/

section Polls

variable (spec : WaitSpec) (answers : Nat → Except String Bool)
  (guard : Option (Nat → Option ClusterEvent)) (start : Duration)

/-- The event the guard reports at poll `k`, when there is a guard. -/
def fatalAt (k : Nat) : Option ClusterEvent := guard.bind (· k)

/-- Whether poll `k` decides the wait: the predicate held, or the guard reported an event. -/
def decides (k : Nat) : Bool := held (answers k) || (fatalAt guard k).isSome

/-- The outcome of a wait that ends at poll `k`. -/
def outcomeAt (k : Nat) : Outcome :=
  if held (answers k) then .success
  else match fatalAt guard k with
    | some e => .failFast e
    | none => .timedOut

/-- The probe after polls `0, …, k` of a wait that started at `start`: an evaluation at each
poll time, and a consultation of the guard, if there is one, at every poll but a last one
whose evaluation held. -/
def Probe.after (k : Nat) (last : Bool) : Probe :=
  { evaluations := (List.range (k + 1)).map (fun j => start + spec.pollTime j)
    consulted := if guard.isSome then List.range k ++ (if last then [] else [k]) else [] }

/-- The world as poll `k` begins: the clock at the poll's time, and polls `0, …, k - 1` seen by
the probe, none of which held. -/
def AtPoll (k : Nat) (w : World Probe) : Prop :=
  w.elapsed = start + spec.pollTime k ∧
    w.cluster = { evaluations := (List.range k).map (fun j => start + spec.pollTime j)
                  consulted := if guard.isSome then List.range k else [] }

/-- A wait that ended at poll `k`: its outcome, its clock and what the probe saw. -/
def Ended (k : Nat) (r : Outcome × World Probe) : Prop :=
  r.1 = outcomeAt answers guard k ∧ r.2.elapsed = start + spec.pollTime k ∧
    r.2.cluster = Probe.after spec guard start k (held (answers k))

theorem loop_ends {k fuel : Nat} {w : World Probe} (hw : AtPoll spec guard start k w)
    (hk : decides answers guard k = true ∨ spec.timeout.nanos ≤ (spec.pollTime k).nanos) :
    Ended spec answers guard start k
      (Id.run ((waitFor.loop spec (Probe.predicate answers) (guard.map Probe.guard) start
        (fuel + 1)).run w)) := by
  obtain ⟨he, hc⟩ := hw
  cases hheld : held (answers k) with
  | true =>
    -- the predicate held: success, before the guard is asked
    have ha := held_eq_true.mp hheld
    simp [waitFor.loop, Probe.predicate, Step.elapsed, Step.log, Ended, outcomeAt,
      Probe.after, held, ha, he, hc, List.range_succ]
  | false =>
    cases guard with
    | none =>
      -- without a guard only the timeout ends a poll that did not hold
      have ht : spec.timeout.nanos ≤ (spec.pollTime k).nanos := by
        simpa [decides, hheld, fatalAt] using hk
      rcases eq_of_held_eq_false hheld with ha | ⟨e, ha⟩ <;>
        simp [waitFor.loop, Probe.predicate, Step.elapsed, Step.log, Ended, outcomeAt,
          Probe.after, fatalAt, held, ha, he, hc, ht, List.range_succ]
    | some f =>
      cases hf : f k with
      | none =>
        -- the guard is silent: the timeout ends the wait
        have ht : spec.timeout.nanos ≤ (spec.pollTime k).nanos := by
          simpa [decides, hheld, fatalAt, hf] using hk
        rcases eq_of_held_eq_false hheld with ha | ⟨e, ha⟩ <;>
          simp [waitFor.loop, Probe.predicate, Probe.guard, Step.elapsed, Step.log, Ended,
            outcomeAt, Probe.after, fatalAt, held, hf, ha, he, hc, ht, List.range_succ]
      | some ev =>
        -- the guard reports `ev`: the wait fails fast
        rcases eq_of_held_eq_false hheld with ha | ⟨e, ha⟩ <;>
          simp [waitFor.loop, Probe.predicate, Probe.guard, Step.elapsed, Step.log, Ended,
            outcomeAt, Probe.after, fatalAt, held, hf, ha, he, hc, List.range_succ]

theorem loop_continues {k fuel : Nat} {w : World Probe} (hw : AtPoll spec guard start k w)
    (hk : decides answers guard k = false) (ht : (spec.pollTime k).nanos < spec.timeout.nanos) :
    ∃ w', Id.run ((waitFor.loop spec (Probe.predicate answers) (guard.map Probe.guard) start
        (fuel + 1)).run w) =
      Id.run ((waitFor.loop spec (Probe.predicate answers) (guard.map Probe.guard) start
        fuel).run w') ∧ AtPoll spec guard start (k + 1) w' := by
  obtain ⟨he, hc⟩ := hw
  have hlen : w.cluster.evaluations.length = k := by simp [hc]
  have hlater : ¬ spec.timeout.nanos ≤ (spec.pollTime k).nanos := by omega
  obtain ⟨hheld, hfatal⟩ : held (answers k) = false ∧ fatalAt guard k = none := by
    simpa [decides] using hk
  -- the clock after the sleep, whatever the poll saw
  have hclock : start + spec.pollTime k +
      Duration.min spec.pollInterval (spec.timeout - (start + spec.pollTime k - start)) =
      start + spec.pollTime (k + 1) := by
    rw [spec.pollTime_succ ht]
    ext
    simp only [Duration.add_nanos, Duration.min_nanos, Duration.sub_nanos]
    omega
  cases guard with
  | none =>
    rcases eq_of_held_eq_false hheld with ha | ⟨e, ha⟩ <;>
      exact ⟨_, by simp [waitFor.loop, Probe.predicate, Step.elapsed, Step.log, Step.sleep,
        ha, hlen, he, hlater]; rfl, hclock, by simp [hc, List.range_succ]⟩
  | some f =>
    have hcons : w.cluster.consulted.length = k := by simp [hc]
    have hf : f k = none := by simpa [fatalAt] using hfatal
    rcases eq_of_held_eq_false hheld with ha | ⟨e, ha⟩ <;>
      exact ⟨_, by simp [waitFor.loop, Probe.predicate, Probe.guard, Step.elapsed, Step.log,
        Step.sleep, ha, hf, hlen, hcons, he, hlater]; rfl, hclock,
        by simp [hc, List.range_succ]⟩

/-- From poll `k` on, with fuel for the `n + 1` polls left, the loop ends at the first poll
that decides the wait, or at the last poll. -/
theorem loop_settles (hI : 0 < spec.pollInterval.nanos ∨ spec.timeout.nanos = 0) (n : Nat) :
    ∀ {k fuel : Nat} {w : World Probe}, k + n + 1 = spec.pollCount → n < fuel →
      AtPoll spec guard start k w →
      Ended spec answers guard start
        (((List.range' k (n + 1)).find? (decides answers guard)).getD (k + n))
        (Id.run ((waitFor.loop spec (Probe.predicate answers) (guard.map Probe.guard) start
          fuel).run w)) := by
  induction n with
  | zero =>
    intro k fuel w hN hfuel hw
    obtain ⟨fuel, rfl⟩ : ∃ f, fuel = f + 1 := ⟨fuel - 1, by omega⟩
    -- the last poll comes at the timeout
    have ht : spec.timeout.nanos ≤ (spec.pollTime k).nanos := by
      refine Nat.le_of_not_lt fun h => ?_
      have := (spec.pollTime_lt_iff hI k).mp h
      omega
    have hend := @loop_ends spec answers guard start k fuel w hw (.inr ht)
    cases hd : decides answers guard k <;> simpa [List.range'_succ, hd] using hend
  | succ n ih =>
    intro k fuel w hN hfuel hw
    obtain ⟨fuel, rfl⟩ : ∃ f, fuel = f + 1 := ⟨fuel - 1, by omega⟩
    rw [List.range'_succ, List.find?_cons]
    cases hd : decides answers guard k with
    | true => simpa using loop_ends spec answers guard start hw (.inl hd)
    | false =>
      have ht : (spec.pollTime k).nanos < spec.timeout.nanos :=
        (spec.pollTime_lt_iff hI k).mpr (by omega)
      obtain ⟨w', hrun, hw'⟩ := loop_continues spec answers guard start hw hd ht
      rw [hrun, show k + (n + 1) = k + 1 + n by omega]
      exact ih (by omega) (by omega) hw'

end Polls

/-! ## The whole wait -/

/-- A wait ends at the first of its first `⌈T / I⌉ + 1` polls, due at `min (k * I) T`, at which
the predicate held or the guard reported, and otherwise times out at exactly `T`. -/
theorem waitFor_poll_schedule (spec : WaitSpec)
    (hI : 0 < spec.pollInterval.nanos ∨ spec.timeout.nanos = 0)
    (answers : Nat → Except String Bool) (guard : Option (Nat → Option ClusterEvent))
    (w : World Probe) :
    let r := Id.run ((waitFor spec (Probe.predicate answers) (guard.map Probe.guard)).run
      { w with cluster := ⟨[], []⟩ })
    (∀ k, (List.range spec.pollCount).find? (decides answers guard) = some k →
      r.1 = outcomeAt answers guard k ∧ r.2.elapsed = w.elapsed + spec.pollTime k ∧
        r.2.cluster = Probe.after spec guard w.elapsed k (held (answers k))) ∧
    ((List.range spec.pollCount).find? (decides answers guard) = none →
      r.1 = .timedOut ∧ r.2.elapsed = w.elapsed + spec.timeout ∧
        r.2.cluster = Probe.after spec guard w.elapsed (spec.pollCount - 1) false) := by
  intro r
  have hstart : AtPoll spec guard w.elapsed 0
      { w with cluster := ⟨[], []⟩, logs := ⟨.wait, spec.logLevel, "Waiting up to " ++
        spec.timeout.text ++ " for " ++ spec.description⟩ :: w.logs } := by
    refine ⟨?_, by simp⟩
    ext
    simp [WaitSpec.pollTime]
  have hsettles := @loop_settles spec answers guard w.elapsed hI (spec.pollCount - 1) 0
    spec.evaluationBound _ (by have := spec.pollCount_pos; omega)
    (by have := spec.pollCount_pos; have := spec.pollCount_le_evaluationBound hI; omega) hstart
  have hr : r = Id.run ((waitFor.loop spec (Probe.predicate answers) (guard.map Probe.guard)
      w.elapsed spec.evaluationBound).run { w with cluster := ⟨[], []⟩, logs :=
        ⟨.wait, spec.logLevel, "Waiting up to " ++ spec.timeout.text ++ " for " ++
          spec.description⟩ :: w.logs }) := by
    simp [r, waitFor, Step.elapsed, Step.log]
  rw [← hr, Nat.zero_add, Nat.sub_add_cancel spec.pollCount_pos, ← List.range_eq_range']
    at hsettles
  refine ⟨fun k hk => ?_, fun hk => ?_⟩
  · rw [hk, Option.getD_some] at hsettles
    exact hsettles
  · -- no poll decides: the last poll comes at the timeout and times out
    have hlast : decides answers guard (spec.pollCount - 1) = false := Bool.eq_false_iff.mpr
      (List.find?_eq_none.mp hk _ (List.mem_range.mpr (by have := spec.pollCount_pos; omega)))
    obtain ⟨hheld, hfatal⟩ : held (answers (spec.pollCount - 1)) = false ∧
        fatalAt guard (spec.pollCount - 1) = none := by
      simpa [decides] using hlast
    obtain ⟨h1, h2, h3⟩ := hsettles
    simp only [hk, Option.getD_none] at h1 h2 h3
    refine ⟨by simp [h1, outcomeAt, hheld, hfatal], ?_, by rw [h3, hheld]⟩
    rw [h2, spec.pollTime_last hI]

/-- A wait of 30 s polled every 7 s, whose predicate never holds and that has no guard, meets
the schedule: it times out at 30 s after evaluations at 0, 7, 14, 21 and 28 s. -/
theorem waitFor_poll_schedule_thirty_by_seven :
    let spec : WaitSpec :=
      { description := "never", timeout := .ofSecs 30, pollInterval := .ofSecs 7 }
    let w : World Probe := ⟨⟨[], []⟩, ⟨0⟩, [], ⟨0, 0⟩, ⟨0, 0⟩⟩
    (0 < spec.pollInterval.nanos ∨ spec.timeout.nanos = 0) ∧
    let r := Id.run ((waitFor spec (Probe.predicate fun _ => .ok false)
      (Option.map Probe.guard none)).run { w with cluster := ⟨[], []⟩ })
    (∀ k, (List.range spec.pollCount).find? (decides (fun _ => .ok false) none) = some k →
      r.1 = outcomeAt (fun _ => .ok false) none k ∧ r.2.elapsed = w.elapsed + spec.pollTime k ∧
        r.2.cluster = Probe.after spec none w.elapsed k (held (.ok false))) ∧
    ((List.range spec.pollCount).find? (decides (fun _ => .ok false) none) = none →
      r.1 = .timedOut ∧ r.2.elapsed = w.elapsed + spec.timeout ∧
        r.2.cluster = Probe.after spec none w.elapsed (spec.pollCount - 1) false) := by
  intro spec w
  exact ⟨.inl (by decide),
    waitFor_poll_schedule spec (.inl (by decide)) (fun _ => .ok false) none w⟩

end OlmProvision
