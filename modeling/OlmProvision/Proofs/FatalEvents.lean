import OlmProvision.Proofs.ProgramLogic
import OlmProvision.Provision.FailFast
import OlmProvision.Cluster.Simulated
import OlmProvision.Provision.Manifest

/-
Which event a fail-fast guard reports.

A guard is built on a baseline captured from the events `E` of a namespace. Later it lists the
namespace's events `L` again and reports, among the events of `L` that its policy finds fatal
and that are new with respect to `E`, the first one of the least time.

The specification is said without the baseline's fields:

* `FailFastPolicy.Accepts`: a `Warning` event whose reason is one of the policy's reasons and
  whose object's name starts with the policy's prefix, when it has one;
* `IsNew start E e`: `e` is not an event of `E` and happened at or after all of them (at or
  after the process start `start` when `E` is empty), or it is an event of `E` updated past all
  of them;
* `FirstEarliest P l e`: `e` satisfies `P`, and is the first event of `l` satisfying `P` with
  the least time among those.

What is proved:

1. The reference time of a baseline is the latest time of `E`, the process start when `E` is
   empty (`le_latest`, `exists_latest_eq`), so `precedes` decides `IsNew`
   (`precedes_fromEvents_iff`).
2. `earliestEvent l` is the first event of `l` of the least time (`earliestEvent_eq_some_iff`).
3. `guard_reports_first_new_fatal_event`: the capture records the events it lists, and the guard
   reports an event iff a new fatal one is listed, then the first of the least time; nothing
   when the listing fails; and never an event of `E` as it was seen at capture.
4. The policy of a product manifest adds its extra reasons to the default ones one by one and
   then removes its ignored reasons one by one, so a removal always wins over an addition
   whatever the lists hold (`FailFastSettings.mem_policy_reasons`); with the prefix it sets,
   `fatal_under_manifest_settings_iff` says which events the product's policy finds fatal.
-/
namespace OlmProvision

namespace Timestamp

theorem lt_iff {a b : Timestamp} :
    a < b ↔ a.secs < b.secs ∨ (a.secs = b.secs ∧ a.subsecNanos < b.subsecNanos) := Iff.rfl

theorem le_iff {a b : Timestamp} :
    a ≤ b ↔ a.secs < b.secs ∨ (a.secs = b.secs ∧ a.subsecNanos ≤ b.subsecNanos) := Iff.rfl

variable {a b c : Timestamp}

theorem le_refl (a : Timestamp) : a ≤ a := by
  rw [le_iff]
  omega

theorem lt_irrefl (a : Timestamp) : ¬a < a := by
  rw [lt_iff]
  omega

theorem le_of_lt (h : a < b) : a ≤ b := by
  rw [lt_iff] at h
  rw [le_iff]
  omega

theorem le_trans (h₁ : a ≤ b) (h₂ : b ≤ c) : a ≤ c := by
  rw [le_iff] at h₁ h₂ ⊢
  omega

theorem lt_of_le_of_lt (h₁ : a ≤ b) (h₂ : b < c) : a < c := by
  rw [le_iff] at h₁
  rw [lt_iff] at h₂ ⊢
  omega

theorem lt_of_lt_of_le (h₁ : a < b) (h₂ : b ≤ c) : a < c := by
  rw [lt_iff] at h₁ ⊢
  rw [le_iff] at h₂
  omega

theorem not_lt : ¬a < b ↔ b ≤ a := by
  rw [lt_iff, le_iff]
  omega

end Timestamp

/-- `e` satisfies `P` and is the first event of `l` satisfying `P` with the least time among
those: every such event before it is later, every one after it is not earlier. -/
def FirstEarliest (P : ClusterEvent → Prop) (l : List ClusterEvent) (e : ClusterEvent) : Prop :=
  ∃ pre post, l = pre ++ e :: post ∧ P e ∧ (∀ x ∈ pre, P x → e.timestamp < x.timestamp) ∧
    ∀ x ∈ post, P x → e.timestamp ≤ x.timestamp

namespace FirstEarliest

variable {P : ClusterEvent → Prop} {e x : ClusterEvent} {l xs : List ClusterEvent}

theorem not_nil : ¬FirstEarliest P [] e := by
  rintro ⟨pre, post, h, -⟩
  cases pre <;> cases h

theorem cons_iff :
    FirstEarliest P (x :: xs) e ↔
      (x = e ∧ P e ∧ ∀ y ∈ xs, P y → e.timestamp ≤ y.timestamp) ∨
        ((P x → e.timestamp < x.timestamp) ∧ FirstEarliest P xs e) := by
  constructor
  · rintro ⟨pre, post, hl, he, hpre, hpost⟩
    cases pre with
    | nil =>
      obtain ⟨rfl, rfl⟩ := List.cons.inj hl
      exact .inl ⟨rfl, he, hpost⟩
    | cons y pre =>
      obtain ⟨rfl, rfl⟩ := List.cons.inj hl
      exact .inr ⟨hpre x (by simp), pre, post, rfl, he,
        fun z hz => hpre z (List.mem_cons_of_mem x hz), hpost⟩
  · rintro (⟨rfl, he, hxs⟩ | ⟨hx, pre, post, rfl, he, hpre, hpost⟩)
    · exact ⟨[], xs, rfl, he, nofun, hxs⟩
    · refine ⟨x :: pre, post, rfl, he, ?_, hpost⟩
      intro z hz
      rcases List.mem_cons.mp hz with rfl | hz
      · exact hx
      · exact hpre z hz

theorem le (h : FirstEarliest P l e) : ∀ y ∈ l, P y → e.timestamp ≤ y.timestamp := by
  obtain ⟨pre, post, rfl, -, hpre, hpost⟩ := h
  intro y hy hP
  rcases List.mem_append.mp hy with hy | hy
  · exact Timestamp.le_of_lt (hpre y hy hP)
  · rcases List.mem_cons.mp hy with rfl | hy
    · exact Timestamp.le_refl _
    · exact hpost y hy hP

theorem prop (h : FirstEarliest P l e) : P e := by
  obtain ⟨_, _, _, he, _⟩ := h
  exact he

/-- Among the events of `l.filter q` the first earliest is the first earliest event of `l`
that `q` accepts. -/
theorem filter_iff (q : ClusterEvent → Bool) :
    FirstEarliest (fun _ => True) (l.filter q) e ↔ FirstEarliest (fun y => q y = true) l e := by
  induction l with
  | nil => simp [not_nil]
  | cons x xs ih =>
    rw [List.filter_cons, cons_iff]
    split
    · rename_i hx
      simp only [cons_iff, ih, List.mem_filter, true_and, forall_const, hx]
      constructor
      · rintro (⟨rfl, h⟩ | h)
        · exact .inl ⟨rfl, hx, fun y hy _ => h y ⟨hy, ‹_›⟩⟩
        · exact .inr h
      · rintro (⟨rfl, -, h⟩ | h)
        · exact .inl ⟨rfl, fun y ⟨hy, hq⟩ => h y hy hq⟩
        · exact .inr h
    · rename_i hx
      rw [ih]
      constructor
      · intro h
        exact .inr ⟨fun h' => absurd h' hx, h⟩
      · rintro (⟨rfl, he, -⟩ | ⟨-, h⟩)
        · exact absurd he hx
        · exact h

end FirstEarliest

/-- One step of the fold in `earliestEvent`: keep the best so far unless `x` is earlier. -/
theorem foldl_earlier_iff {e : ClusterEvent} : ∀ (xs : List ClusterEvent) (b : ClusterEvent),
    xs.foldl (fun best x => if decide (x.timestamp < best.timestamp) then x else best) b = e ↔
      FirstEarliest (fun _ => True) (b :: xs) e
  | [], b => by
    simp only [List.foldl_nil, FirstEarliest.cons_iff, FirstEarliest.not_nil, List.not_mem_nil,
      true_and, and_false, or_false]
    simp
  | x :: xs, b => by
    rw [List.foldl_cons, foldl_earlier_iff xs]
    by_cases hx : x.timestamp < b.timestamp
    · -- `x` replaces `b`, which is then later than the event found
      simp only [hx, decide_true, if_true]
      constructor
      · intro h
        refine FirstEarliest.cons_iff.mpr (.inr ⟨fun _ => ?_, h⟩)
        exact Timestamp.lt_of_le_of_lt (h.le x (by simp) trivial) hx
      · intro h
        rcases FirstEarliest.cons_iff.mp h with ⟨rfl, -, hle⟩ | ⟨-, h⟩
        · exact absurd (Timestamp.lt_of_lt_of_le hx (hle x (by simp) trivial))
            (Timestamp.lt_irrefl _)
        · exact h
    · -- `b` stays, and `x` is not earlier than it
      have hbx : b.timestamp ≤ x.timestamp := Timestamp.not_lt.mp hx
      simp only [hx, decide_false, Bool.false_eq_true, if_false]
      simp only [FirstEarliest.cons_iff, List.mem_cons, true_implies, forall_eq_or_imp]
      constructor
      · rintro (⟨rfl, -, hle⟩ | ⟨hlt, h⟩)
        · exact .inl ⟨rfl, trivial, hbx, hle⟩
        · exact .inr ⟨hlt, .inr ⟨Timestamp.lt_of_lt_of_le hlt hbx, h⟩⟩
      · rintro (⟨rfl, -, -, hle⟩ | ⟨hlt, ⟨rfl, -, hle⟩ | ⟨-, h⟩⟩)
        · exact .inl ⟨rfl, trivial, hle⟩
        · exact absurd (Timestamp.lt_of_lt_of_le hlt hbx) (Timestamp.lt_irrefl _)
        · exact .inr ⟨hlt, h⟩

theorem earliestEvent_eq_some_iff {l : List ClusterEvent} {e : ClusterEvent} :
    earliestEvent l = some e ↔ FirstEarliest (fun _ => True) l e := by
  cases l with
  | nil => simp [earliestEvent, FirstEarliest.not_nil]
  | cons b xs => rw [earliestEvent, Option.some.injEq, foldl_earlier_iff]

theorem earliestEvent_eq_none_iff {l : List ClusterEvent} : earliestEvent l = none ↔ l = [] := by
  cases l <;> simp [earliestEvent]

namespace FailFastPolicy

/-- The events a policy finds fatal: `Warning` events with one of its reasons, of an object
whose name starts with its prefix when it has one. -/
def Accepts (p : FailFastPolicy) (e : ClusterEvent) : Prop :=
  e.severity = .warning ∧ e.reason ∈ p.reasons ∧
    ∀ pfx, p.objectPrefix = some pfx → e.involvedName.startsWith pfx = true

theorem isFatal_iff (p : FailFastPolicy) (e : ClusterEvent) : p.isFatal e = true ↔ p.Accepts e := by
  unfold isFatal Accepts
  cases p.objectPrefix <;> simp [and_assoc]

end FailFastPolicy

/-- `e` is new to the events `E` seen at capture, `start` being the process start: an event
not seen then happened at or after all of them (at or after `start` when there were none), and
an event seen then has been updated past all of them. -/
def IsNew (start : Timestamp) (E : List ClusterEvent) (e : ClusterEvent) : Prop :=
  (e.id ∉ E.map (·.id) ∧ (E = [] → start ≤ e.timestamp) ∧ ∀ x ∈ E, x.timestamp ≤ e.timestamp) ∨
    (e.id ∈ E.map (·.id) ∧ ∀ x ∈ E, x.timestamp < e.timestamp)

theorem not_isNew_of_seen {start : Timestamp} {E : List ClusterEvent} {e x : ClusterEvent}
    (hx : x ∈ E) (hid : e.id = x.id) (hts : e.timestamp = x.timestamp) : ¬IsNew start E e := by
  rintro (⟨hnot, -⟩ | ⟨-, hlt⟩)
  · exact hnot (List.mem_map.mpr ⟨x, hx, hid.symm⟩)
  · exact Timestamp.lt_irrefl _ (hts ▸ hlt x hx)

namespace FailFastBaseline

/-- The fold of `latest` ends at a time not before where it starts, nor before any event it
passes, and that is where it started or the time of one of those events. -/
theorem foldl_later (t : Timestamp) (xs : List ClusterEvent) :
    let r := xs.foldl (fun t x => if decide (t < x.timestamp) then x.timestamp else t) t
    t ≤ r ∧ (∀ x ∈ xs, x.timestamp ≤ r) ∧ (r = t ∨ ∃ x ∈ xs, x.timestamp = r) := by
  induction xs generalizing t with
  | nil => exact ⟨Timestamp.le_refl t, nofun, .inl rfl⟩
  | cons x xs ih =>
    obtain ⟨hle, hall, hwhere⟩ := ih (if decide (t < x.timestamp) then x.timestamp else t)
    -- the time after `x`: the later of `t` and `x`'s
    have ht : t ≤ (if decide (t < x.timestamp) then x.timestamp else t) ∧
        x.timestamp ≤ (if decide (t < x.timestamp) then x.timestamp else t) := by
      by_cases h : t < x.timestamp
      · simp only [h, decide_true, if_true]
        exact ⟨Timestamp.le_of_lt h, Timestamp.le_refl _⟩
      · simp only [h, decide_false, Bool.false_eq_true, if_false]
        exact ⟨Timestamp.le_refl _, Timestamp.not_lt.mp h⟩
    refine ⟨Timestamp.le_trans ht.1 hle, ?_, ?_⟩
    · intro y hy
      rcases List.mem_cons.mp hy with rfl | hy
      · exact Timestamp.le_trans ht.2 hle
      · exact hall y hy
    · rw [List.foldl_cons]
      rcases hwhere with heq | ⟨y, hy, hyr⟩
      · by_cases h : t < x.timestamp
        · exact .inr ⟨x, by simp, by simpa [h] using heq.symm⟩
        · exact .inl (by simpa [h] using heq)
      · exact .inr ⟨y, List.mem_cons_of_mem x hy, hyr⟩

theorem latest_nil (start : Timestamp) : latest start [] = start := rfl

@[simp] theorem namespaceName_fromEvents (start : Timestamp) (ns : String) (E : List ClusterEvent) :
    (fromEvents start ns E).namespaceName = ns := rfl

theorem le_latest (start : Timestamp) {E : List ClusterEvent} {x : ClusterEvent} (hx : x ∈ E) :
    x.timestamp ≤ latest start E := by
  cases E with
  | nil => cases hx
  | cons e rest =>
    obtain ⟨hle, hall, -⟩ := foldl_later e.timestamp rest
    rcases List.mem_cons.mp hx with rfl | hx
    · exact hle
    · exact hall x hx

theorem exists_latest_eq (start : Timestamp) {E : List ClusterEvent} (hE : E ≠ []) :
    ∃ x ∈ E, x.timestamp = latest start E := by
  cases E with
  | nil => exact absurd rfl hE
  | cons e rest =>
    obtain ⟨-, -, heq | ⟨x, hx, hxr⟩⟩ := foldl_later e.timestamp rest
    · exact ⟨e, by simp, heq.symm⟩
    · exact ⟨x, List.mem_cons_of_mem e hx, hxr⟩

theorem precedes_fromEvents_iff (start : Timestamp) (ns : String) (E : List ClusterEvent)
    (e : ClusterEvent) : (fromEvents start ns E).precedes e = true ↔ IsNew start E e := by
  unfold precedes fromEvents IsNew
  dsimp only
  by_cases hid : e.id ∈ E.map (·.id)
  · have hE : E ≠ [] := by
      rintro rfl
      cases hid
    simp only [List.contains_iff_mem.mpr hid, if_true, decide_eq_true_eq, hid, not_true_eq_false,
      false_and, true_and, false_or]
    constructor
    · intro h x hx
      exact Timestamp.lt_of_le_of_lt (le_latest start hx) h
    · intro h
      obtain ⟨x, hx, hxr⟩ := exists_latest_eq start hE
      exact hxr ▸ h x hx
  · have hnot : (E.map (·.id)).contains e.id = false := by
      simpa [List.contains_iff_mem] using hid
    simp only [hnot, Bool.false_eq_true, if_false, decide_eq_true_eq, hid, not_false_eq_true,
      true_and, false_and, or_false]
    constructor
    · intro h
      refine ⟨fun hnil => by simpa [hnil, latest_nil] using h, ?_⟩
      intro x hx
      exact Timestamp.le_trans (le_latest start hx) h
    · rintro ⟨hnil, hall⟩
      by_cases hE : E = []
      · subst hE
        exact hnil rfl
      · obtain ⟨x, hx, hxr⟩ := exists_latest_eq start hE
        exact hxr ▸ hall x hx

end FailFastBaseline

/-- The capture lists the namespace's events and builds the baseline from them, with the
process start of the world it is in. -/
theorem captureBaseline_of_listed {σ : Type} (P : Platform σ) (ns : String) (w₀ : World σ)
    {E : List ClusterEvent} (hE : ((P.listEvents ns).exec w₀).1 = .ok E) :
    Step.wp (captureBaseline P ns)
      (fun b _ => b = .ok (.fromEvents ((P.listEvents ns).exec w₀).2.start ns E)) w₀ := by
  unfold captureBaseline
  rw [Step.wp_bind, Step.wp_iff_exec (P.listEvents ns), hE]
  simp only [Step.wp_bind, Step.wp_get, Step.wp_log, Step.wp_pure]

namespace FailFastGuard

theorem earliest_fatalAmong_eq_some_iff (g : FailFastGuard) (L : List ClusterEvent)
    (e : ClusterEvent) :
    earliestEvent (g.fatalAmong L) = some e ↔
      FirstEarliest (fun y => g.policy.Accepts y ∧ g.baseline.precedes y = true) L e := by
  rw [earliestEvent_eq_some_iff, fatalAmong, FirstEarliest.filter_iff]
  simp only [Bool.and_eq_true, FailFastPolicy.isFatal_iff]

theorem earliest_fatalAmong_isSome_iff (g : FailFastGuard) (L : List ClusterEvent) :
    (earliestEvent (g.fatalAmong L)).isSome ↔
      ∃ e ∈ L, g.policy.Accepts e ∧ g.baseline.precedes e = true := by
  rw [← Option.ne_none_iff_isSome, Ne, earliestEvent_eq_none_iff, fatalAmong,
    List.filter_eq_nil_iff]
  simp [FailFastPolicy.isFatal_iff]

end FailFastGuard

/-- The guard reports nothing when its listing fails, and otherwise the first event of the least
time among the listed ones that its policy accepts and that are new to the captured `E`. -/
theorem guard_reports_first_new_fatal_event {σ : Type} (P : Platform σ) (ns : String)
    (policy : FailFastPolicy) (w₀ w : World σ) (E : List ClusterEvent)
    (hE : ((P.listEvents ns).exec w₀).1 = .ok E) :
    let start := ((P.listEvents ns).exec w₀).2.start
    let fresh := fun e => policy.Accepts e ∧ IsNew start E e
    Step.wp (captureBaseline P ns) (fun b _ => b = .ok (.fromEvents start ns E)) w₀ ∧
    Step.wp (FailFastGuard.fatalEvent ⟨.fromEvents start ns E, policy⟩ P) (fun found _ =>
      match ((P.listEvents ns).exec w).1 with
      | .error _ => found = none
      | .ok L =>
        (found.isSome ↔ ∃ e ∈ L, fresh e) ∧ (∀ e, found = some e → FirstEarliest fresh L e) ∧
          ∀ e, found = some e → ∀ x ∈ E, ¬(e.id = x.id ∧ e.timestamp = x.timestamp)) w := by
  intro start fresh
  refine ⟨captureBaseline_of_listed P ns w₀ hE, ?_⟩
  -- the guard asks for the baseline's namespace, which is `ns`
  unfold FailFastGuard.fatalEvent
  simp only [FailFastBaseline.namespaceName_fromEvents]
  rw [Step.wp_bind, Step.wp_iff_exec (P.listEvents ns)]
  cases ((P.listEvents ns).exec w).1 with
  | error e => simp only [Step.wp_bind, Step.wp_log, Step.wp_pure]
  | ok L =>
    simp only [Step.wp_pure]
    have hfresh : ∀ y, (policy.Accepts y ∧
        (FailFastBaseline.fromEvents start ns E).precedes y = true) ↔ fresh y := fun y => by
      rw [FailFastBaseline.precedes_fromEvents_iff]
    have hfirst : ∀ e, earliestEvent (FailFastGuard.fatalAmong ⟨.fromEvents start ns E, policy⟩ L) =
        some e → FirstEarliest fresh L e := by
      intro e he
      have h := (FailFastGuard.earliest_fatalAmong_eq_some_iff _ L e).mp he
      simpa only [hfresh] using h
    refine ⟨?_, hfirst, ?_⟩
    · rw [FailFastGuard.earliest_fatalAmong_isSome_iff]
      simp only [hfresh]
    · rintro e he x hx ⟨hid, hts⟩
      exact not_isNew_of_seen hx hid hts (hfirst e he).prop.2

/-- Capture over the simulated cluster with one warning already there, and a check after a new
warning in the same second. -/
theorem guard_reports_first_new_fatal_event_same_second :
    let seen : ClusterEvent :=
      { id := "old", namespaceName := "test", timestamp := ⟨100, 0⟩, severity := .warning,
        reason := "BackOff", message := "", involvedKind := "Pod", involvedName := "old-pod" }
    let recent : ClusterEvent := { seen with id := "new", involvedName := "new-pod" }
    let w₀ : World SimCluster :=
      ⟨{ settings := {}, state := { events := [seen] } }, ⟨0⟩, [], ⟨100, 0⟩, ⟨100, 0⟩⟩
    let w : World SimCluster :=
      ⟨{ settings := {}, state := { events := [seen, recent] } }, ⟨0⟩, [], ⟨100, 0⟩, ⟨100, 0⟩⟩
    ((SimCluster.platform.listEvents "test").exec w₀).1 = .ok [seen] ∧
    let start := ((SimCluster.platform.listEvents "test").exec w₀).2.start
    let fresh := fun e => FailFastPolicy.default.Accepts e ∧ IsNew start [seen] e
    Step.wp (captureBaseline SimCluster.platform "test")
      (fun b _ => b = .ok (.fromEvents start "test" [seen])) w₀ ∧
    Step.wp (FailFastGuard.fatalEvent ⟨.fromEvents start "test" [seen], .default⟩
        SimCluster.platform) (fun found _ =>
      match ((SimCluster.platform.listEvents "test").exec w).1 with
      | .error _ => found = none
      | .ok L =>
        (found.isSome ↔ ∃ e ∈ L, fresh e) ∧ (∀ e, found = some e → FirstEarliest fresh L e) ∧
          ∀ e, found = some e → ∀ x ∈ [seen], ¬(e.id = x.id ∧ e.timestamp = x.timestamp)) w := by
  intro seen recent w₀ w
  have hE : ((SimCluster.platform.listEvents "test").exec w₀).1 = .ok [seen] := rfl
  exact ⟨hE, guard_reports_first_new_fatal_event SimCluster.platform "test" .default w₀ w [seen] hE⟩

/-! ## The policy of a product manifest -/

namespace FailFastPolicy

theorem mem_reasons_withReason (p : FailFastPolicy) (reason r : String) :
    r ∈ (p.withReason reason).reasons ↔ r ∈ p.reasons ∨ r = reason := by
  unfold withReason
  split
  · next hmem =>
    -- the reason is already there, so the policy is left as it is
    have hreason : reason ∈ p.reasons := List.contains_iff_mem.mp hmem
    exact ⟨.inl, fun h => h.elim id fun hr => hr ▸ hreason⟩
  · simp

theorem mem_reasons_withoutReason (p : FailFastPolicy) (reason r : String) :
    r ∈ (p.withoutReason reason).reasons ↔ r ∈ p.reasons ∧ r ≠ reason := by
  simp [withoutReason]

theorem objectPrefix_withReason (p : FailFastPolicy) (reason : String) :
    (p.withReason reason).objectPrefix = p.objectPrefix := by
  unfold withReason
  split <;> rfl

theorem objectPrefix_withoutReason (p : FailFastPolicy) (reason : String) :
    (p.withoutReason reason).objectPrefix = p.objectPrefix := rfl

theorem mem_reasons_foldl_withReason (xs : List String) (p : FailFastPolicy) (r : String) :
    r ∈ (xs.foldl withReason p).reasons ↔ r ∈ p.reasons ∨ r ∈ xs := by
  induction xs generalizing p with
  | nil => simp
  | cons x rest ih => rw [List.foldl_cons, ih, mem_reasons_withReason, List.mem_cons, or_assoc]

theorem mem_reasons_foldl_withoutReason (xs : List String) (p : FailFastPolicy) (r : String) :
    r ∈ (xs.foldl withoutReason p).reasons ↔ r ∈ p.reasons ∧ r ∉ xs := by
  induction xs generalizing p with
  | nil => simp
  | cons x rest ih =>
    rw [List.foldl_cons, ih, mem_reasons_withoutReason, List.mem_cons, not_or, and_assoc]

theorem objectPrefix_foldl {update : FailFastPolicy → String → FailFastPolicy}
    (h : ∀ p reason, (update p reason).objectPrefix = p.objectPrefix) (xs : List String)
    (p : FailFastPolicy) : (xs.foldl update p).objectPrefix = p.objectPrefix := by
  induction xs generalizing p with
  | nil => rfl
  | cons x rest ih => rw [List.foldl_cons, ih, h]

end FailFastPolicy

namespace FailFastSettings

theorem mem_policy_reasons (s : FailFastSettings) (r : String) :
    r ∈ s.policy.reasons ↔
      (r ∈ defaultFatalReasons ∨ r ∈ s.extraReasons) ∧ r ∉ s.ignoredReasons := by
  simp only [policy, FailFastPolicy.mem_reasons_foldl_withoutReason,
    FailFastPolicy.mem_reasons_foldl_withReason]
  -- the prefix is set before any reason is added and changes none
  cases s.appPrefix <;> rfl

theorem policy_objectPrefix (s : FailFastSettings) : s.policy.objectPrefix = s.appPrefix := by
  simp only [policy, FailFastPolicy.objectPrefix_foldl FailFastPolicy.objectPrefix_withoutReason,
    FailFastPolicy.objectPrefix_foldl FailFastPolicy.objectPrefix_withReason]
  cases s.appPrefix <;> rfl

end FailFastSettings

/-- A manifest's policy finds fatal the `Warning` events whose reason is a default or extra reason
and not an ignored one, on objects under the manifest's prefix when it sets one. -/
theorem fatal_under_manifest_settings_iff (m : ProductManifest) (e : ClusterEvent) :
    m.adapter.failFastPolicy.isFatal e = true ↔
      e.severity = .warning ∧
        (e.reason ∈ defaultFatalReasons ∨ e.reason ∈ m.failFast.extraReasons) ∧
        e.reason ∉ m.failFast.ignoredReasons ∧
        ∀ pfx, m.failFast.appPrefix = some pfx → e.involvedName.startsWith pfx = true := by
  rw [FailFastPolicy.isFatal_iff, FailFastPolicy.Accepts]
  simp only [ProductManifest.adapter, FailFastSettings.mem_policy_reasons,
    FailFastSettings.policy_objectPrefix, and_assoc]

end OlmProvision
