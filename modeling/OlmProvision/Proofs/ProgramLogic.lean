import OlmProvision.Provision.Wait

/-
A program logic for provisioning computations.

Provisioning code runs in three monads over a world: `Step` (the world alone), `Run` (a step
that may fail with a provisioner error) and `Tracked` (a run that also changes a local state,
such as a manager's or an orchestrator's own fields). All three are deterministic, so the
weakest precondition `wp c Q` of a computation is simply `Q` of its one run: of its answer (an
`Except` for `Run` and `Tracked`), of the local state it leaves and of the world it leaves.

The `@[simp]` rules push `wp` through `pure`, `bind`, `throw`, the local state and the lifts
between the monads, so a spec lemma unfolds its definition once and walks through it with
`simp only`, splitting where the code matches on an answer and citing the spec lemmas of what
it calls. `Triple P c Q` packages a proved spec for callers, and `Tracked.wp_forIn` is the
invariant rule for `for` loops, indexed by the part of the list already done.
-/
namespace OlmProvision

theorem Except.error_ne_ok {ε α : Type} (e : ε) (a : α) : (Except.error e : Except ε α) ≠ .ok a := by
  rintro ⟨⟩

namespace Step

variable {σ α β : Type}

/-- The answer of `c` from the world `w`, with the world it leaves. -/
def exec (c : Step σ α) (w : World σ) : α × World σ := Id.run (c.run w)

/-- `Q` holds of the answer of `c` from `w` and of the world it leaves. -/
def wp (c : Step σ α) (Q : α → World σ → Prop) (w : World σ) : Prop :=
  Q (c.exec w).1 (c.exec w).2

@[simp] theorem wp_pure (a : α) (Q : α → World σ → Prop) (w : World σ) :
    wp (pure a) Q w = Q a w := rfl

@[simp] theorem wp_bind (c : Step σ α) (f : α → Step σ β) (Q : β → World σ → Prop)
    (w : World σ) : wp (c >>= f) Q w = wp c (fun a => wp (f a) Q) w := rfl

@[simp] theorem wp_get (Q : World σ → World σ → Prop) (w : World σ) :
    wp get Q w = Q w w := rfl

@[simp] theorem wp_modify (f : World σ → World σ) (Q : PUnit → World σ → Prop) (w : World σ) :
    wp (modify f) Q w = Q () (f w) := rfl

@[simp] theorem wp_log (source : LogSource) (level : LogLevel) (message : String)
    (Q : Unit → World σ → Prop) (w : World σ) :
    wp (log source level message) Q w = Q () { w with logs := ⟨source, level, message⟩ :: w.logs } :=
  rfl

@[simp] theorem wp_sleep (d : Duration) (Q : Unit → World σ → Prop) (w : World σ) :
    wp (sleep d) Q w = Q () { w with elapsed := w.elapsed + d } := rfl

@[simp] theorem wp_elapsed (Q : Duration → World σ → Prop) (w : World σ) :
    wp elapsed Q w = Q w.elapsed w := rfl

@[simp] theorem wp_ite (c : Prop) [Decidable c] (t e : Step σ α) (Q : α → World σ → Prop)
    (w : World σ) : wp (if c then t else e) Q w = if c then wp t Q w else wp e Q w := by
  split <;> rfl

/-- A computation whose answer is only known through its run, such as a call to an arbitrary
platform. -/
theorem wp_iff_exec (c : Step σ α) (Q : α → World σ → Prop) (w : World σ) :
    wp c Q w ↔ Q (c.exec w).1 (c.exec w).2 := Iff.rfl

theorem wp_mono {c : Step σ α} {Q Q' : α → World σ → Prop} {w : World σ} (h : wp c Q w)
    (hQ : ∀ a w', Q a w' → Q' a w') : wp c Q' w :=
  hQ _ _ h

theorem wp_of_forall {c : Step σ α} {Q : α → World σ → Prop} {w : World σ} (h : ∀ a w', Q a w') :
    wp c Q w :=
  h _ _

theorem wp_and {c : Step σ α} {Q Q' : α → World σ → Prop} {w : World σ} (h : wp c Q w)
    (h' : wp c Q' w) : wp c (fun a w' => Q a w' ∧ Q' a w') w :=
  ⟨h, h'⟩

/-- Started in a world where `P` holds, `c` ends in one where `Q` holds of its answer. -/
def Triple (P : World σ → Prop) (c : Step σ α) (Q : α → World σ → Prop) : Prop :=
  ∀ w, P w → wp c Q w

theorem Triple.apply {P : World σ → Prop} {c : Step σ α} {Q Q' : α → World σ → Prop}
    {w : World σ} (h : Triple P c Q) (hP : P w) (hQ : ∀ a w', Q a w' → Q' a w') : wp c Q' w :=
  wp_mono (h w hP) hQ

end Step

namespace Run

variable {σ α β : Type}

/-- `Q` holds of the result of `r` from `w`, a value or an error, and of the world it leaves. -/
def wp (r : Run σ α) (Q : Except ProvisionError α → World σ → Prop) (w : World σ) : Prop :=
  Step.wp r.run Q w

@[simp] theorem wp_pure (a : α) (Q : Except ProvisionError α → World σ → Prop) (w : World σ) :
    wp (pure a) Q w = Q (.ok a) w := rfl

@[simp] theorem wp_throw (e : ProvisionError) (Q : Except ProvisionError α → World σ → Prop)
    (w : World σ) : wp (throw e) Q w = Q (.error e) w := rfl

@[simp] theorem wp_bind (r : Run σ α) (f : α → Run σ β)
    (Q : Except ProvisionError β → World σ → Prop) (w : World σ) :
    wp (r >>= f) Q w = wp r (fun x w' => match x with
      | .ok a => wp (f a) Q w'
      | .error e => Q (.error e) w') w := by
  show Step.wp (r.run >>= ExceptT.bindCont f) Q w = _
  rw [Step.wp_bind]
  congr
  funext x w'
  cases x <;> rfl

@[simp] theorem wp_mk (c : Step σ (Except ProvisionError α))
    (Q : Except ProvisionError α → World σ → Prop) (w : World σ) :
    wp (ExceptT.mk c) Q w = Step.wp c Q w := rfl

@[simp] theorem wp_lift (c : Step σ α) (Q : Except ProvisionError α → World σ → Prop)
    (w : World σ) : wp (ExceptT.lift c) Q w = Step.wp c (fun a => Q (.ok a)) w := rfl

@[simp] theorem wp_monadLift (c : Step σ α) (Q : Except ProvisionError α → World σ → Prop)
    (w : World σ) : wp (monadLift c : Run σ α) Q w = Step.wp c (fun a => Q (.ok a)) w := rfl

@[simp] theorem wp_log (source : LogSource) (level : LogLevel) (message : String)
    (Q : Except ProvisionError Unit → World σ → Prop) (w : World σ) :
    wp (log source level message) Q w =
      Q (.ok ()) { w with logs := ⟨source, level, message⟩ :: w.logs } := rfl

@[simp] theorem wp_call (action : String) (c : Call σ α)
    (Q : Except ProvisionError α → World σ → Prop) (w : World σ) :
    wp (call action c) Q w = Step.wp c (fun x w' => match x with
      | .ok v => Q (.ok v) w'
      | .error e => Q (.error (.client action e)) w') w := by
  simp only [call, wp_bind, wp_monadLift]
  congr
  funext x w'
  cases x <;> rfl

@[simp] theorem wp_ite (c : Prop) [Decidable c] (t e : Run σ α)
    (Q : Except ProvisionError α → World σ → Prop) (w : World σ) :
    wp (if c then t else e) Q w = if c then wp t Q w else wp e Q w := by
  split <;> rfl

theorem wp_mono {r : Run σ α} {Q Q' : Except ProvisionError α → World σ → Prop} {w : World σ}
    (h : wp r Q w) (hQ : ∀ x w', Q x w' → Q' x w') : wp r Q' w :=
  hQ _ _ h

theorem wp_answer_iff {r : Run σ α} {a : α} {w : World σ} (h : wp r (fun x _ => x = .ok a) w)
    (b : α) : wp r (fun x _ => x = .ok b) w ↔ a = b := by
  change (r.run.exec w).1 = .ok a at h
  change (r.run.exec w).1 = .ok b ↔ a = b
  rw [h]
  exact ⟨Except.ok.inj, fun e => e ▸ rfl⟩

/-- A wait predicate answers what its computation answers, an error by its text. -/
@[simp] theorem wp_predicate (r : Run σ Bool) (Q : Except String Bool → World σ → Prop)
    (w : World σ) :
    Step.wp (predicate r) Q w = wp r (fun x w' => match x with
      | .ok b => Q (.ok b) w'
      | .error e => Q (.error (e.message?.getD "")) w') w := by
  show Step.wp (r.run >>= _) Q w = _
  rw [Step.wp_bind]
  congr
  funext x w'
  cases x <;> rfl

/-- Started in a world where `P` holds, `r` ends in one where `Q` holds of its result. -/
def Triple (P : World σ → Prop) (r : Run σ α) (Q : Except ProvisionError α → World σ → Prop) :
    Prop :=
  Step.Triple P r.run Q

theorem Triple.apply {P : World σ → Prop} {r : Run σ α}
    {Q Q' : Except ProvisionError α → World σ → Prop} {w : World σ} (h : Triple P r Q)
    (hP : P w) (hQ : ∀ x w', Q x w' → Q' x w') : wp r Q' w :=
  Step.Triple.apply h hP hQ

end Run

namespace Tracked

variable {μ ν σ α β γ : Type}

/-- `Q` holds of the result of `t` from the local state `m` and the world `w`, and of the local
state and the world it leaves. -/
def wp (t : Tracked μ σ α) (Q : Except ProvisionError α → μ → World σ → Prop) (m : μ)
    (w : World σ) : Prop :=
  Step.wp (t.run.run m) (fun p => Q p.1 p.2) w

@[simp] theorem wp_pure (a : α) (Q : Except ProvisionError α → μ → World σ → Prop) (m : μ)
    (w : World σ) : wp (pure a) Q m w = Q (.ok a) m w := rfl

@[simp] theorem wp_throw (e : ProvisionError) (Q : Except ProvisionError α → μ → World σ → Prop)
    (m : μ) (w : World σ) : wp (throw e) Q m w = Q (.error e) m w := rfl

@[simp] theorem wp_bind (t : Tracked μ σ α) (f : α → Tracked μ σ β)
    (Q : Except ProvisionError β → μ → World σ → Prop) (m : μ) (w : World σ) :
    wp (t >>= f) Q m w = wp t (fun x m' w' => match x with
      | .ok a => wp (f a) Q m' w'
      | .error e => Q (.error e) m' w') m w := by
  show Step.wp ((t.run >>= ExceptT.bindCont f).run m) _ w = _
  rw [StateT.run_bind, Step.wp_bind]
  congr
  funext p w'
  rcases p with ⟨x, m'⟩
  cases x <;> rfl

@[simp] theorem wp_current (Q : Except ProvisionError μ → μ → World σ → Prop) (m : μ)
    (w : World σ) : wp current Q m w = Q (.ok m) m w := rfl

@[simp] theorem wp_put (m' : μ) (Q : Except ProvisionError Unit → μ → World σ → Prop) (m : μ)
    (w : World σ) : wp (put m') Q m w = Q (.ok ()) m' w := rfl

@[simp] theorem wp_update (f : μ → μ) (Q : Except ProvisionError Unit → μ → World σ → Prop)
    (m : μ) (w : World σ) : wp (update f) Q m w = Q (.ok ()) (f m) w := rfl

@[simp] theorem wp_lift (r : Run σ α) (Q : Except ProvisionError α → μ → World σ → Prop) (m : μ)
    (w : World σ) : wp (lift r) Q m w = Run.wp r (fun x w' => Q x m w') w := rfl

@[simp] theorem wp_step (c : Step σ α) (Q : Except ProvisionError α → μ → World σ → Prop) (m : μ)
    (w : World σ) : wp (step c) Q m w = Step.wp c (fun a w' => Q (.ok a) m w') w := rfl

@[simp] theorem wp_log (source : LogSource) (level : LogLevel) (message : String)
    (Q : Except ProvisionError Unit → μ → World σ → Prop) (m : μ) (w : World σ) :
    wp (log source level message) Q m w =
      Q (.ok ()) m { w with logs := ⟨source, level, message⟩ :: w.logs } := rfl

@[simp] theorem wp_ofExcept (x : Except ProvisionError α)
    (Q : Except ProvisionError α → μ → World σ → Prop) (m : μ) (w : World σ) :
    wp (ofExcept x) Q m w = Q x m w := by
  cases x <;> rfl

/-- A computation on a part of the local state writes the part back, also when it fails. -/
@[simp] theorem wp_focus (read : μ → ν) (write : μ → ν → μ) (t : Tracked ν σ α)
    (Q : Except ProvisionError α → μ → World σ → Prop) (m : μ) (w : World σ) :
    wp (focus read write t) Q m w = wp t (fun x n w' => Q x (write m n) w') (read m) w := rfl

@[simp] theorem wp_ite (c : Prop) [Decidable c] (t e : Tracked μ σ α)
    (Q : Except ProvisionError α → μ → World σ → Prop) (m : μ) (w : World σ) :
    wp (if c then t else e) Q m w = if c then wp t Q m w else wp e Q m w := by
  split <;> rfl

theorem wp_mono {t : Tracked μ σ α} {Q Q' : Except ProvisionError α → μ → World σ → Prop}
    {m : μ} {w : World σ} (h : wp t Q m w) (hQ : ∀ x m' w', Q x m' w' → Q' x m' w') :
    wp t Q' m w :=
  hQ _ _ _ h

theorem wp_and {t : Tracked μ σ α} {Q Q' : Except ProvisionError α → μ → World σ → Prop}
    {m : μ} {w : World σ} (h : wp t Q m w) (h' : wp t Q' m w) :
    wp t (fun x m' w' => Q x m' w' ∧ Q' x m' w') m w :=
  ⟨h, h'⟩

theorem wp_of_forall {t : Tracked μ σ α} {Q : Except ProvisionError α → μ → World σ → Prop}
    {m : μ} {w : World σ} (h : ∀ x m' w', Q x m' w') : wp t Q m w :=
  h _ _ _

/-- The invariant rule for a loop over a list: `inv done b` holds after the elements `done`
with the loop state `b`; a body that stops early or fails must give the postcondition. -/
theorem wp_forIn {l : List γ} {b : β} {f : γ → β → Tracked μ σ (ForInStep β)}
    {Q : Except ProvisionError β → μ → World σ → Prop} {m : μ} {w : World σ}
    (inv : List γ → β → μ → World σ → Prop)
    (hstart : inv [] b m w)
    (hbody : ∀ done x rest b m w, l = done ++ x :: rest → inv done b m w →
      wp (f x b) (fun r m' w' => match r with
        | .ok (.yield b') => inv (done ++ [x]) b' m' w'
        | .ok (.done b') => Q (.ok b') m' w'
        | .error e => Q (.error e) m' w') m w)
    (hend : ∀ b m w, inv l b m w → Q (.ok b) m w) :
    wp (forIn l b f) Q m w := by
  -- the loop over what is left, after `done`; induction on what is left
  have key : ∀ rest done b m w, l = done ++ rest → inv done b m w →
      wp (forIn rest b f) Q m w := by
    intro rest
    induction rest with
    | nil =>
      intro done b m w hl hinv
      rw [List.append_nil] at hl
      subst hl
      exact hend b m w hinv
    | cons x rest ih =>
      intro done b m w hl hinv
      rw [List.forIn_cons, wp_bind]
      refine wp_mono (hbody done x rest b m w hl hinv) ?_
      rintro ((e | (b' | b')) m' w') h
      · exact h
      · exact h
      · exact ih (done ++ [x]) b' m' w' (by simp [hl]) h
  exact key l [] b m w rfl hstart

/-- Started with local state and world where `P` holds, `t` ends where `Q` holds of its
result. -/
def Triple (P : μ → World σ → Prop) (t : Tracked μ σ α)
    (Q : Except ProvisionError α → μ → World σ → Prop) : Prop :=
  ∀ m w, P m w → wp t Q m w

theorem Triple.apply {P : μ → World σ → Prop} {t : Tracked μ σ α}
    {Q Q' : Except ProvisionError α → μ → World σ → Prop} {m : μ} {w : World σ}
    (h : Triple P t Q) (hP : P m w) (hQ : ∀ x m' w', Q x m' w' → Q' x m' w') : wp t Q' m w :=
  wp_mono (h m w hP) hQ

end Tracked

end OlmProvision
