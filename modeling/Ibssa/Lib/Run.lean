import Mathlib.Data.List.Induction

/-!
# Runs of a partial step function

A machine is a step function that may refuse an event. A run is the list of
events it took, and every property of reachable states is proved the same
way: it holds before the first event, and one more event keeps it. The
property may look at the events too, which is how a history enters a
statement without being part of the state.

`outputs` is what a run puts out on the way. `Guarded` is for properties that
hold only as long as every event met some condition in the state it was taken
in. A loop over a list is the case where no event is refused, and
`loop_induction` is its rule.
-/

namespace Machine

variable {σ ε : Type}

def run (step : σ → ε → Option σ) (s : σ) (es : List ε) : Option σ := es.foldlM step s

theorem run_append (step : σ → ε → Option σ) (s : σ) (es es' : List ε) :
    run step s (es ++ es') = (run step s es).bind fun t => run step t es' := by
  rw [run, List.foldlM_append]
  rfl

theorem run_snoc (step : σ → ε → Option σ) (s : σ) (es : List ε) (e : ε) :
    run step s (es ++ [e]) = (run step s es).bind fun t => step t e := by
  rw [run_append]
  congr 1
  funext t
  simp [run]

theorem run_snoc_eq_some {step : σ → ε → Option σ} {s s' : σ} {es : List ε} {e : ε} :
    run step s (es ++ [e]) = some s' ↔ ∃ t, run step s es = some t ∧ step t e = some s' := by
  rw [run_snoc, Option.bind_eq_some_iff]

/-- The induction rule: true at the start, kept by one more event. -/
theorem run_induction {step : σ → ε → Option σ} {s₀ : σ} {P : List ε → σ → Prop}
    (init : P [] s₀)
    (next : ∀ es e s s', run step s₀ es = some s → P es s → step s e = some s' →
      P (es ++ [e]) s') :
    ∀ {es : List ε} {s : σ}, run step s₀ es = some s → P es s := by
  intro es
  induction es using List.reverseRecOn with
  | nil =>
      intro s h
      injection h with h
      exact h ▸ init
  | append_singleton es e ih =>
      intro s' h
      obtain ⟨s, hs, he⟩ := run_snoc_eq_some.mp h
      exact next es e s s' hs (ih hs) he

/-- Every event of the run met the condition in the state it was taken in. -/
def Guarded (step : σ → ε → Option σ) (ok : σ → ε → Prop) (s₀ : σ) (es : List ε) : Prop :=
  ∀ es₁ e es₂ s, es = es₁ ++ e :: es₂ → run step s₀ es₁ = some s → ok s e

theorem guarded_nil (step : σ → ε → Option σ) (ok : σ → ε → Prop) (s₀ : σ) :
    Guarded step ok s₀ [] := by
  intro es₁ e es₂ s h
  exact absurd h.symm (by simp)

theorem Guarded.init {step : σ → ε → Option σ} {ok : σ → ε → Prop} {s₀ : σ} {es : List ε}
    {e : ε} (h : Guarded step ok s₀ (es ++ [e])) : Guarded step ok s₀ es := by
  intro es₁ e' es₂ s heq hrun
  exact h es₁ e' (es₂ ++ [e]) s (by rw [heq, List.append_assoc, List.cons_append]) hrun

theorem Guarded.last {step : σ → ε → Option σ} {ok : σ → ε → Prop} {s₀ s : σ}
    {es : List ε} {e : ε} (h : Guarded step ok s₀ (es ++ [e]))
    (hrun : run step s₀ es = some s) : ok s e :=
  h es e [] s rfl hrun

theorem Guarded.mono {step : σ → ε → Option σ} {ok ok' : σ → ε → Prop} {s₀ : σ}
    {es : List ε} (h : Guarded step ok s₀ es) (himp : ∀ s e, ok s e → ok' s e) :
    Guarded step ok' s₀ es := by
  intro es₁ e es₂ s heq hrun
  exact himp s e (h es₁ e es₂ s heq hrun)

/-- The induction rule for runs whose events all met a condition. -/
theorem guarded_induction {step : σ → ε → Option σ} {ok : σ → ε → Prop} {s₀ : σ}
    {P : List ε → σ → Prop} (init : P [] s₀)
    (next : ∀ es e s s', run step s₀ es = some s → P es s → ok s e →
      step s e = some s' → P (es ++ [e]) s') :
    ∀ {es : List ε} {s : σ}, Guarded step ok s₀ es → run step s₀ es = some s → P es s := by
  intro es s hg h
  refine run_induction (P := fun es s => Guarded step ok s₀ es → P es s)
    (fun _ => init) ?_ h hg
  intro es e s s' hrun ih hstep hg
  exact next es e s s' hrun (ih hg.init) (hg.last hrun) hstep

/-! What a run puts out, event by event. -/

/-- `out` of every event of the run, in the state the event was taken in. -/
def outputs {ω : Type} (step : σ → ε → Option σ) (out : σ → ε → List ω) :
    σ → List ε → List ω
  | _, [] => []
  | s, e :: es =>
      match step s e with
      | none => []
      | some s' => out s e ++ outputs step out s' es

theorem outputs_snoc {ω : Type} {step : σ → ε → Option σ} {out : σ → ε → List ω} {s t t' : σ}
    {es : List ε} {e : ε} (hrun : run step s es = some t) (he : step t e = some t') :
    outputs step out s (es ++ [e]) = outputs step out s es ++ out t e := by
  induction es generalizing s with
  | nil =>
      obtain rfl := Option.some.inj hrun
      simp [outputs, he]
  | cons e₁ es ih =>
      obtain ⟨s₁, hs₁, hrest⟩ := Option.bind_eq_some_iff.mp hrun
      rw [List.cons_append, outputs, outputs, hs₁]
      simp only [ih hrest, List.append_assoc]

/-! A condition that can be computed can be checked along the run. -/

def check (step : σ → ε → Option σ) (ok : σ → ε → Bool) : σ → List ε → Bool
  | _, [] => true
  | s, e :: es =>
      ok s e &&
        match step s e with
        | none => true
        | some s' => check step ok s' es

theorem guarded_cons {step : σ → ε → Option σ} {ok : σ → ε → Prop} {s : σ} {e : ε}
    {es : List ε} (he : ok s e)
    (hes : ∀ s', step s e = some s' → Guarded step ok s' es) : Guarded step ok s (e :: es) := by
  intro es₁ e' es₂ t heq hrun
  cases es₁ with
  | nil =>
      obtain ⟨rfl, _⟩ := List.cons.inj heq
      obtain rfl := Option.some.inj hrun
      exact he
  | cons e₁ es₁ =>
      obtain ⟨rfl, htail⟩ := List.cons.inj heq
      obtain ⟨s', hs', hrun'⟩ := Option.bind_eq_some_iff.mp hrun
      exact hes s' hs' es₁ e' es₂ t htail hrun'

theorem guarded_of_check {step : σ → ε → Option σ} {ok : σ → ε → Prop} {okB : σ → ε → Bool}
    (himp : ∀ s e, okB s e = true → ok s e) {s : σ} {es : List ε}
    (h : check step okB s es = true) : Guarded step ok s es := by
  induction es generalizing s with
  | nil => exact guarded_nil step ok s
  | cons e es ih =>
      rw [check, Bool.and_eq_true] at h
      refine guarded_cons (himp s e h.1) ?_
      intro s' hs'
      rw [hs'] at h
      exact ih h.2

/-- The rule for a loop over a list: the invariant speaks of what has been
processed. -/
theorem loop_induction {f : σ → ε → σ} {s₀ : σ} {P : List ε → σ → Prop} (init : P [] s₀)
    (next : ∀ l a s, P l s → P (l ++ [a]) (f s a)) (l : List ε) : P l (l.foldl f s₀) := by
  induction l using List.reverseRecOn with
  | nil => exact init
  | append_singleton l a ih =>
      rw [List.foldl_append]
      exact next l a _ ih

end Machine
