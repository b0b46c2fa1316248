import Ibssa.Lib.Run
import Mathlib.Data.List.Perm.Basic
import Mathlib.Algebra.BigOperators.Group.List.Basic
import Mathlib.Algebra.GroupWithZero.Nat

/-!
# Interleavings

Threads that share a state are one machine whose events say which of them
moves. Five things are said of such machines here.

`Simulates` relates a machine with many small steps to one with few large ones.
A step of the first is a run of the second, often the empty one: the large step
happens at one of the small ones, its commit point, and `emit` says at which.
What is known about every run of the large machine then holds of the small one.

`map_run` is for a machine that watches another one and remembers what it saw. It
refuses nothing that the other takes, so the other's runs are its own.

`conserved` is bookkeeping: what came in is what went out and what is still
held, as bags, and `conserved_in_order` as lists.

`length_add_measure_le` is termination without a scheduler: if every step pays
out of a measure, no schedule is longer than what the measure holds.

A pool is a list of program counters. A thread's step sets its own entry, and
`perm_set` says what that does to the pool as a bag. Counts, sums and whatever
else does not look at the order follow from it.
-/

namespace Machine

section Simulation

variable {σ τ ε α : Type}

/-- Every step of `step` is the run of `absStep` that `emit` names. -/
structure Simulates (step : σ → ε → Option σ) (absStep : τ → α → Option τ)
    (emit : σ → ε → List α) (abs : σ → τ) (Inv : σ → Prop) : Prop where
  keep : ∀ {s e s'}, Inv s → step s e = some s' → Inv s'
  sim : ∀ {s e s'}, Inv s → step s e = some s' →
    run absStep (abs s) (emit s e) = some (abs s')

variable {step : σ → ε → Option σ} {absStep : τ → α → Option τ} {emit : σ → ε → List α}
  {abs : σ → τ} {Inv : σ → Prop} {s s' : σ} {e : ε} {es es' : List ε}

theorem run_cons_eq_some :
    run step s (e :: es) = some s' ↔ ∃ t, step s e = some t ∧ run step t es = some s' := by
  rw [run, List.foldlM_cons]
  exact Option.bind_eq_some_iff

theorem run_append_eq_some :
    run step s (es ++ es') = some s' ↔
      ∃ t, run step s es = some t ∧ run step t es' = some s' := by
  rw [run_append, Option.bind_eq_some_iff]

theorem outputs_append {ω : Type} {out : σ → ε → List ω} {t : σ} (hrun : run step s es = some t) :
    outputs step out s (es ++ es') = outputs step out s es ++ outputs step out t es' := by
  induction es generalizing s with
  | nil =>
      obtain rfl := Option.some.inj hrun
      rfl
  | cons e es ih =>
      obtain ⟨s₁, hs₁, hrest⟩ := run_cons_eq_some.mp hrun
      rw [List.cons_append, outputs, outputs, hs₁]
      simp only [ih hrest, List.append_assoc]

/-- A machine that watches another one moves whenever that does. -/
theorem map_run {τ : Type} {step' : τ → ε → Option τ} {f : τ → σ} {see : τ → ε → σ → τ}
    (h : ∀ t e, step' t e = (step (f t) e).map (see t e)) (hsee : ∀ t e s, f (see t e s) = s)
    (t : τ) (es : List ε) : (run step' t es).map f = run step (f t) es := by
  induction es generalizing t with
  | nil => rfl
  | cons e es ih =>
      show ((step' t e).bind fun u => run step' u es).map f
        = (step (f t) e).bind fun u => run step u es
      rw [h, Option.map_bind, Option.bind_map]
      refine congrArg _ (funext fun s => ?_)
      show (run step' (see t e s) es).map f = _
      rw [ih, hsee]

theorem run_inv {I : σ → Prop} (keep : ∀ {s e s'}, I s → step s e = some s' → I s') (hs : I s)
    (hrun : run step s es = some s') : I s' :=
  run_induction (P := fun _ t => I t) hs (fun _ _ _ _ _ ih hstep => keep ih hstep) hrun

namespace Simulates

theorem inv (h : Simulates step absStep emit abs Inv) (hs : Inv s)
    (hrun : run step s es = some s') : Inv s' :=
  run_inv h.keep hs hrun

/-- A run of small steps is a run of large ones. -/
theorem run (h : Simulates step absStep emit abs Inv) (hs : Inv s)
    (hrun : run step s es = some s') :
    Machine.run absStep (abs s) (outputs step emit s es) = some (abs s') := by
  refine run_induction
    (P := fun es t => Machine.run absStep (abs s) (outputs step emit s es) = some (abs t))
    rfl ?_ hrun
  intro es e t t' hes ih hstep
  rw [outputs_snoc hes hstep, run_append, ih]
  exact h.sim (h.inv hs hes) hstep

end Simulates

theorem guarded_append {ok : σ → ε → Prop} {t : σ} (hrun : run step s es = some t)
    (hes : Guarded step ok s es) (hes' : Guarded step ok t es') :
    Guarded step ok s (es ++ es') := by
  induction es generalizing s with
  | nil =>
      obtain rfl := Option.some.inj hrun
      exact hes'
  | cons e es ih =>
      obtain ⟨s₁, hs₁, hrest⟩ := run_cons_eq_some.mp hrun
      refine guarded_cons (hes [] e es s rfl rfl) fun s₂ hs₂ => ?_
      obtain rfl := Option.some.inj (hs₁.symm.trans hs₂)
      refine ih hrest fun es₁ e' es₂ u heq hu => ?_
      exact hes (e :: es₁) e' es₂ u (by rw [heq, List.cons_append])
        (run_cons_eq_some.mpr ⟨s₁, hs₁, hu⟩)

end Simulation

section Conservation

variable {σ ε β : Type} {step : σ → ε → Option σ} {Inv : σ → Prop} {s s' : σ} {es : List ε}
  (inp out : σ → ε → List β) (held : σ → List β)

/-- If no step loses, copies or invents anything, no run does. -/
theorem conserved (keep : ∀ {s e s'}, Inv s → step s e = some s' → Inv s')
    (law : ∀ {s e s'}, Inv s → step s e = some s' →
      (held s ++ inp s e).Perm (out s e ++ held s'))
    (hs : Inv s) (hrun : run step s es = some s') :
    (held s ++ outputs step inp s es).Perm (outputs step out s es ++ held s') := by
  refine run_induction
    (P := fun es t =>
      (held s ++ outputs step inp s es).Perm (outputs step out s es ++ held t))
    ?_ ?_ hrun
  · rw [outputs, outputs, List.append_nil, List.nil_append]
  · intro es e t t' hes ih hstep
    have hlaw := (law (run_inv keep hs hes) hstep).append_left (outputs step out s es)
    rw [outputs_snoc hes hstep, outputs_snoc hes hstep, List.append_assoc, ← List.append_assoc]
    refine (ih.append_right (inp t e)).trans ?_
    rw [List.append_assoc]
    exact hlaw

/-- The same, in order: what comes in first goes out first. -/
theorem conserved_in_order (keep : ∀ {s e s'}, Inv s → step s e = some s' → Inv s')
    (law : ∀ {s e s'}, Inv s → step s e = some s' → held s ++ inp s e = out s e ++ held s')
    (hs : Inv s) (hrun : run step s es = some s') :
    held s ++ outputs step inp s es = outputs step out s es ++ held s' := by
  refine run_induction
    (P := fun es t => held s ++ outputs step inp s es = outputs step out s es ++ held t)
    ?_ ?_ hrun
  · rw [outputs, outputs, List.append_nil, List.nil_append]
  · intro es e t t' hes ih hstep
    rw [outputs_snoc hes hstep, outputs_snoc hes hstep, ← List.append_assoc, ih,
      List.append_assoc, law (run_inv keep hs hes) hstep, List.append_assoc]

end Conservation

section Measure

variable {σ ε : Type} {step : σ → ε → Option σ} {Inv : σ → Prop} {μ : σ → Nat} {s s' : σ}
  {es : List ε}

/-- Every step pays for itself. -/
theorem length_add_measure_le (keep : ∀ {s e s'}, Inv s → step s e = some s' → Inv s')
    (pay : ∀ {s e s'}, Inv s → step s e = some s' → μ s' < μ s) (hs : Inv s)
    (hrun : run step s es = some s') : es.length + μ s' ≤ μ s := by
  refine run_induction (P := fun es t => es.length + μ t ≤ μ s) (by simp) ?_ hrun
  intro es e t t' hes ih hstep
  have hpay := pay (run_inv keep hs hes) hstep
  rw [List.length_append, List.length_singleton]
  omega

/-- So every schedule can be carried to a state that takes no further step. -/
theorem exists_run_to_end (keep : ∀ {s e s'}, Inv s → step s e = some s' → Inv s')
    (pay : ∀ {s e s'}, Inv s → step s e = some s' → μ s' < μ s) (hs : Inv s) :
    ∃ es t, run step s es = some t ∧ ∀ e, step t e = none := by
  induction hn : μ s using Nat.strongRecOn generalizing s with
  | ind n ih =>
      by_cases hend : ∀ e, step s e = none
      · exact ⟨[], s, rfl, hend⟩
      · obtain ⟨e, he⟩ := not_forall.mp hend
        obtain ⟨t, ht⟩ := Option.ne_none_iff_exists'.mp he
        have hlt : μ t < n := hn ▸ pay hs ht
        obtain ⟨es, u, hrun, hu⟩ := ih (μ t) hlt (keep hs ht) rfl
        exact ⟨e :: es, u, run_cons_eq_some.mpr ⟨t, ht, hrun⟩, hu⟩

end Measure

section Pool

variable {α β : Type} {l : List α} {i : Nat} {a b : α}

/-- The old entry out, the new one in. -/
theorem perm_set (h : l[i]? = some a) (b : α) : (a :: l.set i b).Perm (b :: l) := by
  obtain ⟨hi, rfl⟩ := List.getElem?_eq_some_iff.mp h
  have hset := (List.set_perm_cons_eraseIdx hi b).cons l[i]
  have hback := (List.getElem_cons_eraseIdx_perm hi).cons b
  exact hset.trans ((List.Perm.swap b l[i] _).trans hback)

theorem countP_set_add (p : α → Bool) (h : l[i]? = some a) (b : α) :
    (l.set i b).countP p + (if p a then 1 else 0) = l.countP p + (if p b then 1 else 0) := by
  have hperm := (perm_set h b).countP_eq p
  rwa [List.countP_cons, List.countP_cons] at hperm

/-- What at most one thread does, one thread does. -/
theorem index_unique {p : α → Bool} {j : Nat} (h : l.countP p ≤ 1) (hi : l[i]? = some a)
    (hj : l[j]? = some b) (ha : p a = true) (hb : p b = true) : i = j := by
  by_contra hne
  obtain ⟨hlt, rfl⟩ := List.getElem?_eq_some_iff.mp hi
  have hperm := (List.getElem_cons_eraseIdx_perm hlt).countP_eq p
  have hmem : b ∈ l.eraseIdx i :=
    List.mem_eraseIdx_iff_getElem?.mpr ⟨j, fun hji => hne hji.symm, hj⟩
  have hpos := List.countP_pos_iff.mpr ⟨b, hmem, hb⟩
  rw [List.countP_cons, if_pos ha] at hperm
  omega

theorem sum_map_set_add (f : α → Nat) (h : l[i]? = some a) (b : α) :
    ((l.set i b).map f).sum + f a = (l.map f).sum + f b := by
  have hsum := ((perm_set h b).map f).sum_eq
  rw [List.map_cons, List.map_cons, List.sum_cons, List.sum_cons] at hsum
  omega

theorem flatMap_set_perm (f : α → List β) (h : l[i]? = some a) (b : α) :
    (f a ++ (l.set i b).flatMap f).Perm (f b ++ l.flatMap f) := by
  have hperm := (perm_set h b).flatMap_right f
  rwa [List.flatMap_cons, List.flatMap_cons] at hperm

end Pool

end Machine
