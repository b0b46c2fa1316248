import Ibssa.Proofs.LftRuns

/-!
# The window over the snapshots

`ssa_db_update` moves three databases along, so what the worker has at any time
is a window over the list of the snapshots that it has taken. `Versioned` says
where the window stands: counting from the last snapshot back, the current
database is the last and the previous one the last but one, and while a
START_EXTRACT is under way the dump is the last and the other two are one
behind.

The branch of `ssa_db_update` does not matter for that. As long as the current
database is not filled, it and the previous one are both empty, and moving the
one to the other would change nothing.

`Rotated` says the same of the subnets. Each snapshot was extracted from the
subnet that OpenSM had at that time (`from_version`), so the window over the
snapshots is one over the extracted subnets as well.
-/

namespace Ibssa

open Keyed Machine

/-! ## Which snapshot is which -/

/-- The snapshot an event takes, if it takes one. -/
def taken (w : Worker) : Event → List SsaDbExtract
  | .extract mem subn => [(ssaDbExtract mem w.firstTimeSubnetUp w.ssaDb subn).pDumpDb]
  | _ => []

/-- The snapshot `i` before the last, and an empty database before the first. -/
def version (snapshots : List SsaDbExtract) (i : Nat) : SsaDbExtract :=
  snapshots.reverse[i]?.getD ssaDbExtractInit

/-- How many snapshots still wait for `ssa_db_update`. -/
def Phase.pending : Phase → Nat
  | .idle => 0
  | .extracted => 1
  | .drained => 1
  | .updated => 0

structure Versioned (snapshots : List SsaDbExtract) (w : Worker) : Prop where
  filled : ∀ d ∈ snapshots, d.initialized = true
  waits : w.phase.pending ≤ snapshots.length
  previous : w.ssaDb.pPreviousDb = version snapshots (w.phase.pending + 1)
  current : w.ssaDb.pCurrentDb = version snapshots w.phase.pending
  dump :
    w.ssaDb.pDumpDb =
      if w.phase.pending = 0 then ssaDbExtractInit else version snapshots 0

theorem version_snoc_zero (l : List SsaDbExtract) (d : SsaDbExtract) :
    version (l ++ [d]) 0 = d := by
  simp [version]

theorem version_snoc_succ (l : List SsaDbExtract) (d : SsaDbExtract) (i : Nat) :
    version (l ++ [d]) (i + 1) = version l i := by
  simp [version]

theorem version_of_le {l : List SsaDbExtract} {i : Nat} (hi : l.length ≤ i) :
    version l i = ssaDbExtractInit := by
  rw [version, List.getElem?_eq_none (by rw [List.length_reverse]; exact hi), Option.getD_none]

theorem version_initialized {l : List SsaDbExtract} (h : ∀ d ∈ l, d.initialized = true) (i : Nat) :
    (version l i).initialized = decide (i < l.length) := by
  by_cases hi : i < l.length
  · rw [version, List.getElem?_eq_getElem (by rw [List.length_reverse]; exact hi),
      Option.getD_some, decide_eq_true hi]
    exact h _ (List.mem_reverse.mp (List.getElem_mem _))
  · rw [version_of_le (by omega), decide_eq_false hi]
    rfl

theorem versioned_init : Versioned [] workerInit where
  filled := fun _ hd => absurd hd List.not_mem_nil
  waits := Nat.le_refl 0
  previous := rfl
  current := rfl
  dump := rfl

/-- `ssa_db_update` moves the window by one. -/
theorem Versioned.update {l : List SsaDbExtract} {w : Worker} (h : Versioned l w)
    (hphase : w.phase = .drained) :
    Versioned l { w with ssaDb := ssaDbUpdate w.ssaDb, phase := .updated } where
  filled := h.filled
  waits := Nat.zero_le _
  previous := by
    have hcurrent := h.current
    rw [hphase] at hcurrent
    change (if _ then _ else _) = version l 1
    split
    · exact hcurrent
    next hnot =>
      have hprevious := h.previous
      rw [hphase] at hprevious
      rw [hcurrent, version_initialized h.filled, Phase.pending] at hnot
      have hlen : l.length ≤ 1 := by simpa using hnot
      rw [hprevious, Phase.pending, version_of_le hlen, version_of_le (by omega)]
  current := by
    have hdump := h.dump
    rw [hphase] at hdump
    exact hdump
  dump := rfl

theorem Versioned.extract {l : List SsaDbExtract} {w : Worker} (h : Versioned l w)
    (hphase : w.phase = .idle) (mem : Mem) (subn : OsmSubn) :
    Versioned (l ++ taken w (.extract mem subn))
      { w with
        ssaDb := ssaDbExtract mem w.firstTimeSubnetUp w.ssaDb subn
        phase := .extracted } where
  filled := by
    intro d hd
    rcases List.mem_append.mp hd with hd | hd
    · exact h.filled d hd
    · obtain rfl := List.mem_singleton.mp hd
      rfl
  waits := by
    rw [List.length_append]
    exact Nat.le_add_left 1 _
  previous := by
    have hprevious := h.previous
    rw [hphase] at hprevious
    exact hprevious.trans (version_snoc_succ l _ 1).symm
  current := by
    have hcurrent := h.current
    rw [hphase] at hcurrent
    exact hcurrent.trans (version_snoc_succ l _ 0).symm
  dump := (version_snoc_zero l _).symm

/-- Nothing else touches the three databases. -/
theorem Versioned.keep {l : List SsaDbExtract} {w w' : Worker} (h : Versioned l w)
    (hphase : w'.phase.pending = w.phase.pending)
    (hprevious : w'.ssaDb.pPreviousDb = w.ssaDb.pPreviousDb)
    (hcurrent : w'.ssaDb.pCurrentDb = w.ssaDb.pCurrentDb)
    (hdump : w'.ssaDb.pDumpDb = w.ssaDb.pDumpDb) : Versioned l w' where
  filled := h.filled
  waits := by rw [hphase]; exact h.waits
  previous := by rw [hphase, hprevious]; exact h.previous
  current := by rw [hphase, hcurrent]; exact h.current
  dump := by rw [hphase, hdump]; exact h.dump

theorem Versioned.step {l : List SsaDbExtract} {w w' : Worker} {e : Event} (h : Versioned l w)
    (hstep : workerStep w e = some w') : Versioned (l ++ taken w e) w' := by
  cases e with
  | report pLftChange =>
      obtain rfl := workerStep_report.mp hstep
      rw [reportLftChange_eq]
      exact (List.append_nil l).symm ▸ h.keep rfl rfl rfl rfl
  | lftChange mem =>
      obtain ⟨_, rfl⟩ := workerStep_lftChange.mp hstep
      exact (List.append_nil l).symm ▸ h.keep rfl rfl rfl rfl
  | extract mem subn =>
      obtain ⟨hidle, rfl⟩ := workerStep_extract.mp hstep
      exact h.extract hidle mem subn
  | lftHandle mem =>
      obtain ⟨hphase, rfl⟩ := workerStep_lftHandle.mp hstep
      exact (List.append_nil l).symm ▸ h.keep (by rw [hphase]; rfl) rfl rfl rfl
  | update =>
      obtain ⟨hphase, rfl⟩ := workerStep_update.mp hstep
      exact (List.append_nil l).symm ▸ h.update hphase
  | compare mem alloc =>
      obtain ⟨hphase, rfl⟩ := workerStep_compare.mp hstep
      rw [ssaDbCompare_snd]
      exact (List.append_nil l).symm ▸ h.keep (by rw [hphase]; rfl) rfl rfl rfl

/-- The snapshots that a run has taken, the last one first. -/
def snapshotsTaken (es : List Event) : List SsaDbExtract :=
  (outputs workerStep taken workerInit es).reverse

section Run

variable {es : List Event} {w w' : Worker}

theorem versioned_of_run (hrun : run workerStep workerInit es = some w) :
    Versioned (outputs workerStep taken workerInit es) w := by
  refine run_induction
    (P := fun es w => Versioned (outputs workerStep taken workerInit es) w)
    versioned_init ?_ hrun
  intro es e w w' hes ih hstep
  rw [outputs_snoc hes hstep]
  exact ih.step hstep

theorem snapshotsTaken_snoc {e : Event} (hrun : run workerStep workerInit es = some w)
    (hstep : workerStep w e = some w') :
    snapshotsTaken (es ++ [e]) = (taken w e).reverse ++ snapshotsTaken es := by
  rw [snapshotsTaken, outputs_snoc hrun hstep, List.reverse_append]
  rfl

end Run

/-! ## Which subnet they were extracted from -/

/-- The subnets a run has extracted, the last one first. -/
def extracted (es : List Event) : List OsmSubn :=
  (es.filterMap fun e => match e with | .extract _ s => some s | _ => none).reverse

theorem extracted_snoc (es : List Event) (e : Event) :
    extracted (es ++ [e]) = match e with
      | .extract _ s => s :: extracted es
      | _ => extracted es := by
  rw [extracted, List.filterMap_append, List.reverse_append]
  cases e <;> rfl

/-- A database extracted from a subnet, or a fresh one. -/
def From : Option OsmSubn → SsaDbExtract → Prop
  | none, db => db = ssaDbExtractInit
  | some s, db => ∃ mem firstTimeSubnetUp ssaDb, ssaDb.pDumpDb = ssaDbExtractInit ∧
      db = (ssaDbExtract mem firstTimeSubnetUp ssaDb s).pDumpDb

theorem From.initialized {o : Option OsmSubn} {db : SsaDbExtract} (h : From o db) :
    db.initialized = o.isSome := by
  cases o with
  | none =>
      have hdb : db = ssaDbExtractInit := h
      rw [hdb]
      rfl
  | some s =>
      obtain ⟨mem, firstTimeSubnetUp, ssaDb, _, rfl⟩ := h
      rfl

theorem From.snapshotOf {s : OsmSubn} {db : SsaDbExtract} (h : From (some s) db) :
    SnapshotOf s db := by
  obtain ⟨mem, firstTimeSubnetUp, ssaDb, hfresh, rfl⟩ := h
  exact snapshotOf_ssaDbExtract mem firstTimeSubnetUp hfresh s

/-- Every snapshot was extracted from its subnet, into a fresh database. -/
theorem from_version {es : List Event} {w : Worker}
    (hrun : run workerStep workerInit es = some w) (i : Nat) :
    From (extracted es)[i]? (version (outputs workerStep taken workerInit es) i) := by
  refine run_induction
    (P := fun es _ =>
      ∀ i, From (extracted es)[i]? (version (outputs workerStep taken workerInit es) i))
    (fun i => ?_) ?_ hrun i
  · show From ([] : List OsmSubn)[i]? (version [] i)
    rw [List.getElem?_nil, version_of_le (Nat.zero_le i)]
    rfl
  intro es e w w' hes ih hstep i
  rw [extracted_snoc, outputs_snoc hes hstep]
  cases e with
  | extract mem s =>
      obtain ⟨hidle, _⟩ := workerStep_extract.mp hstep
      have hdump := (versioned_of_run hes).dump
      rw [hidle] at hdump
      cases i with
      | zero =>
          rw [taken, version_snoc_zero]
          exact ⟨mem, w.firstTimeSubnetUp, w.ssaDb, hdump, rfl⟩
      | succ i =>
          rw [taken, version_snoc_succ]
          exact ih i
  | report | lftChange | lftHandle | update | compare =>
      simp only [taken, List.append_nil]
      exact ih i

/-- A database is the last snapshot of a run, and was taken of the subnet that was
extracted last. -/
structure LastSnapshot (es : List Event) (subn : OsmSubn) (db : SsaDbExtract) : Prop where
  subnet : (extracted es)[0]? = some subn
  taken : (snapshotsTaken es)[0]? = some db
  snapshot : SnapshotOf subn db

/-- The three snapshots by age. -/
def Rotated (l : List OsmSubn) (w : Worker) : Prop :=
  match w.phase with
  | .extracted | .drained =>
      From l[0]? w.ssaDb.pDumpDb ∧ From l[1]? w.ssaDb.pCurrentDb ∧ From l[2]? w.ssaDb.pPreviousDb
  | .idle | .updated =>
      w.ssaDb.pDumpDb = ssaDbExtractInit ∧ From l[0]? w.ssaDb.pCurrentDb ∧
        From l[1]? w.ssaDb.pPreviousDb

theorem rotated {es : List Event} {w : Worker}
    (hrun : run workerStep workerInit es = some w) : Rotated (extracted es) w := by
  have hver := versioned_of_run hrun
  have hfrom := from_version hrun
  obtain ⟨_, _, hprevious, hcurrent, hdump⟩ := hver
  rw [Rotated]
  cases hphase : w.phase with
  | extracted | drained =>
      rw [hphase] at hprevious hcurrent hdump
      refine ⟨?_, ?_, ?_⟩
      · rw [hdump]
        exact hfrom 0
      · rw [hcurrent]
        exact hfrom 1
      · rw [hprevious]
        exact hfrom 2
  | idle | updated =>
      rw [hphase] at hprevious hcurrent hdump
      refine ⟨hdump, ?_, ?_⟩
      · rw [hcurrent]
        exact hfrom 0
      · rw [hprevious]
        exact hfrom 1

end Ibssa
