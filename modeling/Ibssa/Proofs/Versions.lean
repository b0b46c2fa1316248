import Ibssa.Core.Versions
import Ibssa.Proofs.PkeyRoom
import Ibssa.Proofs.Window

/-!
# Who owns the database versions

`ssa_db_update` moves three pointers along. When the current database has been
filled, the previous one is deleted, so one object goes for each that comes.
The first time it has not been filled, the deletion is skipped with the rest
of the branch, and the pointer to the current database is overwritten all the
same: the object that `construct` made for it is lost. A look at the steady
state does not show this, since nothing is lost in it.

The proof has two halves. On the values the rotation is the window of
`Proofs.Window`, and the branch does not matter. On the objects (`Owned`) the
branch is all that matters. The two meet in `Followed`: as long as the three
pointers lead to three live objects, the plugin does what the worker does.
-/

namespace Ibssa

open Lifetime Keyed Machine

/-! ## The objects -/

/-- The three pointers lead to three live objects, `leaked` lists the live
objects that they do not lead to, and nothing has gone wrong so far. -/
structure Owned (s : Plugin) (p c d : Nat) (leaked : List Nat) : Prop where
  previous : s.pPreviousDb = some p
  current : s.pCurrentDb = some c
  dump : s.pDumpDb = some d
  owns : s.objects.Owns (p :: c :: d :: leaked)
  sound : s.objects.sound = true

namespace Owned

variable {s : Plugin} {p c d : Nat} {leaked : List Nat}

theorem live_previous (h : Owned s p c d leaked) : (s.objects.obj p).isSome :=
  (h.owns.live_iff p).mpr (by simp)

theorem live_current (h : Owned s p c d leaked) : (s.objects.obj c).isSome :=
  (h.owns.live_iff c).mpr (by simp)

theorem live_dump (h : Owned s p c d leaked) : (s.objects.obj d).isSome :=
  (h.owns.live_iff d).mpr (by simp)

theorem distinct (h : Owned s p c d leaked) : p ≠ c ∧ p ≠ d ∧ c ≠ d := by
  have hnodup := h.owns.nodup
  simp only [List.nodup_cons, List.mem_cons, not_or] at hnodup
  exact ⟨hnodup.1.1, hnodup.1.2.1, hnodup.2.1.1⟩

/-- No pointer is NULL. -/
theorem badArguments (h : Owned s p c d leaked) : s.badArguments = false := by
  rw [Plugin.badArguments, h.previous, h.current, h.dump]
  rfl

theorem withLft (h : Owned s p c d leaked) (ssaDb : SsaDatabase) :
    Owned (s.withLft ssaDb) p c d leaked :=
  ⟨h.previous, h.current, h.dump, h.owns, h.sound⟩

theorem withPhase (h : Owned s p c d leaked) (firstTimeSubnetUp : Bool) (phase : Phase) :
    Owned { s with firstTimeSubnetUp := firstTimeSubnetUp, phase := phase } p c d leaked :=
  ⟨h.previous, h.current, h.dump, h.owns, h.sound⟩

/-! ### `ssa_db_extract` -/

theorem extract (h : Owned s p c d leaked) (mem : Mem) (subn : OsmSubn) :
    Owned (s.ssaDbExtract mem subn) p c d leaked := by
  refine ⟨h.previous, h.current, h.dump, ?_, ?_⟩
  · show (s.objects.modify s.pDumpDb _).Owns _
    rw [h.dump]
    exact h.owns.modify d _
  · show (s.objects.modify s.pDumpDb _).sound = true
    rw [h.dump]
    exact Objects.sound_modify h.sound _ h.live_dump

theorem database_extract (h : Owned s p c d leaked) (mem : Mem) (subn : OsmSubn) :
    (s.ssaDbExtract mem subn).database
      = ssaDbExtract mem s.firstTimeSubnetUp s.database subn := by
  obtain ⟨_, hpd, hcd⟩ := h.distinct
  obtain ⟨x, hx⟩ := Option.isSome_iff_exists.mp h.live_dump
  have hobj : (s.ssaDbExtract mem subn).objects.obj
      = Function.update s.objects.obj d
          (some (ssaDbExtract mem s.firstTimeSubnetUp s.database subn).pDumpDb) := by
    show (s.objects.modify s.pDumpDb _).obj = _
    rw [h.dump, Objects.obj_modify, hx]
    rfl
  have hprevious : (s.ssaDbExtract mem subn).deref s.pPreviousDb = s.deref s.pPreviousDb := by
    rw [h.previous, Plugin.deref, Objects.read_some, hobj, Function.update_of_ne hpd]
    rfl
  have hcurrent : (s.ssaDbExtract mem subn).deref s.pCurrentDb = s.deref s.pCurrentDb := by
    rw [h.current, Plugin.deref, Objects.read_some, hobj, Function.update_of_ne hcd]
    rfl
  have hdump : (s.ssaDbExtract mem subn).deref s.pDumpDb
      = (ssaDbExtract mem s.firstTimeSubnetUp s.database subn).pDumpDb := by
    rw [h.dump, Plugin.deref, Objects.read_some, hobj, Function.update_self]
    rfl
  show SsaDatabase.mk ((s.ssaDbExtract mem subn).deref s.pCurrentDb)
    ((s.ssaDbExtract mem subn).deref s.pPreviousDb)
    ((s.ssaDbExtract mem subn).deref s.pDumpDb) _ _ = _
  rw [hprevious, hcurrent, hdump]
  rfl

/-! ### `ssa_db_validate` and `ssa_db_compare` -/

theorem validate (h : Owned s p c d leaked) : Owned (s.ssaDbValidate s.pDumpDb) p c d leaked := by
  rw [h.dump]
  exact ⟨h.previous, h.current, h.dump, h.owns.use _, Objects.sound_use h.sound h.live_dump⟩

theorem ssaDbCompare_eq (h : Owned s p c d leaked) (mem : Mem) (alloc : Bool) :
    s.ssaDbCompare mem alloc
      = { s.withLft (ssaDbCompare mem alloc s.firstTimeSubnetUp s.database).2 with
          objects := (s.objects.use s.pCurrentDb).use s.pPreviousDb
          pSsaDbDiff := (ssaDbCompare mem alloc s.firstTimeSubnetUp s.database).1 } := by
  rw [Plugin.ssaDbCompare, h.badArguments]
  rfl

theorem compare (h : Owned s p c d leaked) (mem : Mem) (alloc : Bool) :
    Owned (s.ssaDbCompare mem alloc) p c d leaked := by
  rw [h.ssaDbCompare_eq]
  refine ⟨h.previous, h.current, h.dump, (h.owns.use _).use _, ?_⟩
  show ((s.objects.use s.pCurrentDb).use s.pPreviousDb).sound = true
  rw [h.current, h.previous]
  exact Objects.sound_use (Objects.sound_use h.sound h.live_current) h.live_previous

theorem database_compare (h : Owned s p c d leaked) (mem : Mem) (alloc : Bool) :
    (s.ssaDbCompare mem alloc).database
      = (ssaDbCompare mem alloc s.firstTimeSubnetUp s.database).2 := by
  rw [h.ssaDbCompare_eq, ssaDbCompare_snd]
  rfl

/-! ### `ssa_db_update` -/

/-- The branch taken when the current database is filled: the object of the
previous one is deleted. -/
theorem ssaDbUpdate_filled (h : Owned s p c d leaked)
    (hfilled : (s.deref s.pCurrentDb).initialized = true) :
    s.ssaDbUpdate true
      = { s with
          objects :=
            (((s.objects.use (some c)).modify (some p) Plugin.removeItems).free (some p)).alloc
              ssaDbExtractInit
          pPreviousDb := some c
          pCurrentDb := some d
          pDumpDb := some s.objects.next } := by
  have hupdate : s.updatePrevious
      = { s with
          objects :=
            ((s.objects.use (some c)).modify (some p) Plugin.removeItems).free (some p)
          pPreviousDb := some c } := by
    rw [Plugin.updatePrevious]
    refine (if_pos hfilled).trans ?_
    rw [h.previous, h.current]
    rfl
  rw [Plugin.ssaDbUpdate, h.badArguments, hupdate, h.dump]
  rfl

/-- The branch skipped otherwise: nothing is deleted, and the pointer to the
current database is overwritten. -/
theorem ssaDbUpdate_empty (h : Owned s p c d leaked)
    (hempty : (s.deref s.pCurrentDb).initialized = false) :
    s.ssaDbUpdate true
      = { s with
          objects := (s.objects.use (some c)).alloc ssaDbExtractInit
          pCurrentDb := some d
          pDumpDb := some s.objects.next } := by
  have hupdate : s.updatePrevious = { s with objects := s.objects.use (some c) } := by
    have hnot : ¬(s.deref s.pCurrentDb).initialized = true := by
      rw [hempty]
      decide
    rw [Plugin.updatePrevious]
    refine (if_neg hnot).trans ?_
    rw [h.current]
  rw [Plugin.ssaDbUpdate, h.badArguments, hupdate, h.dump]
  rfl

theorem update_filled (h : Owned s p c d leaked)
    (hfilled : (s.deref s.pCurrentDb).initialized = true) :
    Owned (s.ssaDbUpdate true) c d s.objects.next leaked := by
  rw [h.ssaDbUpdate_filled hfilled]
  have howns := ((h.owns.use (some c)).modify p Plugin.removeItems).free.alloc ssaDbExtractInit
  refine ⟨rfl, rfl, rfl, howns.perm ?_, ?_⟩
  · exact (List.Perm.swap c _ _).trans ((List.Perm.swap d _ _).cons c)
  · have hsound := Objects.sound_modify (Objects.sound_use h.sound h.live_current)
      Plugin.removeItems h.live_previous
    refine Objects.sound_free hsound ?_
    rw [Objects.obj_modify, Function.update_self, Option.isSome_map]
    exact h.live_previous

theorem update_empty (h : Owned s p c d leaked)
    (hempty : (s.deref s.pCurrentDb).initialized = false) :
    Owned (s.ssaDbUpdate true) p d s.objects.next (c :: leaked) := by
  rw [h.ssaDbUpdate_empty hempty]
  have howns := (h.owns.use (some c)).alloc ssaDbExtractInit
  refine ⟨h.previous, rfl, rfl, howns.perm ?_, Objects.sound_use h.sound h.live_current⟩
  have hlost : ([s.objects.next, c] ++ [d]).Perm ([d] ++ [s.objects.next, c]) :=
    List.perm_append_comm
  exact (List.Perm.swap p _ _).trans ((hlost.append_right leaked).cons p)

/-- Either way the values move along as `Worker` has it. -/
theorem database_update (h : Owned s p c d leaked) :
    (s.ssaDbUpdate true).database = ssaDbUpdate s.database := by
  obtain ⟨hpc, hpd, _⟩ := h.distinct
  have hp := h.owns.lt_next (n := p) (by simp)
  have hc := h.owns.lt_next (n := c) (by simp)
  have hd := h.owns.lt_next (n := d) (by simp)
  cases hinit : (s.deref s.pCurrentDb).initialized with
  | true =>
      have hold : ssaDbUpdate s.database
          = { s.database with
              pPreviousDb := s.deref (some c)
              pCurrentDb := s.deref (some d)
              pDumpDb := ssaDbExtractInit } := by
        rw [ssaDbUpdate, ← h.dump, ← h.current]
        have hyes : s.database.pCurrentDb.initialized = true := hinit
        rw [if_pos hyes]
        rfl
      have hobj : (((((s.objects.use (some c)).modify (some p) Plugin.removeItems).free
          (some p)).alloc ssaDbExtractInit).obj)
          = Function.update (Function.update s.objects.obj p none) s.objects.next
              (some ssaDbExtractInit) := by
        rw [Objects.obj_alloc, Objects.obj_free, Objects.obj_modify, Function.update_idem]
        rfl
      rw [hold, h.ssaDbUpdate_filled hinit]
      simp [Plugin.database, Plugin.deref, hobj, hpc.symm, hpd.symm, hc.ne, hd.ne]
  | false =>
      have hold : ssaDbUpdate s.database
          = { s.database with
              pCurrentDb := s.deref (some d)
              pDumpDb := ssaDbExtractInit } := by
        rw [ssaDbUpdate, ← h.dump]
        have hnot : ¬s.database.pCurrentDb.initialized = true := by
          show ¬(s.deref s.pCurrentDb).initialized = true
          rw [hinit]
          decide
        rw [if_neg hnot]
        rfl
      have hobj : ((s.objects.use (some c)).alloc ssaDbExtractInit).obj
          = Function.update s.objects.obj s.objects.next (some ssaDbExtractInit) := rfl
      rw [hold, h.ssaDbUpdate_empty hinit]
      simp [Plugin.database, Plugin.deref, hobj, h.previous, hp.ne, hd.ne]

theorem worker_update (h : Owned s p c d leaked) :
    (s.ssaDbUpdate true).worker = { s.worker with ssaDb := ssaDbUpdate s.database } := by
  rw [← h.database_update]
  cases hinit : (s.deref s.pCurrentDb).initialized with
  | true =>
      rw [h.ssaDbUpdate_filled hinit]
      rfl
  | false =>
      rw [h.ssaDbUpdate_empty hinit]
      rfl

end Owned

/-! ## One step -/

/-- The object that `construct` makes for the current database. -/
def firstCurrent : Nat := 1

/-- What is lost: nothing before the current database is filled, and after
that the object it was at first. -/
def lost (s : Plugin) : List Nat :=
  if s.database.pCurrentDb.initialized then [firstCurrent] else []

structure Accounted (s : Plugin) (p c d : Nat) : Prop where
  owned : Owned s p c d (lost s)
  first : s.database.pCurrentDb.initialized = false → c = firstCurrent

theorem accounted_construct : Accounted Plugin.construct 0 1 2 where
  owned := by
    have howns := ((Objects.owns_empty (α := SsaDbExtract)).alloc ssaDbExtractInit).alloc
      ssaDbExtractInit |>.alloc ssaDbExtractInit
    refine ⟨rfl, rfl, rfl, howns.perm ?_, rfl⟩
    exact List.reverse_perm [0, 1, 2]
  first := fun _ => rfl

namespace Accounted

variable {s s' : Plugin} {p c d : Nat}

theorem keep (h : Accounted s p c d) (howned : Owned s' p c d (lost s))
    (hcurrent : s'.database.pCurrentDb = s.database.pCurrentDb) : Accounted s' p c d where
  owned := by
    have hlost : lost s' = lost s := by rw [lost, hcurrent, lost]
    rw [hlost]
    exact howned
  first := by
    rw [hcurrent]
    exact h.first

/-- The first time, the object of the current database is lost. After that,
the deletion makes up for the allocation. -/
theorem update (h : Accounted s p c d) (hdump : s.database.pDumpDb.initialized = true) :
    ∃ p' c' d', Accounted (s.ssaDbUpdate true) p' c' d' := by
  have hfilled : (s.ssaDbUpdate true).database.pCurrentDb.initialized = true := by
    rw [h.owned.database_update]
    exact hdump
  have hlost : lost (s.ssaDbUpdate true) = [firstCurrent] := by rw [lost, if_pos hfilled]
  have hnotFirst : (s.ssaDbUpdate true).database.pCurrentDb.initialized = false →
      d = firstCurrent := by
    intro hempty
    rw [hfilled] at hempty
    cases hempty
  cases hinit : s.database.pCurrentDb.initialized with
  | true =>
      have hbefore : lost s = [firstCurrent] := by rw [lost, if_pos hinit]
      refine ⟨c, d, s.objects.next, ?_, hnotFirst⟩
      rw [hlost, ← hbefore]
      exact h.owned.update_filled hinit
  | false =>
      have hbefore : lost s = [] := by
        rw [lost, hinit]
        rfl
      refine ⟨p, d, s.objects.next, ?_, hnotFirst⟩
      have howned := h.owned.update_empty hinit
      rw [hbefore, h.first hinit] at howned
      rw [hlost]
      exact howned

/-- One step of the plugin is one step of the worker, and the objects stay
accounted for. -/
theorem step {e : Event} (h : Accounted s p c d)
    (hdump : s.phase = .drained → s.database.pDumpDb.initialized = true)
    (hstep : pluginStep s (e, true) = some s') :
    workerStep s.worker e = some s'.worker ∧ ∃ p' c' d', Accounted s' p' c' d' := by
  cases e with
  | report pLftChange =>
      obtain rfl := Option.some.inj hstep
      have hdatabase : (s.withLft (reportLftChange s.database pLftChange)).database
          = reportLftChange s.database pLftChange := by
        rw [reportLftChange_eq]
        rfl
      refine ⟨workerStep_report.mpr ?_, p, c, d, h.keep (h.owned.withLft _) rfl⟩
      show Worker.mk (s.withLft (reportLftChange s.database pLftChange)).database _ _ _ = _
      rw [hdatabase]
      rfl
  | lftChange mem =>
      rw [pluginStep] at hstep
      split at hstep
      next hphase =>
        obtain rfl := Option.some.inj hstep
        exact ⟨workerStep_lftChange.mpr ⟨hphase, rfl⟩, p, c, d,
          h.keep (h.owned.withLft _) rfl⟩
      next => cases hstep
  | extract mem subn =>
      rw [pluginStep] at hstep
      split at hstep
      next hphase =>
        obtain rfl := Option.some.inj hstep
        have hdatabase := h.owned.database_extract mem subn
        refine ⟨workerStep_extract.mpr ⟨hphase, ?_⟩, p, c, d,
          h.keep ((h.owned.extract mem subn).withPhase _ _) ?_⟩
        · show Worker.mk (s.ssaDbExtract mem subn).database _ _ _ = _
          rw [hdatabase]
          rfl
        · show (s.ssaDbExtract mem subn).database.pCurrentDb = _
          rw [hdatabase]
          rfl
      next => cases hstep
  | lftHandle mem =>
      rw [pluginStep] at hstep
      split at hstep
      next hphase =>
        obtain rfl := Option.some.inj hstep
        exact ⟨workerStep_lftHandle.mpr ⟨hphase, rfl⟩, p, c, d,
          h.keep ((h.owned.withLft _).withPhase _ _) rfl⟩
      next => cases hstep
  | update =>
      rw [pluginStep] at hstep
      split at hstep
      next hphase =>
        obtain rfl := Option.some.inj hstep
        have hworker : (s.ssaDbValidate s.pDumpDb).worker = s.worker := by
          rw [h.owned.dump]
          rfl
        have hdatabase := congrArg Worker.ssaDb hworker
        have hvalidate := h.keep h.owned.validate (congrArg SsaDatabase.pCurrentDb hdatabase)
        obtain ⟨p', c', d', hupdate⟩ := hvalidate.update
          ((congrArg (fun db => db.pDumpDb.initialized) hdatabase).trans (hdump hphase))
        refine ⟨workerStep_update.mpr ⟨hphase, ?_⟩, p', c', d',
          hupdate.keep (hupdate.owned.withPhase _ _) rfl⟩
        have hupdated := hvalidate.owned.worker_update
        rw [hworker, show (s.ssaDbValidate s.pDumpDb).database = s.database from hdatabase]
          at hupdated
        exact congrArg (fun w => { w with phase := Phase.updated }) hupdated
      next => cases hstep
  | compare mem alloc =>
      rw [pluginStep] at hstep
      split at hstep
      next hphase =>
        obtain rfl := Option.some.inj hstep
        have hdatabase := h.owned.database_compare mem alloc
        refine ⟨workerStep_compare.mpr ⟨hphase, ?_⟩, p, c, d,
          h.keep ((h.owned.compare mem alloc).withPhase _ _) ?_⟩
        · show Worker.mk (s.ssaDbCompare mem alloc).database _ _ _ = _
          rw [hdatabase, h.owned.ssaDbCompare_eq]
          rfl
        · show (s.ssaDbCompare mem alloc).database.pCurrentDb = _
          rw [hdatabase, ssaDbCompare_snd]
      next => cases hstep

end Accounted

/-! ## Runs -/

/-- The snapshots of a run, in the order they were taken. -/
def snapshots (es : List PluginEvent) : List SsaDbExtract :=
  outputs pluginStep (fun s e => taken s.worker e.1) Plugin.construct es

/-- The number of START_EXTRACTs that a run has begun. -/
def startExtracts (es : List PluginEvent) : Nat :=
  es.countP fun e =>
    match e.1 with
    | .extract _ _ => true
    | _ => false

/-- The three pointers are where they should be: at three live objects, which
hold the last snapshot, the one before it and an empty database. -/
structure InPlace (l : List SsaDbExtract) (s : Plugin) (p c d : Nat) : Prop where
  previous : s.pPreviousDb = some p
  current : s.pCurrentDb = some c
  dump : s.pDumpDb = some d
  distinct : p ≠ c ∧ p ≠ d ∧ c ≠ d
  previousObj : s.objects.obj p = some (version l 1)
  currentObj : s.objects.obj c = some (version l 0)
  dumpObj : s.objects.obj d = some ssaDbExtractInit
  sound : s.objects.sound = true

/-- Between two messages the pointers are where they should be, and lead to
every object there is. -/
def OwnershipLaw (es : List PluginEvent) (s : Plugin) : Prop :=
  ∃ p c d, InPlace (snapshots es) s p c d ∧
    ∀ n, (s.objects.obj n).isSome → n = p ∨ n = c ∨ n = d

/-- What is known of the plugin after a run: the objects, the values, and the
run of the worker that it amounts to. -/
structure Followed (es : List PluginEvent) (s : Plugin) : Prop where
  accounted : ∃ p c d, Accounted s p c d
  versioned : Versioned (snapshots es) s.worker
  counted : (snapshots es).length = startExtracts es
  refines : run workerStep workerInit (es.map Prod.fst) = some s.worker

theorem followed_construct : Followed [] Plugin.construct where
  accounted := ⟨0, 1, 2, accounted_construct⟩
  versioned := versioned_init
  counted := rfl
  refines := rfl

theorem length_taken (w : Worker) (e : PluginEvent) :
    (taken w e.1).length = startExtracts [e] := by
  obtain ⟨e, alloc⟩ := e
  cases e <;> rfl

theorem Followed.snoc {es : List PluginEvent} {s s' : Plugin} {e : Event} (h : Followed es s)
    (hrun : run pluginStep Plugin.construct es = some s)
    (hstep : pluginStep s (e, true) = some s') : Followed (es ++ [(e, true)]) s' := by
  obtain ⟨p, c, d, hacc⟩ := h.accounted
  have hdump : s.phase = .drained → s.database.pDumpDb.initialized = true := by
    intro hphase
    have hphase' : s.worker.phase = .drained := hphase
    have hvalue : s.database.pDumpDb = version (snapshots es) 0 := by
      have hdump := h.versioned.dump
      rw [hphase'] at hdump
      exact hdump
    have hwaits := h.versioned.waits
    rw [hphase', Phase.pending] at hwaits
    rw [hvalue, version_initialized h.versioned.filled, decide_eq_true (by omega)]
  obtain ⟨hworker, hacc'⟩ := hacc.step hdump hstep
  have hsnapshots : snapshots (es ++ [(e, true)]) = snapshots es ++ taken s.worker e :=
    outputs_snoc hrun hstep
  refine ⟨hacc', ?_, ?_, ?_⟩
  · rw [hsnapshots]
    exact h.versioned.step hworker
  · rw [hsnapshots, List.length_append, h.counted, length_taken s.worker (e, true)]
    exact List.countP_append.symm
  · rw [List.map_append]
    exact run_snoc_eq_some.mpr ⟨s.worker, h.refines, hworker⟩

/-- In every run in which `calloc` does not fail, the plugin with its pointers
does what the worker does. -/
theorem followed {es : List PluginEvent} {s : Plugin}
    (hrun : run pluginStep Plugin.construct es = some s) (halloc : ∀ e ∈ es, e.2 = true) :
    Followed es s := by
  refine run_induction (P := fun es s => (∀ e ∈ es, e.2 = true) → Followed es s)
    (fun _ => followed_construct) ?_ hrun halloc
  intro es e s s' hrun ih hstep halloc
  obtain ⟨e, alloc⟩ := e
  obtain rfl : alloc = true := halloc (e, alloc) (by simp)
  exact (ih fun e he => halloc e (List.mem_append_left _ he)).snoc hrun hstep

theorem Followed.lost_eq {es : List PluginEvent} {s : Plugin} (h : Followed es s)
    (hidle : s.phase = .idle) : lost s = if 0 < startExtracts es then [firstCurrent] else [] := by
  have hphase : s.worker.phase = .idle := hidle
  have hcurrent := h.versioned.current
  rw [hphase] at hcurrent
  have hvalue : s.database.pCurrentDb = version (snapshots es) 0 := hcurrent
  rw [lost, hvalue, version_initialized h.versioned.filled, h.counted]
  by_cases hpos : 0 < startExtracts es
  · rw [decide_eq_true hpos, if_pos hpos]
    rfl
  · rw [decide_eq_false hpos, if_neg hpos]
    rfl

/-- Between two messages everything is as it should be, and all that may be
there besides is the object that was current at first. -/
theorem Followed.inPlace {es : List PluginEvent} {s : Plugin} (h : Followed es s)
    (hidle : s.phase = .idle) :
    ∃ p c d, InPlace (snapshots es) s p c d ∧
      s.objects.Owns (p :: c :: d :: if 0 < startExtracts es then [firstCurrent] else []) := by
  obtain ⟨p, c, d, hacc⟩ := h.accounted
  have howned := hacc.owned
  have hphase : s.worker.phase = .idle := hidle
  have hderef : ∀ {n : Nat} {x : SsaDbExtract}, (s.objects.obj n).isSome →
      s.deref (some n) = x → s.objects.obj n = some x := by
    intro n x hlive hx
    obtain ⟨y, hy⟩ := Option.isSome_iff_exists.mp hlive
    rw [← hx, Plugin.deref, Objects.read_some, hy]
    rfl
  have hprevious := h.versioned.previous
  have hcurrent := h.versioned.current
  have hdump := h.versioned.dump
  rw [hphase] at hprevious hcurrent hdump
  refine ⟨p, c, d, ⟨howned.previous, howned.current, howned.dump, howned.distinct, ?_, ?_, ?_,
    howned.sound⟩, ?_⟩
  · exact hderef howned.live_previous (by rw [← howned.previous]; exact hprevious)
  · exact hderef howned.live_current (by rw [← howned.current]; exact hcurrent)
  · exact hderef howned.live_dump (by rw [← howned.dump]; exact hdump)
  · rw [← h.lost_eq hidle]
    exact howned.owns

theorem Followed.not_ownershipLaw {es : List PluginEvent} {s : Plugin} (h : Followed es s)
    (hidle : s.phase = .idle) (hpos : 0 < startExtracts es) : ¬OwnershipLaw es s := by
  obtain ⟨p, c, d, hin, howns⟩ := h.inPlace hidle
  rw [if_pos hpos] at howns
  rintro ⟨p', c', d', hin', hall⟩
  obtain rfl : p = p' := Option.some.inj (hin.previous.symm.trans hin'.previous)
  obtain rfl : c = c' := Option.some.inj (hin.current.symm.trans hin'.current)
  obtain rfl : d = d' := Option.some.inj (hin.dump.symm.trans hin'.dump)
  have hlive := hall firstCurrent ((howns.live_iff firstCurrent).mpr (by simp))
  have hnodup := howns.nodup
  simp only [List.nodup_cons, List.mem_cons, not_or] at hnodup
  rcases hlive with heq | heq | heq
  · exact hnodup.1.2.2.1 heq.symm
  · exact hnodup.2.1.2.1 heq.symm
  · exact hnodup.2.2.1.1 heq.symm

/-- The three pointers are always where they should be, and nothing is used or
deleted after its deletion. Whether they lead to every object there is depends
on one thing: the first START_EXTRACT loses the object that was current before
it, and no later one loses another. -/
theorem ownershipLaw_iff {es : List PluginEvent} {s : Plugin}
    (hrun : run pluginStep Plugin.construct es = some s) (halloc : ∀ e ∈ es, e.2 = true)
    (hidle : s.phase = .idle) :
    (OwnershipLaw es s ↔ startExtracts es = 0) ∧
      (snapshots es).length = startExtracts es ∧
      ∃ p c d, InPlace (snapshots es) s p c d ∧
        ∀ n, (s.objects.obj n).isSome ↔
          n = p ∨ n = c ∨ n = d ∨ (n = firstCurrent ∧ 0 < startExtracts es) := by
  have h := followed hrun halloc
  obtain ⟨p, c, d, hin, howns⟩ := h.inPlace hidle
  have hlive : ∀ n, (s.objects.obj n).isSome ↔
      n = p ∨ n = c ∨ n = d ∨ (n = firstCurrent ∧ 0 < startExtracts es) := by
    intro n
    rw [howns.live_iff]
    by_cases hpos : 0 < startExtracts es <;> simp [hpos]
  refine ⟨⟨fun hlaw => ?_, fun hzero => ⟨p, c, d, hin, fun n hn => ?_⟩⟩, h.counted, p, c, d,
    hin, hlive⟩
  · by_contra hne
    exact h.not_ownershipLaw hidle (by omega) hlaw
  · rcases (hlive n).mp hn with heq | heq | heq | ⟨_, hpos⟩
    · exact Or.inl heq
    · exact Or.inr (Or.inl heq)
    · exact Or.inr (Or.inr heq)
    · omega

/-- Two START_EXTRACTs. -/
def twoExtracts : List PluginEvent :=
  (startExtract default unlinkedCas true ++ startExtract default unlinkedCas true).map
    fun e => (e, true)

theorem ownershipLaw_iff_twoExtracts :
    ∃ s, run pluginStep Plugin.construct twoExtracts = some s ∧ ¬OwnershipLaw twoExtracts s ∧
      (snapshots twoExtracts).length = 2 := by
  refine ⟨_, rfl, ?_⟩
  have h := @ownershipLaw_iff twoExtracts _ rfl (by decide) rfl
  exact ⟨fun hlaw => absurd (h.1.mp hlaw) (by decide), h.2.1⟩

/-- One START_EXTRACT loses an object. -/
theorem ownershipLaw_fails_firstExtract :
    ∃ s, run pluginStep Plugin.construct
        ((startExtract default unlinkedCas true).map fun e => (e, true)) = some s ∧
      s.phase = .idle ∧
      ¬OwnershipLaw ((startExtract default unlinkedCas true).map fun e => (e, true)) s :=
  ⟨_, rfl, rfl, (followed rfl (by decide)).not_ownershipLaw rfl (by decide)⟩

/-! ## After the last message -/

/-- `ssa_database_delete` deletes the objects that the three pointers lead to.
What was lost before stays. -/
theorem Owned.delete {s : Plugin} {p c d : Nat} {leaked : List Nat}
    (h : Owned s p c d leaked) :
    s.ssaDatabaseDelete.objects.Owns leaked ∧ s.ssaDatabaseDelete.objects.sound = true := by
  have hobjects : s.ssaDatabaseDelete.objects
      = ((s.objects.free (some d)).free (some p)).free (some c) := by
    rw [← h.previous, ← h.current, ← h.dump]
    rfl
  have hrotate : ([p, c] ++ [d]).Perm ([d] ++ [p, c]) := List.perm_append_comm
  have h₀ := h.owns.perm (hrotate.append_right leaked)
  have h₁ := h₀.free
  have h₂ := h₁.free
  have hsound₁ := Objects.sound_free h.sound ((h₀.live_iff d).mpr (by simp))
  have hsound₂ := Objects.sound_free hsound₁ ((h₁.live_iff p).mpr (by simp))
  have hsound₃ := Objects.sound_free hsound₂ ((h₂.live_iff c).mpr (by simp))
  rw [hobjects]
  exact ⟨h₂.free, hsound₃⟩

/-- Whether anything is left at the end is decided by the first START_EXTRACT
too. -/
theorem owns_ssaDatabaseDelete {es : List PluginEvent} {s : Plugin}
    (hrun : run pluginStep Plugin.construct es = some s) (halloc : ∀ e ∈ es, e.2 = true)
    (hidle : s.phase = .idle) :
    s.ssaDatabaseDelete.objects.Owns (if 0 < startExtracts es then [firstCurrent] else []) := by
  have h := followed hrun halloc
  obtain ⟨p, c, d, hacc⟩ := h.accounted
  rw [← h.lost_eq hidle]
  exact hacc.owned.delete.1

end Ibssa
