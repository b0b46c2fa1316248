import Ibssa.Proofs.Window

/-!
# A consumer of the diffs

A consumer that starts with nothing and takes in every diff should hold what
the core has just extracted. For nodes and GUIDs it does, because the two
comparators see every field of a record that its key does not already determine,
and a diff is thrown away only when none of them saw anything.

That is the induction of this module, through the rotation of the three
snapshots: `Rotation` says which of them is where in each phase, and `Synced`
that the consumer holds the published one. It goes through with comparisons
that get no memory, as long as these find nodes and GUIDs as they were, so the
two modules that build on this one start from the same step lemma. That the
published snapshot is the last one extracted, and not one that was left behind,
is read off the window over all snapshots (`lastSnapshot_at_compare`).
-/

namespace Ibssa

open Keyed ByteOrder Machine

/-! ## Snapshots and their keys -/

def SsaDbExtract.nodeView (db : SsaDbExtract) : UInt64 → Option EpNodeTblRec :=
  view db.epNodeTbl db.pNodeTbl

def SsaDbExtract.guidToLidView (db : SsaDbExtract) : UInt64 → Option EpGuidToLidTblRec :=
  view db.epGuidToLidTbl db.pGuidToLidTbl

/-- Every record carries its own key, and its padding is zero. -/
structure RecordsKeyed (db : SsaDbExtract) : Prop where
  node : ∀ k r, db.nodeView k = some r → r.nodeGuid = k ∧ r.pad = Vector.replicate 6 0
  guidToLid : ∀ k r, db.guidToLidView k = some r → r.guid = k ∧ r.pad = Vector.replicate 4 0

/-- A database that is empty or was extracted. -/
def Taken (db : SsaDbExtract) : Prop := db = ssaDbExtractInit ∨ ∃ s, SnapshotOf s db

theorem SnapshotOf.recordsKeyed {s : OsmSubn} {db : SsaDbExtract} (h : SnapshotOf s db) :
    RecordsKeyed db := by
  refine ⟨?_, ?_⟩
  · intro k r hr
    rw [SsaDbExtract.nodeView, h.node] at hr
    obtain ⟨n, _, heq⟩ := List.mem_map.mp (OrdMap.mem_of_find hr)
    injection heq with hk hrec
    subst hk hrec
    exact ⟨rfl, rfl⟩
  · intro k r hr
    rw [SsaDbExtract.guidToLidView, h.guidToLid] at hr
    obtain ⟨p, _, heq⟩ := List.mem_map.mp (OrdMap.mem_of_find hr)
    injection heq with hk hrec
    subst hk hrec
    exact ⟨rfl, rfl⟩

theorem Taken.recordsKeyed {db : SsaDbExtract} (h : Taken db) : RecordsKeyed db := by
  rcases h with rfl | ⟨s, hs⟩
  · refine ⟨fun k r hr => ?_, fun k r hr => ?_⟩ <;> cases hr
  · exact hs.recordsKeyed

/-- An extracted database has a pkey table, and an empty one has no ports. -/
theorem SnapshotOf.pkeyTblPresent {s : OsmSubn} {db : SsaDbExtract} (h : SnapshotOf s db) :
    PkeyTblPresent db := by
  intro hnull
  rw [h.pkeyTbl] at hnull
  cases hnull

theorem Taken.pkeyTblPresent {db : SsaDbExtract} (h : Taken db) : PkeyTblPresent db := by
  rcases h with rfl | ⟨s, hs⟩
  · intro _ k o ho
    cases ho
  · exact hs.pkeyTblPresent

/-- What the node comparator does not look at, the key and the padding, is the
same on both sides. -/
theorem ssaDbNodeCmp_exact {p c : SsaDbExtract} (hp : RecordsKeyed p) (hc : RecordsKeyed c)
    {k : UInt64} {o o' : Nat} (ho : p.epNodeTbl.get? k = some o)
    (ho' : c.epNodeTbl.get? k = some o')
    (hsame : ssaDbNodeCmp (k, o) p.pNodeTbl (k, o') c.pNodeTbl = false) :
    p.pNodeTbl.cell o = c.pNodeTbl.cell o' := by
  obtain ⟨hg, hpad⟩ := hp.node k _ (view_eq_some.mpr ⟨o, ho, rfl⟩)
  obtain ⟨hg', hpad'⟩ := hc.node k _ (view_eq_some.mpr ⟨o', ho', rfl⟩)
  simp only [ssaDbNodeCmp, Bool.or_eq_false_iff, bne_eq_false_iff_eq] at hsame
  obtain ⟨⟨hsp0, htype⟩, hdesc⟩ := hsame
  have hkey := hg.trans hg'.symm
  have hpads := hpad.trans hpad'.symm
  cases hold : p.pNodeTbl.cell o
  cases hnew : c.pNodeTbl.cell o'
  simp only [hold, hnew] at hkey hpads hsp0 htype hdesc
  subst hkey hpads hsp0 htype hdesc
  rfl

theorem ssaDbGuidToLidCmp_exact {p c : SsaDbExtract} (hp : RecordsKeyed p)
    (hc : RecordsKeyed c) {k : UInt64} {o o' : Nat} (ho : p.epGuidToLidTbl.get? k = some o)
    (ho' : c.epGuidToLidTbl.get? k = some o')
    (hsame : ssaDbGuidToLidCmp (k, o) p.pGuidToLidTbl (k, o') c.pGuidToLidTbl = false) :
    p.pGuidToLidTbl.cell o = c.pGuidToLidTbl.cell o' := by
  obtain ⟨hg, hpad⟩ := hp.guidToLid k _ (view_eq_some.mpr ⟨o, ho, rfl⟩)
  obtain ⟨hg', hpad'⟩ := hc.guidToLid k _ (view_eq_some.mpr ⟨o', ho', rfl⟩)
  simp only [ssaDbGuidToLidCmp, Bool.or_eq_false_iff, bne_eq_false_iff_eq] at hsame
  obtain ⟨⟨hlid, hlmc⟩, hsw⟩ := hsame
  have hkey := hg.trans hg'.symm
  have hpads := hpad.trans hpad'.symm
  cases hold : p.pGuidToLidTbl.cell o
  cases hnew : c.pGuidToLidTbl.cell o'
  simp only [hold, hnew] at hkey hpads hlid hlmc hsw
  subst hkey hpads hlid hlmc hsw
  rfl

/-! ## One comparison -/

section Patch

variable {α : Type} {cmp : EpMapRec → Buf α → EpMapRec → Buf α → Bool} {old new : EpMap}
  {tOld tNew : Buf α}

/-- The comparator calls no common key unchanged whose records differ. -/
def Exact (cmp : EpMapRec → Buf α → EpMapRec → Buf α → Bool) (old new : EpMap)
    (tOld tNew : Buf α) : Prop :=
  ∀ k o o', old.get? k = some o → new.get? k = some o' →
    cmp (k, o) tOld (k, o') tNew = false → tOld.cell o = tNew.cell o'

/-- Taking in the diff of a table turns its old contents into the new ones. -/
theorem DiffPart.FilledWith.patch_eq {p : DiffPart α} {recSize cap : Nat}
    (h : p.FilledWith recSize cap (recOps cmp old new tOld tNew))
    (hexact : Exact cmp old new tOld tNew) :
    patch (view old tOld) (fun k => (p.pMapRemoved.get? k).isSome)
        (view p.pMapAdded p.tbl.pDataTbl) = view new tNew := by
  rw [h.view_recOps, h.removed_recOps]
  exact patch_walk_iff.mpr hexact

/-- A table in which the walk finds nothing has not changed. -/
theorem view_eq_of_not_differ (hexact : Exact cmp old new tOld tNew)
    (hsame : ¬ Differ (itemCmp cmp tOld tNew) old new) : view old tOld = view new tNew := by
  funext k
  have hk : (old.get? k).isSome = (new.get? k).isSome := by
    by_contra hne
    exact hsame ⟨k, Or.inl hne⟩
  unfold view
  cases ho : old.get? k with
  | none =>
      cases ho' : new.get? k with
      | none => rfl
      | some o' =>
          rw [ho, ho'] at hk
          cases hk
  | some o =>
      cases ho' : new.get? k with
      | none =>
          rw [ho, ho'] at hk
          cases hk
      | some o' =>
          refine congrArg some (hexact k o o' ho ho' ?_)
          refine Bool.eq_false_iff.mpr fun hch => ?_
          exact hsame ⟨k, Or.inr ⟨o, o', ho, ho', hch⟩⟩

end Patch

section Compare

variable {mem : Mem} {firstTimeSubnetUp : Bool} {ssaDb : SsaDatabase} {d : SsaDbDiff}

/-- What a consumer that holds the previous snapshot's nodes and GUIDs holds
after a diff. -/
theorem DiffSpec.push_tables (h : DiffSpec mem firstTimeSubnetUp ssaDb d)
    (hp : RecordsKeyed ssaDb.pPreviousDb) (hc : RecordsKeyed ssaDb.pCurrentDb) {c : Consumer}
    (hnode : c.node = ssaDb.pPreviousDb.nodeView)
    (hguid : c.guidToLid = ssaDb.pPreviousDb.guidToLidView) :
    (c.push d).node = ssaDb.pCurrentDb.nodeView ∧
      (c.push d).guidToLid = ssaDb.pCurrentDb.guidToLidView := by
  have hn := h.node.patch_eq fun k o o' => ssaDbNodeCmp_exact hp hc
  have hg := h.guidToLid.patch_eq fun k o o' => ssaDbGuidToLidCmp_exact hp hc
  refine ⟨?_, ?_⟩
  · rw [Consumer.push, hnode]
    exact hn
  · rw [Consumer.push, hguid]
    exact hg

/-- What it holds of the LFT. -/
theorem DiffSpec.push_lft (h : DiffSpec mem firstTimeSubnetUp ssaDb d) (c : Consumer) :
    (c.push d).lftBlock
        = layered c.lftBlock (view (pushedBlockMap firstTimeSubnetUp ssaDb.pLftDb)
            (pushedBlockTbl firstTimeSubnetUp ssaDb.pLftDb)) ∧
      (c.push d).lftTop
        = layered c.lftTop (view (pushedTopMap firstTimeSubnetUp ssaDb.pLftDb)
            (pushedTopTbl firstTimeSubnetUp ssaDb.pLftDb)) := by
  have hb : view d.epLftBlockTbl d.tables.lftBlock = _ := h.lftBlock.view_storeOps
  have ht : view d.epLftTopTbl d.tables.lftTop = _ := h.lftTop.view_storeOps
  refine ⟨?_, ?_⟩
  · rw [Consumer.push, hb]
  · rw [Consumer.push, ht]

/-- Nodes and GUIDs are the same when a comparison finds nothing. -/
theorem views_eq_of_not_differ (hp : RecordsKeyed ssaDb.pPreviousDb)
    (hc : RecordsKeyed ssaDb.pCurrentDb)
    (hsame : ¬ SnapshotsDiffer mem ssaDb.pPreviousDb ssaDb.pCurrentDb) :
    ssaDb.pPreviousDb.nodeView = ssaDb.pCurrentDb.nodeView ∧
      ssaDb.pPreviousDb.guidToLidView = ssaDb.pCurrentDb.guidToLidView := by
  rw [SnapshotsDiffer, not_or, not_or, not_or] at hsame
  obtain ⟨_, hguid, hnode, _⟩ := hsame
  exact ⟨view_eq_of_not_differ (fun k o o' => ssaDbNodeCmp_exact hp hc) hnode,
    view_eq_of_not_differ (fun k o o' => ssaDbGuidToLidCmp_exact hp hc) hguid⟩

/-- A comparison that gets its memory returns a diff exactly when the
snapshots differ. -/
theorem ssaDbCompare_fst (mem : Mem) (firstTimeSubnetUp : Bool) (ssaDb : SsaDatabase) :
    (SnapshotsDiffer mem ssaDb.pPreviousDb ssaDb.pCurrentDb ∧
        (ssaDbCompare mem true firstTimeSubnetUp ssaDb).1
          = some (buildDiff mem firstTimeSubnetUp ssaDb).1) ∨
      (¬ SnapshotsDiffer mem ssaDb.pPreviousDb ssaDb.pCurrentDb ∧
        (ssaDbCompare mem true firstTimeSubnetUp ssaDb).1 = none) := by
  have hdirty := (buildDiff_spec mem firstTimeSubnetUp ssaDb).dirty
  rw [ssaDbCompare_true]
  by_cases hz : (buildDiff mem firstTimeSubnetUp ssaDb).1.dirty = 0
  · exact Or.inr ⟨hdirty.mp hz, if_pos hz⟩
  · exact Or.inl ⟨not_not.mp fun hn => hz (hdirty.mpr hn), if_neg hz⟩

end Compare

/-! ## The rotation of the snapshots -/

/-- Which snapshot is where. Before the first comparison there is no previous
one, and before the first update no current one either. -/
structure Rotation (w : Worker) : Prop where
  fresh : w.phase = .idle ∨ w.phase = .updated → w.ssaDb.pDumpDb = ssaDbExtractInit
  taken : w.phase = .extracted ∨ w.phase = .drained → ∃ s, SnapshotOf s w.ssaDb.pDumpDb
  noCurrent : w.firstTimeSubnetUp = true → w.phase ≠ .updated →
    w.ssaDb.pCurrentDb = ssaDbExtractInit
  current : w.firstTimeSubnetUp = false ∨ w.phase = .updated →
    ∃ s, SnapshotOf s w.ssaDb.pCurrentDb
  noPrevious : w.firstTimeSubnetUp = true → w.ssaDb.pPreviousDb = ssaDbExtractInit
  previous : Taken w.ssaDb.pPreviousDb

theorem rotation_init : Rotation workerInit where
  fresh := fun _ => rfl
  taken := by
    intro h
    rcases h with h | h <;> cases h
  noCurrent := fun _ _ => rfl
  current := by
    intro h
    rcases h with h | h <;> cases h
  noPrevious := fun _ => rfl
  previous := Or.inl rfl

private theorem Rotation.update {w : Worker} (h : Rotation w) (hphase : w.phase = .drained) :
    Rotation { w with ssaDb := ssaDbUpdate w.ssaDb, phase := .updated } := by
  have hne : w.phase ≠ .updated := by
    rw [hphase]
    decide
  refine ⟨fun _ => rfl, fun hc => ?_, fun _ hc => absurd rfl hc,
    fun _ => h.taken (Or.inr hphase), ?_, ?_⟩
  · rcases hc with hc | hc <;> cases hc
  · intro hfirst
    show (if w.ssaDb.pCurrentDb.initialized then w.ssaDb.pCurrentDb else w.ssaDb.pPreviousDb) = _
    rw [h.noCurrent hfirst hne]
    exact h.noPrevious hfirst
  · show Taken
      (if w.ssaDb.pCurrentDb.initialized then w.ssaDb.pCurrentDb else w.ssaDb.pPreviousDb)
    cases hfirst : w.firstTimeSubnetUp with
    | true =>
        rw [h.noCurrent hfirst hne]
        exact h.previous
    | false =>
        obtain ⟨s, hs⟩ := h.current (Or.inl hfirst)
        rw [hs.initialized]
        exact Or.inr ⟨s, hs⟩

theorem Rotation.step {w w' : Worker} {e : Event} (h : Rotation w)
    (hstep : workerStep w e = some w') : Rotation w' := by
  cases e with
  | report pLftChange =>
      obtain rfl := workerStep_report.mp hstep
      rw [reportLftChange_eq]
      exact ⟨h.fresh, h.taken, h.noCurrent, h.current, h.noPrevious, h.previous⟩
  | lftChange mem =>
      obtain ⟨_, rfl⟩ := workerStep_lftChange.mp hstep
      exact ⟨h.fresh, h.taken, h.noCurrent, h.current, h.noPrevious, h.previous⟩
  | extract mem s =>
      obtain ⟨hidle, rfl⟩ := workerStep_extract.mp hstep
      have hne : w.phase ≠ .updated := by
        rw [hidle]
        decide
      refine ⟨fun hc => ?_, fun _ => ⟨s, ?_⟩, fun hfirst _ => h.noCurrent hfirst hne,
        fun hc => ?_, h.noPrevious, h.previous⟩
      · rcases hc with hc | hc <;> cases hc
      · exact snapshotOf_ssaDbExtract mem w.firstTimeSubnetUp (h.fresh (Or.inl hidle)) s
      · rcases hc with hc | hc
        · exact h.current (Or.inl hc)
        · cases hc
  | lftHandle mem =>
      obtain ⟨hphase, rfl⟩ := workerStep_lftHandle.mp hstep
      have hne : w.phase ≠ .updated := by
        rw [hphase]
        decide
      refine ⟨fun hc => ?_, fun _ => h.taken (Or.inl hphase),
        fun hfirst _ => h.noCurrent hfirst hne, fun hc => ?_, h.noPrevious, h.previous⟩
      · rcases hc with hc | hc <;> cases hc
      · rcases hc with hc | hc
        · exact h.current (Or.inl hc)
        · cases hc
  | update =>
      obtain ⟨hphase, rfl⟩ := workerStep_update.mp hstep
      exact h.update hphase
  | compare mem alloc =>
      obtain ⟨hphase, rfl⟩ := workerStep_compare.mp hstep
      rw [ssaDbCompare_snd]
      refine ⟨fun _ => h.fresh (Or.inr hphase), fun hc => ?_, fun hc => ?_,
        fun _ => h.current (Or.inr hphase), fun hc => ?_, h.previous⟩
      · rcases hc with hc | hc <;> cases hc
      · cases hc
      · cases hc

theorem rotation {es : List Event} {w : Worker} (hrun : run workerStep workerInit es = some w) :
    Rotation w :=
  run_induction (P := fun _ w => Rotation w) rotation_init
    (fun _ _ _ _ _ h hstep => h.step hstep) hrun

/-- The current snapshot of a worker has its pkeys in a table, so the PKEY
header of the diff it is about to build agrees with the ports in it. -/
theorem pkeyTblPresent_run {es : List Event} {w : Worker}
    (hrun : run workerStep workerInit es = some w) : PkeyTblPresent w.ssaDb.pCurrentDb := by
  have h := rotation hrun
  by_cases hcur : w.firstTimeSubnetUp = false ∨ w.phase = .updated
  · obtain ⟨s, hs⟩ := h.current hcur
    exact Taken.pkeyTblPresent (Or.inr ⟨s, hs⟩)
  · rw [not_or, Bool.not_eq_false] at hcur
    exact Taken.pkeyTblPresent (Or.inl (h.noCurrent hcur.1 hcur.2))

/-- The first comparison has no previous snapshot, and always finds the
options changed. -/
theorem Rotation.snapshotsDiffer {w : Worker} (h : Rotation w) (hphase : w.phase = .updated)
    (hfirst : w.firstTimeSubnetUp = true) (mem : Mem) :
    SnapshotsDiffer mem w.ssaDb.pPreviousDb w.ssaDb.pCurrentDb := by
  obtain ⟨s, hs⟩ := h.current (Or.inr hphase)
  refine Or.inl (Or.inl ⟨?_, hs.initialized⟩)
  rw [h.noPrevious hfirst]
  rfl

/-- At a comparison the two snapshots are the last two that were taken. -/
theorem snapshots_at_compare {es : List Event} {w : Worker}
    (hrun : run workerStep workerInit es = some w) (hphase : w.phase = .updated) :
    ∃ earlier, snapshotsTaken es = w.ssaDb.pCurrentDb :: earlier ∧
      w.ssaDb.pPreviousDb = earlier.head?.getD ssaDbExtractInit := by
  have hver := versioned_of_run hrun
  obtain ⟨sub, hsub⟩ := (rotation hrun).current (Or.inr hphase)
  have hcurrent := hver.current
  have hprevious := hver.previous
  rw [hphase] at hcurrent hprevious
  change _ = (snapshotsTaken es)[0]?.getD _ at hcurrent
  change _ = (snapshotsTaken es)[1]?.getD _ at hprevious
  cases hl : snapshotsTaken es with
  | nil =>
      rw [hl] at hcurrent
      have hinit := hsub.initialized
      rw [hcurrent] at hinit
      cases hinit
  | cons db earlier =>
      rw [hl] at hcurrent hprevious
      refine ⟨earlier, ?_, ?_⟩
      · rw [hcurrent]
        rfl
      · rw [hprevious, List.head?_eq_getElem?]
        rfl

theorem lastSnapshot_at_compare {es : List Event} {w : Worker}
    (hrun : run workerStep workerInit es = some w) (hphase : w.phase = .updated) :
    ∃ subn, LastSnapshot es subn w.ssaDb.pCurrentDb := by
  obtain ⟨earlier, htaken, _⟩ := snapshots_at_compare hrun hphase
  have hrot := rotated hrun
  rw [Rotated, hphase] at hrot
  obtain ⟨_, hfrom, _⟩ := hrot
  cases hsubn : (extracted es)[0]? with
  | none =>
      -- an empty database is not a snapshot
      obtain ⟨subn, hsub⟩ := (rotation hrun).current (Or.inr hphase)
      have hfilled := hsub.initialized
      rw [hfrom.initialized, hsubn] at hfilled
      cases hfilled
  | some subn =>
      rw [hsubn] at hfrom
      exact ⟨subn, hsubn, by rw [htaken]; rfl, hfrom.snapshotOf⟩

/-! ## The consumer -/

theorem sysStep_eq_some {s s' : Sys} {e : Event} :
    sysStep s e = some s' ↔ ∃ w, workerStep s.worker e = some w ∧ s' = s.deliver e w := by
  rw [sysStep, Option.map_eq_some_iff]
  exact exists_congr fun w => and_congr_right fun _ => eq_comm

@[simp] theorem deliver_worker (s : Sys) (e : Event) (w : Worker) : (s.deliver e w).worker = w := by
  unfold Sys.deliver
  split <;> rfl

theorem deliver_compare_some (s : Sys) (mem : Mem) (alloc : Bool) {w : Worker} {d : SsaDbDiff}
    (h : w.pSsaDbDiff = some d) :
    s.deliver (.compare mem alloc) w = ⟨w, s.consumer.push d, s.returned + 1⟩ := by
  simp only [Sys.deliver, h]

theorem deliver_compare_none (s : Sys) (mem : Mem) (alloc : Bool) {w : Worker}
    (h : w.pSsaDbDiff = none) : s.deliver (.compare mem alloc) w = { s with worker := w } := by
  simp only [Sys.deliver, h]

theorem deliver_of_ne (s : Sys) {e : Event} (he : ∀ mem alloc, e ≠ .compare mem alloc)
    (w : Worker) : s.deliver e w = { s with worker := w } := by
  unfold Sys.deliver
  split
  · next mem alloc d _ => exact absurd rfl (he mem alloc)
  · rfl

theorem run_worker {es : List Event} {s : Sys} (hrun : run sysStep sysInit es = some s) :
    run workerStep workerInit es = some s.worker := by
  refine run_induction (P := fun es (s : Sys) => run workerStep workerInit es = some s.worker)
    rfl ?_ hrun
  intro es e s s' _ ih hstep
  obtain ⟨w, hw, rfl⟩ := sysStep_eq_some.mp hstep
  rw [deliver_worker]
  exact run_snoc_eq_some.mpr ⟨s.worker, ih, hw⟩

/-! ## Nodes and GUIDs -/

/-- The snapshot a consumer should hold: the current one, except between the
update and the comparison. -/
def Worker.published (w : Worker) : SsaDbExtract :=
  match w.phase with
  | .updated => w.ssaDb.pPreviousDb
  | _ => w.ssaDb.pCurrentDb

/-- A comparison that gets no memory finds nodes and GUIDs as they were. -/
def TablesUnchanged (s : Sys) : Event → Prop
  | .compare _ false =>
      s.worker.ssaDb.pPreviousDb.nodeView = s.worker.ssaDb.pCurrentDb.nodeView ∧
        s.worker.ssaDb.pPreviousDb.guidToLidView = s.worker.ssaDb.pCurrentDb.guidToLidView
  | _ => True

structure Synced (s : Sys) : Prop where
  node : s.consumer.node = s.worker.published.nodeView
  guidToLid : s.consumer.guidToLid = s.worker.published.guidToLidView

theorem synced_init : Synced sysInit := ⟨rfl, rfl⟩

theorem published_update {w : Worker} (h : Rotation w) (hphase : w.phase = .drained) :
    (if w.ssaDb.pCurrentDb.initialized then w.ssaDb.pCurrentDb else w.ssaDb.pPreviousDb)
      = w.ssaDb.pCurrentDb := by
  cases hfirst : w.firstTimeSubnetUp with
  | true =>
      rw [h.noCurrent hfirst (by rw [hphase]; decide), h.noPrevious hfirst]
      rfl
  | false =>
      obtain ⟨s, hs⟩ := h.current (Or.inl hfirst)
      rw [hs.initialized]
      rfl

/-- The worker after a comparison. -/
theorem compare_worker {w w' : Worker} {mem : Mem} {alloc : Bool}
    (hstep : workerStep w (.compare mem alloc) = some w') :
    w'.pSsaDbDiff = (ssaDbCompare mem alloc w.firstTimeSubnetUp w.ssaDb).1 ∧
      w'.published = w.ssaDb.pCurrentDb := by
  obtain ⟨_, rfl⟩ := workerStep_compare.mp hstep
  refine ⟨rfl, ?_⟩
  rw [ssaDbCompare_snd]
  rfl

/-- The comparison, in its three outcomes. -/
private theorem Synced.compare {s : Sys} (h : Synced s) (hrot : Rotation s.worker)
    (hphase : s.worker.phase = .updated) {mem : Mem} {alloc : Bool}
    (hok : TablesUnchanged s (.compare mem alloc)) {w : Worker}
    (hstep : workerStep s.worker (.compare mem alloc) = some w) :
    Synced (s.deliver (.compare mem alloc) w) := by
  obtain ⟨hdiff, hcur⟩ := compare_worker hstep
  have hnode : s.consumer.node = s.worker.ssaDb.pPreviousDb.nodeView := by
    rw [h.node, Worker.published, hphase]
  have hguid : s.consumer.guidToLid = s.worker.ssaDb.pPreviousDb.guidToLidView := by
    rw [h.guidToLid, Worker.published, hphase]
  have hp := hrot.previous.recordsKeyed
  obtain ⟨sub, hsub⟩ := hrot.current (Or.inr hphase)
  have hc := hsub.recordsKeyed
  -- without a diff the consumer stays, and so must the two tables
  have hstay : w.pSsaDbDiff = none →
      s.worker.ssaDb.pPreviousDb.nodeView = s.worker.ssaDb.pCurrentDb.nodeView →
      s.worker.ssaDb.pPreviousDb.guidToLidView = s.worker.ssaDb.pCurrentDb.guidToLidView →
      Synced (s.deliver (.compare mem alloc) w) := by
    intro hnone hsameNode hsameGuid
    rw [deliver_compare_none s mem alloc hnone]
    refine ⟨?_, ?_⟩
    · show s.consumer.node = w.published.nodeView
      rw [hcur, hnode, hsameNode]
    · show s.consumer.guidToLid = w.published.guidToLidView
      rw [hcur, hguid, hsameGuid]
  cases alloc with
  | false =>
      obtain ⟨hsameNode, hsameGuid⟩ := hok
      exact hstay hdiff hsameNode hsameGuid
  | true =>
      rcases ssaDbCompare_fst mem s.worker.firstTimeSubnetUp s.worker.ssaDb with
        ⟨_, hsome⟩ | ⟨hsame, hnone⟩
      · obtain ⟨hpushNode, hpushGuid⟩ :=
          (buildDiff_spec mem s.worker.firstTimeSubnetUp s.worker.ssaDb).push_tables hp hc hnode
            hguid
        rw [deliver_compare_some s mem true (hdiff.trans hsome)]
        refine ⟨?_, ?_⟩
        · show _ = w.published.nodeView
          rw [hcur]
          exact hpushNode
        · show _ = w.published.guidToLidView
          rw [hcur]
          exact hpushGuid
      · obtain ⟨hsameNode, hsameGuid⟩ := views_eq_of_not_differ hp hc hsame
        exact hstay (hdiff.trans hnone) hsameNode hsameGuid

/-- A step of any other kind leaves the consumer alone, and what it should
hold too. -/
private theorem Synced.of_published {s : Sys} (h : Synced s) {e : Event} {w : Worker}
    (he : ∀ mem alloc, e ≠ .compare mem alloc)
    (hnode : w.published.nodeView = s.worker.published.nodeView)
    (hguid : w.published.guidToLidView = s.worker.published.guidToLidView) :
    Synced (s.deliver e w) := by
  rw [deliver_of_ne s he]
  exact ⟨h.node.trans hnode.symm, h.guidToLid.trans hguid.symm⟩

theorem Synced.step {s s' : Sys} {e : Event} (h : Synced s) (hrot : Rotation s.worker)
    (hok : TablesUnchanged s e) (hstep : sysStep s e = some s') : Synced s' := by
  obtain ⟨w, hw, rfl⟩ := sysStep_eq_some.mp hstep
  cases e with
  | report pLftChange =>
      obtain rfl := workerStep_report.mp hw
      rw [reportLftChange_eq]
      exact h.of_published (fun _ _ hc => by cases hc) rfl rfl
  | lftChange mem =>
      obtain ⟨_, rfl⟩ := workerStep_lftChange.mp hw
      exact h.of_published (fun _ _ hc => by cases hc) rfl rfl
  | extract mem sub =>
      obtain ⟨hidle, rfl⟩ := workerStep_extract.mp hw
      refine h.of_published (fun _ _ hc => by cases hc) ?_ ?_ <;>
        · rw [Worker.published, Worker.published, hidle]
          rfl
  | lftHandle mem =>
      obtain ⟨hphase, rfl⟩ := workerStep_lftHandle.mp hw
      refine h.of_published (fun _ _ hc => by cases hc) ?_ ?_ <;>
        · rw [Worker.published, Worker.published, hphase]
          rfl
  | update =>
      obtain ⟨hphase, rfl⟩ := workerStep_update.mp hw
      have hprev := published_update hrot hphase
      refine h.of_published (fun _ _ hc => by cases hc) ?_ ?_ <;>
        · rw [Worker.published, Worker.published, hphase]
          simp only [ssaDbUpdate, hprev]
  | compare mem alloc =>
      obtain ⟨hphase, _⟩ := workerStep_compare.mp hw
      exact h.compare hrot hphase hok hw

theorem synced {es : List Event} {s : Sys} (hg : Guarded sysStep TablesUnchanged sysInit es)
    (hrun : run sysStep sysInit es = some s) : Synced s :=
  guarded_induction (P := fun _ s => Synced s) synced_init
    (fun _ _ _ _ hrun h hok hstep => h.step (rotation (run_worker hrun)) hok hstep) hg hrun

/-- Every comparison of a run gets its memory. -/
def AllocsSucceed (es : List Event) : Prop := ∀ mem, Event.compare mem false ∉ es

theorem tablesUnchanged_of_allocsSucceed {es : List Event} (h : AllocsSucceed es) :
    Guarded sysStep TablesUnchanged sysInit es := by
  rintro es₁ e es₂ s rfl _
  cases e with
  | compare mem alloc =>
      cases alloc with
      | false => exact absurd (by simp) (h mem)
      | true => trivial
  | report | lftChange | extract | lftHandle | update => trivial

/-- Right after a comparison the current snapshot is the published one. -/
theorem Synced.after_compare {s : Sys} (h : Synced s) (hidle : s.worker.phase = .idle) :
    s.consumer.node = s.worker.ssaDb.pCurrentDb.nodeView ∧
      s.consumer.guidToLid = s.worker.ssaDb.pCurrentDb.guidToLidView := by
  have hpub : s.worker.published = s.worker.ssaDb.pCurrentDb := by
    rw [Worker.published, hidle]
  rw [h.node, h.guidToLid, hpub]
  exact ⟨rfl, rfl⟩

theorem idle_after_compare {es : List Event} {mem : Mem} {alloc : Bool} {s : Sys}
    (hrun : run sysStep sysInit (es ++ [.compare mem alloc]) = some s) :
    s.worker.phase = .idle := by
  obtain ⟨w₀, _, hstep⟩ := run_snoc_eq_some.mp (run_worker hrun)
  obtain ⟨_, hw⟩ := workerStep_compare.mp hstep
  rw [hw]

/-- A comparison leaves the current database as it is, so it is the last
snapshot afterwards too. -/
theorem lastSnapshot_after_compare {es : List Event} {mem : Mem} {alloc : Bool} {s : Sys}
    (hrun : run sysStep sysInit (es ++ [.compare mem alloc]) = some s) :
    ∃ subn, LastSnapshot es subn s.worker.ssaDb.pCurrentDb := by
  obtain ⟨w₀, hw₀, hstep⟩ := run_snoc_eq_some.mp (run_worker hrun)
  obtain ⟨hphase, hw⟩ := workerStep_compare.mp hstep
  obtain ⟨subn, hlast⟩ := lastSnapshot_at_compare hw₀ hphase
  rw [hw, ssaDbCompare_snd]
  exact ⟨subn, hlast⟩

/-- After every START_EXTRACT the current database is the snapshot just taken, and
the consumer holds its nodes and its GUIDs, whether or not there was a diff. -/
theorem tables_replicated {es : List Event} {mem : Mem} {alloc : Bool} {s : Sys}
    (hrun : run sysStep sysInit (es ++ [.compare mem alloc]) = some s)
    (halloc : AllocsSucceed (es ++ [.compare mem alloc])) :
    (∃ subn, LastSnapshot es subn s.worker.ssaDb.pCurrentDb) ∧
      s.consumer.node = s.worker.ssaDb.pCurrentDb.nodeView ∧
      s.consumer.guidToLid = s.worker.ssaDb.pCurrentDb.guidToLidView :=
  ⟨lastSnapshot_after_compare hrun,
    (synced (tablesUnchanged_of_allocsSucceed halloc) hrun).after_compare (idle_after_compare hrun)⟩

/-- Two extractions, with one switch gone and another one come in between. -/
def switchReplaced : List Event :=
  startExtract default (OsmSubn.ofNodes [plainSwitch 1 1 0, plainSwitch 2 2 0]) true ++
    startExtract default (OsmSubn.ofNodes [plainSwitch 1 1 0, plainSwitch 3 3 0]) true

/-- The consumer knows the new switch, and has forgotten the old one. -/
theorem tables_replicated_switchReplaced :
    ∃ s, run sysStep sysInit switchReplaced = some s ∧
      SnapshotOf (OsmSubn.ofNodes [plainSwitch 1 1 0, plainSwitch 3 3 0])
        s.worker.ssaDb.pCurrentDb ∧
      s.consumer.node 1 = some (epNodeTblRecInit (plainSwitch 1 1 0)) ∧
      s.consumer.node 2 = none ∧
      s.consumer.node 3 = some (epNodeTblRecInit (plainSwitch 3 3 0)) ∧
      (s.consumer.guidToLid 1).map EpGuidToLidTblRec.lid = some (htons 1) ∧
      s.consumer.guidToLid 2 = none ∧
      (s.consumer.guidToLid 3).map EpGuidToLidTblRec.lid = some (htons 3) := by
  have hsome : (run sysStep sysInit switchReplaced).isSome = true := by decide +kernel
  obtain ⟨s, hs⟩ := Option.isSome_iff_exists.mp hsome
  have hrun : run sysStep sysInit (switchReplaced.dropLast ++ [.compare default true]) = some s :=
    hs
  have halloc : AllocsSucceed (switchReplaced.dropLast ++ [.compare default true]) := by
    intro mem hmem
    simp [switchReplaced, startExtract] at hmem
  obtain ⟨⟨subn, hlast⟩, hnode, hguid⟩ := tables_replicated hrun halloc
  obtain rfl : OsmSubn.ofNodes [plainSwitch 1 1 0, plainSwitch 3 3 0] = subn :=
    Option.some.inj hlast.subnet
  -- the two tables are those of the snapshot, and these are read off the subnet
  have hnodes := hnode.trans hlast.snapshot.node
  have hguids := hguid.trans hlast.snapshot.guidToLid
  refine ⟨s, hs, hlast.snapshot, ?_⟩
  rw [hnodes, hguids]
  exact ⟨rfl, rfl, rfl, rfl, rfl, rfl⟩

end Ibssa
