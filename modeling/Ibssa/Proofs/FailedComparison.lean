import Ibssa.Proofs.LftReplication

/-!
# Comparisons that fail

A comparison that gets no memory for its diff returns early. By then the
snapshots have been rotated, and `first_time_subnet_up` is cleared right after
it, so the next comparison starts from the snapshot of the failed one and takes
itself for a later one. What fell in between is in no diff.

`Harmless` says of a run that nothing did: a failing comparison finds the nodes
and GUIDs unchanged, and a failing first one has no LFT database to push. Under
it the induction of the tables goes through as it is, and for the LFT records
`Awaiting` says what is so until the first diff comes.
-/

namespace Ibssa

open Keyed ByteOrder Machine

/-! ## What must not fall into a failed comparison -/

/-- Until a diff has been returned, no LFT record is in the database that only
a first comparison would push, and none is thrown away with a diff. -/
def FirstDiffFull (s : Sys) : Event → Prop
  | .compare _ false =>
      s.worker.firstTimeSubnetUp = true →
        s.worker.ssaDb.pLftDb.epDbLftBlockTbl = OrdMap.empty ∧
          s.worker.ssaDb.pLftDb.epDbLftTopTbl = OrdMap.empty
  | .compare mem true =>
      s.returned = 0 → s.worker.firstTimeSubnetUp = false →
        SnapshotsDiffer mem s.worker.ssaDb.pPreviousDb s.worker.ssaDb.pCurrentDb ∨
          s.worker.ssaDb.pLftDb.epDumpLftBlockTbl = OrdMap.empty ∧
            s.worker.ssaDb.pLftDb.epDumpLftTopTbl = OrdMap.empty
  | _ => True

/-- Nothing falls into a comparison that fails. -/
def Harmless (s : Sys) (e : Event) : Prop := TablesUnchanged s e ∧ FirstDiffFull s e

/-! ## Until the first diff -/

/-- Before the first diff: the consumer has no LFT records, and neither has the
database, unless the first comparison is still to come. -/
structure Awaiting (s : Sys) : Prop where
  noBlocks : s.consumer.lftBlock = fun _ => none
  noTops : s.consumer.lftTop = fun _ => none
  database : s.worker.firstTimeSubnetUp = true ∨
    s.worker.ssaDb.pLftDb.epDbLftBlockTbl = OrdMap.empty ∧
      s.worker.ssaDb.pLftDb.epDbLftTopTbl = OrdMap.empty

theorem awaiting_init : Awaiting sysInit := ⟨rfl, rfl, Or.inl rfl⟩

theorem Awaiting.of_noCompare {s s' : Sys} (h : Awaiting s) (hn : NoCompare s s') :
    Awaiting s' := by
  refine ⟨?_, ?_, ?_⟩
  · rw [hn.consumer]
    exact h.noBlocks
  · rw [hn.consumer]
    exact h.noTops
  · rcases h.database with hfirst | ⟨hblocks, htops⟩
    · exact Or.inl (hn.firstTimeSubnetUp.trans hfirst)
    · cases hfirst : s.worker.firstTimeSubnetUp with
      | true => exact Or.inl (hn.firstTimeSubnetUp.trans hfirst)
      | false =>
          obtain ⟨hmapB, hmapT⟩ := hn.maps hfirst
          exact Or.inr ⟨hmapB.trans hblocks, hmapT.trans htops⟩

/-- A comparison that returns no diff leaves the consumer waiting. -/
private theorem Awaiting.compare_none {s : Sys} (h : Awaiting s) (hrot : Rotation s.worker)
    (hzero : s.returned = 0) {mem : Mem} {alloc : Bool}
    (hok : FirstDiffFull s (.compare mem alloc)) {w : Worker}
    (hstep : workerStep s.worker (.compare mem alloc) = some w)
    (hnone : w.pSsaDbDiff = none) : Awaiting { s with worker := w } := by
  obtain ⟨hphase, hw⟩ := workerStep_compare.mp hstep
  refine ⟨h.noBlocks, h.noTops, Or.inr ?_⟩
  show w.ssaDb.pLftDb.blocks.db.map = _ ∧ w.ssaDb.pLftDb.tops.db.map = _
  cases alloc with
  | false =>
      have hsame : w.ssaDb.pLftDb = s.worker.ssaDb.pLftDb := by
        rw [hw, ssaDbCompare_snd]
        rfl
      rw [hsame]
      rcases h.database with hfirst | hempty
      · exact hok hfirst
      · exact hempty
  | true =>
      have hsame : ¬ SnapshotsDiffer mem s.worker.ssaDb.pPreviousDb s.worker.ssaDb.pCurrentDb := by
        intro hdiffer
        rcases ssaDbCompare_fst mem s.worker.firstTimeSubnetUp s.worker.ssaDb with
          ⟨_, hsome⟩ | ⟨hsame, _⟩
        · rw [hw] at hnone
          exact absurd (hsome.symm.trans hnone) (Option.some_ne_none _)
        · exact hsame hdiffer
      have hfirst : s.worker.firstTimeSubnetUp = false :=
        Bool.eq_false_iff.mpr fun hfirst => hsame (hrot.snapshotsDiffer hphase hfirst mem)
      obtain ⟨hdumpB, hdumpT⟩ := (hok hzero hfirst).resolve_left hsame
      obtain ⟨hdbB, hdbT⟩ := h.database.resolve_left (by rw [hfirst]; decide)
      obtain ⟨_, hdb⟩ := pLftDb_compare hstep
      rw [hfirst, if_neg (by decide)] at hdb
      rw [hdb, blocks_mergeLftDump, tops_mergeLftDump]
      exact ⟨(map_merge_of_empty hdumpB _ _).trans hdbB,
        (map_merge_of_empty hdumpT _ _).trans hdbT⟩

/-- The first diff to be returned gives the consumer the LFT database. -/
private theorem Awaiting.compare_some {s : Sys} (h : Awaiting s) {hist : History}
    (hrun : RunOk hist s.worker) {mem : Mem} {w : Worker}
    (hstep : workerStep s.worker (.compare mem true) = some w) :
    (s.consumer.push (buildDiff mem s.worker.firstTimeSubnetUp s.worker.ssaDb).1).lftBlock
        = w.ssaDb.pLftDb.blocks.db.view ∧
      (s.consumer.push (buildDiff mem s.worker.firstTimeSubnetUp s.worker.ssaDb).1).lftTop
        = w.ssaDb.pLftDb.tops.db.view := by
  obtain ⟨hblock, htop⟩ :=
    (buildDiff_spec mem s.worker.firstTimeSubnetUp s.worker.ssaDb).push_lft s.consumer
  rw [h.noBlocks, layered_none_left] at hblock
  rw [h.noTops, layered_none_left] at htop
  rw [hblock, htop]
  obtain ⟨_, hdb⟩ := pLftDb_compare hstep
  cases hfirst : s.worker.firstTimeSubnetUp with
  | true =>
      rw [hfirst, if_pos rfl] at hdb
      rw [hdb]
      exact ⟨rfl, rfl⟩
  | false =>
      obtain ⟨hdbB, hdbT⟩ := h.database.resolve_left (by rw [hfirst]; decide)
      rw [hfirst, if_neg (by decide)] at hdb
      rw [hdb, blocks_mergeLftDump, tops_mergeLftDump,
        view_merge_of_empty hdbB hrun.blocks.live, view_merge_of_empty hdbT hrun.tops.live]
      exact ⟨rfl, rfl⟩

theorem awaiting {es : List Event} {s : Sys} (hg : Guarded sysStep FirstDiffFull sysInit es)
    (hrun : run sysStep sysInit es = some s) : s.returned = 0 → Awaiting s := by
  refine guarded_induction (P := fun _ s => s.returned = 0 → Awaiting s)
    (fun _ => awaiting_init) ?_ hg hrun
  intro es e s s' hrun ih hok hstep hzero'
  have hrun' := run_worker hrun
  by_cases he : ∀ mem alloc, e ≠ .compare mem alloc
  · have hn := noCompare_of_step (runOk hrun') he hstep
    exact (ih (hn.returned.symm.trans hzero')).of_noCompare hn
  · push Not at he
    obtain ⟨mem, alloc, rfl⟩ := he
    obtain ⟨w, hw, rfl⟩ := sysStep_eq_some.mp hstep
    cases hdiff : w.pSsaDbDiff with
    | some d =>
        rw [deliver_compare_some s mem alloc hdiff] at hzero'
        exact absurd hzero' (Nat.succ_ne_zero _)
    | none =>
        rw [deliver_compare_none s mem alloc hdiff] at hzero' ⊢
        exact (ih hzero').compare_none (rotation hrun') hzero' hok hw hdiff

/-! ## Every diff that is returned -/

/-- In a run whose failing comparisons lose nothing, every diff that is returned
leaves the consumer with the nodes and GUIDs of the snapshot just taken, and the
first one with the full LFT database. -/
theorem failed_comparison_harmless {es : List Event} {s s' : Sys} {mem : Mem} {alloc : Bool}
    (hg : Guarded sysStep Harmless sysInit (es ++ [.compare mem alloc]))
    (hrun : run sysStep sysInit es = some s) (hstep : sysStep s (.compare mem alloc) = some s')
    (hreturned : s'.worker.pSsaDbDiff.isSome = true) :
    (∃ subn, LastSnapshot es subn s'.worker.ssaDb.pCurrentDb) ∧
      s'.consumer.node = s'.worker.ssaDb.pCurrentDb.nodeView ∧
      s'.consumer.guidToLid = s'.worker.ssaDb.pCurrentDb.guidToLidView ∧
      (s.returned = 0 →
        s'.consumer.lftBlock = s'.worker.ssaDb.pLftDb.blocks.db.view ∧
          s'.consumer.lftTop = s'.worker.ssaDb.pLftDb.tops.db.view) := by
  have hrun' : run sysStep sysInit (es ++ [.compare mem alloc]) = some s' :=
    run_snoc_eq_some.mpr ⟨s, hrun, hstep⟩
  have hsynced := synced (hg.mono fun _ _ h => h.1) hrun'
  obtain ⟨hnode, hguid⟩ := hsynced.after_compare (idle_after_compare hrun')
  refine ⟨lastSnapshot_after_compare hrun', hnode, hguid, fun hzero => ?_⟩
  have hawait := awaiting (hg.init.mono fun _ _ h => h.2) hrun hzero
  obtain ⟨w, hw, rfl⟩ := sysStep_eq_some.mp hstep
  rw [deliver_worker] at hreturned
  obtain ⟨hdiff, _⟩ := compare_worker hw
  cases alloc with
  | false =>
      rw [hdiff] at hreturned
      cases hreturned
  | true =>
      rcases ssaDbCompare_fst mem s.worker.firstTimeSubnetUp s.worker.ssaDb with
        ⟨_, hsome⟩ | ⟨_, hnone⟩
      · rw [deliver_compare_some s mem true (hdiff.trans hsome)]
        exact hawait.compare_some (runOk (run_worker hrun)) hw
      · rw [hdiff, hnone] at hreturned
        cases hreturned

/-- `Harmless`, computed. -/
def harmlessCheck (s : Sys) : Event → Bool
  | .compare _ false =>
      let p := s.worker.ssaDb.pPreviousDb
      let c := s.worker.ssaDb.pCurrentDb
      let l := s.worker.ssaDb.pLftDb
      decide (entries p.epNodeTbl p.pNodeTbl = entries c.epNodeTbl c.pNodeTbl) &&
        decide (entries p.epGuidToLidTbl p.pGuidToLidTbl
          = entries c.epGuidToLidTbl c.pGuidToLidTbl) &&
        (!s.worker.firstTimeSubnetUp ||
          decide (l.epDbLftBlockTbl = OrdMap.empty) && decide (l.epDbLftTopTbl = OrdMap.empty))
  | .compare mem true =>
      s.returned != 0 || s.worker.firstTimeSubnetUp ||
        decide ((buildDiff mem s.worker.firstTimeSubnetUp s.worker.ssaDb).1.dirty ≠ 0)
  | _ => true

theorem view_eq_of_entries {α : Type} {m m' : EpMap} {b b' : Buf α}
    (h : entries m b = entries m' b') : view m b = view m' b' := by
  funext k
  rw [← find_entries, ← find_entries, h]

theorem harmless_of_check (s : Sys) (e : Event) (h : harmlessCheck s e = true) :
    Harmless s e := by
  cases e with
  | compare mem alloc =>
      cases alloc with
      | true =>
          simp only [harmlessCheck, Bool.or_eq_true, bne_iff_ne, decide_eq_true_eq] at h
          refine ⟨trivial, fun hzero hlater => Or.inl ?_⟩
          rcases h with (hsome | hfirst) | hdirty
          · exact absurd hzero hsome
          · exact absurd (hfirst.symm.trans hlater) (by decide)
          · exact snapshotsDiffer_of_dirty hdirty
      | false =>
          simp only [harmlessCheck, Bool.and_eq_true, Bool.or_eq_true, Bool.not_eq_true',
            decide_eq_true_eq] at h
          obtain ⟨⟨hnode, hguid⟩, hempty⟩ := h
          refine ⟨⟨view_eq_of_entries hnode, view_eq_of_entries hguid⟩, fun hfirst => ?_⟩
          exact hempty.resolve_left (by rw [hfirst]; decide)
  | report | lftChange | extract | lftHandle | update => exact ⟨trivial, trivial⟩

/-- The first comparison fails on an empty subnet. Then a switch comes up, and
a block of it changes. -/
def emptySubnetFails : List Event :=
  startExtract default (OsmSubn.ofNodes []) false ++
    [blockChanged (plainSwitch 1 1 7)] ++
    startExtract default (OsmSubn.ofNodes [plainSwitch 1 1 7]) true

/-- The first diff that is returned has the switch, and its block. -/
theorem failed_comparison_harmless_emptySubnetFails :
    ∃ s s', run sysStep sysInit emptySubnetFails.dropLast = some s ∧
      sysStep s (.compare default true) = some s' ∧ s.returned = 0 ∧
      SnapshotOf (OsmSubn.ofNodes [plainSwitch 1 1 7]) s'.worker.ssaDb.pCurrentDb ∧
      s'.consumer.node 1 = some (epNodeTblRecInit (plainSwitch 1 1 7)) ∧
      (s'.consumer.guidToLid 1).map EpGuidToLidTblRec.lid = some (htons 1) ∧
      s'.consumer.lftBlock = s'.worker.ssaDb.pLftDb.blocks.db.view ∧
      s'.consumer.lftTop = s'.worker.ssaDb.pLftDb.tops.db.view ∧
      s'.consumer.lftBlock (epRecGenKey 1 0)
        = some ⟨htons 1, htons 0, Vector.replicate 64 7⟩ := by
  have hend : ((run sysStep sysInit emptySubnetFails.dropLast).any fun s =>
      s.returned == 0 && (sysStep s (.compare default true)).any fun s' =>
        s'.worker.pSsaDbDiff.isSome &&
          decide (s'.consumer.lftBlock (epRecGenKey 1 0)
            = some ⟨htons 1, htons 0, Vector.replicate 64 7⟩)) = true := by
    decide +kernel
  obtain ⟨s, hrun, hs⟩ := (Option.any_eq_true _ _).mp hend
  rw [Bool.and_eq_true, beq_iff_eq] at hs
  obtain ⟨hzero, hnext⟩ := hs
  obtain ⟨s', hstep, hs'⟩ := (Option.any_eq_true _ _).mp hnext
  rw [Bool.and_eq_true, decide_eq_true_eq] at hs'
  obtain ⟨hreturned, hblock⟩ := hs'
  have hg : Guarded sysStep Harmless sysInit
      (emptySubnetFails.dropLast ++ [.compare default true]) :=
    guarded_of_check harmless_of_check (by decide +kernel)
  obtain ⟨⟨subn, hlast⟩, hnode, hguid, hlft⟩ :=
    failed_comparison_harmless hg hrun hstep hreturned
  obtain rfl : OsmSubn.ofNodes [plainSwitch 1 1 7] = subn := Option.some.inj hlast.subnet
  obtain ⟨hblocks, htops⟩ := hlft hzero
  refine ⟨s, s', hrun, hstep, hzero, hlast.snapshot, ?_, ?_, hblocks, htops, hblock⟩
  · rw [hnode.trans hlast.snapshot.node]
    rfl
  · rw [hguid.trans hlast.snapshot.guidToLid]
    rfl

/-- The first comparison fails on a subnet with a switch, and the second one,
with another switch, does not. -/
def firstComparisonFails : List Event :=
  startExtract default (OsmSubn.ofNodes [plainSwitch 1 1 0]) false ++
    startExtract default (OsmSubn.ofNodes [plainSwitch 1 1 0, plainSwitch 2 2 0]) true

/-- The diff, the first one to be returned, has neither the first switch nor
its LFT. -/
theorem failed_comparison_loses_firstComparisonFails :
    ∃ s, run sysStep sysInit firstComparisonFails = some s ∧
      s.worker.pSsaDbDiff.isSome = true ∧ s.returned = 1 ∧
      s.consumer.node ≠ s.worker.ssaDb.pCurrentDb.nodeView ∧
      s.consumer.lftBlock ≠ s.worker.ssaDb.pLftDb.blocks.db.view := by
  have hend : ((run sysStep sysInit firstComparisonFails).any fun s =>
      s.worker.pSsaDbDiff.isSome && s.returned == 1 &&
        decide (s.consumer.node 1 ≠ s.worker.ssaDb.pCurrentDb.nodeView 1) &&
        decide (s.consumer.lftBlock (epRecGenKey 1 0)
          ≠ s.worker.ssaDb.pLftDb.blocks.db.view (epRecGenKey 1 0))) = true := by
    decide +kernel
  obtain ⟨s, hrun, hs⟩ := (Option.any_eq_true _ _).mp hend
  simp only [Bool.and_eq_true, beq_iff_eq, decide_eq_true_eq] at hs
  obtain ⟨⟨⟨hreturned, hone⟩, hnode⟩, hblock⟩ := hs
  exact ⟨s, hrun, hreturned, hone, fun heq => hnode (congrFun heq _),
    fun heq => hblock (congrFun heq _)⟩

end Ibssa
