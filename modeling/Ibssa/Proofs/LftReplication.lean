import Ibssa.Proofs.Replication

/-!
# The consumer's LFT records

The first diff has the whole LFT database in it and every later one the dump,
so a consumer that takes in all of them should hold what the database holds.
One thing can go wrong on the way. A comparison that finds nothing in the tables
throws its diff away together with the LFT records in it, after the dump they
came from has been merged and cleared, and nobody gets to see them again. The
result is for runs in which this does not happen: `Pushed` is the condition on a
comparison, read off the state it starts in.

A database with gaps in its offsets, which is what two switches with one LID
leave behind, is the other half of the condition. A new key is stored at the
count, and with a gap below that slot has an owner.
-/

namespace Ibssa

open Keyed ByteOrder Machine

/-! ## What a comparison must not throw away -/

/-- The dump of a store has no record that the database lacks or has
differently. -/
def LftStore.Silent {α : Type} (s : LftStore α) : Prop := s.look = s.db.view

/-- A comparison after the first one merges the dump, and it either finds a
change in the tables, or there is nothing in the dump to push. -/
def Pushed (s : Sys) : Event → Prop
  | .compare mem _ =>
      s.worker.firstTimeSubnetUp = true ∨
        s.worker.ssaDb.pLftDb.blocks.MergeRoom ∧ s.worker.ssaDb.pLftDb.tops.MergeRoom ∧
          (SnapshotsDiffer mem s.worker.ssaDb.pPreviousDb s.worker.ssaDb.pCurrentDb ∨
            s.worker.ssaDb.pLftDb.blocks.Silent ∧ s.worker.ssaDb.pLftDb.tops.Silent)
  | _ => True

/-- With distinct LIDs in the first extraction a merge always has room. -/
theorem mergeRoom_of_lidsDistinct {es : List Event} {w : Worker}
    (hrun : run workerStep workerInit es = some w) (hlids : (history es).LidsDistinct) :
    w.ssaDb.pLftDb.blocks.MergeRoom ∧ w.ssaDb.pLftDb.tops.MergeRoom := by
  have hok := runOk hrun
  have hkept := kept hrun hlids
  exact ⟨(hkept.blocks.dbInv hok.blocks).mergeRoom, (hkept.tops.dbInv hok.tops).mergeRoom⟩

/-! ## One step -/

/-- The consumer has no LFT records before the first comparison, and those of
the database after it. -/
structure LftSynced (s : Sys) : Prop where
  noBlocks : s.worker.firstTimeSubnetUp = true → s.consumer.lftBlock = fun _ => none
  noTops : s.worker.firstTimeSubnetUp = true → s.consumer.lftTop = fun _ => none
  blocks : s.worker.firstTimeSubnetUp = false →
    s.consumer.lftBlock = s.worker.ssaDb.pLftDb.blocks.db.view
  tops : s.worker.firstTimeSubnetUp = false →
    s.consumer.lftTop = s.worker.ssaDb.pLftDb.tops.db.view

/-- What a step that is no comparison leaves alone. -/
structure NoCompare (s s' : Sys) : Prop where
  consumer : s'.consumer = s.consumer
  returned : s'.returned = s.returned
  firstTimeSubnetUp : s'.worker.firstTimeSubnetUp = s.worker.firstTimeSubnetUp
  blocks : s.worker.firstTimeSubnetUp = false →
    s'.worker.ssaDb.pLftDb.blocks.db.view = s.worker.ssaDb.pLftDb.blocks.db.view
  tops : s.worker.firstTimeSubnetUp = false →
    s'.worker.ssaDb.pLftDb.tops.db.view = s.worker.ssaDb.pLftDb.tops.db.view
  maps : s.worker.firstTimeSubnetUp = false →
    s'.worker.ssaDb.pLftDb.blocks.db.map = s.worker.ssaDb.pLftDb.blocks.db.map ∧
      s'.worker.ssaDb.pLftDb.tops.db.map = s.worker.ssaDb.pLftDb.tops.db.map

/-- A drain does not touch the database. -/
theorem db_ssaDbLftHandle (mem : Mem) (ssaDb : SsaDatabase) :
    (ssaDbLftHandle mem ssaDb).pLftDb.blocks.db = ssaDb.pLftDb.blocks.db ∧
      (ssaDbLftHandle mem ssaDb).pLftDb.tops.db = ssaDb.pLftDb.tops.db := by
  rw [blocks_ssaDbLftHandle, tops_ssaDbLftHandle]
  exact ⟨rfl, rfl⟩

theorem noCompare_of_step {s s' : Sys} {e : Event} {h : History} (hok : RunOk h s.worker)
    (he : ∀ mem alloc, e ≠ .compare mem alloc) (hstep : sysStep s e = some s') :
    NoCompare s s' := by
  obtain ⟨w, hw, rfl⟩ := sysStep_eq_some.mp hstep
  rw [deliver_of_ne s he]
  cases e with
  | report pLftChange =>
      obtain rfl := workerStep_report.mp hw
      rw [reportLftChange_eq]
      exact ⟨rfl, rfl, rfl, fun _ => rfl, fun _ => rfl, fun _ => ⟨rfl, rfl⟩⟩
  | lftChange mem =>
      obtain ⟨_, rfl⟩ := workerStep_lftChange.mp hw
      obtain ⟨hblocks, htops⟩ := db_ssaDbLftHandle mem s.worker.ssaDb
      exact ⟨rfl, rfl, rfl, fun _ => congrArg Slots.view hblocks,
        fun _ => congrArg Slots.view htops,
        fun _ => ⟨congrArg Slots.map hblocks, congrArg Slots.map htops⟩⟩
  | extract mem sub =>
      obtain ⟨_, rfl⟩ := workerStep_extract.mp hw
      cases hfirst : s.worker.firstTimeSubnetUp with
      | true =>
          refine ⟨rfl, rfl, hfirst.symm, fun hc => ?_, fun hc => ?_, fun hc => ?_⟩ <;>
            · rw [hfirst] at hc
              cases hc
      | false =>
          obtain ⟨hblocks, htops⟩ := ssaDbExtract_later mem s.worker.ssaDb sub
          refine ⟨rfl, rfl, hfirst.symm, fun _ => ?_, fun _ => ?_, fun _ => ⟨?_, ?_⟩⟩
          · exact (congrArg (Slots.view ∘ LftStore.db) hblocks).trans
              (view_alloc hok.blocks.live _ _ _)
          · exact (congrArg (Slots.view ∘ LftStore.db) htops).trans
              (view_alloc hok.tops.live _ _ _)
          · show (ssaDbExtract mem false s.worker.ssaDb sub).pLftDb.blocks.db.map = _
            rw [hblocks]
            rfl
          · show (ssaDbExtract mem false s.worker.ssaDb sub).pLftDb.tops.db.map = _
            rw [htops]
            rfl
  | lftHandle mem =>
      obtain ⟨_, rfl⟩ := workerStep_lftHandle.mp hw
      obtain ⟨hblocks, htops⟩ := db_ssaDbLftHandle mem s.worker.ssaDb
      exact ⟨rfl, rfl, rfl, fun _ => congrArg Slots.view hblocks,
        fun _ => congrArg Slots.view htops,
        fun _ => ⟨congrArg Slots.map hblocks, congrArg Slots.map htops⟩⟩
  | update =>
      obtain ⟨_, rfl⟩ := workerStep_update.mp hw
      exact ⟨rfl, rfl, rfl, fun _ => rfl, fun _ => rfl, fun _ => ⟨rfl, rfl⟩⟩
  | compare mem alloc => exact absurd rfl (he mem alloc)

theorem LftSynced.of_noCompare {s s' : Sys} (h : LftSynced s) (hn : NoCompare s s') :
    LftSynced s' := by
  refine ⟨?_, ?_, ?_, ?_⟩
  · rw [hn.firstTimeSubnetUp, hn.consumer]
    exact h.noBlocks
  · rw [hn.firstTimeSubnetUp, hn.consumer]
    exact h.noTops
  · rw [hn.firstTimeSubnetUp, hn.consumer]
    intro hfirst
    rw [hn.blocks hfirst]
    exact h.blocks hfirst
  · rw [hn.firstTimeSubnetUp, hn.consumer]
    intro hfirst
    rw [hn.tops hfirst]
    exact h.tops hfirst

/-- The LFT database after a comparison that got its memory. -/
theorem pLftDb_compare {w w' : Worker} {mem : Mem}
    (hstep : workerStep w (.compare mem true) = some w') :
    w'.firstTimeSubnetUp = false ∧
      w'.ssaDb.pLftDb
        = if w.firstTimeSubnetUp then w.ssaDb.pLftDb else mergeLftDump mem w.ssaDb.pLftDb := by
  obtain ⟨_, rfl⟩ := workerStep_compare.mp hstep
  refine ⟨rfl, ?_⟩
  rw [ssaDbCompare_snd]
  cases w.firstTimeSubnetUp <;> rfl

/-- The first comparison pushes the database, and always gets to. -/
private theorem LftSynced.compare_first {s : Sys} (h : LftSynced s) (hrot : Rotation s.worker)
    (hfirst : s.worker.firstTimeSubnetUp = true) {mem : Mem} {w : Worker}
    (hstep : workerStep s.worker (.compare mem true) = some w) :
    LftSynced (s.deliver (.compare mem true) w) := by
  obtain ⟨hphase, _⟩ := workerStep_compare.mp hstep
  obtain ⟨hdiff, _⟩ := compare_worker hstep
  obtain ⟨hlater, hdb⟩ := pLftDb_compare hstep
  have hdiffer := hrot.snapshotsDiffer hphase hfirst mem
  rcases ssaDbCompare_fst mem s.worker.firstTimeSubnetUp s.worker.ssaDb with
    ⟨_, hsome⟩ | ⟨hsame, _⟩
  · obtain ⟨hblock, htop⟩ :=
      (buildDiff_spec mem s.worker.firstTimeSubnetUp s.worker.ssaDb).push_lft s.consumer
    rw [deliver_compare_some s mem true (hdiff.trans hsome)]
    rw [hfirst, if_pos rfl] at hdb
    rw [h.noBlocks hfirst, layered_none_left, hfirst] at hblock
    rw [h.noTops hfirst, layered_none_left, hfirst] at htop
    refine ⟨fun hc => ?_, fun hc => ?_, fun _ => ?_, fun _ => ?_⟩
    · exact absurd (hlater.symm.trans hc) (by decide)
    · exact absurd (hlater.symm.trans hc) (by decide)
    · show _ = w.ssaDb.pLftDb.blocks.db.view
      rw [hdb, hfirst]
      exact hblock
    · show _ = w.ssaDb.pLftDb.tops.db.view
      rw [hdb, hfirst]
      exact htop
  · exact absurd hdiffer hsame

/-- Any later one merges the dump, and pushes it unless it is thrown away. -/
private theorem LftSynced.compare_later {s : Sys} (h : LftSynced s) {hist : History}
    (hok : RunOk hist s.worker) (hfirst : s.worker.firstTimeSubnetUp = false) {mem : Mem}
    (hpushed : Pushed s (.compare mem true)) {w : Worker}
    (hstep : workerStep s.worker (.compare mem true) = some w) :
    LftSynced (s.deliver (.compare mem true) w) := by
  obtain ⟨hdiff, _⟩ := compare_worker hstep
  obtain ⟨hlater, hdb⟩ := pLftDb_compare hstep
  rw [hfirst, if_neg (by decide)] at hdb
  obtain ⟨hroomB, hroomT, hsilent⟩ : _ ∧ _ ∧ _ := by
    rcases hpushed with htrue | hcond
    · exact absurd (htrue.symm.trans hfirst) (by decide)
    · exact hcond
  have hviewB : w.ssaDb.pLftDb.blocks.db.view = s.worker.ssaDb.pLftDb.blocks.look := by
    rw [hdb, blocks_mergeLftDump]
    exact view_merge hroomB hok.blocks.live _ _
  have hviewT : w.ssaDb.pLftDb.tops.db.view = s.worker.ssaDb.pLftDb.tops.look := by
    rw [hdb, tops_mergeLftDump]
    exact view_merge hroomT hok.tops.live _ _
  rcases ssaDbCompare_fst mem s.worker.firstTimeSubnetUp s.worker.ssaDb with
    ⟨_, hsome⟩ | ⟨hsame, hnone⟩
  · obtain ⟨hblock, htop⟩ :=
      (buildDiff_spec mem s.worker.firstTimeSubnetUp s.worker.ssaDb).push_lft s.consumer
    rw [deliver_compare_some s mem true (hdiff.trans hsome)]
    rw [h.blocks hfirst, hfirst] at hblock
    rw [h.tops hfirst, hfirst] at htop
    refine ⟨fun hc => ?_, fun hc => ?_, fun _ => ?_, fun _ => ?_⟩
    · exact absurd (hlater.symm.trans hc) (by decide)
    · exact absurd (hlater.symm.trans hc) (by decide)
    · show _ = w.ssaDb.pLftDb.blocks.db.view
      rw [hviewB, hfirst]
      exact hblock
    · show _ = w.ssaDb.pLftDb.tops.db.view
      rw [hviewT, hfirst]
      exact htop
  · obtain ⟨hsilentB, hsilentT⟩ := hsilent.resolve_left hsame
    rw [deliver_compare_none s mem true (hdiff.trans hnone)]
    refine ⟨fun hc => ?_, fun hc => ?_, fun _ => ?_, fun _ => ?_⟩
    · exact absurd (hlater.symm.trans hc) (by decide)
    · exact absurd (hlater.symm.trans hc) (by decide)
    · show s.consumer.lftBlock = w.ssaDb.pLftDb.blocks.db.view
      rw [h.blocks hfirst, hviewB, hsilentB]
    · show s.consumer.lftTop = w.ssaDb.pLftDb.tops.db.view
      rw [h.tops hfirst, hviewT, hsilentT]

theorem LftSynced.step {s s' : Sys} {e : Event} (h : LftSynced s) {hist : History}
    (hok : RunOk hist s.worker) (hrot : Rotation s.worker) (hpushed : Pushed s e)
    (halloc : ∀ mem, e ≠ .compare mem false) (hstep : sysStep s e = some s') :
    LftSynced s' := by
  by_cases he : ∀ mem alloc, e ≠ .compare mem alloc
  · exact h.of_noCompare (noCompare_of_step hok he hstep)
  · push Not at he
    obtain ⟨mem, alloc, rfl⟩ := he
    obtain ⟨w, hw, rfl⟩ := sysStep_eq_some.mp hstep
    cases alloc with
    | false => exact absurd rfl (halloc mem)
    | true =>
        cases hfirst : s.worker.firstTimeSubnetUp with
        | true => exact h.compare_first hrot hfirst hw
        | false => exact h.compare_later hok hfirst hpushed hw

/-! ## Whole runs -/

/-- In a run whose comparisons after the first one all push what they merge,
the consumer's LFT records are those of the database once the first comparison
is through. -/
theorem lft_replicated {es : List Event} {s : Sys} (hrun : run sysStep sysInit es = some s)
    (halloc : AllocsSucceed es) (hpushed : Guarded sysStep Pushed sysInit es) :
    s.worker.firstTimeSubnetUp = false →
      s.consumer.lftBlock = s.worker.ssaDb.pLftDb.blocks.db.view ∧
        s.consumer.lftTop = s.worker.ssaDb.pLftDb.tops.db.view := by
  have hinit : LftSynced sysInit := by
    refine ⟨fun _ => rfl, fun _ => rfl, ?_, ?_⟩ <;>
      · intro hc
        cases hc
  have hsynced : LftSynced s := by
    refine guarded_induction (P := fun es s => AllocsSucceed es → LftSynced s)
      (fun _ => hinit) ?_ hpushed hrun halloc
    intro es e s s' hrun ih hok hstep halloc
    have hrun' := run_worker hrun
    refine (ih fun mem hmem => halloc mem (List.mem_append_left _ hmem)).step (runOk hrun')
      (rotation hrun') hok ?_ hstep
    rintro mem rfl
    exact halloc mem (List.mem_append_right _ (List.mem_singleton_self _))
  exact fun hfirst => ⟨hsynced.blocks hfirst, hsynced.tops hfirst⟩

/-- `Pushed`, computed: the offsets of the database are dense, and the tables
have changed. -/
def pushedCheck (s : Sys) : Event → Bool
  | .compare mem _ =>
      s.worker.firstTimeSubnetUp ||
        (decide (Dense s.worker.ssaDb.pLftDb.epDbLftBlockTbl) &&
          decide (Dense s.worker.ssaDb.pLftDb.epDbLftTopTbl) &&
          decide ((buildDiff mem s.worker.firstTimeSubnetUp s.worker.ssaDb).1.dirty ≠ 0))
  | _ => true

/-- A diff that is not thrown away has seen the snapshots differ. -/
theorem snapshotsDiffer_of_dirty {mem : Mem} {firstTimeSubnetUp : Bool} {ssaDb : SsaDatabase}
    (h : (buildDiff mem firstTimeSubnetUp ssaDb).1.dirty ≠ 0) :
    SnapshotsDiffer mem ssaDb.pPreviousDb ssaDb.pCurrentDb := by
  by_contra hsame
  exact h ((buildDiff_spec mem firstTimeSubnetUp ssaDb).dirty.mpr hsame)

theorem pushed_of_check (s : Sys) (e : Event) (h : pushedCheck s e = true) : Pushed s e := by
  cases e with
  | compare mem alloc =>
      simp only [pushedCheck, Bool.or_eq_true, Bool.and_eq_true, decide_eq_true_eq] at h
      rcases h with hfirst | ⟨⟨hblocks, htops⟩, hdirty⟩
      · exact Or.inl hfirst
      · exact Or.inr ⟨Slots.Room.of_dense hblocks _, Slots.Room.of_dense htops _,
          Or.inl (snapshotsDiffer_of_dirty hdirty)⟩
  | report | lftChange | extract | lftHandle | update => trivial

/-- A block changes, and before the next extraction a switch is added. -/
def changeWithSwitch : List Event :=
  startExtract default (OsmSubn.ofNodes [plainSwitch 1 1 0]) true ++
    [blockChanged (plainSwitch 1 1 7)] ++
    startExtract default (OsmSubn.ofNodes [plainSwitch 1 1 7, plainSwitch 2 2 0]) true

/-- The consumer has the block as it was changed. -/
theorem lft_replicated_changeWithSwitch :
    ∃ s, run sysStep sysInit changeWithSwitch = some s ∧
      s.consumer.lftBlock = s.worker.ssaDb.pLftDb.blocks.db.view ∧
      s.consumer.lftTop = s.worker.ssaDb.pLftDb.tops.db.view ∧
      s.consumer.lftBlock (epRecGenKey 1 0)
        = some ⟨htons 1, htons 0, Vector.replicate 64 7⟩ := by
  have hend : ((run sysStep sysInit changeWithSwitch).any fun s =>
      !s.worker.firstTimeSubnetUp &&
        decide (s.consumer.lftBlock (epRecGenKey 1 0)
          = some ⟨htons 1, htons 0, Vector.replicate 64 7⟩)) = true := by
    decide +kernel
  obtain ⟨s, hs, hs'⟩ := (Option.any_eq_true _ _).mp hend
  rw [Bool.and_eq_true, Bool.not_eq_true', decide_eq_true_eq] at hs'
  obtain ⟨hfirst, hblock⟩ := hs'
  have halloc : AllocsSucceed changeWithSwitch := by
    intro mem hmem
    simp [changeWithSwitch, startExtract, blockChanged] at hmem
  have hpushed : Guarded sysStep Pushed sysInit changeWithSwitch :=
    guarded_of_check pushed_of_check (by decide +kernel)
  obtain ⟨hblocks, htops⟩ := lft_replicated hs halloc hpushed hfirst
  exact ⟨s, hs, hblocks, htops, hblock⟩

/-- The same change, with no new switch. -/
def changeAlone : List Event :=
  startExtract default (OsmSubn.ofNodes [plainSwitch 1 1 0]) true ++
    [blockChanged (plainSwitch 1 1 7)] ++
    startExtract default (OsmSubn.ofNodes [plainSwitch 1 1 7]) true

/-- The change goes into the database and never reaches the consumer: nothing
differs in the tables, and the diff that has the block in it is thrown away. -/
theorem lft_not_replicated_changeAlone :
    ∃ s, run sysStep sysInit changeAlone = some s ∧ AllocsSucceed changeAlone ∧
      s.worker.firstTimeSubnetUp = false ∧
      s.consumer.lftBlock ≠ s.worker.ssaDb.pLftDb.blocks.db.view := by
  have hrun : ((run sysStep sysInit changeAlone).any fun s =>
      !s.worker.firstTimeSubnetUp &&
        decide (s.consumer.lftBlock (epRecGenKey 1 0)
          ≠ s.worker.ssaDb.pLftDb.blocks.db.view (epRecGenKey 1 0))) = true := by
    decide +kernel
  obtain ⟨s, hs, hend⟩ := (Option.any_eq_true _ _).mp hrun
  rw [Bool.and_eq_true, Bool.not_eq_true', decide_eq_true_eq] at hend
  obtain ⟨hlater, hdiffer⟩ := hend
  refine ⟨s, hs, ?_, hlater, fun heq => hdiffer (congrFun heq _)⟩
  intro mem hmem
  simp [changeAlone, startExtract, blockChanged] at hmem

end Ibssa
