import Ibssa.Proofs.Quiescence

/-!
# At rest everything is up to date

What is known of the worker's runs is put together here with what is known of
the threads. The window over the snapshots (`rotated`) has the current database
extracted from the last subnet, and by the replication of `Proofs.Replication` a
consumer that took in every diff holds its nodes and GUIDs. So once the plugin
has come to rest, however the calls that asked for it were interleaved, the
consumer holds those of the subnet as the worker last saw it, and the LFT
database has every change that was reported.
-/

namespace Ibssa

open Keyed ByteOrder Machine

theorem length_extracted (es : List Event) :
    (extracted es).length = (es.flatMap Event.calls).count .extract := by
  induction es using List.reverseRecOn with
  | nil => rfl
  | append_singleton es e ih =>
      rw [extracted_snoc, List.flatMap_append, List.count_append, ← ih]
      cases e <;> rfl

/-- The plugin at rest, seen from outside: `s` is the subnet it saw last. -/
structure UpToDate (h : History) (s : OsmSubn) (sys : Sys) : Prop where
  current : SnapshotOf s sys.worker.ssaDb.pCurrentDb
  node : sys.consumer.node = fun k => OrdMap.find k (s.nodes.map nodeEntry)
  guidToLid : sys.consumer.guidToLid
    = fun k => OrdMap.find k (s.ports.map (guidToLidEntry s))
  blocks : sys.worker.ssaDb.pLftDb.blocks.look
    = overlay (fun k => OrdMap.find k h.firstBlocks) (changedBlocks h.handled)
  tops : sys.worker.ssaDb.pLftDb.tops.look
    = overlay (fun k => OrdMap.find k h.firstTops) (changedTops h.handled)

/-- At rest after a subnet up the consumer has the nodes and GUIDs of the subnet
that was extracted last, and the LFT database the switches' first tables with
every change that OpenSM reported, no matter how the calls were interleaved. -/
theorem up_to_date {capacity : Nat} {as : List Act} {t : Threads}
    (hrun : run (threadStep capacity) threadsInit as = some t) (hsettled : Settled t)
    (hsubnetUp : Act.report (.subnetUp false) ∈ as)
    (halloc : AllocsSucceed (committed capacity as))
    (hlids : (history (committed capacity as)).LidsDistinct) :
    ∃ s sys, (extracted (committed capacity as))[0]? = some s ∧
      run sysStep sysInit (committed capacity as) = some sys ∧ sys.worker = t.worker ∧
      (as.flatMap Act.changes).Perm (history (committed capacity as)).handled ∧
      UpToDate (history (committed capacity as)) s sys := by
  have hserved := hsettled.served hrun
  have hworker := run_worker_of_threads hrun
  obtain ⟨sys, hsys, hw⟩ := exists_sys_of_worker hworker
  -- the subnet up has been served, so there is an extraction
  have hasked : 0 < (as.flatMap asks).count .startExtract := by
    refine List.count_pos_iff.mpr (List.mem_flatMap.mpr ⟨_, hsubnetUp, ?_⟩)
    exact List.mem_singleton_self _
  have hlen : 0 < (extracted (committed capacity as)).length := by
    have hcount := count_committed hrun
    have hextracts := hserved.extracts
    rw [length_extracted]
    omega
  obtain ⟨s, hs⟩ : ∃ s, (extracted (committed capacity as))[0]? = some s :=
    ⟨_, List.getElem?_eq_getElem hlen⟩
  have hphase : sys.worker.phase = .idle := hw ▸ hserved.phase
  have hcurrent : SnapshotOf s sys.worker.ssaDb.pCurrentDb := by
    have hrot := rotated (run_worker hsys)
    rw [Rotated, hphase, hs] at hrot
    exact hrot.2.1.snapshotOf
  obtain ⟨hnode, hguid⟩ :=
    (synced (tablesUnchanged_of_allocsSucceed halloc) hsys).after_compare hphase
  have hkept := kept (run_worker hsys) hlids
  exact ⟨s, sys, hs, hsys, hw, hserved.changes, hcurrent, hnode.trans hcurrent.node,
    hguid.trans hcurrent.guidToLid, hkept.blocks.look, hkept.tops.look⟩

/-- A change is reported while the worker is idle, a subnet up while the worker
drains it. -/
def changeThenSubnetUp : List Act :=
  let work : Act := .inner (.work (OsmSubn.ofNodes [plainSwitch 1 1 0]) default true)
  let change : OsmEpiLftChangeEvent := ⟨some (plainSwitch 1 1 7), .block, 0, 0⟩
  [.report (.lftChange (some change)), .inner (.report 0), .inner (.report 0),
    .inner (.report 0), .inner (.report 0), work, work, .report (.subnetUp false), work,
    .inner (.report 1), work, work, work, work, work, work, work, work, work]

theorem up_to_date_changeThenSubnetUp :
    ∃ s sys, run sysStep sysInit (committed 4 changeThenSubnetUp) = some sys ∧
      (changeThenSubnetUp.flatMap Act.changes).Perm
        (history (committed 4 changeThenSubnetUp)).handled ∧
      UpToDate (history (committed 4 changeThenSubnetUp)) s sys := by
  obtain ⟨t, hrun, hsettled⟩ :
      ∃ t, run (threadStep 4) threadsInit changeThenSubnetUp = some t ∧ Settled t := by
    refine ⟨_, rfl, fun pc hpc => ?_, rfl, lftRecList_ssaDbCompare _ _ _ _, Or.inl ⟨rfl, rfl⟩⟩
    have hmem : pc ∈ [ReportPc.done, ReportPc.done] := hpc
    simpa using hmem
  have halloc : AllocsSucceed (committed 4 changeThenSubnetUp) := by
    intro mem hmem
    have hlist : committed 4 changeThenSubnetUp
        = [.report (some ⟨some (plainSwitch 1 1 7), .block, 0, 0⟩), .lftChange default,
          .extract default (OsmSubn.ofNodes [plainSwitch 1 1 0]), .lftHandle default, .update,
          .compare default true] := rfl
    rw [hlist] at hmem
    simp at hmem
  have hlids : (history (committed 4 changeThenSubnetUp)).LidsDistinct := by
    intro s hs
    obtain rfl : OsmSubn.ofNodes [plainSwitch 1 1 0] = s := Option.some.inj hs
    decide +kernel
  obtain ⟨s, sys, _, hsys, _, hchanges, hup⟩ :=
    up_to_date hrun hsettled (by simp [changeThenSubnetUp]) halloc hlids
  exact ⟨s, sys, hsys, hchanges, hup⟩

end Ibssa
