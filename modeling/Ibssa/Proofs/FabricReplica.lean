import Ibssa.Lib.Interleaving
import Ibssa.Lib.Replica
import Ibssa.Proofs.LinkSymmetry
import Ibssa.Proofs.Merges

/-!
# A consumer's ports and links

For ports and links a consumer of the diffs does not hold the current snapshot.
Their comparators look at the wrong records, and may call a port or a link
unchanged that has changed. What a diff says about a key that only one of the two
snapshots has does not depend on a comparator, though, and an added record is the
current snapshot's own. So there is a limit to how wrong such a consumer can be
(`Behind`). It has exactly the ports and links of the current snapshot. What it
holds of a link is what some snapshot said of it, and the link has been there in
every snapshot since; and of a port the same, up to the place of its pkeys, which
are carried over into the diff.

`ssa_comparison.c`.
-/

namespace Ibssa

open Keyed ByteOrder Machine

def SsaDbExtract.portView (db : SsaDbExtract) : UInt64 → Option EpPortTblRec :=
  view db.epPortTbl db.pPortTbl

def SsaDbExtract.linkView (db : SsaDbExtract) : UInt64 → Option EpLinkTblRec :=
  view db.epLinkTbl db.pLinkTbl

/-! ## The consumer -/

structure FabricConsumer where
  port : UInt64 → Option EpPortTblRec
  link : UInt64 → Option EpLinkTblRec

/-- Take in a diff, removed records first. -/
def FabricConsumer.push (c : FabricConsumer) (d : SsaDbDiff) : FabricConsumer where
  port :=
    patch c.port (fun k => (d.epPortTblRemoved.get? k).isSome)
      (view d.epPortTblAdded d.tables.port)
  link :=
    patch c.link (fun k => (d.epLinkTblRemoved.get? k).isSome)
      (view d.epLinkTblAdded d.tables.link)

/-- The worker with such a consumer. -/
structure FabricSys where
  worker : Worker
  consumer : FabricConsumer

def fabricInit : FabricSys := ⟨workerInit, ⟨fun _ => none, fun _ => none⟩⟩

def FabricSys.deliver (s : FabricSys) (e : Event) (w : Worker) : FabricSys :=
  match e, w.pSsaDbDiff with
  | .compare _ _, some d => ⟨w, s.consumer.push d⟩
  | _, _ => ⟨w, s.consumer⟩

def fabricStep (s : FabricSys) (e : Event) : Option FabricSys :=
  (workerStep s.worker e).map (s.deliver e)

theorem FabricSys.deliver_worker (s : FabricSys) (e : Event) (w : Worker) :
    (s.deliver e w).worker = w := by
  unfold FabricSys.deliver
  split <;> rfl

theorem map_run_fabric (s : FabricSys) (es : List Event) :
    (run fabricStep s es).map FabricSys.worker = run workerStep s.worker es :=
  map_run (fun _ _ => rfl) FabricSys.deliver_worker s es

/-! ## One diff -/

section Diff

variable {α : Type} {carried : α → α → Prop} {changed : EpMapRec → EpMapRec → Bool}
  {pMapOld pMapNew pMapAdded pMapRemoved : EpMap} {pDataTblOld pDataTblNew pDataTbl : Buf α}
  {dirty : UInt8} {versions : List (UInt64 → Option α)} {c : UInt64 → Option α}

theorem view_isSome_iff {m : EpMap} {b : Buf α} {k : UInt64} :
    (view m b k).isSome = true ↔ k ∈ m.keys := by
  rw [view, Option.isSome_map, OrdMap.get?_isSome]

/-- Whatever the comparator says, taking in the diff of a table leaves the keys
of the new one. -/
theorem MergeExact.behind (h : MergeExact carried changed pMapOld pMapNew pDataTblOld
      pDataTblNew pMapAdded pMapRemoved pDataTbl dirty)
    (hc : Behind carried versions c)
    (hold : ∀ k, (newest versions k).isSome = (view pMapOld pDataTblOld k).isSome) :
    Behind carried (view pMapNew pDataTblNew :: versions)
      (patch c (fun k => (pMapRemoved.get? k).isSome) (view pMapAdded pDataTbl)) := by
  refine hc.patch ?_ ?_ ?_
  · intro k w hk
    obtain ⟨i, hi, rfl⟩ := view_eq_some.mp hk
    obtain ⟨o, ho, hcarried⟩ := h.addedRec k i hi
    exact ⟨_, view_eq_some.mpr ⟨o, ho, rfl⟩, hcarried⟩
  · -- a removed key of both tables would have been added as well
    intro k hadded hremoved
    have hadded' : k ∉ pMapAdded.keys := OrdMap.get?_eq_none.mp (view_eq_none.mp hadded)
    rcases (h.removed k).mp (OrdMap.get?_isSome.mp hremoved) with ⟨_, hnew⟩ | hboth
    · exact view_eq_none.mpr (OrdMap.get?_eq_none.mpr hnew)
    · exact absurd ((h.added k).mpr (Or.inr hboth)) hadded'
  · intro k hadded hremoved
    have hadded' : k ∉ pMapAdded.keys := OrdMap.get?_eq_none.mp (view_eq_none.mp hadded)
    have hremoved' : k ∉ pMapRemoved.keys := by
      rw [← OrdMap.get?_isSome, hremoved]
      exact Bool.false_ne_true
    have hiff : k ∈ pMapOld.keys ↔ k ∈ pMapNew.keys := by
      refine ⟨fun hk => ?_, fun hk => ?_⟩
      · by_contra hnew
        exact hremoved' ((h.removed k).mpr (Or.inl ⟨hk, hnew⟩))
      · by_contra hnot
        exact hadded' ((h.added k).mpr (Or.inl ⟨hk, hnot⟩))
    rw [hold k, Bool.eq_iff_iff, view_isSome_iff, view_isSome_iff, hiff]

end Diff

section Compare

variable {mem : Mem} {firstTimeSubnetUp : Bool} {ssaDb : SsaDatabase} {d : SsaDbDiff}

theorem DiffSpec.mergeExact_link (h : DiffSpec mem firstTimeSubnetUp ssaDb d) :
    MergeExact Eq (itemCmp ssaDbLinkCmp ssaDb.pPreviousDb.pLinkTbl ssaDb.pCurrentDb.pLinkTbl)
      ssaDb.pPreviousDb.epLinkTbl ssaDb.pCurrentDb.epLinkTbl ssaDb.pPreviousDb.pLinkTbl
      ssaDb.pCurrentDb.pLinkTbl d.epLinkTblAdded d.epLinkTblRemoved d.tables.link
      (dirtyAfter (linkOps ssaDb.pPreviousDb ssaDb.pCurrentDb)) :=
  Placed.mergeExact h.link.placed moves_recOps rfl

theorem DiffSpec.mergeExact_port (h : DiffSpec mem firstTimeSubnetUp ssaDb d) :
    MergeExact SameButPkeyOffset (portChanged mem ssaDb.pPreviousDb ssaDb.pCurrentDb)
      ssaDb.pPreviousDb.epPortTbl ssaDb.pCurrentDb.epPortTbl ssaDb.pPreviousDb.pPortTbl
      ssaDb.pCurrentDb.pPortTbl d.epPortTblAdded d.epPortTblRemoved d.tables.port
      (dirtyAfter (portDiffOps mem ssaDb.pPreviousDb ssaDb.pCurrentDb)) :=
  Placed.mergeExact h.port.placed (moves_portOps ssaDb.pCurrentDb.pPkeyTbl 0 _) rfl

/-- Two maps that do not differ have the same keys. -/
theorem isSome_eq_of_not_differ {V : Type} {changed : UInt64 × V → UInt64 × V → Bool}
    {old new : OrdMap UInt64 V} (h : ¬ Differ changed old new) (k : UInt64) :
    (old.get? k).isSome = (new.get? k).isSome := by
  by_contra hne
  exact h ⟨k, Or.inl hne⟩

theorem keys_eq_of_not_differ (hsame : ¬ SnapshotsDiffer mem ssaDb.pPreviousDb ssaDb.pCurrentDb)
    (k : UInt64) :
    (ssaDb.pPreviousDb.linkView k).isSome = (ssaDb.pCurrentDb.linkView k).isSome ∧
      (ssaDb.pPreviousDb.portView k).isSome = (ssaDb.pCurrentDb.portView k).isSome := by
  rw [SnapshotsDiffer, not_or, not_or, not_or, not_or] at hsame
  obtain ⟨_, _, _, hlink, hport⟩ := hsame
  simp only [SsaDbExtract.linkView, SsaDbExtract.portView, view, Option.isSome_map]
  exact ⟨isSome_eq_of_not_differ hlink k, isSome_eq_of_not_differ hport k⟩

end Compare

/-! ## Runs -/

/-- The snapshots that a consumer has been told of, or should have been. -/
def publishedOf (phase : Phase) (l : List SsaDbExtract) : List SsaDbExtract :=
  match phase with
  | .idle => l
  | _ => l.tail

structure FabricBehind (l : List SsaDbExtract) (c : FabricConsumer) : Prop where
  port : Behind SameButPkeyOffset (l.map SsaDbExtract.portView) c.port
  link : Behind Eq (l.map SsaDbExtract.linkView) c.link

/-- What the consumer knows last is the previous snapshot. -/
theorem newest_map {α : Type} (f : SsaDbExtract → UInt64 → Option α)
    (hinit : f ssaDbExtractInit = fun _ => none) (l : List SsaDbExtract) :
    newest (l.map f) = f (l.head?.getD ssaDbExtractInit) := by
  cases l with
  | nil => exact hinit.symm
  | cons db l => rfl

section Step

variable {es : List Event} {s s' : FabricSys}

/-- A comparison that gets its memory. -/
theorem FabricBehind.compare {mem : Mem} {earlier : List SsaDbExtract} {w : Worker}
    (h : FabricBehind earlier s.consumer)
    (hprevious : s.worker.ssaDb.pPreviousDb = earlier.head?.getD ssaDbExtractInit)
    (hdiff : w.pSsaDbDiff
      = (ssaDbCompare mem true s.worker.firstTimeSubnetUp s.worker.ssaDb).1) :
    FabricBehind (s.worker.ssaDb.pCurrentDb :: earlier)
      (s.deliver (.compare mem true) w).consumer := by
  have hlinks : newest (earlier.map SsaDbExtract.linkView)
      = s.worker.ssaDb.pPreviousDb.linkView := by
    rw [newest_map _ rfl, hprevious]
  have hports : newest (earlier.map SsaDbExtract.portView)
      = s.worker.ssaDb.pPreviousDb.portView := by
    rw [newest_map _ rfl, hprevious]
  rcases ssaDbCompare_fst mem s.worker.firstTimeSubnetUp s.worker.ssaDb with
    ⟨_, hsome⟩ | ⟨hsame, hnone⟩
  · have hspec := buildDiff_spec mem s.worker.firstTimeSubnetUp s.worker.ssaDb
    have hdeliver : (s.deliver (.compare mem true) w).consumer
        = s.consumer.push (buildDiff mem s.worker.firstTimeSubnetUp s.worker.ssaDb).1 := by
      simp only [FabricSys.deliver, hdiff.trans hsome]
    rw [hdeliver]
    exact ⟨hspec.mergeExact_port.behind h.port fun k => by rw [hports]; rfl,
      hspec.mergeExact_link.behind h.link fun k => by rw [hlinks]; rfl⟩
  · have hdeliver : (s.deliver (.compare mem true) w).consumer = s.consumer := by
      simp only [FabricSys.deliver, hdiff.trans hnone]
    rw [hdeliver]
    refine ⟨h.port.ignore fun k => ?_, h.link.ignore fun k => ?_⟩
    · rw [hports]
      exact (keys_eq_of_not_differ hsame k).2
    · rw [hlinks]
      exact (keys_eq_of_not_differ hsame k).1

theorem FabricBehind.step {e : Event}
    (h : FabricBehind (publishedOf s.worker.phase (snapshotsTaken es)) s.consumer)
    (hrun : run workerStep workerInit es = some s.worker)
    (hok : ∀ mem, e ≠ .compare mem false) (hstep : fabricStep s e = some s') :
    FabricBehind (publishedOf s'.worker.phase (snapshotsTaken (es ++ [e]))) s'.consumer := by
  obtain ⟨w, hw, rfl⟩ := Option.map_eq_some_iff.mp hstep
  rw [s.deliver_worker, snapshotsTaken_snoc hrun hw]
  cases e with
  | report pLftChange =>
      obtain rfl := workerStep_report.mp hw
      exact h
  | lftChange mem =>
      obtain ⟨_, rfl⟩ := workerStep_lftChange.mp hw
      exact h
  | extract mem sub =>
      obtain ⟨hidle, rfl⟩ := workerStep_extract.mp hw
      rw [hidle] at h
      exact h
  | lftHandle mem =>
      obtain ⟨hphase, rfl⟩ := workerStep_lftHandle.mp hw
      rw [hphase] at h
      exact h
  | update =>
      obtain ⟨hphase, rfl⟩ := workerStep_update.mp hw
      rw [hphase] at h
      exact h
  | compare mem alloc =>
      obtain ⟨hphase, hw'⟩ := workerStep_compare.mp hw
      obtain ⟨earlier, hl, hprevious⟩ := snapshots_at_compare hrun hphase
      rw [hphase, hl] at h
      have hidle : w.phase = .idle := by rw [hw']
      rw [hidle, hl]
      cases alloc with
      | false => exact absurd rfl (hok mem)
      | true => exact FabricBehind.compare h hprevious (compare_worker hw).1

end Step

theorem fabricBehind {es : List Event} {s : FabricSys}
    (hrun : run fabricStep fabricInit es = some s) (halloc : AllocsSucceed es) :
    FabricBehind (publishedOf s.worker.phase (snapshotsTaken es)) s.consumer := by
  refine run_induction
    (P := fun es (s : FabricSys) => AllocsSucceed es →
      FabricBehind (publishedOf s.worker.phase (snapshotsTaken es)) s.consumer)
    (fun _ => ⟨behind_nil, behind_nil⟩) ?_ hrun halloc
  intro es e s s' hes ih hstep halloc
  have hworker := map_run_fabric fabricInit es
  rw [hes] at hworker
  refine (ih fun mem hmem => halloc mem (List.mem_append_left _ hmem)).step hworker.symm ?_ hstep
  intro mem he
  exact halloc mem (List.mem_append_right _ (List.mem_singleton.mpr he.symm))

/-- Whatever the comparators say, and in every run whose comparisons get their
memory: after a START_EXTRACT the current database is the snapshot taken last, a
consumer has exactly its ports and links, and of each of them a record that was
extracted with a snapshot since which it has always been there. -/
theorem ports_and_links_replicated {es : List Event} {s : FabricSys}
    (hrun : run fabricStep fabricInit es = some s) (halloc : AllocsSucceed es)
    (hidle : s.worker.phase = .idle) :
    s.worker.ssaDb.pCurrentDb = (snapshotsTaken es).head?.getD ssaDbExtractInit ∧
      (∀ k, (s.consumer.port k).isSome = true ↔ k ∈ s.worker.ssaDb.pCurrentDb.epPortTbl.keys) ∧
      (∀ k, (s.consumer.link k).isSome = true ↔ k ∈ s.worker.ssaDb.pCurrentDb.epLinkTbl.keys) ∧
      (∀ k r, s.consumer.port k = some r →
        Held SameButPkeyOffset k r ((snapshotsTaken es).map SsaDbExtract.portView)) ∧
      ∀ k r, s.consumer.link k = some r →
        Held Eq k r ((snapshotsTaken es).map SsaDbExtract.linkView) := by
  have hbehind := fabricBehind hrun halloc
  have hworker := map_run_fabric fabricInit es
  rw [hrun] at hworker
  have hcurrent := (versioned_of_run hworker.symm).current
  rw [hidle] at hbehind hcurrent
  have hhead : s.worker.ssaDb.pCurrentDb = (snapshotsTaken es).head?.getD ssaDbExtractInit := by
    rw [hcurrent, List.head?_eq_getElem?]
    rfl
  refine ⟨hhead, fun k => ?_, fun k => ?_, hbehind.port.held, hbehind.link.held⟩
  · rw [hbehind.port.keys k, publishedOf, newest_map _ rfl, ← hhead]
    exact view_isSome_iff
  · rw [hbehind.link.keys k, publishedOf, newest_map _ rfl, ← hhead]
    exact view_isSome_iff

/-- Two of the adapters have changed places, and the two that were plugged into
each other are gone. -/
def movedFabric : OsmSubn :=
  OsmSubn.ofNodes
    [pluggedNode ibNodeTypeSwitch 1 1 fun i =>
        if i = 1 then some ⟨1, 1⟩ else if i = 2 then some ⟨3, 1⟩ else none,
      pluggedNode ibNodeTypeSwitch 2 2 fun i =>
        if i = 1 then some ⟨0, 1⟩ else if i = 2 then some ⟨2, 1⟩ else none,
      pluggedNode 1 3 3 fun i => if i = 1 then some ⟨1, 2⟩ else none,
      pluggedNode 1 4 4 fun i => if i = 1 then some ⟨0, 2⟩ else none]

def cablesMoved : List Event :=
  startExtract default pluggedFabric true ++ startExtract default movedFabric true

theorem ports_and_links_replicated_cablesMoved :
    let links := [epRecGenKey 1 1, epRecGenKey 2 1, epRecGenKey 3 1, epRecGenKey 4 1,
      epRecGenKey 1 2, epRecGenKey 2 2]
    ∃ s, run fabricStep fabricInit cablesMoved = some s ∧
      s.worker.ssaDb.pCurrentDb = (snapshotsTaken cablesMoved).head?.getD ssaDbExtractInit ∧
      (∀ k, (s.consumer.port k).isSome = true ↔ k ∈ epRecGenKey 1 0 :: epRecGenKey 2 0 :: links) ∧
      (∀ k, (s.consumer.link k).isSome = true ↔ k ∈ links) ∧
      (s.consumer.link (epRecGenKey 1 2)).map EpLinkTblRec.toLid = some (htons 4) ∧
      (∀ k r, s.consumer.port k = some r →
        Held SameButPkeyOffset k r ((snapshotsTaken cablesMoved).map SsaDbExtract.portView)) ∧
      ∀ k r, s.consumer.link k = some r →
        Held Eq k r ((snapshotsTaken cablesMoved).map SsaDbExtract.linkView) := by
  intro links
  have hend : ((run fabricStep fabricInit cablesMoved).any fun s =>
      decide (s.worker.phase = .idle) &&
        decide (s.worker.ssaDb.pCurrentDb.epPortTbl.keys
          = epRecGenKey 1 0 :: epRecGenKey 2 0 :: links) &&
        decide (s.worker.ssaDb.pCurrentDb.epLinkTbl.keys = links) &&
        decide ((s.consumer.link (epRecGenKey 1 2)).map EpLinkTblRec.toLid
          = some (htons 4))) = true := by
    decide +kernel
  obtain ⟨s, hrun, hs⟩ := (Option.any_eq_true _ _).mp hend
  simp only [Bool.and_eq_true, decide_eq_true_eq] at hs
  obtain ⟨⟨⟨hidle, hports⟩, hlinks⟩, hmoved⟩ := hs
  have halloc : AllocsSucceed cablesMoved := by
    intro mem hmem
    simp [cablesMoved, startExtract] at hmem
  obtain ⟨hhead, hport, hlink, hheldPort, hheldLink⟩ :=
    ports_and_links_replicated hrun halloc hidle
  rw [hports] at hport
  rw [hlinks] at hlink
  exact ⟨s, hrun, hhead, hport, hlink, hmoved, hheldPort, hheldLink⟩

end Ibssa
