import Ibssa.Core.Worker
import Ibssa.Proofs.DiffLaws
import Ibssa.Proofs.LftStore
import Ibssa.Proofs.Snapshot

/-!
# No LFT change is lost

A change passes three places on its way to the LFT database: the queue, the
dump, and the database, where the first extraction put the switches' tables
before it. What is conserved is the contents of all three laid over each other
in that order, and it is always the first extraction's contents with everything
that was reported laid over them in the order of the reports. A drain moves the
queue into the dump and a merge moves the dump into the database, and neither
changes what the three say together.

For that a merge must not meet another key's slot, which is where the
representation of the stores comes in: in both stores the slots in use are the
numbers below the count. The dump gets there by starting empty. The database
does when the first extraction finds every switch under a LID of its own.

`History` is what a run leaves behind that the worker's state does not say.
-/

namespace Ibssa

open Keyed ByteOrder Machine

/-! ## What a step does -/

/-- The change record that `report` queues for an event, if it queues one. -/
def reportedRecs : Option OsmEpiLftChangeEvent → List SsaDbLftChangeRec
  | none => []
  | some e => (e.pSw.map fun pSw => lftChangeRec pSw e).toList

theorem reportLftChange_eq (ssaDb : SsaDatabase) (pLftChange : Option OsmEpiLftChangeEvent) :
    reportLftChange ssaDb pLftChange
      = { ssaDb with lftRecList := ssaDb.lftRecList ++ reportedRecs pLftChange } := by
  cases pLftChange with
  | none =>
      show ssaDb = { ssaDb with lftRecList := ssaDb.lftRecList ++ [] }
      rw [List.append_nil]
  | some e =>
      rw [reportLftChange, reportedRecs]
      cases he : e.pSw with
      | none =>
          show ssaDb = { ssaDb with lftRecList := ssaDb.lftRecList ++ [] }
          rw [List.append_nil]
      | some pSw => rfl

theorem buildDiff_snd (mem : Mem) (firstTimeSubnetUp : Bool) (ssaDb : SsaDatabase) :
    (buildDiff mem firstTimeSubnetUp ssaDb).2
      = if firstTimeSubnetUp then ssaDb.pLftDb else mergeLftDump mem ssaDb.pLftDb := by
  cases firstTimeSubnetUp <;> rfl

/-- A comparison that gets its memory: the diff if it is dirty, and the LFT
database either way. -/
theorem ssaDbCompare_true (mem : Mem) (firstTimeSubnetUp : Bool) (ssaDb : SsaDatabase) :
    ssaDbCompare mem true firstTimeSubnetUp ssaDb
      = (if (buildDiff mem firstTimeSubnetUp ssaDb).1.dirty = 0 then none
          else some (buildDiff mem firstTimeSubnetUp ssaDb).1,
        { ssaDb with pLftDb := (buildDiff mem firstTimeSubnetUp ssaDb).2 }) := by
  rw [ssaDbCompare]
  generalize buildDiff mem firstTimeSubnetUp ssaDb = r
  by_cases h : r.1.dirty = 0
  · rw [if_pos h, if_pos h]
    rfl
  · rw [if_neg h, if_neg h]
    rfl

/-- A comparison changes nothing but the LFT database, and that only when it
gets its memory and is not the first. -/
theorem ssaDbCompare_snd (mem : Mem) (alloc firstTimeSubnetUp : Bool) (ssaDb : SsaDatabase) :
    (ssaDbCompare mem alloc firstTimeSubnetUp ssaDb).2
      = { ssaDb with
          pLftDb :=
            if alloc = true ∧ firstTimeSubnetUp = false then mergeLftDump mem ssaDb.pLftDb
            else ssaDb.pLftDb } := by
  cases alloc with
  | false => rfl
  | true =>
      rw [ssaDbCompare_true, buildDiff_snd]
      cases firstTimeSubnetUp <;> rfl

section Steps

variable {w w' : Worker} {mem : Mem}

theorem workerStep_report {pLftChange : Option OsmEpiLftChangeEvent} :
    workerStep w (.report pLftChange) = some w' ↔
      w' = { w with ssaDb := reportLftChange w.ssaDb pLftChange } := by
  rw [workerStep, Option.some.injEq, eq_comm]

theorem workerStep_lftChange :
    workerStep w (.lftChange mem) = some w' ↔
      w.phase = .idle ∧ w' = { w with ssaDb := ssaDbLftHandle mem w.ssaDb } := by
  cases hp : w.phase <;> simp [workerStep, hp, eq_comm]

theorem workerStep_extract {s : OsmSubn} :
    workerStep w (.extract mem s) = some w' ↔
      w.phase = .idle ∧
        w' = { w with
          ssaDb := ssaDbExtract mem w.firstTimeSubnetUp w.ssaDb s, phase := .extracted } := by
  cases hp : w.phase <;> simp [workerStep, hp, eq_comm]

theorem workerStep_lftHandle :
    workerStep w (.lftHandle mem) = some w' ↔
      w.phase = .extracted ∧
        w' = { w with ssaDb := ssaDbLftHandle mem w.ssaDb, phase := .drained } := by
  cases hp : w.phase <;> simp [workerStep, hp, eq_comm]

theorem workerStep_update :
    workerStep w .update = some w' ↔
      w.phase = .drained ∧ w' = { w with ssaDb := ssaDbUpdate w.ssaDb, phase := .updated } := by
  cases hp : w.phase <;> simp [workerStep, hp, eq_comm]

theorem workerStep_compare {alloc : Bool} :
    workerStep w (.compare mem alloc) = some w' ↔
      w.phase = .updated ∧
        w' = { ssaDb := (ssaDbCompare mem alloc w.firstTimeSubnetUp w.ssaDb).2
               firstTimeSubnetUp := false
               phase := .idle
               pSsaDbDiff := (ssaDbCompare mem alloc w.firstTimeSubnetUp w.ssaDb).1 } := by
  cases hp : w.phase <;> simp [workerStep, hp, eq_comm]

end Steps

/-! ## What an extraction does to the stores -/

section Extract

variable {α : Type}

/-- The database table is allocated if there is none. -/
def LftStore.alloc (a : Addr) (n : Nat) (junk : Nat → α) (s : LftStore α) : LftStore α :=
  ⟨⟨s.db.map, mallocIfNull s.db.buf a n junk⟩, s.dump⟩

theorem view_alloc {s : LftStore α} (h : s.db.Live) (a : Addr) (n : Nat) (junk : Nat → α) :
    (s.alloc a n junk).db.view = s.db.view := by
  refine view_congr fun k o hk => ?_
  have hnull := Slots.isNull_of_mem h (mem_slotsOf.mpr ⟨k, hk⟩)
  show (mallocIfNull s.db.buf a n junk).cell o = _
  rw [mallocIfNull, hnull]
  rfl

theorem look_alloc {s : LftStore α} (h : s.db.Live) (a : Addr) (n : Nat) (junk : Nat → α) :
    (s.alloc a n junk).look = s.look := by
  rw [LftStore.look, view_alloc h]
  rfl

theorem DbRoom.alloc {s : LftStore α} (h : DbRoom s.db) (hlive : s.db.Live) (a : Addr)
    (n : Nat) (junk : Nat → α) : DbRoom (s.alloc a n junk).db := by
  show DbRoom ⟨s.db.map, mallocIfNull s.db.buf a n junk⟩
  rw [mallocIfNull]
  cases hnull : s.db.buf.isNull with
  | false => exact h
  | true =>
      have hzero : s.db.map.count = 0 := by
        rcases hlive with hzero | hlive
        · exact hzero
        · rw [hnull] at hlive
          cases hlive
      exact ⟨by rw [hzero]; exact Nat.zero_le _, rfl⟩

end Extract

theorem ssaDbExtract_later (mem : Mem) (ssaDb : SsaDatabase) (s : OsmSubn) :
    (ssaDbExtract mem false ssaDb s).pLftDb.blocks
        = ssaDb.pLftDb.blocks.alloc mem.addr (lftBlocksNum s).toNat mem.lftBlock ∧
      (ssaDbExtract mem false ssaDb s).pLftDb.tops
        = ssaDb.pLftDb.tops.alloc mem.addr (UInt16.ofNat s.swGuidTblCount).toNat mem.lftTop := by
  have hdb : (ssaDbExtract mem false ssaDb s).pLftDb = (nodeLoopInit mem ssaDb s).pLftDb :=
    pLftDb_loop_later s.nodes (nodeLoopInit mem ssaDb s)
  rw [hdb]
  exact ⟨rfl, rfl⟩

/-- The tables of the database before anything was extracted. -/
def emptyDb {α : Type} [Inhabited α] : Slots UInt64 α := ⟨OrdMap.empty, Buf.null⟩

theorem ssaDbExtract_first (mem : Mem) {ssaDb : SsaDatabase} (s : OsmSubn)
    (hblocks : ssaDb.pLftDb.blocks.db = emptyDb) (htops : ssaDb.pLftDb.tops.db = emptyDb) :
    let l := (ssaDbExtract mem true ssaDb s).pLftDb
    Stored (lftBlocks s.nodes) l.blocks.db.map
        (Buf.malloc mem.addr (lftBlocksNum s).toNat mem.lftBlock) l.blocks.db.buf ∧
      l.blocks.dump = ssaDb.pLftDb.blocks.dump ∧
      Stored (lftTops s.nodes) l.tops.db.map
        (Buf.malloc mem.addr (UInt16.ofNat s.swGuidTblCount).toNat mem.lftTop) l.tops.db.buf ∧
      l.tops.dump = ssaDb.pLftDb.tops.dump := by
  injection hblocks with hbm hbb
  injection htops with htm htb
  have hdone : LftDone (nodeLoopInit mem ssaDb s).pLftDb (lftTops s.nodes) (lftBlocks s.nodes)
      (nodeLoop mem true ssaDb s) := lftDone_loop htm hbm rfl rfl s.nodes
  obtain ⟨htop, hblock, _, _, hframe⟩ := hdone
  have hb₀ : (nodeLoopInit mem ssaDb s).pLftDb.pDbLftBlockTbl
      = Buf.malloc mem.addr (lftBlocksNum s).toNat mem.lftBlock := by
    show mallocIfNull ssaDb.pLftDb.pDbLftBlockTbl _ _ _ = _
    rw [hbb]
    rfl
  have ht₀ : (nodeLoopInit mem ssaDb s).pLftDb.pDbLftTopTbl
      = Buf.malloc mem.addr (UInt16.ofNat s.swGuidTblCount).toNat mem.lftTop := by
    show mallocIfNull ssaDb.pLftDb.pDbLftTopTbl _ _ _ = _
    rw [htb]
    rfl
  rw [hb₀] at hblock
  rw [ht₀] at htop
  refine ⟨hblock, ?_, htop, ?_⟩
  · show (nodeLoop mem true ssaDb s).pLftDb.blocks.dump = _
    rw [hframe]
    rfl
  · show (nodeLoop mem true ssaDb s).pLftDb.tops.dump = _
    rw [hframe]
    rfl

/-! ## The history of a run -/

/-- What happened: the subnet the first extraction saw, the changes reported,
and those of them that had been reported when the queue was last drained. -/
structure History where
  first : Option OsmSubn
  reported : List SsaDbLftChangeRec
  handled : List SsaDbLftChangeRec

namespace History

def add (h : History) : Event → History
  | .report pLftChange => { h with reported := h.reported ++ reportedRecs pLftChange }
  | .lftChange _ => { h with handled := h.reported }
  | .extract _ s => { h with first := h.first.or (some s) }
  | .lftHandle _ => { h with handled := h.reported }
  | .update => h
  | .compare _ _ => h

/-- The LFT records of the first extraction: nothing, before it. -/
def firstBlocks (h : History) : List (UInt64 × EpLftBlockTblRec) :=
  (h.first.map fun s => lftBlocks s.nodes).getD []

def firstTops (h : History) : List (UInt64 × EpLftTopTblRec) :=
  (h.first.map fun s => lftTops s.nodes).getD []

/-- The first extraction, if there was one, saw distinct switch base LIDs. -/
def LidsDistinct (h : History) : Prop := ∀ s, h.first = some s → DistinctLids s.nodes

/-- Its initial LFT buffers hold all the records it writes. -/
def BuffersHold (h : History) : Prop :=
  ∀ s, h.first = some s →
    (lftBlocks s.nodes).length ≤ (lftBlocksNum s).toNat ∧
      (lftTops s.nodes).length ≤ (UInt16.ofNat s.swGuidTblCount).toNat

theorem first_add {h : History} {s : OsmSubn} (hs : h.first = some s) (e : Event) :
    (h.add e).first = some s := by
  cases e with
  | extract mem s' =>
      show h.first.or (some s') = some s
      rw [hs]
      rfl
  | report | lftChange | lftHandle | update | compare => exact hs

end History

def history (es : List Event) : History := es.foldl History.add ⟨none, [], []⟩

theorem history_snoc (es : List Event) (e : Event) :
    history (es ++ [e]) = (history es).add e := by
  rw [history, List.foldl_append]
  rfl

/-! ## What holds in every run

Nothing here depends on what the first extraction saw. -/

/-- The dump is represented as it should be, and the database has a block if
it has a record. -/
structure StoreOk {α : Type} (s : LftStore α) : Prop where
  dump : DumpInv s.dump
  live : s.db.Live

section StoreOk

variable {α : Type} {s : LftStore α}

theorem storeOk_empty [Inhabited α] : StoreOk (⟨emptyDb, emptyDb⟩ : LftStore α) :=
  ⟨⟨dense_empty, Or.inl rfl, Nat.le_refl _, rfl, rfl⟩, Or.inl rfl⟩

theorem StoreOk.changeAll (h : StoreOk s) (a : Addr) (junk : Nat → α) (l : List (UInt64 × α)) :
    StoreOk (s.changeAll a junk l) :=
  ⟨(h.dump.changeAll a junk l).1, h.live⟩

theorem StoreOk.alloc (h : StoreOk s) (a : Addr) (n : Nat) (junk : Nat → α) :
    StoreOk (s.alloc a n junk) :=
  ⟨h.dump, Or.inr (isNull_mallocIfNull _ _ _ _)⟩

theorem StoreOk.merge (h : StoreOk s) (a : Addr) (junk : Nat → α) : StoreOk (s.merge a junk) :=
  ⟨⟨dense_empty, Or.inl rfl, Nat.zero_le _, h.dump.blocks, h.dump.fits⟩,
    live_merge h.live a junk⟩

end StoreOk

/-- The worker beside its history. -/
structure RunOk (h : History) (w : Worker) : Prop where
  reported : h.reported = h.handled ++ w.ssaDb.lftRecList
  first : h.first = none ↔ w.firstTimeSubnetUp = true ∧ w.phase = .idle
  noBlocks : h.first = none → w.ssaDb.pLftDb.blocks.db = emptyDb
  noTops : h.first = none → w.ssaDb.pLftDb.tops.db = emptyDb
  blocks : StoreOk w.ssaDb.pLftDb.blocks
  tops : StoreOk w.ssaDb.pLftDb.tops

theorem runOk_init : RunOk ⟨none, [], []⟩ workerInit where
  reported := rfl
  first := by decide
  noBlocks := fun _ => rfl
  noTops := fun _ => rfl
  blocks := storeOk_empty
  tops := storeOk_empty

/-- A drain, whoever asked for it. -/
private theorem RunOk.drain {h : History} {w : Worker} (hok : RunOk h w) (mem : Mem)
    (phase : Phase) (hphase : phase = .idle ↔ w.phase = .idle) :
    RunOk { h with handled := h.reported }
      { w with ssaDb := ssaDbLftHandle mem w.ssaDb, phase := phase } := by
  refine ⟨?_, ?_, ?_, ?_, ?_, ?_⟩
  · exact (List.append_nil _).symm
  · show h.first = none ↔ w.firstTimeSubnetUp = true ∧ phase = .idle
    rw [hphase]
    exact hok.first
  · intro hnone
    show (ssaDbLftHandle mem w.ssaDb).pLftDb.blocks.db = _
    rw [blocks_ssaDbLftHandle]
    exact hok.noBlocks hnone
  · intro hnone
    show (ssaDbLftHandle mem w.ssaDb).pLftDb.tops.db = _
    rw [tops_ssaDbLftHandle]
    exact hok.noTops hnone
  · show StoreOk (ssaDbLftHandle mem w.ssaDb).pLftDb.blocks
    rw [blocks_ssaDbLftHandle]
    exact hok.blocks.changeAll _ _ _
  · show StoreOk (ssaDbLftHandle mem w.ssaDb).pLftDb.tops
    rw [tops_ssaDbLftHandle]
    exact hok.tops.changeAll _ _ _

private theorem RunOk.extract {h : History} {w : Worker} (hok : RunOk h w)
    (hidle : w.phase = .idle) (mem : Mem) (s : OsmSubn) :
    RunOk { h with first := h.first.or (some s) }
      { w with
        ssaDb := ssaDbExtract mem w.firstTimeSubnetUp w.ssaDb s, phase := .extracted } := by
  have hsome : ¬ (h.first.or (some s) = none) := by
    cases h.first <;> simp
  have hphase : ¬ (w.firstTimeSubnetUp = true ∧ Phase.extracted = .idle) := by
    rintro ⟨_, hc⟩
    cases hc
  refine ⟨hok.reported, iff_of_false hsome hphase, fun hc => absurd hc hsome,
    fun hc => absurd hc hsome, ?_, ?_⟩
  · show StoreOk (ssaDbExtract mem w.firstTimeSubnetUp w.ssaDb s).pLftDb.blocks
    cases hfirst : w.firstTimeSubnetUp with
    | false =>
        rw [(ssaDbExtract_later mem w.ssaDb s).1]
        exact hok.blocks.alloc _ _ _
    | true =>
        have hnone := hok.first.mpr ⟨hfirst, hidle⟩
        obtain ⟨hst, hdump, _, _⟩ :=
          ssaDbExtract_first mem s (hok.noBlocks hnone) (hok.noTops hnone)
        refine ⟨by rw [hdump]; exact hok.blocks.dump, Or.inr ?_⟩
        rw [hst.isNull_eq]
        exact Buf.isNull_malloc _ _ _
  · show StoreOk (ssaDbExtract mem w.firstTimeSubnetUp w.ssaDb s).pLftDb.tops
    cases hfirst : w.firstTimeSubnetUp with
    | false =>
        rw [(ssaDbExtract_later mem w.ssaDb s).2]
        exact hok.tops.alloc _ _ _
    | true =>
        have hnone := hok.first.mpr ⟨hfirst, hidle⟩
        obtain ⟨_, _, hst, hdump⟩ :=
          ssaDbExtract_first mem s (hok.noBlocks hnone) (hok.noTops hnone)
        refine ⟨by rw [hdump]; exact hok.tops.dump, Or.inr ?_⟩
        rw [hst.isNull_eq]
        exact Buf.isNull_malloc _ _ _

/-- A later extraction is not the first. -/
theorem RunOk.later {h : History} {w : Worker} (hok : RunOk h w)
    (hfirst : w.firstTimeSubnetUp = false) (s : OsmSubn) :
    ({ h with first := h.first.or (some s) } : History) = h := by
  cases hnone : h.first with
  | none =>
      have htrue := (hok.first.mp hnone).1
      rw [hfirst] at htrue
      cases htrue
  | some s₀ =>
      show (⟨some s₀, _, _⟩ : History) = h
      rw [← hnone]

theorem RunOk.step {h : History} {w w' : Worker} {e : Event} (hok : RunOk h w)
    (hstep : workerStep w e = some w') : RunOk (h.add e) w' := by
  cases e with
  | report pLftChange =>
      obtain rfl := workerStep_report.mp hstep
      rw [reportLftChange_eq]
      refine ⟨?_, hok.first, hok.noBlocks, hok.noTops, hok.blocks, hok.tops⟩
      show h.reported ++ _ = h.handled ++ (w.ssaDb.lftRecList ++ _)
      rw [hok.reported, List.append_assoc]
  | lftChange mem =>
      obtain ⟨_, rfl⟩ := workerStep_lftChange.mp hstep
      exact hok.drain mem w.phase Iff.rfl
  | extract mem s =>
      obtain ⟨hidle, rfl⟩ := workerStep_extract.mp hstep
      exact hok.extract hidle mem s
  | lftHandle mem =>
      obtain ⟨hphase, rfl⟩ := workerStep_lftHandle.mp hstep
      exact hok.drain mem .drained (by rw [hphase]; decide)
  | update =>
      obtain ⟨hphase, rfl⟩ := workerStep_update.mp hstep
      refine ⟨hok.reported, ?_, hok.noBlocks, hok.noTops, hok.blocks, hok.tops⟩
      rw [History.add, hok.first, hphase]
      simp
  | compare mem alloc =>
      obtain ⟨hphase, rfl⟩ := workerStep_compare.mp hstep
      have hsome : ¬ (h.first = none) := by
        rw [hok.first, hphase]
        simp
      rw [ssaDbCompare_snd]
      refine ⟨hok.reported, iff_of_false hsome (by simp), fun hc => absurd hc hsome,
        fun hc => absurd hc hsome, ?_, ?_⟩
      · show StoreOk (SsaDbLft.blocks (if _ then _ else _))
        split
        · rw [blocks_mergeLftDump]
          exact hok.blocks.merge _ _
        · exact hok.blocks
      · show StoreOk (SsaDbLft.tops (if _ then _ else _))
        split
        · rw [tops_mergeLftDump]
          exact hok.tops.merge _ _
        · exact hok.tops

theorem runOk {es : List Event} {w : Worker} (hrun : run workerStep workerInit es = some w) :
    RunOk (history es) w := by
  refine run_induction (P := fun es w => RunOk (history es) w) runOk_init ?_ hrun
  intro es e w w' _ hok hstep
  rw [history_snoc]
  exact hok.step hstep

/-! ## What is conserved

From here on the first extraction saw distinct LIDs. -/

/-- The slots of the database are dense, and the store says what the start
overlaid by the changes says. -/
structure Conserved {α : Type} (start changes : List (UInt64 × α)) (s : LftStore α) : Prop where
  dense : Dense s.db.map
  look : s.look = overlay (fun k => OrdMap.find k start) changes

section Conserved

variable {α : Type} {start changes : List (UInt64 × α)} {s : LftStore α}

theorem Conserved.dbInv (h : Conserved start changes s) (hok : StoreOk s) : DbInv s.db :=
  ⟨h.dense, hok.live⟩

theorem Conserved.changeAll (h : Conserved start changes s) (hok : StoreOk s) (a : Addr)
    (junk : Nat → α) (l : List (UInt64 × α)) :
    Conserved start (changes ++ l) (s.changeAll a junk l) := by
  refine ⟨h.dense, ?_⟩
  rw [look_changeAll hok.dump, h.look, overlay_append]

theorem Conserved.alloc (h : Conserved start changes s) (hok : StoreOk s) (a : Addr) (n : Nat)
    (junk : Nat → α) : Conserved start changes (s.alloc a n junk) := by
  refine ⟨h.dense, ?_⟩
  rw [look_alloc hok.live]
  exact h.look

theorem Conserved.merge (h : Conserved start changes s) (hok : StoreOk s) (a : Addr)
    (junk : Nat → α) : Conserved start changes (s.merge a junk) := by
  have hinv := h.dbInv hok
  refine ⟨(hinv.merge a junk).dense, ?_⟩
  rw [look_merge hinv.mergeRoom hok.live]
  exact h.look

/-- The first extraction slides its records under the changes there are. -/
theorem look_of_first {s' : LftStore α} {b₀ : Buf α} [Inhabited α] (hempty : s.db = emptyDb)
    (hlook : s.look = overlay (fun _ => none) changes)
    (hst : Stored start s'.db.map b₀ s'.db.buf) (hdump : s'.dump = s.dump) :
    s'.look = overlay (fun k => OrdMap.find k start) changes := by
  have hview : s.dump.view = overlay (fun _ => none) changes := by
    rw [LftStore.look, hempty] at hlook
    exact (layered_none_left s.dump.view).symm.trans hlook
  have hdb : s'.db.view = fun k => OrdMap.find k start := hst.view_eq
  rw [LftStore.look, hdump, hview, hdb, ← overlay_eq_layered]

theorem Conserved.fill {s' : LftStore α} {b₀ : Buf α} [Inhabited α] (h : Conserved [] changes s)
    (hempty : s.db = emptyDb) (hst : Stored start s'.db.map b₀ s'.db.buf)
    (hdump : s'.dump = s.dump) (hd : (start.map Prod.fst).Nodup) : Conserved start changes s' :=
  ⟨hst.dense hd, look_of_first hempty h.look hst hdump⟩

end Conserved

/-- Both stores say what the history says. -/
structure Kept (h : History) (l : SsaDbLft) : Prop where
  blocks : Conserved h.firstBlocks (changedBlocks h.handled) l.blocks
  tops : Conserved h.firstTops (changedTops h.handled) l.tops

theorem kept_init : Kept ⟨none, [], []⟩ workerInit.ssaDb.pLftDb :=
  ⟨⟨dense_empty, rfl⟩, ⟨dense_empty, rfl⟩⟩

private theorem Kept.drain {h : History} {w : Worker} (hkept : Kept h w.ssaDb.pLftDb)
    (hok : RunOk h w) (mem : Mem) :
    Kept { h with handled := h.reported } (ssaDbLftHandle mem w.ssaDb).pLftDb := by
  refine ⟨?_, ?_⟩
  · rw [blocks_ssaDbLftHandle]
    show Conserved h.firstBlocks (changedBlocks h.reported) _
    rw [hok.reported, changedBlocks_append]
    exact hkept.blocks.changeAll hok.blocks _ _ _
  · rw [tops_ssaDbLftHandle]
    show Conserved h.firstTops (changedTops h.reported) _
    rw [hok.reported, changedTops_append]
    exact hkept.tops.changeAll hok.tops _ _ _

private theorem Kept.extract {h : History} {w : Worker} (hkept : Kept h w.ssaDb.pLftDb)
    (hok : RunOk h w) (hidle : w.phase = .idle) (mem : Mem) {s : OsmSubn}
    (hlids : History.LidsDistinct { h with first := h.first.or (some s) }) :
    Kept { h with first := h.first.or (some s) }
      (ssaDbExtract mem w.firstTimeSubnetUp w.ssaDb s).pLftDb := by
  cases hfirst : w.firstTimeSubnetUp with
  | false =>
      rw [hok.later hfirst]
      obtain ⟨hblocks, htops⟩ := ssaDbExtract_later mem w.ssaDb s
      refine ⟨?_, ?_⟩
      · rw [hblocks]
        exact hkept.blocks.alloc hok.blocks _ _ _
      · rw [htops]
        exact hkept.tops.alloc hok.tops _ _ _
  | true =>
      have hnone := hok.first.mpr ⟨hfirst, hidle⟩
      have hblocks := hkept.blocks
      have htops := hkept.tops
      rw [History.firstBlocks, hnone] at hblocks
      rw [History.firstTops, hnone] at htops
      obtain ⟨hst, hdump, hst', hdump'⟩ :=
        ssaDbExtract_first mem s (hok.noBlocks hnone) (hok.noTops hnone)
      have hd := hlids s (by rw [hnone]; rfl)
      rw [hnone]
      exact ⟨hblocks.fill (hok.noBlocks hnone) hst hdump (lftBlocks_nodup hd),
        htops.fill (hok.noTops hnone) hst' hdump' (lftTops_nodup hd)⟩

theorem Kept.step {h : History} {w w' : Worker} {e : Event} (hkept : Kept h w.ssaDb.pLftDb)
    (hok : RunOk h w) (hstep : workerStep w e = some w') (hlids : (h.add e).LidsDistinct) :
    Kept (h.add e) w'.ssaDb.pLftDb := by
  cases e with
  | report pLftChange =>
      obtain rfl := workerStep_report.mp hstep
      rw [reportLftChange_eq]
      exact ⟨hkept.blocks, hkept.tops⟩
  | lftChange mem =>
      obtain ⟨_, rfl⟩ := workerStep_lftChange.mp hstep
      exact hkept.drain hok mem
  | extract mem s =>
      obtain ⟨hidle, rfl⟩ := workerStep_extract.mp hstep
      exact hkept.extract hok hidle mem hlids
  | lftHandle mem =>
      obtain ⟨_, rfl⟩ := workerStep_lftHandle.mp hstep
      exact hkept.drain hok mem
  | update =>
      obtain ⟨_, rfl⟩ := workerStep_update.mp hstep
      exact hkept
  | compare mem alloc =>
      obtain ⟨_, rfl⟩ := workerStep_compare.mp hstep
      rw [ssaDbCompare_snd]
      refine ⟨?_, ?_⟩
      · show Conserved h.firstBlocks _ (SsaDbLft.blocks (if _ then _ else _))
        split
        · rw [blocks_mergeLftDump]
          exact hkept.blocks.merge hok.blocks _ _
        · exact hkept.blocks
      · show Conserved h.firstTops _ (SsaDbLft.tops (if _ then _ else _))
        split
        · rw [tops_mergeLftDump]
          exact hkept.tops.merge hok.tops _ _
        · exact hkept.tops

theorem History.LidsDistinct.init {es : List Event} {e : Event}
    (h : (history (es ++ [e])).LidsDistinct) : (history es).LidsDistinct := by
  intro s hs
  refine h s ?_
  rw [history_snoc]
  exact History.first_add hs e

theorem kept {es : List Event} {w : Worker} (hrun : run workerStep workerInit es = some w)
    (hlids : (history es).LidsDistinct) : Kept (history es) w.ssaDb.pLftDb := by
  refine run_induction
    (P := fun es (w : Worker) => (history es).LidsDistinct → Kept (history es) w.ssaDb.pLftDb)
    (fun _ => kept_init) ?_ hrun hlids
  intro es e w w' hrun hkept hstep hlids
  have hinit := hkept hlids.init
  rw [history_snoc] at hlids ⊢
  exact hinit.step (runOk hrun) hstep hlids

/-! ## Nothing is lost or reordered -/

/-- The database overlaid by the dump overlaid by the queue is the first
extraction's contents overlaid by everything reported. -/
structure NothingLost (h : History) (w : Worker) : Prop where
  blocks :
    overlay (layered w.ssaDb.pLftDb.blocks.db.view w.ssaDb.pLftDb.blocks.dump.view)
        (changedBlocks w.ssaDb.lftRecList)
      = overlay (fun k => OrdMap.find k h.firstBlocks) (changedBlocks h.reported)
  tops :
    overlay (layered w.ssaDb.pLftDb.tops.db.view w.ssaDb.pLftDb.tops.dump.view)
        (changedTops w.ssaDb.lftRecList)
      = overlay (fun k => OrdMap.find k h.firstTops) (changedTops h.reported)

/-- The dump is empty, and the database alone has everything that was reported
before the queue was last drained. -/
structure DumpMerged (h : History) (l : SsaDbLft) : Prop where
  noBlocks : l.epDumpLftBlockTbl = OrdMap.empty
  noTops : l.epDumpLftTopTbl = OrdMap.empty
  blocks : l.blocks.db.view
    = overlay (fun k => OrdMap.find k h.firstBlocks) (changedBlocks h.handled)
  tops : l.tops.db.view
    = overlay (fun k => OrdMap.find k h.firstTops) (changedTops h.handled)

/-- The comparisons of a run are where `first_time_subnet_up` is cleared. -/
theorem firstTimeSubnetUp_eq {es : List Event} {w : Worker}
    (hrun : run workerStep workerInit es = some w) :
    w.firstTimeSubnetUp = true ↔ ∀ mem alloc, Event.compare mem alloc ∉ es := by
  refine run_induction
    (P := fun es (w : Worker) =>
      w.firstTimeSubnetUp = true ↔ ∀ mem alloc, Event.compare mem alloc ∉ es)
    (iff_of_true rfl fun _ _ => List.not_mem_nil) ?_ hrun
  intro es e w w' _ ih hstep
  simp only [List.mem_append, List.mem_singleton, not_or, forall_and]
  cases e with
  | compare mem alloc =>
      obtain ⟨_, rfl⟩ := workerStep_compare.mp hstep
      refine ⟨fun h => (by cases h), fun h => absurd rfl (h.2 mem alloc)⟩
  | report pLftChange =>
      obtain rfl := workerStep_report.mp hstep
      simpa using ih
  | lftChange mem =>
      obtain ⟨_, rfl⟩ := workerStep_lftChange.mp hstep
      simpa using ih
  | extract mem s =>
      obtain ⟨_, rfl⟩ := workerStep_extract.mp hstep
      simpa using ih
  | lftHandle mem =>
      obtain ⟨_, rfl⟩ := workerStep_lftHandle.mp hstep
      simpa using ih
  | update =>
      obtain ⟨_, rfl⟩ := workerStep_update.mp hstep
      simpa using ih

/-- No LFT change is lost or reordered, and after every comparison but the
first the database alone has all that the drain before it could see. -/
theorem lft_nothing_lost {es : List Event} {w : Worker}
    (hrun : run workerStep workerInit es = some w) (hlids : (history es).LidsDistinct) :
    NothingLost (history es) w ∧
      ∀ es' mem mem₀ alloc₀, es = es' ++ [.compare mem true] → Event.compare mem₀ alloc₀ ∈ es' →
        DumpMerged (history es) w.ssaDb.pLftDb := by
  have hok := runOk hrun
  have hkept := kept hrun hlids
  refine ⟨⟨?_, ?_⟩, ?_⟩
  · show overlay w.ssaDb.pLftDb.blocks.look _ = _
    rw [hkept.blocks.look, hok.reported, changedBlocks_append, overlay_append]
  · show overlay w.ssaDb.pLftDb.tops.look _ = _
    rw [hkept.tops.look, hok.reported, changedTops_append, overlay_append]
  · rintro es' mem mem₀ alloc₀ rfl hearlier
    obtain ⟨w₀, hrun₀, hstep⟩ := run_snoc_eq_some.mp hrun
    obtain ⟨_, rfl⟩ := workerStep_compare.mp hstep
    have hfirst : w₀.firstTimeSubnetUp = false := by
      refine Bool.eq_false_iff.mpr fun htrue => ?_
      exact (firstTimeSubnetUp_eq hrun₀).mp htrue mem₀ alloc₀ hearlier
    have hmerge : (ssaDbCompare mem true w₀.firstTimeSubnetUp w₀.ssaDb).2.pLftDb
        = mergeLftDump mem w₀.ssaDb.pLftDb := by
      rw [ssaDbCompare_snd, hfirst]
      rfl
    have hblocks := hkept.blocks.look
    have htops := hkept.tops.look
    simp only [hmerge] at hblocks htops ⊢
    exact ⟨rfl, rfl, hblocks, htops⟩

/-- A switch with port 0 only, one LFT block, and every entry of it the same. -/
def plainSwitch (guid : UInt64) (lid : UInt16) (entry : UInt8) : OsmNode :=
  { (default : OsmNode) with
    nodeGuid := guid
    nodeType := ibNodeTypeSwitch
    sw := { (default : OsmSwitch) with lftSize := 64, lft := fun _ => entry }
    physpTblSize := 1
    physpTable := fun _ =>
      { (default : OsmPhysp) with valid := true, portGuid := guid, baseLid := htons lid } }

/-- OpenSM reports that the first block of a switch has changed. -/
def blockChanged (pSw : OsmNode) : Event := .report (some ⟨some pSw, .block, 0, 0⟩)

/-- The first extraction, a change of a block, and the next extraction of the
same subnet. -/
def changeBetween : List Event :=
  startExtract default (OsmSubn.ofNodes [plainSwitch 1 1 0, plainSwitch 2 2 0]) true ++
    [blockChanged (plainSwitch 1 1 7)] ++
    startExtract default (OsmSubn.ofNodes [plainSwitch 1 1 7, plainSwitch 2 2 0]) true

theorem lidsDistinct_changeBetween : (history changeBetween).LidsDistinct := by
  intro s hs
  obtain rfl : OsmSubn.ofNodes [plainSwitch 1 1 0, plainSwitch 2 2 0] = s := Option.some.inj hs
  decide +kernel

theorem buffersHold_changeBetween : (history changeBetween).BuffersHold := by
  intro s hs
  obtain rfl : OsmSubn.ofNodes [plainSwitch 1 1 0, plainSwitch 2 2 0] = s := Option.some.inj hs
  decide +kernel

theorem lft_nothing_lost_changeBetween :
    ∃ w, run workerStep workerInit changeBetween = some w ∧
      NothingLost (history changeBetween) w ∧
      DumpMerged (history changeBetween) w.ssaDb.pLftDb := by
  refine ⟨_, rfl, ?_⟩
  obtain ⟨hlost, hmerged⟩ := lft_nothing_lost rfl lidsDistinct_changeBetween
  have hearlier : Event.compare default true ∈ changeBetween.dropLast := by
    simp [changeBetween, startExtract]
  exact ⟨hlost, hmerged changeBetween.dropLast default default true rfl hearlier⟩

/-! ## The stores are represented as they should be -/

/-- The offsets are the numbers below the count, each once, all of them below
the capacity of the block, and no write so far was at or above the capacity it
met. -/
structure Represented {α : Type} (s : Slots UInt64 α) : Prop where
  dense : Dense s.map
  inside : ∀ k o, s.map.get? k = some o → o < s.buf.cap
  fits : s.buf.fits = true

/-- The blocks of the database have room for their records. -/
structure RoomOk (l : SsaDbLft) : Prop where
  blocks : DbRoom l.blocks.db
  tops : DbRoom l.tops.db

theorem dbRoom_of_stored {α : Type} {l : List (UInt64 × α)} {m : EpMap} {b₀ b : Buf α}
    (hst : Stored l m b₀ b) (hd : (l.map Prod.fst).Nodup) (hfits : b₀.fits = true)
    (hle : l.length ≤ b₀.cap) : DbRoom (⟨m, b⟩ : Slots UInt64 α) := by
  refine ⟨?_, hst.fits hfits hle⟩
  show m.count ≤ b.cap
  rw [hst.count_eq hd, hst.cap_eq]
  exact hle

private theorem RoomOk.drain {ssaDb : SsaDatabase} (hroom : RoomOk ssaDb.pLftDb) (mem : Mem) :
    RoomOk (ssaDbLftHandle mem ssaDb).pLftDb := by
  refine ⟨?_, ?_⟩
  · rw [blocks_ssaDbLftHandle]
    exact hroom.blocks
  · rw [tops_ssaDbLftHandle]
    exact hroom.tops

private theorem RoomOk.extract {h : History} {w : Worker} (hroom : RoomOk w.ssaDb.pLftDb)
    (hok : RunOk h w) (hidle : w.phase = .idle) (mem : Mem) {s : OsmSubn}
    (hlids : History.LidsDistinct { h with first := h.first.or (some s) })
    (hhold : History.BuffersHold { h with first := h.first.or (some s) }) :
    RoomOk (ssaDbExtract mem w.firstTimeSubnetUp w.ssaDb s).pLftDb := by
  cases hfirst : w.firstTimeSubnetUp with
  | false =>
      obtain ⟨hblocks, htops⟩ := ssaDbExtract_later mem w.ssaDb s
      refine ⟨?_, ?_⟩
      · rw [hblocks]
        exact hroom.blocks.alloc hok.blocks.live _ _ _
      · rw [htops]
        exact hroom.tops.alloc hok.tops.live _ _ _
  | true =>
      have hnone := hok.first.mpr ⟨hfirst, hidle⟩
      have hd := hlids s (by rw [hnone]; rfl)
      obtain ⟨hblocks, htops⟩ := hhold s (by rw [hnone]; rfl)
      obtain ⟨hst, _, hst', _⟩ :=
        ssaDbExtract_first mem s (hok.noBlocks hnone) (hok.noTops hnone)
      exact ⟨dbRoom_of_stored hst (lftBlocks_nodup hd) rfl hblocks,
        dbRoom_of_stored hst' (lftTops_nodup hd) rfl htops⟩

theorem RoomOk.step {h : History} {w w' : Worker} {e : Event} (hroom : RoomOk w.ssaDb.pLftDb)
    (hkept : Kept h w.ssaDb.pLftDb) (hok : RunOk h w) (hstep : workerStep w e = some w')
    (hlids : (h.add e).LidsDistinct) (hhold : (h.add e).BuffersHold) :
    RoomOk w'.ssaDb.pLftDb := by
  cases e with
  | report pLftChange =>
      obtain rfl := workerStep_report.mp hstep
      rw [reportLftChange_eq]
      exact ⟨hroom.blocks, hroom.tops⟩
  | lftChange mem =>
      obtain ⟨_, rfl⟩ := workerStep_lftChange.mp hstep
      exact hroom.drain mem
  | extract mem s =>
      obtain ⟨hidle, rfl⟩ := workerStep_extract.mp hstep
      exact hroom.extract hok hidle mem hlids hhold
  | lftHandle mem =>
      obtain ⟨_, rfl⟩ := workerStep_lftHandle.mp hstep
      exact hroom.drain mem
  | update =>
      obtain ⟨_, rfl⟩ := workerStep_update.mp hstep
      exact hroom
  | compare mem alloc =>
      obtain ⟨_, rfl⟩ := workerStep_compare.mp hstep
      rw [ssaDbCompare_snd]
      refine ⟨?_, ?_⟩
      · show DbRoom (SsaDbLft.blocks (if _ then _ else _)).db
        split
        · rw [blocks_mergeLftDump]
          exact hroom.blocks.merge (hkept.blocks.dbInv hok.blocks) _ _
        · exact hroom.blocks
      · show DbRoom (SsaDbLft.tops (if _ then _ else _)).db
        split
        · rw [tops_mergeLftDump]
          exact hroom.tops.merge (hkept.tops.dbInv hok.tops) _ _
        · exact hroom.tops

theorem History.BuffersHold.init {es : List Event} {e : Event}
    (h : (history (es ++ [e])).BuffersHold) : (history es).BuffersHold := by
  intro s hs
  refine h s ?_
  rw [history_snoc]
  exact History.first_add hs e

theorem roomOk {es : List Event} {w : Worker} (hrun : run workerStep workerInit es = some w)
    (hlids : (history es).LidsDistinct) (hhold : (history es).BuffersHold) :
    RoomOk w.ssaDb.pLftDb := by
  refine run_induction
    (P := fun es (w : Worker) => (history es).LidsDistinct → (history es).BuffersHold →
      RoomOk w.ssaDb.pLftDb)
    (fun _ _ => ⟨⟨Nat.le_refl _, rfl⟩, ⟨Nat.le_refl _, rfl⟩⟩) ?_ hrun hlids hhold
  intro es e w w' hrun ih hstep hlids hhold
  have hroom := ih hlids.init hhold.init
  have hkept := kept hrun hlids.init
  rw [history_snoc] at hlids hhold
  exact hroom.step hkept (runOk hrun) hstep hlids hhold

theorem represented_db {α : Type} {s : Slots UInt64 α} (hinv : DbInv s) (hroom : DbRoom s) :
    Represented s := by
  refine ⟨hinv.dense, ?_, hroom.fits⟩
  intro k o ho
  exact Nat.lt_of_lt_of_le (hinv.dense.bounded.lt ho) hroom.room

theorem represented_dump {α : Type} {s : Slots UInt64 α} (h : DumpInv s) : Represented s := by
  refine ⟨h.dense, ?_, h.fits⟩
  intro k o ho
  exact Nat.lt_of_lt_of_le (h.dense.bounded.lt ho) h.room

/-- The four LFT stores, and the two LFT tables of a diff that a comparison
would build now. -/
structure LftRepresented (w : Worker) : Prop where
  dbBlocks : Represented w.ssaDb.pLftDb.blocks.db
  dbTops : Represented w.ssaDb.pLftDb.tops.db
  dumpBlocks : Represented w.ssaDb.pLftDb.blocks.dump
  dumpTops : Represented w.ssaDb.pLftDb.tops.dump
  diff : ∀ mem, let d := (buildDiff mem w.firstTimeSubnetUp w.ssaDb).1
    d.tables.lftBlock.fits = true ∧ d.tables.lftTop.fits = true

/-- In every run whose first extraction saw distinct LIDs and had the room. -/
theorem lft_represented {es : List Event} {w : Worker}
    (hrun : run workerStep workerInit es = some w) (hlids : (history es).LidsDistinct)
    (hhold : (history es).BuffersHold) : LftRepresented w := by
  have hok := runOk hrun
  have hkept := kept hrun hlids
  have hroom := roomOk hrun hlids hhold
  refine ⟨represented_db (hkept.blocks.dbInv hok.blocks) hroom.blocks,
    represented_db (hkept.tops.dbInv hok.tops) hroom.tops, represented_dump hok.blocks.dump,
    represented_dump hok.tops.dump, ?_⟩
  intro mem d
  have hspec : DiffSpec mem w.firstTimeSubnetUp w.ssaDb d := buildDiff_spec _ _ _
  exact ⟨hspec.lftBlock_coherent.fits, hspec.lftTop_coherent.fits⟩

theorem lft_represented_changeBetween :
    ∃ w, run workerStep workerInit changeBetween = some w ∧ LftRepresented w :=
  ⟨_, rfl, lft_represented rfl lidsDistinct_changeBetween buffersHold_changeBetween⟩

end Ibssa
