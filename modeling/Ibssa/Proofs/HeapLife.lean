import Ibssa.Proofs.FaithfulSnapshot
import Ibssa.Proofs.HeapRuns

/-!
# From `construct` to `destroy`

Here the account of the runs is given its two ends. `construct` makes six blocks,
and a run begins with them. When it fails it should have given back what it got,
and does up to the point where `ssa_database_init` is back. After that its error
paths forget: the three for the databases leave the two blocks of the database
and the plugin's own, the two for the socket and the thread leave the plugin's
own, and all five leave the log open.

`destroy` frees all that the plugin's pointers lead to. It does not look at the
queue, and what is left there is lost. When OpenSM shuts down in order the queue
is empty (`Proofs.Quiescence`), and if no subnet it showed had a key twice, one
block is lost in the end, however long the plugin has run: the database that the
first `ssa_db_update` forgets.
-/

namespace Ibssa.Heap

open Lifetime Keyed ByteOrder Machine
open Lifetime.Ledger (Trades)

/-! ## `destroy` -/

/-- The queue and the plugin's own block are not the database's to delete. -/
theorem trades_ssaDatabaseDelete (m : Memory) :
    Trades m.ledger (ssaDatabaseDelete m) m.blocks (m.lftRecList.map Prod.snd ++ [m.ssa]) 0 := by
  have hdbs := (trades_ssaDbExtractDelete m.pDumpDb m.ledger).par
    ((trades_ssaDbExtractDelete m.pPreviousDb _).par (trades_ssaDbExtractDelete m.pCurrentDb _))
  rw [ssaDatabaseDelete]
  generalize ssaDbExtractDelete m.pCurrentDb _ = l at hdbs ⊢
  refine ((hdbs.par (c := m.pLftDb.blocks ++ [m.ssaDb]) (d := []) (n := 0) ?_).frame
    (m.lftRecList.map Prod.snd ++ [m.ssa])).perm (perm_of_count fun b => ?_) (List.Perm.refl _)
  · simp only [SsaDbLft.blocks, SsaDbLft.items, SsaDbLft.tables, List.append_assoc]
    exact Items.drop_then (Items.drop_then (Items.drop_then (Items.drop_then (.free_then
      (.free_then (.free_then (.free_then (.free_then (p := some _)
        (Trades.free (some _) _)))))))))
  · simp only [Memory.blocks, List.count_append, List.count_cons, List.count_nil]
    omega

theorem trades_destroy (m : Memory) :
    Trades m.ledger (destroy m).ledger m.blocks [] m.lftRecList.length := by
  have hdelete := trades_ssaDatabaseDelete m
  have hlose := Trades.lose (ssaDatabaseDelete m) (m.lftRecList.map Prod.snd)
  rw [List.length_map] at hlose
  have hall := hdelete.trans (hlose.par (Trades.free (some m.ssa) _))
  rwa [Nat.zero_add, Nat.add_zero] at hall

/-! ## `construct` -/

/-- The first part of `construct`: the plugin's own block, the log and the database. -/
def Luck.started (host : Host) (luck : Luck) : Bool :=
  !luck.fails 0 host.ssaEvents && (luck.openLog &&
    (!luck.fails 1 host.ssaDatabase && !luck.fails 2 host.ssaDbLft))

/-- The second part, three calls of `ssa_db_extract_init`. -/
def Luck.filled (host : Host) (luck : Luck) : Bool :=
  !luck.fails 3 host.ssaDbExtract && (!luck.fails 4 host.ssaDbExtract &&
    !luck.fails 5 host.ssaDbExtract)

/-- The last part. -/
def Luck.running (luck : Luck) : Bool := luck.socketpair && luck.pthreadCreate

/-- A `malloc`, by what it may say. -/
theorem malloc_spec (fails : Nat → UInt64 → Bool) (size : UInt64) (l : Ledger UInt64) :
    ∃ p l', l.malloc fails size = (p, l') ∧ p.isNone = fails l.calls size ∧
      l'.calls = l.calls + 1 ∧ Trades l l' [] p.toList 0 :=
  ⟨_, _, rfl, Ledger.malloc_isNone fails size l, Ledger.calls_malloc fails size l,
    Trades.malloc fails size l⟩

/-- What `construct` hands out and what it leaves, by how far it has come. -/
structure ConstructLaw (host : Host) (luck : Luck) (r : Except Left Memory) : Prop where
  notStarted : luck.started host = false → ∃ l, r = .error ⟨l, false⟩ ∧ l.AllBut [] 0
  notFilled : luck.started host = true → luck.filled host = false →
    ∃ l, r = .error ⟨l, true⟩ ∧ l.AllBut [] 3
  notRunning : luck.started host = true → luck.filled host = true → luck.running = false →
    ∃ l, r = .error ⟨l, true⟩ ∧ l.AllBut [] 1
  done : luck.started host = true → luck.filled host = true → luck.running = true →
    ∃ m, r = .ok m ∧ m.Mirrors Ibssa.ssaDatabaseInit ∧ m.ledger.AllBut m.blocks 0

theorem ssaDatabaseInit_spec (host : Host) (fails : Nat → UInt64 → Bool) (l : Ledger UInt64) :
    ∃ r l', ssaDatabaseInit host fails l = (r, l') ∧
      r.isSome = (!fails l.calls host.ssaDatabase && !fails (l.calls + 1) host.ssaDbLft) ∧
      (r = none → Trades l l' [] [] 0) ∧
      ∀ ssaDb pLftDb, r = some (ssaDb, pLftDb) →
        l'.calls = l.calls + 2 ∧ pLftDb.Mirrors Ibssa.ssaDatabaseInit.pLftDb ∧
          pLftDb.blocks = [pLftDb.pLftDb] ∧ Trades l l' [] (pLftDb.blocks ++ [ssaDb]) 0 := by
  obtain ⟨db, l₁, hdb, hnull₁, hcalls₁, htrades₁⟩ := malloc_spec fails host.ssaDatabase l
  obtain ⟨lft, l₂, hlft, hnull₂, hcalls₂, htrades₂⟩ := malloc_spec fails host.ssaDbLft l₁
  rw [hcalls₁] at hnull₂ hcalls₂
  rw [ssaDatabaseInit, hdb]
  cases db with
  | none =>
      refine ⟨none, l₁, rfl, ?_, fun _ => htrades₁, fun _ _ h => nomatch h⟩
      rw [← hnull₁]
      rfl
  | some b =>
      dsimp only
      rw [hlft, ← hnull₁, ← hnull₂]
      cases lft with
      | none =>
          refine ⟨none, _, rfl, rfl, fun _ => ?_, fun _ _ h => nomatch h⟩
          exact (htrades₁.trans (htrades₂.frame [b])).trans (Trades.free (some b) l₂)
      | some c =>
          refine ⟨_, _, rfl, rfl, fun h => (nomatch h), ?_⟩
          rintro ssaDb pLftDb hr
          obtain ⟨rfl, rfl⟩ := Prod.mk.inj (Option.some.inj hr)
          refine ⟨hcalls₂, ⟨rfl, rfl, rfl, rfl, rfl, rfl, rfl, rfl⟩, rfl, ?_⟩
          exact (htrades₁.trans (htrades₂.frame [b]))

theorem constructDbs_spec (host : Host) (luck : Luck) (ssa ssaDb : Block UInt64)
    {pLftDb : SsaDbLft} (hlft : pLftDb.Mirrors Ibssa.ssaDatabaseInit.pLftDb)
    {l : Ledger UInt64} (hcalls : l.calls = 3) :
    (luck.filled host = false →
      ∃ l', constructDbs host luck ssa ssaDb pLftDb l = .error ⟨l', true⟩ ∧
        Trades l l' [] [] 0) ∧
    (luck.filled host = true → luck.running = false →
      ∃ l', constructDbs host luck ssa ssaDb pLftDb l = .error ⟨l', true⟩ ∧
        Trades l l' (pLftDb.blocks ++ [ssaDb, ssa]) [ssa] 0) ∧
    (luck.filled host = true → luck.running = true →
      ∃ m, constructDbs host luck ssa ssaDb pLftDb l = .ok m ∧
        m.Mirrors Ibssa.ssaDatabaseInit ∧
        Trades l m.ledger (pLftDb.blocks ++ [ssaDb, ssa]) m.blocks 0) := by
  obtain ⟨previous, l₁, h₁, hnull₁, hcalls₁, htrades₁⟩ :=
    malloc_spec luck.fails host.ssaDbExtract l
  obtain ⟨current, l₂, h₂, hnull₂, hcalls₂, htrades₂⟩ :=
    malloc_spec luck.fails host.ssaDbExtract l₁
  obtain ⟨dump, l₃, h₃, hnull₃, hcalls₃, htrades₃⟩ :=
    malloc_spec luck.fails host.ssaDbExtract l₂
  rw [hcalls] at hnull₁ hcalls₁
  rw [hcalls₁] at hnull₂ hcalls₂
  rw [hcalls₂] at hnull₃
  have hfilled : luck.filled host = (!previous.isNone && (!current.isNone && !dump.isNone)) := by
    rw [hnull₁, hnull₂, hnull₃]
    rfl
  rw [hfilled, constructDbs, h₁]
  cases previous with
  | none =>
      exact ⟨fun _ => ⟨_, rfl, htrades₁⟩, fun h => Bool.noConfusion h, fun h => Bool.noConfusion h⟩
  | some pPreviousDb =>
      dsimp only
      rw [h₂]
      cases current with
      | none =>
          refine ⟨fun _ => ⟨_, rfl, ?_⟩, fun h => Bool.noConfusion h, fun h => Bool.noConfusion h⟩
          exact (htrades₁.trans (htrades₂.frame [pPreviousDb])).trans
            (trades_ssaDbExtractDelete (ssaDbExtractInit pPreviousDb) l₂)
      | some pCurrentDb =>
          dsimp only
          rw [h₃]
          cases dump with
          | none =>
              refine ⟨fun _ => ⟨_, rfl, ?_⟩, fun h => Bool.noConfusion h,
                fun h => Bool.noConfusion h⟩
              have hgot := (htrades₁.par htrades₂).trans (htrades₃.frame _)
              exact hgot.trans ((trades_ssaDbExtractDelete (ssaDbExtractInit pPreviousDb) l₃).par
                (trades_ssaDbExtractDelete (ssaDbExtractInit pCurrentDb) _))
          | some pDumpDb =>
              let m : Memory :=
                { ssa := ssa
                  ssaDb := ssaDb
                  pLftDb := pLftDb
                  pCurrentDb := ssaDbExtractInit pCurrentDb
                  pPreviousDb := ssaDbExtractInit pPreviousDb
                  pDumpDb := ssaDbExtractInit pDumpDb
                  lftRecList := []
                  ledger := l₃ }
              have hmirrors : m.Mirrors Ibssa.ssaDatabaseInit :=
                ⟨hlft, mirrors_ssaDbExtractInit _, mirrors_ssaDbExtractInit _,
                  mirrors_ssaDbExtractInit _, rfl⟩
              have hgot : Trades l m.ledger (pLftDb.blocks ++ [ssaDb, ssa]) m.blocks 0 := by
                refine (((htrades₁.par htrades₂).par htrades₃).frame
                  (pLftDb.blocks ++ [ssaDb, ssa])).perm (List.Perm.refl _)
                  (perm_of_count fun b => ?_)
                simp only [m, Memory.blocks, blocks_ssaDbExtractInit, Option.toList_some,
                  List.map_nil, List.count_append, List.count_nil]
                omega
              have hend : Trades l (ssaDatabaseDelete m) (pLftDb.blocks ++ [ssaDb, ssa]) [ssa] 0 :=
                hgot.trans (trades_ssaDatabaseDelete m)
              refine ⟨fun h => Bool.noConfusion h, fun _ hrun => ⟨ssaDatabaseDelete m, ?_, hend⟩,
                fun _ hrun => ⟨m, ?_, hmirrors, hgot⟩⟩
              · rw [Luck.running] at hrun
                cases hsock : luck.socketpair with
                | false => rfl
                | true =>
                    rw [hsock, Bool.true_and] at hrun
                    rw [hrun]
                    rfl
              · rw [Luck.running, Bool.and_eq_true] at hrun
                rw [hrun.1, hrun.2]
                rfl

/-- The error paths of `construct` give back what was got up to the database, and
forget about it later. -/
theorem constructLaw (host : Host) (luck : Luck) :
    ConstructLaw host luck (construct host luck) := by
  obtain ⟨ssa, l₁, hssa, hnull, hcalls, htrades⟩ :=
    malloc_spec luck.fails host.ssaEvents Ledger.empty
  obtain ⟨db, l₂, hdb, hsome, hfailed, hgot⟩ := ssaDatabaseInit_spec host luck.fails l₁
  rw [hcalls] at hsome hgot
  have hstarted : luck.started host = (!ssa.isNone && (luck.openLog && db.isSome)) := by
    rw [hnull, hsome]
    rfl
  have hzero := Ledger.allBut_empty.trade_all htrades
  -- whatever the databases come to, they are not reached
  have hearly : ∀ {l}, luck.started host = false → construct host luck = .error ⟨l, false⟩ →
      l.AllBut [] 0 → ConstructLaw host luck (construct host luck) := fun hno hc hl =>
    ⟨fun _ => ⟨_, hc, hl⟩, fun h => absurd (hno.symm.trans h) Bool.false_ne_true,
      fun h => absurd (hno.symm.trans h) Bool.false_ne_true,
      fun h => absurd (hno.symm.trans h) Bool.false_ne_true⟩
  cases ssa with
  | none =>
      refine hearly hstarted ?_ hzero
      rw [construct, hssa]
  | some pSsa =>
      cases hlog : luck.openLog with
      | false =>
          rw [hlog] at hstarted
          refine hearly hstarted ?_ (hzero.trade_all (Trades.free (some pSsa) l₁))
          rw [construct, hssa, hlog]
          rfl
      | true =>
          rw [hlog] at hstarted
          cases db with
          | none =>
              refine hearly hstarted ?_ ((hzero.trade_all ((hfailed rfl).frame [pSsa])).trade_all
                (Trades.free (some pSsa) l₂))
              rw [construct, hssa, hlog]
              dsimp only
              rw [hdb]
              rfl
          | some r =>
              obtain ⟨ssaDb, pLftDb⟩ := r
              obtain ⟨hcalls₂, hlft, hbare, htrades₂⟩ := hgot ssaDb pLftDb rfl
              obtain ⟨hforget, hstop, hdone⟩ :=
                constructDbs_spec host luck pSsa ssaDb hlft hcalls₂
              have hc : construct host luck = constructDbs host luck pSsa ssaDb pLftDb l₂ := by
                rw [construct, hssa, hlog]
                dsimp only
                rw [hdb]
                rfl
              have hheld : l₂.AllBut (pLftDb.blocks ++ [ssaDb, pSsa]) 0 := by
                refine (hzero.trade_all (htrades₂.frame [pSsa])).perm ?_
                rw [List.append_assoc]
                exact List.Perm.refl _
              rw [hc]
              refine ⟨fun hno => absurd (hstarted.symm.trans hno) Bool.noConfusion, fun _ hno => ?_,
                fun _ hfilled hno => ?_, fun _ hfilled hrun => ?_⟩
              · obtain ⟨l, hl, ht⟩ := hforget hno
                refine ⟨l, hl, ?_⟩
                have hlost := (hheld.trade_all (ht.frame _)).trade_all (Trades.lose l _)
                rwa [hbare] at hlost
              · obtain ⟨l, hl, ht⟩ := hstop hfilled hno
                exact ⟨l, hl, (hheld.trade_all ht).trade_all (Trades.lose l [pSsa])⟩
              · obtain ⟨m, hm, hmirrors, ht⟩ := hdone hfilled hrun
                exact ⟨m, hm, hmirrors, hheld.trade_all ht⟩

/-! ## Subnets without repeated keys -/

section CleanSweep

variable {s : OsmSubn}

/-- The switches' base LIDs are those of their end ports. -/
theorem distinctLids_of_cleanSweep (h : CleanSweep s) : DistinctLids s.nodes := by
  let lid := fun n => ntohs ((s.deref n).baseLid 0)
  have hswitches : (s.nodes.filter OsmNode.isSwitch).map (fun n => ntohs (n.baseLid 0))
      = s.switches.map lid := by
    rw [OsmSubn.nodes, OsmSubn.switches, List.filter_map, List.filter_map, List.map_map,
      List.map_map]
    rfl
  have hends : ((s.ports.filter (onSwitch s)).map fun p => p.pPhysp.node).map lid
      = (s.ports.filter (onSwitch s)).map (endLid s) := by
    rw [List.map_map]
    refine List.map_congr_left fun p hp => ?_
    exact (endLid_of_switch (List.mem_filter.mp hp).2).symm
  rw [DistinctLids, hswitches]
  refine (h.onePort.map lid).nodup_iff.mp ?_
  rw [hends]
  exact h.distinctLids.sublist (List.filter_sublist.map (endLid s))

/-- A subnet as OpenSM leaves it has no key twice. -/
theorem repeatedKeys_of_cleanSweep (firstTimeSubnetUp : Bool) (h : CleanSweep s) :
    repeatedKeys firstTimeSubnetUp s = 0 := by
  have hnodes : ((s.nodes.map nodeEntry).map Prod.fst) = s.nodeGuidTbl.keys := by
    rw [OsmSubn.nodes, List.map_map, List.map_map]
    exact List.map_congr_left h.nodeKeyed
  have hguids : ((s.ports.map (guidToLidEntry s)).map Prod.fst) = s.portGuidTbl.keys := by
    rw [OsmSubn.ports, List.map_map, List.map_map]
    exact List.map_congr_left h.portKeyed
  have hport0 : ∀ p ∈ s.ports, onSwitch s p = true → (s.nodeOf p.pPhysp).hasPort0 = true :=
    fun p hp hsw => h.hasPort0 hp hsw
  let c := PortCursor.start (carriedLid firstTimeSubnetUp s)
  have hports : ((portRun s c s.ports).map Prod.fst).Nodup := by
    rw [keys_portRun s.ports c hport0]
    exact h.keys_nodup
  have hlinks : ((linkRun s c s.ports).map Prod.fst).Nodup := by
    rw [linkRun_eq_placed s.ports c fun p hp hsw _ _ _ => hport0 p hp hsw]
    exact h.keys_nodup.sublist (keys_links_sublist (placed s s.ports))
  have hlids := distinctLids_of_cleanSweep h
  rw [repeatedKeys, hnodes, hguids, repeats_of_nodup s.nodeGuidTbl.keys_nodup,
    repeats_of_nodup s.portGuidTbl.keys_nodup, repeats_of_nodup hports, repeats_of_nodup hlinks,
    repeats_of_nodup (lftTops_nodup hlids), repeats_of_nodup (lftBlocks_nodup hlids)]
  cases firstTimeSubnetUp <;> rfl

theorem lossOf_of_cleanSweep {l : List OsmSubn} (h : ∀ s ∈ l, CleanSweep s) : lossOf l = 0 := by
  induction l with
  | nil => rfl
  | cons s earlier ih =>
      rw [lossOf, repeatedKeys_of_cleanSweep _ (h s List.mem_cons_self),
        ih fun s hs => h s (List.mem_cons_of_mem _ hs)]

end CleanSweep

/-! ## Main results -/

section Life

variable {host : Host} {luck : Luck} {m : Memory} {es : List Event} {p : Process}

/-- What a `construct` that has succeeded hands out. -/
theorem constructed (hconstruct : construct host luck = .ok m) :
    m.Mirrors Ibssa.ssaDatabaseInit ∧ m.ledger.AllBut m.blocks 0 := by
  have hlaw := constructLaw host luck
  rw [hconstruct] at hlaw
  cases hstarted : luck.started host with
  | false =>
      obtain ⟨l, hl, _⟩ := hlaw.notStarted hstarted
      cases hl
  | true =>
      cases hfilled : luck.filled host with
      | false =>
          obtain ⟨l, hl, _⟩ := hlaw.notFilled hstarted hfilled
          cases hl
      | true =>
          cases hrunning : luck.running with
          | false =>
              obtain ⟨l, hl, _⟩ := hlaw.notRunning hstarted hfilled hrunning
              cases hl
          | true =>
              obtain ⟨m', hm, hall⟩ := hlaw.done hstarted hfilled hrunning
              obtain rfl := Except.ok.inj hm
              exact hall

/-- `construct` succeeds when all its calls do. When it fails it has closed the log
and given back all it got if the database could not be made, and left the log open
and lost something otherwise: the plugin's own block if the socket or the thread
failed, and the two of the database as well if an `ssa_db_extract_init` did. -/
theorem construct_account (host : Host) (luck : Luck) :
    ((∃ m, construct host luck = .ok m) ↔
      luck.started host = true ∧ luck.filled host = true ∧ luck.running = true) ∧
    ∀ left, construct host luck = .error left →
      left.log = luck.started host ∧
        left.ledger.AllBut []
          (if luck.started host then if luck.filled host then 1 else 3 else 0) := by
  have hlaw := constructLaw host luck
  have herror : ∀ {l log n}, construct host luck = .error ⟨l, log⟩ → l.AllBut [] n →
      ∀ left, construct host luck = .error left → left.log = log ∧ left.ledger.AllBut [] n := by
    intro l log n hc hl left hleft
    obtain rfl := Except.error.inj (hc.symm.trans hleft)
    exact ⟨rfl, hl⟩
  cases hstarted : luck.started host with
  | false =>
      obtain ⟨l, hc, hl⟩ := hlaw.notStarted hstarted
      refine ⟨⟨fun ⟨m, hm⟩ => ?_, fun h => Bool.noConfusion h.1⟩, herror hc hl⟩
      cases hc.symm.trans hm
  | true =>
      cases hfilled : luck.filled host with
      | false =>
          obtain ⟨l, hc, hl⟩ := hlaw.notFilled hstarted hfilled
          refine ⟨⟨fun ⟨m, hm⟩ => ?_, fun h => Bool.noConfusion h.2.1⟩, herror hc hl⟩
          cases hc.symm.trans hm
      | true =>
          cases hrunning : luck.running with
          | false =>
              obtain ⟨l, hc, hl⟩ := hlaw.notRunning hstarted hfilled hrunning
              refine ⟨⟨fun ⟨m, hm⟩ => ?_, fun h => Bool.noConfusion h.2.2⟩, herror hc hl⟩
              cases hc.symm.trans hm
          | true =>
              obtain ⟨m, hm, _⟩ := hlaw.done hstarted hfilled hrunning
              refine ⟨⟨fun _ => ⟨rfl, rfl, rfl⟩, fun _ => ⟨m, hm⟩⟩, fun left hleft => ?_⟩
              cases hm.symm.trans hleft

theorem accounted_of_construct (hconstruct : construct host luck = .ok m)
    (hrun : run (processStep host) ⟨workerInit, m⟩ es = some p) : Accounted es p :=
  accounted (constructed hconstruct).1 (constructed hconstruct).2 hrun

/-- In every run from a successful `construct` each block that was handed out has
been freed, is reached from the plugin's pointers, or is one of those that the
run has lost. -/
theorem memory_accounted (hconstruct : construct host luck = .ok m)
    (hrun : run (processStep host) ⟨workerInit, m⟩ es = some p) :
    p.memory.ledger.AllBut p.memory.blocks (lostIn es) :=
  (accounted_of_construct hconstruct hrun).account

/-- Sizes that a host may have. -/
def someHost : Host where
  ssaEvents := 16
  ssaDatabase := 88
  ssaDbLft := 512
  ssaDbExtract := 656
  ssaDbDiff := 1024
  epMapRec := 56
  ssaDbLftChangeRec := 40
  smdb := ⟨none, none, none, none, fun _ => none, 0, none, none, fun _ => none⟩

def allGranted : Luck := ⟨fun _ _ => false, true, true, true⟩

/-- Two switches with one LID. -/
def sameLids : List Event :=
  startExtract default (OsmSubn.ofNodes [plainSwitch 1 1 0, plainSwitch 2 1 0]) true

/-- A port, an LFT top and an LFT block are written twice. -/
theorem lostIn_sameLids : lostIn sameLids = 4 := by decide +kernel

theorem memory_accounted_sameLids :
    ∃ m p, construct someHost allGranted = .ok m ∧
      run (processStep someHost) ⟨workerInit, m⟩ sameLids = some p ∧
      p.memory.ledger.AllBut p.memory.blocks 4 := by
  obtain ⟨m, hconstruct⟩ : ∃ m, construct someHost allGranted = .ok m := ⟨_, rfl⟩
  have hrun : run (processStep someHost) ⟨workerInit, m⟩ sameLids = some _ := rfl
  refine ⟨_, _, hconstruct, hrun, ?_⟩
  rw [← lostIn_sameLids]
  exact memory_accounted hconstruct hrun

/-- The plugin's pointers lead to blocks that are there, each to its own, with
the room that the data over them takes; and what has been freed had been handed
out and was freed once. -/
structure MemorySound (p : Process) : Prop where
  mirrors : p.memory.Mirrors p.worker.ssaDb
  reached : ∀ b ∈ p.memory.blocks, b ∈ p.memory.ledger.allocated ∧ b ∉ p.memory.ledger.freed
  apart : p.memory.blocks.Nodup
  freedGot : ∀ b ∈ p.memory.ledger.freed, b ∈ p.memory.ledger.allocated
  freedOnce : p.memory.ledger.freed.Nodup

theorem memory_sound (hconstruct : construct host luck = .ok m)
    (hrun : run (processStep host) ⟨workerInit, m⟩ es = some p) : MemorySound p := by
  have hall := accounted_of_construct hconstruct hrun
  obtain ⟨hreached, hapart, hgot, honce⟩ := hall.account.sound
  exact ⟨hall.mirrors, hreached, hapart, hgot, honce⟩

theorem memory_sound_sameLids :
    ∃ m p, construct someHost allGranted = .ok m ∧
      run (processStep someHost) ⟨workerInit, m⟩ sameLids = some p ∧ MemorySound p := by
  obtain ⟨m, hconstruct⟩ : ∃ m, construct someHost allGranted = .ok m := ⟨_, rfl⟩
  have hrun : run (processStep someHost) ⟨workerInit, m⟩ sameLids = some _ := rfl
  exact ⟨_, _, hconstruct, hrun, memory_sound hconstruct hrun⟩

/-- `destroy` frees everything but what was lost before and what is in the queue. -/
theorem destroy_account (hconstruct : construct host luck = .ok m)
    (hrun : run (processStep host) ⟨workerInit, m⟩ es = some p) :
    (destroy p.memory).ledger.AllBut [] (lostIn es + p.worker.ssaDb.lftRecList.length) := by
  have hall := accounted_of_construct hconstruct hrun
  have hqueue : p.memory.lftRecList.length = p.worker.ssaDb.lftRecList.length := by
    rw [← hall.mirrors.lftRecList, List.length_map]
  rw [← hqueue]
  exact hall.account.trade_all (trades_destroy p.memory)

/-- A change that is queued before the first subnet up is lost. -/
theorem destroy_account_blockChanged :
    ∃ m p, construct someHost allGranted = .ok m ∧
      run (processStep someHost) ⟨workerInit, m⟩ [blockChanged (plainSwitch 1 1 7)] = some p ∧
      (destroy p.memory).ledger.AllBut [] 1 := by
  obtain ⟨m, hconstruct⟩ : ∃ m, construct someHost allGranted = .ok m := ⟨_, rfl⟩
  have hrun : run (processStep someHost) ⟨workerInit, m⟩ [blockChanged (plainSwitch 1 1 7)]
      = some _ := rfl
  exact ⟨m, _, hconstruct, hrun, destroy_account hconstruct hrun⟩

/-- After subnets without repeated keys one block has been lost, however many
there were: the database that the first `ssa_db_update` forgets. -/
theorem one_block_lost (hconstruct : construct host luck = .ok m)
    (hrun : run (processStep host) ⟨workerInit, m⟩ es = some p)
    (hclean : ∀ s ∈ extracted es, CleanSweep s) :
    p.memory.ledger.AllBut p.memory.blocks (if es.any Event.isUpdate then 1 else 0) := by
  have hall := (accounted_of_construct hconstruct hrun).account
  rwa [lostIn, lossOf_of_cleanSweep hclean, Nat.zero_add] at hall

/-- Two rounds over one fabric. -/
def twoRounds : List Event :=
  startExtract default smallFabric true ++ startExtract default smallFabric true

theorem one_block_lost_twoRounds :
    ∃ m p, construct someHost allGranted = .ok m ∧
      run (processStep someHost) ⟨workerInit, m⟩ twoRounds = some p ∧
      p.memory.ledger.AllBut p.memory.blocks 1 := by
  obtain ⟨m, hconstruct⟩ : ∃ m, construct someHost allGranted = .ok m := ⟨_, rfl⟩
  have hrun : run (processStep someHost) ⟨workerInit, m⟩ twoRounds = some _ := rfl
  have hclean : ∀ s ∈ extracted twoRounds, CleanSweep s := by
    intro s hs
    have hmem : s ∈ [smallFabric, smallFabric] := hs
    obtain rfl : s = smallFabric := by simpa using hmem
    exact cleanSweep_smallFabric
  exact ⟨_, _, hconstruct, hrun, one_block_lost hconstruct hrun hclean⟩

/-- The whole life of the plugin, with OpenSM's threads beside it: after an
orderly end all memory has been given back, but for that one block if there was
a snapshot. -/
theorem lifetime_account {capacity : Nat} {as : List Act} {t : Threads}
    (hconstruct : construct host luck = .ok m)
    (hrun : run (threadStep capacity) threadsInit as = some t)
    (horderly : Guarded (threadStep capacity) Orderly threadsInit as)
    (hdone : t.destroy = .done)
    (hclean : ∀ s ∈ extracted (committed capacity as), CleanSweep s) :
    ∃ p, run (processStep host) ⟨workerInit, m⟩ (committed capacity as) = some p ∧
      p.worker = t.worker ∧
      (destroy p.memory).ledger.AllBut []
        (if (extracted (committed capacity as)).isEmpty then 0 else 1) := by
  have hworker := run_worker_of_threads hrun
  have hsettled := settled_of_done hrun horderly hdone
  have hgone := (ending hrun).joined hdone
  have hqueue : t.worker.ssaDb.lftRecList = [] := by
    rw [worker_of_pc hgone rfl]
    exact hsettled.queue
  have hphase := (hsettled.served hrun).phase
  obtain ⟨p, hp, hw⟩ := Option.map_eq_some_iff.mp
    ((map_run_process host ⟨workerInit, m⟩ (committed capacity as)).trans hworker)
  refine ⟨p, hp, hw, ?_⟩
  have hall := accounted_of_construct hconstruct hp
  have hlost : lostIn (committed capacity as)
      = if (extracted (committed capacity as)).isEmpty then 0 else 1 := by
    rw [lostIn, lossOf_of_cleanSweep hclean, any_isUpdate_of_idle hworker hphase, Nat.zero_add]
    cases (extracted (committed capacity as)).isEmpty <;> rfl
  have hlen : p.memory.lftRecList.length = 0 := by
    have hmirrors := congrArg List.length hall.mirrors.lftRecList
    rwa [hw, hqueue, List.length_map] at hmirrors
  have hend := hall.account.trade_all (trades_destroy p.memory)
  rwa [hlen, Nat.add_zero, hlost] at hend

/-- A subnet up is reported and served, and OpenSM shuts down. -/
def subnetUpThenDestroy : List Act :=
  let work : Act := .inner (.work smallFabric default true)
  [.report (.subnetUp false), .inner (.report 0), work, work, work, work, work, work, work, work,
    .destroy, .inner .destroy, work, .inner .destroy]

theorem lifetime_account_subnetUpThenDestroy :
    ∃ m t p, construct someHost allGranted = .ok m ∧
      run (threadStep 4) threadsInit subnetUpThenDestroy = some t ∧
      run (processStep someHost) ⟨workerInit, m⟩ (committed 4 subnetUpThenDestroy) = some p ∧
      p.worker = t.worker ∧ (destroy p.memory).ledger.AllBut [] 1 := by
  obtain ⟨m, hconstruct⟩ : ∃ m, construct someHost allGranted = .ok m := ⟨_, rfl⟩
  have hrun : run (threadStep 4) threadsInit subnetUpThenDestroy = some _ := rfl
  have horderly : Guarded (threadStep 4) Orderly threadsInit subnetUpThenDestroy :=
    guarded_of_check orderly_of_check (by decide +kernel)
  have hextracted : extracted (committed 4 subnetUpThenDestroy) = [smallFabric] := rfl
  have hclean : ∀ s ∈ extracted (committed 4 subnetUpThenDestroy), CleanSweep s := by
    intro s hs
    rw [hextracted] at hs
    obtain rfl := List.mem_singleton.mp hs
    exact cleanSweep_smallFabric
  obtain ⟨p, hp, hw, hend⟩ := lifetime_account hconstruct hrun horderly rfl hclean
  exact ⟨_, _, p, hconstruct, hrun, hp, hw, hend⟩

end Life

end Ibssa.Heap
