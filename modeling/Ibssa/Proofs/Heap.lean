import Ibssa.Core.Heap
import Ibssa.Proofs.Create
import Ibssa.Proofs.LftRuns

/-!
# What the plugin's functions do to its memory

Each function of `Core.Heap` is followed from two sides. It trades blocks: the
ones it was given for the ones it leaves, with so many lost. And it mirrors the
function of the same name that computes with the data: afterwards the maps have
the same keys, and a table lies in a block of as many bytes as the data says it
has room for. So the second model of each function cannot drift away from the
first, and what is known of the data can be used to count the blocks.

Where a function loses blocks depends on the data alone. The inserts of
`ssa_db_extract` do not look at what the map answers, and lose an item whenever
the key is there. `ssa_db_update` writes over the pointer to the current database
when that has not been filled. Nothing else loses a block.
-/

namespace Ibssa.Heap

open Lifetime Keyed ByteOrder Machine
open Lifetime.Ledger (Trades TakesIn)
open Alloc (Ptr)

theorem perm_of_count {x y : List (Block UInt64)} (h : ∀ b, x.count b = y.count b) : x.Perm y :=
  List.perm_iff_count.mpr h

/-! ## What is owned -/

def SsaDbExtract.tables (d : SsaDbExtract) : List (Block UInt64) :=
  d.pPkeyTbl.toList ++ (d.pPortTbl.toList ++ (d.pLinkTbl.toList ++ (d.pGuidToLidTbl.toList ++
    d.pNodeTbl.toList)))

def SsaDbExtract.items (d : SsaDbExtract) : List (Block UInt64) :=
  d.epGuidToLidTbl.blocks ++ (d.epNodeTbl.blocks ++ (d.epPortTbl.blocks ++ d.epLinkTbl.blocks))

/-- What a database holds, and the block it is. -/
def SsaDbExtract.blocks (d : SsaDbExtract) : List (Block UInt64) :=
  d.tables ++ (d.items ++ [d.pSsaDb])

def SsaDbLft.tables (p : SsaDbLft) : List (Block UInt64) :=
  p.pDbLftBlockTbl.toList ++ (p.pDumpLftBlockTbl.toList ++ (p.pDbLftTopTbl.toList ++
    p.pDumpLftTopTbl.toList))

def SsaDbLft.items (p : SsaDbLft) : List (Block UInt64) :=
  p.epDbLftBlockTbl.blocks ++ (p.epDbLftTopTbl.blocks ++ (p.epDumpLftBlockTbl.blocks ++
    p.epDumpLftTopTbl.blocks))

def SsaDbLft.blocks (p : SsaDbLft) : List (Block UInt64) := p.items ++ (p.tables ++ [p.pLftDb])

/-- All that can be reached from the plugin's pointers. -/
def Memory.blocks (m : Memory) : List (Block UInt64) :=
  m.pDumpDb.blocks ++ (m.pPreviousDb.blocks ++ (m.pCurrentDb.blocks ++ (m.pLftDb.blocks ++
    (m.lftRecList.map Prod.snd ++ [m.ssaDb, m.ssa]))))

/-! ## What mirrors what -/

/-- A table lies in a block with room for as many records as its data says. -/
def Lies {α : Type} (t : SsaTableId) (p : Ptr) (b : Buf α) : Prop :=
  p.map Block.size = if b.isNull then none else some (tblSize t b.cap)

structure SsaDbExtract.Mirrors (h : SsaDbExtract) (d : Ibssa.SsaDbExtract) : Prop where
  pGuidToLidTbl : Lies .guidToLid h.pGuidToLidTbl d.pGuidToLidTbl
  pNodeTbl : Lies .node h.pNodeTbl d.pNodeTbl
  pLinkTbl : Lies .link h.pLinkTbl d.pLinkTbl
  pPortTbl : Lies .port h.pPortTbl d.pPortTbl
  pPkeyTbl : Lies .pkey h.pPkeyTbl d.pPkeyTbl
  epGuidToLidTbl : h.epGuidToLidTbl.keys = d.epGuidToLidTbl.keys
  epNodeTbl : h.epNodeTbl.keys = d.epNodeTbl.keys
  epPortTbl : h.epPortTbl.keys = d.epPortTbl.keys
  epLinkTbl : h.epLinkTbl.keys = d.epLinkTbl.keys
  initialized : h.initialized = d.initialized

structure SsaDbLft.Mirrors (h : SsaDbLft) (d : Ibssa.SsaDbLft) : Prop where
  pDbLftTopTbl : Lies .lftTop h.pDbLftTopTbl d.pDbLftTopTbl
  pDbLftBlockTbl : Lies .lftBlock h.pDbLftBlockTbl d.pDbLftBlockTbl
  pDumpLftTopTbl : Lies .lftTop h.pDumpLftTopTbl d.pDumpLftTopTbl
  pDumpLftBlockTbl : Lies .lftBlock h.pDumpLftBlockTbl d.pDumpLftBlockTbl
  epDbLftBlockTbl : h.epDbLftBlockTbl.keys = d.epDbLftBlockTbl.keys
  epDbLftTopTbl : h.epDbLftTopTbl.keys = d.epDbLftTopTbl.keys
  epDumpLftBlockTbl : h.epDumpLftBlockTbl.keys = d.epDumpLftBlockTbl.keys
  epDumpLftTopTbl : h.epDumpLftTopTbl.keys = d.epDumpLftTopTbl.keys

structure Memory.Mirrors (m : Memory) (d : Ibssa.SsaDatabase) : Prop where
  pLftDb : m.pLftDb.Mirrors d.pLftDb
  pCurrentDb : m.pCurrentDb.Mirrors d.pCurrentDb
  pPreviousDb : m.pPreviousDb.Mirrors d.pPreviousDb
  pDumpDb : m.pDumpDb.Mirrors d.pDumpDb
  lftRecList : m.lftRecList.map Prod.fst = d.lftRecList

section Lies

variable {α : Type} {t : SsaTableId}

theorem Lies.write {p : Ptr} {b : Buf α} (h : Lies t p b) (i : Nat) (v : α) :
    Lies t p (b.write i v) := h

theorem lies_realloc (p : Ptr) (l : Ledger UInt64) (b : Buf α) (a : Addr) (n : Nat)
    (junk : Nat → α) : Lies t (some (l.regrow p (tblSize t n)).1) (b.realloc a n junk) := by
  rw [Lies, Buf.isNull_realloc, if_neg Bool.false_ne_true]
  rfl

/-- A table that is allocated if there is none. -/
theorem Lies.mallocIfNull {p : Ptr} {b : Buf α} (h : Lies t p b) (l : Ledger UInt64) (a : Addr)
    (n : Nat) (junk : Nat → α) :
    Lies t (mallocIfNull p (tblSize t n) l).1 (Ibssa.mallocIfNull b a n junk) := by
  have hb := h
  rw [Lies] at hb
  rw [Ibssa.mallocIfNull]
  cases p with
  | none =>
      split
      · rw [Lies, Buf.isNull_malloc, if_neg Bool.false_ne_true]
        rfl
      · next hnull =>
          rw [if_neg hnull] at hb
          cases hb
  | some q =>
      split
      · next hnull =>
          rw [if_pos hnull] at hb
          cases hb
      · exact h

theorem trades_mallocIfNull (p : Ptr) (size : UInt64) (l : Ledger UInt64) :
    Trades l (mallocIfNull p size l).2 p.toList (mallocIfNull p size l).1.toList 0 := by
  cases p with
  | none => exact Trades.get size l
  | some q => exact Trades.refl l [q]

end Lies

/-! ## `ssa_db_extract_delete` and `ssa_db_remove` -/

theorem trades_ssaDbExtractDelete (d : SsaDbExtract) (l : Ledger UInt64) :
    Trades l (ssaDbExtractDelete d l) d.blocks [] 0 := by
  simp only [SsaDbExtract.blocks, SsaDbExtract.tables, SsaDbExtract.items, List.append_assoc]
  exact .free_then (.free_then (.free_then (.free_then (.free_then (Items.drop_then
    (Items.drop_then (Items.drop_then (Items.drop_then (Trades.free (some _) _)))))))))

/-- Removing the items is deleting them early. -/
theorem trades_ssaDbRemove (d : SsaDbExtract) (l : Ledger UInt64) :
    Trades l (ssaDbRemove d l).2 d.blocks (ssaDbRemove d l).1.blocks 0 := by
  rw [ssaDbRemove]
  split
  · exact Trades.refl l _
  · have hitems : Trades l
        (d.epLinkTbl.drop (d.epPortTbl.drop (d.epNodeTbl.drop (d.epGuidToLidTbl.drop l))))
        d.items [] 0 :=
      Items.drop_then (Items.drop_then (Items.drop_then (Items.trades_drop _ _)))
    refine (hitems.frame (d.tables ++ [d.pSsaDb])).perm ?_ (List.Perm.refl _)
    exact perm_of_count fun b => by
      simp only [SsaDbExtract.blocks, List.count_append]
      omega

/-! ## The loops of `ssa_db_extract`

A loop is followed round by round, together with the loop over the data. The
running offsets count what has been taken in. -/

section Follows

variable {host : Host}

/-- The items that the loop over the nodes adds to. -/
def NodeLoop.items (st : NodeLoop) : List (Block UInt64) :=
  st.pSsa.epNodeTbl.blocks ++ (st.pLftDb.epDbLftTopTbl.blocks ++
    st.pLftDb.epDbLftBlockTbl.blocks)

/-- The loop over the nodes beside the one over the data, from `h₀` on. -/
structure NodeLoop.Follows (h₀ h : NodeLoop) (v : Ibssa.NodeLoop) : Prop where
  pSsa : h.pSsa.Mirrors v.pSsa
  pLftDb : h.pLftDb.Mirrors v.pLftDb
  switchPortsNum : h.switchPortsNum = v.switchPortsNum
  lidHo : h.lidHo = v.lidHo
  account : TakesIn h₀.ledger h.ledger h₀.items h.items
    (v.nodeOffset + (v.lftTopOffset + v.lftBlockOffset))
  ssaFrame : h.pSsa = { h₀.pSsa with epNodeTbl := h.pSsa.epNodeTbl }
  lftFrame : h.pLftDb =
    { h₀.pLftDb with
      epDbLftTopTbl := h.pLftDb.epDbLftTopTbl
      epDbLftBlockTbl := h.pLftDb.epDbLftBlockTbl }

/-- One more item, in one of the maps. -/
theorem takesIn_snoc (m : QMap) (key : UInt64) (rest : List (Block UInt64))
    {l₀ l : Ledger UInt64} {x y z : List (Block UInt64)} {k n : Nat} (h : TakesIn l₀ l x y k)
    (hy : y.Perm (m.blocks ++ rest))
    (hz : ((m.add host.epMapRec key l).1.blocks ++ rest).Perm z) (hn : n = k + 1) :
    TakesIn l₀ (m.add host.epMapRec key l).2 x z n := by
  rw [hn]
  exact h.trans ((Items.takesIn_add host.epMapRec m key l).on hy hz)

variable {h₀ h : NodeLoop} {v : Ibssa.NodeLoop}

theorem NodeLoop.Follows.addNode (hf : h₀.Follows h v) (n : OsmNode) :
    h₀.Follows (addNode host h n) (Ibssa.addNode v n) where
  pSsa :=
    { hf.pSsa with
      pNodeTbl := hf.pSsa.pNodeTbl.write _ _
      epNodeTbl := Items.keys_insert_congr _ _ _ hf.pSsa.epNodeTbl }
  pLftDb := hf.pLftDb
  switchPortsNum := by simp only [Heap.addNode, Ibssa.addNode, hf.switchPortsNum]
  lidHo := hf.lidHo
  account := by
    refine takesIn_snoc _ _ _ hf.account (List.Perm.refl _) (List.Perm.refl _) ?_
    simp only [Ibssa.addNode]
    omega
  ssaFrame := by
    rw [Heap.addNode, hf.ssaFrame]
  lftFrame := hf.lftFrame

theorem NodeLoop.Follows.addLftTop (hf : h₀.Follows h v) (n : OsmNode) :
    h₀.Follows (addLftTop host h n) (Ibssa.addLftTop v n) where
  pSsa := hf.pSsa
  pLftDb :=
    { hf.pLftDb with
      pDbLftTopTbl := hf.pLftDb.pDbLftTopTbl.write _ _
      epDbLftTopTbl := Items.keys_insert_congr _ _ _ hf.pLftDb.epDbLftTopTbl }
  switchPortsNum := hf.switchPortsNum
  lidHo := rfl
  account := by
    refine takesIn_snoc h.pLftDb.epDbLftTopTbl (ntohs (n.baseLid 0)).toUInt64
      (h.pSsa.epNodeTbl.blocks ++ h.pLftDb.epDbLftBlockTbl.blocks) hf.account
      (perm_of_count fun b => ?_) (perm_of_count fun b => ?_) ?_
    · simp only [NodeLoop.items, List.count_append]
      omega
    · simp only [NodeLoop.items, Heap.addLftTop, List.count_append]
      omega
    · simp only [Ibssa.addLftTop]
      omega
  ssaFrame := hf.ssaFrame
  lftFrame := by
    rw [Heap.addLftTop, hf.lftFrame]

theorem NodeLoop.Follows.addLftBlock (hf : h₀.Follows h v) (pSw : OsmSwitch) (i : Nat) :
    h₀.Follows (addLftBlock host h i) (Ibssa.addLftBlock pSw v i) where
  pSsa := hf.pSsa
  pLftDb :=
    { hf.pLftDb with
      pDbLftBlockTbl := hf.pLftDb.pDbLftBlockTbl.write _ _
      epDbLftBlockTbl := by
        rw [Heap.addLftBlock, Ibssa.addLftBlock, hf.lidHo]
        exact Items.keys_insert_congr _ _ _ hf.pLftDb.epDbLftBlockTbl }
  switchPortsNum := hf.switchPortsNum
  lidHo := hf.lidHo
  account := by
    refine takesIn_snoc h.pLftDb.epDbLftBlockTbl (epRecGenKey h.lidHo (UInt16.ofNat i))
      (h.pSsa.epNodeTbl.blocks ++ h.pLftDb.epDbLftTopTbl.blocks) hf.account
      (perm_of_count fun b => ?_) (perm_of_count fun b => ?_) ?_
    · simp only [NodeLoop.items, List.count_append]
      omega
    · simp only [NodeLoop.items, Heap.addLftBlock, List.count_append]
      omega
    · simp only [Ibssa.addLftBlock]
      omega
  ssaFrame := hf.ssaFrame
  lftFrame := by
    rw [Heap.addLftBlock, hf.lftFrame]

theorem NodeLoop.Follows.addLft (hf : h₀.Follows h v) (n : OsmNode) :
    h₀.Follows (addLft host h n) (Ibssa.addLft v n) := by
  rw [Heap.addLft, Ibssa.addLft]
  exact List.foldl_rel (hf.addLftTop n) fun i _ _ _ hr => hr.addLftBlock n.sw i

theorem NodeLoop.Follows.body (hf : h₀.Follows h v) (firstTimeSubnetUp : Bool) (n : OsmNode) :
    h₀.Follows (nodeLoopBody host firstTimeSubnetUp h n)
      (Ibssa.nodeLoopBody firstTimeSubnetUp v n) := by
  rw [nodeLoopBody, Ibssa.nodeLoopBody]
  cases firstTimeSubnetUp with
  | false => exact hf.addNode n
  | true =>
      cases hsw : n.isSwitch with
      | false => exact hf.addNode n
      | true => exact (hf.addNode n).addLft n

theorem NodeLoop.Follows.loop (hf : h₀.Follows h v) (firstTimeSubnetUp : Bool)
    (ns : List OsmNode) :
    h₀.Follows (ns.foldl (nodeLoopBody host firstTimeSubnetUp) h)
      (ns.foldl (Ibssa.nodeLoopBody firstTimeSubnetUp) v) :=
  List.foldl_rel hf fun n _ _ _ hr => hr.body firstTimeSubnetUp n

/-- The items that the loop over the end ports adds to. -/
def PortLoop.items (st : PortLoop) : List (Block UInt64) :=
  st.pSsa.epGuidToLidTbl.blocks ++ (st.pSsa.epPortTbl.blocks ++ st.pSsa.epLinkTbl.blocks)

/-- The loop over the end ports beside the one over the data. -/
structure PortLoop.Follows (h₀ h : PortLoop) (v : Ibssa.PortLoop) : Prop where
  pSsa : h.pSsa.Mirrors v.pSsa
  lidHo : h.lidHo = v.lidHo
  account : TakesIn h₀.ledger h.ledger h₀.items h.items
    (v.guidToLidOffset + (v.portOffset + v.linkOffset))
  frame : h.pSsa =
    { h₀.pSsa with
      epGuidToLidTbl := h.pSsa.epGuidToLidTbl
      epPortTbl := h.pSsa.epPortTbl
      epLinkTbl := h.pSsa.epLinkTbl }

variable {g₀ g : PortLoop} {w : Ibssa.PortLoop}

theorem PortLoop.Follows.addGuidToLid (hf : g₀.Follows g w) (s : OsmSubn) (p : OsmPort) :
    g₀.Follows (addGuidToLid host s g p) (Ibssa.addGuidToLid s w p) where
  pSsa :=
    { hf.pSsa with
      pGuidToLidTbl := hf.pSsa.pGuidToLidTbl.write _ _
      epGuidToLidTbl := Items.keys_insert_congr _ _ _ hf.pSsa.epGuidToLidTbl }
  lidHo := hf.lidHo
  account := by
    refine takesIn_snoc _ _ _ hf.account (List.Perm.refl _) (List.Perm.refl _) ?_
    simp only [Ibssa.addGuidToLid]
    omega
  frame := by
    rw [Heap.addGuidToLid, hf.frame]

theorem PortLoop.Follows.addPort (hf : g₀.Follows g w) (key : UInt64) (pRec : EpPortTblRec) :
    g₀.Follows (addPort host g key) (Ibssa.addPort w key pRec) where
  pSsa :=
    { hf.pSsa with
      pPortTbl := hf.pSsa.pPortTbl.write _ _
      epPortTbl := Items.keys_insert_congr _ _ _ hf.pSsa.epPortTbl }
  lidHo := hf.lidHo
  account := by
    refine takesIn_snoc g.pSsa.epPortTbl key
      (g.pSsa.epGuidToLidTbl.blocks ++ g.pSsa.epLinkTbl.blocks) hf.account
      (perm_of_count fun b => ?_) (perm_of_count fun b => ?_) ?_
    · simp only [PortLoop.items, List.count_append]
      omega
    · simp only [PortLoop.items, Heap.addPort, List.count_append]
      omega
    · simp only [Ibssa.addPort]
      omega
  frame := by
    rw [Heap.addPort, hf.frame]

theorem PortLoop.Follows.addLink (hf : g₀.Follows g w) (key : UInt64) (pRec : EpLinkTblRec) :
    g₀.Follows (addLink host g key) (Ibssa.addLink w key pRec) where
  pSsa :=
    { hf.pSsa with
      pLinkTbl := hf.pSsa.pLinkTbl.write _ _
      epLinkTbl := Items.keys_insert_congr _ _ _ hf.pSsa.epLinkTbl }
  lidHo := hf.lidHo
  account := by
    refine takesIn_snoc g.pSsa.epLinkTbl key
      (g.pSsa.epGuidToLidTbl.blocks ++ g.pSsa.epPortTbl.blocks) hf.account
      (perm_of_count fun b => ?_) (perm_of_count fun b => ?_) ?_
    · simp only [PortLoop.items, List.count_append]
      omega
    · simp only [PortLoop.items, Heap.addLink, List.count_append]
      omega
    · simp only [Ibssa.addLink]
      omega
  frame := by
    rw [Heap.addLink, hf.frame]

/-- Copying pkeys allocates nothing. -/
theorem PortLoop.Follows.addPkeys (hf : g₀.Follows g w) (pkeys : List UInt16) :
    g₀.Follows g (pkeys.foldl Ibssa.addPkey w) := by
  induction pkeys generalizing w with
  | nil => exact hf
  | cons pkey rest ih =>
      refine ih ⟨?_, hf.lidHo, hf.account, hf.frame⟩
      exact { hf.pSsa with pPkeyTbl := hf.pSsa.pPkeyTbl.write _ _ }

theorem PortLoop.Follows.nextPkeyBase (hf : g₀.Follows g w) :
    g₀.Follows g (Ibssa.nextPkeyBase w) := ⟨hf.pSsa, hf.lidHo, hf.account, hf.frame⟩

theorem PortLoop.Follows.setLid (hf : g₀.Follows g w) (lidHo : UInt16) :
    g₀.Follows { g with lidHo := lidHo } { w with lidHo := lidHo } :=
  ⟨hf.pSsa, rfl, hf.account, hf.frame⟩

/-- The link of a physical port, if it has a remote peer. -/
theorem PortLoop.Follows.remote (hf : g₀.Follows g w) (key : UInt64) (remote : Option PhyspRef)
    (pRec : PhyspRef → EpLinkTblRec) :
    g₀.Follows
      (match remote with
      | none => g
      | some _ => Heap.addLink host g key)
      (match remote with
      | none => w
      | some pRemote => Ibssa.addLink w key (pRec pRemote)) := by
  cases remote with
  | none => exact hf
  | some pRemote => exact hf.addLink key (pRec pRemote)

theorem PortLoop.Follows.addSwitchPhysp (hf : g₀.Follows g w) (s : OsmSubn) (p : OsmPort)
    (i : Nat) :
    g₀.Follows (addSwitchPhysp host s p g i) (Ibssa.addSwitchPhysp s p w i) := by
  rw [Heap.addSwitchPhysp, Ibssa.addSwitchPhysp]
  dsimp only
  by_cases hvalid : (s.physp ⟨p.pPhysp.node, i⟩).valid
  · rw [hvalid, Bool.not_true, if_neg Bool.false_ne_true, if_neg Bool.false_ne_true]
    by_cases hi : i = 0
    · rw [if_pos hi, if_pos hi, if_pos hi]
      have hlid := (hf.setLid (ntohs (s.physp ⟨p.pPhysp.node, i⟩).baseLid)).addPkeys
        (s.physp p.pPhysp).pkeys
      rw [← hlid.lidHo]
      exact (hlid.addPort _ _).remote _ _ _
    · rw [if_neg hi, if_neg hi, if_neg hi, ← hf.lidHo]
      exact (hf.addPort _ _).remote _ _ _
  · rw [Bool.not_eq_true] at hvalid
    rw [hvalid]
    exact hf

theorem PortLoop.Follows.body (hf : g₀.Follows g w) (s : OsmSubn) (p : OsmPort) :
    g₀.Follows (portLoopBody host s g p) (Ibssa.portLoopBody s w p) := by
  have hguid : g₀.Follows (Heap.addGuidToLid host s g p) (Ibssa.addGuidToLid s w p) :=
    hf.addGuidToLid s p
  rw [portLoopBody, Ibssa.portLoopBody]
  dsimp only
  split
  · exact (List.foldl_rel hguid fun i _ _ _ hr => hr.addSwitchPhysp s p i).nextPkeyBase
  · let key := epRecGenKey (ntohs (s.physp p.pPhysp).baseLid) (s.physp p.pPhysp).portNum.toUInt16
    have hport : ∀ pRec, g₀.Follows (Heap.addPort host (Heap.addGuidToLid host s g p) key)
        (Ibssa.addPort ((s.physp p.pPhysp).pkeys.foldl Ibssa.addPkey
          (Ibssa.addGuidToLid s w p)) key pRec) :=
      (hguid.addPkeys (s.physp p.pPhysp).pkeys).addPort key
    cases (s.physp p.pPhysp).remote with
    | none => exact hport _
    | some pRemote => exact ((hport _).addLink _ _).nextPkeyBase

theorem PortLoop.Follows.loop (hf : g₀.Follows g w) (s : OsmSubn) (ps : List OsmPort) :
    g₀.Follows (ps.foldl (portLoopBody host s) g) (ps.foldl (Ibssa.portLoopBody s) w) :=
  List.foldl_rel hf fun p _ _ _ hr => hr.body s p

end Follows

/-! ## `ssa_db_extract` -/

def NodeScratch.blocks (a : NodeScratch) : List (Block UInt64) :=
  [a.pLftBlockTblRec] ++ ([a.pLftTopTblRec] ++ [a.pNodeTblRec])

def PortScratch.blocks (b : PortScratch) : List (Block UInt64) :=
  [b.pPortTblRec] ++ ([b.pLinkTblRec] ++ [b.pGuidToLidTblRec])

theorem trades_freeScratch (a : NodeScratch) (b : PortScratch) (l : Ledger UInt64) :
    Trades l (freeScratch a b l) (b.blocks ++ a.blocks) [] 0 := by
  simp only [NodeScratch.blocks, PortScratch.blocks, List.append_assoc]
  exact .free_then (p := some _) (.free_then (p := some _) (.free_then (p := some _)
    (.free_then (p := some _) (.free_then (p := some _) (Trades.free (some _) _)))))

section Extract

variable (host : Host) (mem : Mem) (firstTimeSubnetUp : Bool) (s : OsmSubn) (m : Memory)

theorem trades_nodeLoopInit :
    Trades m.ledger (nodeLoopInit s m).1.ledger (m.pDumpDb.blocks ++ m.pLftDb.blocks)
      ((nodeLoopInit s m).1.pSsa.blocks ++ ((nodeLoopInit s m).1.pLftDb.blocks ++
        (nodeLoopInit s m).2.blocks)) 0 := by
  rw [nodeLoopInit]
  dsimp only
  refine (((trades_mallocIfNull m.pDumpDb.pNodeTbl _ m.ledger).par
    ((Trades.get _ _).par ((trades_mallocIfNull m.pLftDb.pDbLftTopTbl _ _).par
      ((Trades.get _ _).par ((trades_mallocIfNull m.pLftDb.pDbLftBlockTbl _ _).par
        (Trades.get _ _)))))).frame
    (m.pDumpDb.pPkeyTbl.toList ++ (m.pDumpDb.pPortTbl.toList ++ (m.pDumpDb.pLinkTbl.toList ++
      (m.pDumpDb.pGuidToLidTbl.toList ++ (m.pDumpDb.items ++ ([m.pDumpDb.pSsaDb] ++
        (m.pLftDb.items ++ (m.pLftDb.pDumpLftBlockTbl.toList ++
          (m.pLftDb.pDumpLftTopTbl.toList ++ [m.pLftDb.pLftDb])))))))))).perm
    (perm_of_count fun b => ?_) (perm_of_count fun b => ?_)
  · simp only [SsaDbExtract.blocks, SsaDbExtract.tables, SsaDbLft.blocks, SsaDbLft.tables,
      List.count_append, List.count_nil]
    omega
  · simp only [SsaDbExtract.blocks, SsaDbExtract.tables, SsaDbExtract.items, SsaDbLft.blocks,
      SsaDbLft.tables, SsaDbLft.items, NodeScratch.blocks, List.count_append]
    omega

theorem trades_portLoopInit (st : NodeLoop) :
    Trades st.ledger (portLoopInit s st).1.ledger st.pSsa.blocks
      ((portLoopInit s st).1.pSsa.blocks ++ (portLoopInit s st).2.blocks) 0 := by
  rw [portLoopInit]
  dsimp only
  refine (((trades_mallocIfNull st.pSsa.pGuidToLidTbl _ st.ledger).par
    ((Trades.get _ _).par ((trades_mallocIfNull st.pSsa.pLinkTbl _ _).par
      ((Trades.get _ _).par ((trades_mallocIfNull st.pSsa.pPortTbl _ _).par
        ((Trades.get _ _).par (trades_mallocIfNull st.pSsa.pPkeyTbl _ _))))))).frame
    (st.pSsa.pNodeTbl.toList ++ (st.pSsa.items ++ [st.pSsa.pSsaDb]))).perm
    (perm_of_count fun b => ?_) (perm_of_count fun b => ?_)
  · simp only [SsaDbExtract.blocks, SsaDbExtract.tables, List.count_append, List.count_nil]
    omega
  · simp only [SsaDbExtract.blocks, SsaDbExtract.tables, SsaDbExtract.items, PortScratch.blocks,
      List.count_append]
    omega

variable {m} {ssaDb : Ibssa.SsaDatabase}

theorem follows_nodeLoopInit (hm : m.Mirrors ssaDb) :
    (nodeLoopInit s m).1.Follows (nodeLoopInit s m).1 (Ibssa.nodeLoopInit mem ssaDb s) where
  pSsa :=
    { hm.pDumpDb with
      pNodeTbl := hm.pDumpDb.pNodeTbl.mallocIfNull _ _ _ _ }
  pLftDb :=
    { hm.pLftDb with
      pDbLftTopTbl := hm.pLftDb.pDbLftTopTbl.mallocIfNull _ _ _ _
      pDbLftBlockTbl := hm.pLftDb.pDbLftBlockTbl.mallocIfNull _ _ _ _ }
  switchPortsNum := rfl
  lidHo := rfl
  account := TakesIn.refl _ _
  ssaFrame := rfl
  lftFrame := rfl

theorem follows_portLoopInit {h : NodeLoop} {v : Ibssa.NodeLoop} (hssa : h.pSsa.Mirrors v.pSsa)
    (hnum : h.switchPortsNum = v.switchPortsNum) (hlid : h.lidHo = v.lidHo) :
    (portLoopInit s h).1.Follows (portLoopInit s h).1 (Ibssa.portLoopInit mem s v) where
  pSsa :=
    { hssa with
      pGuidToLidTbl := hssa.pGuidToLidTbl.mallocIfNull _ _ _ _
      pLinkTbl := by
        rw [portLoopInit, hnum]
        exact hssa.pLinkTbl.mallocIfNull _ _ _ _
      pPortTbl := by
        rw [portLoopInit, hnum]
        exact hssa.pPortTbl.mallocIfNull _ _ _ _
      pPkeyTbl := hssa.pPkeyTbl.mallocIfNull _ _ _ _ }
  lidHo := hlid
  account := TakesIn.refl _ _
  frame := rfl

/-- The loop over the nodes, as a trade of all that the two databases hold. -/
theorem NodeLoop.Follows.trades {h₀ h : NodeLoop} {v : Ibssa.NodeLoop} (hf : h₀.Follows h v) :
    ∃ n, Trades h₀.ledger h.ledger (h₀.pSsa.blocks ++ h₀.pLftDb.blocks)
        (h.pSsa.blocks ++ h.pLftDb.blocks) n ∧
      n + h.items.length
        = h₀.items.length + (v.nodeOffset + (v.lftTopOffset + v.lftBlockOffset)) := by
  obtain ⟨n, hn, hcount⟩ := hf.account
  refine ⟨n, ?_, hcount⟩
  rw [hf.ssaFrame, hf.lftFrame]
  refine (hn.frame (h₀.pSsa.tables ++ (h₀.pSsa.epGuidToLidTbl.blocks ++
    (h₀.pSsa.epPortTbl.blocks ++ (h₀.pSsa.epLinkTbl.blocks ++ ([h₀.pSsa.pSsaDb] ++
      (h₀.pLftDb.tables ++ (h₀.pLftDb.epDumpLftBlockTbl.blocks ++
        (h₀.pLftDb.epDumpLftTopTbl.blocks ++ [h₀.pLftDb.pLftDb]))))))))).perm
    (perm_of_count fun b => ?_) (perm_of_count fun b => ?_)
  · simp only [NodeLoop.items, SsaDbExtract.blocks, SsaDbExtract.items, SsaDbLft.blocks,
      SsaDbLft.items, List.count_append]
    omega
  · simp only [NodeLoop.items, SsaDbExtract.blocks, SsaDbExtract.items, SsaDbExtract.tables,
      SsaDbLft.blocks, SsaDbLft.items, SsaDbLft.tables, List.count_append]
    omega

theorem PortLoop.Follows.trades {h₀ h : PortLoop} {v : Ibssa.PortLoop} (hf : h₀.Follows h v) :
    ∃ n, Trades h₀.ledger h.ledger h₀.pSsa.blocks h.pSsa.blocks n ∧
      n + h.items.length
        = h₀.items.length + (v.guidToLidOffset + (v.portOffset + v.linkOffset)) := by
  obtain ⟨n, hn, hcount⟩ := hf.account
  refine ⟨n, ?_, hcount⟩
  rw [hf.frame]
  refine (hn.frame (h₀.pSsa.tables ++ (h₀.pSsa.epNodeTbl.blocks ++ [h₀.pSsa.pSsaDb]))).perm
    (perm_of_count fun b => ?_) (perm_of_count fun b => ?_)
  · simp only [PortLoop.items, SsaDbExtract.blocks, SsaDbExtract.items, List.count_append]
    omega
  · simp only [PortLoop.items, SsaDbExtract.blocks, SsaDbExtract.items, SsaDbExtract.tables,
      List.count_append]
    omega

/-- How many records an extraction has written into the six tables with a map. -/
def written (mem : Mem) (firstTimeSubnetUp : Bool) (ssaDb : Ibssa.SsaDatabase) (s : OsmSubn) :
    Nat :=
  let nodes := Ibssa.nodeLoop mem firstTimeSubnetUp ssaDb s
  let ports := Ibssa.portLoop mem s nodes
  nodes.nodeOffset + (nodes.lftTopOffset + nodes.lftBlockOffset) +
    (ports.guidToLidOffset + (ports.portOffset + ports.linkOffset))

/-- How many keys these maps have. -/
def mapped (ssaDb : Ibssa.SsaDatabase) : Nat :=
  ssaDb.pDumpDb.epNodeTbl.count + (ssaDb.pLftDb.epDbLftTopTbl.count +
    ssaDb.pLftDb.epDbLftBlockTbl.count) + (ssaDb.pDumpDb.epGuidToLidTbl.count +
      (ssaDb.pDumpDb.epPortTbl.count + ssaDb.pDumpDb.epLinkTbl.count))

theorem NodeLoop.Follows.length_items {h₀ h : NodeLoop} {v : Ibssa.NodeLoop}
    (hf : h₀.Follows h v) :
    h.items.length = v.pSsa.epNodeTbl.count + (v.pLftDb.epDbLftTopTbl.count +
      v.pLftDb.epDbLftBlockTbl.count) := by
  rw [NodeLoop.items, List.length_append, List.length_append, Items.length_blocks,
    Items.length_blocks, Items.length_blocks, Items.count_of_keys_eq hf.pSsa.epNodeTbl,
    Items.count_of_keys_eq hf.pLftDb.epDbLftTopTbl,
    Items.count_of_keys_eq hf.pLftDb.epDbLftBlockTbl]

theorem PortLoop.Follows.length_items {h₀ h : PortLoop} {v : Ibssa.PortLoop}
    (hf : h₀.Follows h v) :
    h.items.length = v.pSsa.epGuidToLidTbl.count + (v.pSsa.epPortTbl.count +
      v.pSsa.epLinkTbl.count) := by
  rw [PortLoop.items, List.length_append, List.length_append, Items.length_blocks,
    Items.length_blocks, Items.length_blocks, Items.count_of_keys_eq hf.pSsa.epGuidToLidTbl,
    Items.count_of_keys_eq hf.pSsa.epPortTbl, Items.count_of_keys_eq hf.pSsa.epLinkTbl]

/-- The loop over the nodes leaves the maps of the other loop alone. -/
theorem NodeLoop.Follows.untouched (hm : m.Mirrors ssaDb) {h : NodeLoop} {v : Ibssa.NodeLoop}
    (hf : (nodeLoopInit s m).1.Follows h v) :
    v.pSsa.epGuidToLidTbl.count = ssaDb.pDumpDb.epGuidToLidTbl.count ∧
      v.pSsa.epPortTbl.count = ssaDb.pDumpDb.epPortTbl.count ∧
      v.pSsa.epLinkTbl.count = ssaDb.pDumpDb.epLinkTbl.count := by
  have hguid : h.pSsa.epGuidToLidTbl = m.pDumpDb.epGuidToLidTbl := by
    rw [hf.ssaFrame]
    rfl
  have hport : h.pSsa.epPortTbl = m.pDumpDb.epPortTbl := by
    rw [hf.ssaFrame]
    rfl
  have hlink : h.pSsa.epLinkTbl = m.pDumpDb.epLinkTbl := by
    rw [hf.ssaFrame]
    rfl
  rw [← Items.count_of_keys_eq hf.pSsa.epGuidToLidTbl, ← Items.count_of_keys_eq hf.pSsa.epPortTbl,
    ← Items.count_of_keys_eq hf.pSsa.epLinkTbl, hguid, hport, hlink]
  exact ⟨Items.count_of_keys_eq hm.pDumpDb.epGuidToLidTbl,
    Items.count_of_keys_eq hm.pDumpDb.epPortTbl, Items.count_of_keys_eq hm.pDumpDb.epLinkTbl⟩

/-- And the loop over the end ports leaves the nodes alone. -/
theorem PortLoop.Follows.untouched {h : NodeLoop} {g : PortLoop} {v : Ibssa.NodeLoop}
    {w : Ibssa.PortLoop} (hssa : h.pSsa.Mirrors v.pSsa)
    (hf : (portLoopInit s h).1.Follows g w) :
    w.pSsa.epNodeTbl.count = v.pSsa.epNodeTbl.count := by
  have hnode : g.pSsa.epNodeTbl = h.pSsa.epNodeTbl := by
    rw [hf.frame]
    rfl
  rw [← Items.count_of_keys_eq hf.pSsa.epNodeTbl, hnode]
  exact Items.count_of_keys_eq hssa.epNodeTbl

/-- The stages of an extraction one behind the other. The scratch records `a` and `b` of
the two loops are held until both are through. -/
theorem trades_stages {l l₁ l₂ l₃ l₄ l₅ : Ledger UInt64} {n₁ n₂ : Nat}
    {dump lft ssa₁ lft₁ ssa₂ lft₂ ssa₃ ssa₄ a b : List (Block UInt64)}
    (hinit : Trades l l₁ (dump ++ lft) (ssa₁ ++ (lft₁ ++ a)) 0)
    (hnodes : Trades l₁ l₂ (ssa₁ ++ lft₁) (ssa₂ ++ lft₂) n₁)
    (hinit' : Trades l₂ l₃ ssa₂ (ssa₃ ++ b) 0) (hports : Trades l₃ l₄ ssa₃ ssa₄ n₂)
    (hfree : Trades l₄ l₅ (b ++ a) [] 0) :
    Trades l l₅ (dump ++ lft) (ssa₄ ++ lft₂) (n₁ + n₂) := by
  have h₁ : Trades l l₂ (dump ++ lft) (ssa₂ ++ (lft₂ ++ a)) n₁ := by
    rw [← List.append_assoc] at hinit ⊢
    have hall := hinit.trans (hnodes.frame a)
    rwa [Nat.zero_add] at hall
  have h₂ : Trades l₂ l₄ (ssa₂ ++ (lft₂ ++ a)) (ssa₄ ++ (b ++ (lft₂ ++ a))) n₂ := by
    have hall := (hinit'.frame (lft₂ ++ a)).trans
      ((hports.frame (b ++ (lft₂ ++ a))).perm (List.Perm.of_eq (List.append_assoc _ _ _))
        (List.Perm.refl _))
    rwa [Nat.zero_add] at hall
  have h₃ : Trades l₄ l₅ (ssa₄ ++ (b ++ (lft₂ ++ a))) (ssa₄ ++ lft₂) 0 :=
    (hfree.frame (ssa₄ ++ lft₂)).perm
      (perm_of_count fun b => by
        simp only [List.count_append]
        omega)
      (List.Perm.refl _)
  exact (h₁.trans h₂).trans h₃

/-- `ssa_db_extract` gives back its scratch records, and loses an item for every
record that it wrote under a key that was there. -/
theorem ssaDbExtract_spec (hm : m.Mirrors ssaDb) :
    (ssaDbExtract host firstTimeSubnetUp s m).Mirrors
        (Ibssa.ssaDbExtract mem firstTimeSubnetUp ssaDb s) ∧
      ∃ n, Trades m.ledger (ssaDbExtract host firstTimeSubnetUp s m).ledger m.blocks
          (ssaDbExtract host firstTimeSubnetUp s m).blocks n ∧
        n + mapped (Ibssa.ssaDbExtract mem firstTimeSubnetUp ssaDb s)
          = mapped ssaDb + written mem firstTimeSubnetUp ssaDb s := by
  have hstart := follows_nodeLoopInit mem s hm
  have hnodes : (nodeLoopInit s m).1.Follows
      (nodeLoop host firstTimeSubnetUp s (nodeLoopInit s m).1)
      (Ibssa.nodeLoop mem firstTimeSubnetUp ssaDb s) := hstart.loop firstTimeSubnetUp s.nodes
  have hstart' := follows_portLoopInit mem s hnodes.pSsa hnodes.switchPortsNum hnodes.lidHo
  have hports : (portLoopInit s _).1.Follows (portLoop host s (portLoopInit s _).1)
      (Ibssa.portLoop mem s _) := hstart'.loop s s.ports
  obtain ⟨n₁, ht₁, hn₁⟩ := hnodes.trades
  obtain ⟨n₂, ht₂, hn₂⟩ := hports.trades
  refine ⟨⟨hnodes.pLftDb, hm.pCurrentDb, hm.pPreviousDb, ?_, hm.lftRecList⟩, n₁ + n₂, ?_, ?_⟩
  · exact { hports.pSsa with initialized := rfl }
  · refine ((trades_stages (trades_nodeLoopInit s m) ht₁ (trades_portLoopInit s _) ht₂
      (trades_freeScratch _ _ _)).frame (m.pPreviousDb.blocks ++ (m.pCurrentDb.blocks ++
        (m.lftRecList.map Prod.snd ++ [m.ssaDb, m.ssa])))).perm
      (perm_of_count fun b => ?_) (perm_of_count fun b => ?_)
    · simp only [Memory.blocks, List.count_append]
      omega
    · simp only [Memory.blocks, ssaDbExtract, SsaDbExtract.blocks, SsaDbExtract.tables,
        SsaDbExtract.items, List.count_append]
      omega
  · obtain ⟨hguid, hport, hlink⟩ := hnodes.untouched s hm
    have hnode := hports.untouched s hnodes.pSsa
    -- neither start writes an item, so the counts are those the loops were handed
    rw [hnodes.length_items, hstart.length_items] at hn₁
    rw [hports.length_items, hstart'.length_items] at hn₂
    simp only [Ibssa.nodeLoopInit] at hn₁
    simp only [Ibssa.portLoopInit] at hn₂
    simp only [mapped, written, Ibssa.ssaDbExtract]
    omega

end Extract

/-! ## `report` and `ssa_db_lft_handle` -/

section Changes

variable (host : Host) {m : Memory} {ssaDb : Ibssa.SsaDatabase}

theorem reportLftChange_spec (hm : m.Mirrors ssaDb) (pLftChange : Option OsmEpiLftChangeEvent) :
    (reportLftChange host pLftChange m).Mirrors (Ibssa.reportLftChange ssaDb pLftChange) ∧
      Trades m.ledger (reportLftChange host pLftChange m).ledger m.blocks
        (reportLftChange host pLftChange m).blocks 0 := by
  cases pLftChange with
  | none => exact ⟨hm, Trades.refl _ _⟩
  | some e =>
      rw [reportLftChange, Ibssa.reportLftChange]
      dsimp only
      cases e.pSw with
      | none => exact ⟨hm, Trades.refl _ _⟩
      | some pSw =>
          refine ⟨{ hm with lftRecList := ?_ }, ?_⟩
          · rw [List.map_append, hm.lftRecList]
            rfl
          · refine ((Trades.get _ m.ledger).frame m.blocks).perm (List.Perm.refl _)
              (perm_of_count fun b => ?_)
            simp only [Memory.blocks, List.map_append, List.map_cons, List.map_nil,
              List.count_append]
            omega

/-- Storing a change costs the room it needs and nothing else. -/
theorem trades_dumpChange (t : SsaTableId) (map : QMap) (tbl : Ptr) (key : UInt64)
    (l : Ledger UInt64) :
    Trades l (dumpChange host t map tbl key l).2 (map.blocks ++ tbl.toList)
      ((dumpChange host t map tbl key l).1.1.blocks ++
        (dumpChange host t map tbl key l).1.2.toList) 0 := by
  rw [dumpChange]
  dsimp only
  have hrec := Trades.get (tblSize t 1) l
  generalize l.get (tblSize t 1) = pRec at hrec ⊢
  -- the record is owned until it is freed at the end
  have hend : ∀ {q : Ptr} {l' : Ledger UInt64}, Trades pRec.2 l' tbl.toList q.toList 0 →
      Trades l ((map.addOrFree host.epMapRec key l').2.free (some pRec.1))
        (map.blocks ++ tbl.toList)
        ((map.addOrFree host.epMapRec key l').1.blocks ++ q.toList) 0 := by
    intro q l' hroom
    have hitem := Items.trades_addOrFree host.epMapRec map key l'
    have hfree := (Trades.free (some pRec.1) (map.addOrFree host.epMapRec key l').2).frame
      ((map.addOrFree host.epMapRec key l').1.blocks ++ q.toList)
    have hall := hrec.par (hroom.par hitem)
    refine (hall.perm (perm_of_count fun b => ?_) (perm_of_count fun b => ?_)).trans hfree
    · simp only [List.count_append, List.count_nil]
      omega
    · simp only [List.count_append, Option.toList_some]
      omega
  split
  · exact hend (Trades.regrow tbl _ pRec.2)
  · exact hend (Trades.refl _ _)

theorem dumpChange_mirrors {α : Type} {t : SsaTableId} {map : QMap} {tbl : Ptr} {vmap : EpMap}
    {vtbl : Buf α} (hkeys : map.keys = vmap.keys) (hlies : Lies t tbl vtbl) (key : UInt64)
    (l : Ledger UInt64) (a : Addr) (junk : Nat → α) (pRec : α) :
    (dumpChange host t map tbl key l).1.1.keys
        = (Ibssa.dumpChange a junk vmap vtbl key pRec).1.keys ∧
      Lies t (dumpChange host t map tbl key l).1.2
        (Ibssa.dumpChange a junk vmap vtbl key pRec).2 := by
  have hcount := Items.count_of_keys_eq hkeys
  have hinsert : ∀ l', (map.addOrFree host.epMapRec key l').1
      = map.insert key (l'.get host.epMapRec).1 := by
    intro l'
    rw [Items.addOrFree]
    split <;> rfl
  rw [dumpChange, Ibssa.dumpChange]
  dsimp only
  rw [hinsert, hcount]
  refine ⟨Items.keys_insert_congr key _ _ hkeys, ?_⟩
  by_cases hfull : vmap.count % ssaTableBlockSize = 0
  · rw [if_pos hfull, if_pos hfull]
    exact (lies_realloc tbl _ vtbl a _ junk).write _ _
  · rw [if_neg hfull, if_neg hfull]
    exact hlies.write _ _

theorem lftHandleChange_spec {p : SsaDbLft} {d : Ibssa.SsaDbLft} (hp : p.Mirrors d) (mem : Mem)
    (l : Ledger UInt64) (c : SsaDbLftChangeRec × Block UInt64) :
    (lftHandleChange host (p, l) c).1.Mirrors (Ibssa.lftHandleChange mem d c.1) ∧
      Trades l (lftHandleChange host (p, l) c).2 (p.blocks ++ [c.2])
        (lftHandleChange host (p, l) c).1.blocks 0 := by
  rw [lftHandleChange, Ibssa.lftHandleChange]
  cases c.1.flags with
  | block =>
      dsimp only
      obtain ⟨hkeys, hlies⟩ := dumpChange_mirrors host hp.epDumpLftBlockTbl hp.pDumpLftBlockTbl
        (lftChangeBlockKey c.1) l mem.addr mem.lftBlock (lftChangeBlockRec c.1)
      refine ⟨{ hp with epDumpLftBlockTbl := hkeys, pDumpLftBlockTbl := hlies }, ?_⟩
      have hdump := trades_dumpChange host .lftBlock p.epDumpLftBlockTbl p.pDumpLftBlockTbl
        (lftChangeBlockKey c.1) l
      generalize dumpChange host .lftBlock p.epDumpLftBlockTbl p.pDumpLftBlockTbl
        (lftChangeBlockKey c.1) l = r at hdump ⊢
      refine ((hdump.par (Trades.free (some c.2) r.2)).frame (p.epDbLftBlockTbl.blocks ++
        (p.epDbLftTopTbl.blocks ++ (p.epDumpLftTopTbl.blocks ++ (p.pDbLftBlockTbl.toList ++
          (p.pDbLftTopTbl.toList ++ (p.pDumpLftTopTbl.toList ++ [p.pLftDb]))))))).perm
        (perm_of_count fun b => ?_) (perm_of_count fun b => ?_)
      · simp only [SsaDbLft.blocks, SsaDbLft.items, SsaDbLft.tables, List.count_append,
          Option.toList_some]
        omega
      · simp only [SsaDbLft.blocks, SsaDbLft.items, SsaDbLft.tables, List.count_append,
          List.count_nil]
        omega
  | lftTop =>
      dsimp only
      obtain ⟨hkeys, hlies⟩ := dumpChange_mirrors host hp.epDumpLftTopTbl hp.pDumpLftTopTbl
        (lftChangeTopKey c.1) l mem.addr mem.lftTop (lftChangeTopRec c.1)
      refine ⟨{ hp with epDumpLftTopTbl := hkeys, pDumpLftTopTbl := hlies }, ?_⟩
      have hdump := trades_dumpChange host .lftTop p.epDumpLftTopTbl p.pDumpLftTopTbl
        (lftChangeTopKey c.1) l
      generalize dumpChange host .lftTop p.epDumpLftTopTbl p.pDumpLftTopTbl
        (lftChangeTopKey c.1) l = r at hdump ⊢
      refine ((hdump.par (Trades.free (some c.2) r.2)).frame (p.epDbLftBlockTbl.blocks ++
        (p.epDbLftTopTbl.blocks ++ (p.epDumpLftBlockTbl.blocks ++ (p.pDbLftBlockTbl.toList ++
          (p.pDbLftTopTbl.toList ++ (p.pDumpLftBlockTbl.toList ++ [p.pLftDb]))))))).perm
        (perm_of_count fun b => ?_) (perm_of_count fun b => ?_)
      · simp only [SsaDbLft.blocks, SsaDbLft.items, SsaDbLft.tables, List.count_append,
          Option.toList_some]
        omega
      · simp only [SsaDbLft.blocks, SsaDbLft.items, SsaDbLft.tables, List.count_append,
          List.count_nil]
        omega
  | other flags =>
      refine ⟨hp, ?_⟩
      exact ((Trades.free (some c.2) l).frame p.blocks).perm List.perm_append_comm
        (List.Perm.refl _)

theorem lftHandleChanges_spec (mem : Mem) (cs : List (SsaDbLftChangeRec × Block UInt64))
    {p : SsaDbLft} {d : Ibssa.SsaDbLft} (hp : p.Mirrors d) (l : Ledger UInt64) :
    (cs.foldl (lftHandleChange host) (p, l)).1.Mirrors
        ((cs.map Prod.fst).foldl (Ibssa.lftHandleChange mem) d) ∧
      Trades l (cs.foldl (lftHandleChange host) (p, l)).2 (p.blocks ++ cs.map Prod.snd)
        (cs.foldl (lftHandleChange host) (p, l)).1.blocks 0 := by
  induction cs generalizing p d l with
  | nil =>
      refine ⟨hp, ?_⟩
      exact (Trades.refl l p.blocks).perm (List.Perm.of_eq (List.append_nil _)) (List.Perm.refl _)
  | cons c cs ih =>
      obtain ⟨hmirrors, htrades⟩ := lftHandleChange_spec host hp mem l c
      obtain ⟨hmirrors', htrades'⟩ := ih hmirrors (lftHandleChange host (p, l) c).2
      refine ⟨hmirrors', ?_⟩
      rw [List.map_cons, show p.blocks ++ c.2 :: cs.map Prod.snd
        = (p.blocks ++ [c.2]) ++ cs.map Prod.snd by simp]
      exact (htrades.frame (cs.map Prod.snd)).trans htrades'

/-- The drain frees what `report` allocated, and keeps what it stored. -/
theorem ssaDbLftHandle_spec (hm : m.Mirrors ssaDb) (mem : Mem) :
    (ssaDbLftHandle host m).Mirrors (Ibssa.ssaDbLftHandle mem ssaDb) ∧
      Trades m.ledger (ssaDbLftHandle host m).ledger m.blocks (ssaDbLftHandle host m).blocks
        0 := by
  obtain ⟨hmirrors, htrades⟩ := lftHandleChanges_spec host mem m.lftRecList hm.pLftDb m.ledger
  rw [hm.lftRecList] at hmirrors
  rw [ssaDbLftHandle, Ibssa.ssaDbLftHandle]
  dsimp only
  refine ⟨⟨hmirrors, hm.pCurrentDb, hm.pPreviousDb, hm.pDumpDb, rfl⟩, ?_⟩
  refine (htrades.frame (m.pDumpDb.blocks ++ (m.pPreviousDb.blocks ++ (m.pCurrentDb.blocks ++
    [m.ssaDb, m.ssa])))).perm (perm_of_count fun b => ?_) (perm_of_count fun b => ?_)
  · simp only [Memory.blocks, List.count_append]
    omega
  · simp only [Memory.blocks, List.count_append, List.map_nil, List.count_nil]
    omega

end Changes

/-! ## `ssa_db_update` -/

section Update

variable (host : Host) {m : Memory} {ssaDb : Ibssa.SsaDatabase}

theorem mirrors_ssaDbExtractInit (b : Block UInt64) :
    (ssaDbExtractInit b).Mirrors Ibssa.ssaDbExtractInit :=
  ⟨rfl, rfl, rfl, rfl, rfl, rfl, rfl, rfl, rfl, rfl⟩

theorem blocks_ssaDbExtractInit (b : Block UInt64) : (ssaDbExtractInit b).blocks = [b] := rfl

/-- `ssa_db_update` deletes the previous database, unless the current one has not
been filled: then nothing points to that any more. -/
theorem ssaDbUpdate_spec (hm : m.Mirrors ssaDb) :
    (ssaDbUpdate host m).Mirrors (Ibssa.ssaDbUpdate ssaDb) ∧
      Trades m.ledger (ssaDbUpdate host m).ledger m.blocks (ssaDbUpdate host m).blocks
        (if ssaDb.pCurrentDb.initialized then 0 else m.pCurrentDb.blocks.length) := by
  let rest := m.pDumpDb.blocks ++ (m.pLftDb.blocks ++ (m.lftRecList.map Prod.snd ++
    [m.ssaDb, m.ssa]))
  rw [ssaDbUpdate, Ibssa.ssaDbUpdate, updatePrevious, hm.pCurrentDb.initialized]
  split
  · dsimp only
    refine ⟨⟨hm.pLftDb, hm.pDumpDb, hm.pCurrentDb, mirrors_ssaDbExtractInit _, hm.lftRecList⟩, ?_⟩
    have hremove := trades_ssaDbRemove m.pPreviousDb m.ledger
    generalize ssaDbRemove m.pPreviousDb m.ledger = r at hremove ⊢
    have hdelete := hremove.trans (trades_ssaDbExtractDelete r.1 r.2)
    refine ((hdelete.par (Trades.get host.ssaDbExtract _)).frame
      (m.pCurrentDb.blocks ++ rest)).perm (perm_of_count fun b => ?_) (perm_of_count fun b => ?_)
    · simp only [Memory.blocks, rest, List.count_append, List.count_nil]
      omega
    · simp only [Memory.blocks, rest, blocks_ssaDbExtractInit, List.count_append, List.count_nil]
      omega
  · dsimp only
    refine ⟨⟨hm.pLftDb, hm.pDumpDb, hm.pPreviousDb, mirrors_ssaDbExtractInit _, hm.lftRecList⟩, ?_⟩
    have hlose := (Trades.lose m.ledger m.pCurrentDb.blocks).par
      (Trades.get host.ssaDbExtract m.ledger)
    refine (hlose.frame (m.pPreviousDb.blocks ++ rest)).perm (perm_of_count fun b => ?_)
      (perm_of_count fun b => ?_)
    · simp only [Memory.blocks, rest, List.count_append, List.count_nil]
      omega
    · simp only [Memory.blocks, rest, blocks_ssaDbExtractInit, List.count_append, List.count_nil]
      omega

end Update

end Ibssa.Heap
