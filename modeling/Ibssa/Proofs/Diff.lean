import Ibssa.Proofs.Schema
import Ibssa.Proofs.Tables

/-!
# The diff that `ssa_db_compare` builds

`buildDiff` fills nine tables of one structure, one after the other. They do
not share anything, so each comes out as if it had been filled alone: the
theorems here say for every table which list of records it was filled with,
and everything else follows from `Filled`.

The LFT tables are filled by a copy rather than a walk. Into an empty map with
a fresh header the copy appends every record it is given, which is the same
list with nothing in it removed.
-/

namespace Ibssa

open Keyed ByteOrder

/-! ## The empty diff -/

theorem dataset_emptyDiff (mem : Mem) (ssaDb : SsaDatabase) (t : SsaTableId) :
    (emptyDiff mem ssaDb).dataset t = zeroDataset t.num := by
  show (ssaDbSmdbInit mem _ _ _ _ _ _ _).pDbTables.cell t.num = _
  rw [ssaDbSmdbInit, pDbTables_ssaDbInit]
  exact dataset_smdbInit _ t

theorem tables_emptyDiff (mem : Mem) (ssaDb : SsaDatabase) :
    (emptyDiff mem ssaDb).tables
      = { subnetOpts := Buf.malloc mem.addr 1 fun _ => mem.subnetOpts
          guidToLid :=
            Buf.malloc mem.addr
              (ssaDb.pCurrentDb.epGuidToLidTbl.count + ssaDb.pPreviousDb.epGuidToLidTbl.count)
              mem.guidToLid
          node :=
            Buf.malloc mem.addr
              (ssaDb.pCurrentDb.epNodeTbl.count + ssaDb.pPreviousDb.epNodeTbl.count) mem.node
          link :=
            Buf.malloc mem.addr
              (ssaDb.pCurrentDb.epLinkTbl.count + ssaDb.pPreviousDb.epLinkTbl.count) mem.link
          port :=
            Buf.malloc mem.addr
              (ssaDb.pCurrentDb.epPortTbl.count + ssaDb.pPreviousDb.epPortTbl.count) mem.port
          pkey :=
            Buf.malloc mem.addr (SsaTableId.pkey.recSize * ssaDb.pCurrentDb.pkeyTblRecNum)
              mem.pkeyBytes
          lftTop :=
            Buf.malloc mem.addr
              (ssaDb.pLftDb.epDbLftTopTbl.count + ssaDb.pLftDb.epDumpLftTopTbl.count) mem.lftTop
          lftBlock :=
            Buf.malloc mem.addr
              (ssaDb.pLftDb.epDbLftBlockTbl.count + ssaDb.pLftDb.epDumpLftBlockTbl.count)
              mem.lftBlock } := by
  show (ssaDbSmdbInit mem _ _ _ _ _ _ _).ppTables = _
  rw [ssaDbSmdbInit, ppTables_ssaDbInit]
  rfl

/-! ## The parts of a diff -/

/-- One table of a diff: its two maps, its header and its block. -/
structure DiffPart (α : Type) where
  pMapAdded : EpMap
  pMapRemoved : EpMap
  tbl : DataTbl α

def TblDiff.part {α : Type} (r : TblDiff α) : DiffPart α :=
  ⟨r.pMapAdded, r.pMapRemoved, r.pDest⟩

def VarTblDiff.part (r : VarTblDiff) : DiffPart EpPortTblRec :=
  ⟨r.pMapAdded, r.pMapRemoved, r.pDest⟩

namespace SsaDbDiff

def guidToLidPart (d : SsaDbDiff) : DiffPart EpGuidToLidTblRec :=
  ⟨d.epGuidToLidTblAdded, d.epGuidToLidTblRemoved, ⟨d.dataset .guidToLid, d.tables.guidToLid⟩⟩

def nodePart (d : SsaDbDiff) : DiffPart EpNodeTblRec :=
  ⟨d.epNodeTblAdded, d.epNodeTblRemoved, ⟨d.dataset .node, d.tables.node⟩⟩

def linkPart (d : SsaDbDiff) : DiffPart EpLinkTblRec :=
  ⟨d.epLinkTblAdded, d.epLinkTblRemoved, ⟨d.dataset .link, d.tables.link⟩⟩

def portPart (d : SsaDbDiff) : DiffPart EpPortTblRec :=
  ⟨d.epPortTblAdded, d.epPortTblRemoved, ⟨d.dataset .port, d.tables.port⟩⟩

/-- The LFT tables have one map, and nothing in them is ever removed. -/
def lftBlockPart (d : SsaDbDiff) : DiffPart EpLftBlockTblRec :=
  ⟨d.epLftBlockTbl, OrdMap.empty, ⟨d.dataset .lftBlock, d.tables.lftBlock⟩⟩

def lftTopPart (d : SsaDbDiff) : DiffPart EpLftTopTblRec :=
  ⟨d.epLftTopTbl, OrdMap.empty, ⟨d.dataset .lftTop, d.tables.lftTop⟩⟩

end SsaDbDiff

/-! Filling one table leaves the header of every other one, and its block. -/

theorem dataset_setDataset (d : SsaDbDiff) (t t' : SsaTableId) (ds : DbDataset) :
    (d.setDataset t ds).dataset t' = if t' = t then ds else d.dataset t' := by
  show (d.pSmdb.pDbTables.write t.num ds).cell t'.num = _
  rw [Buf.cell_write]
  by_cases h : t' = t
  · rw [h, Function.update_self, if_pos rfl]
  · have hne : t'.num ≠ t.num := fun hc => h (SsaTableId.num_inj.mp hc)
    rw [Function.update_of_ne hne, if_neg h]
    rfl

section With

variable (d : SsaDbDiff)

@[simp] theorem dataset_withGuidToLid (r : TblDiff EpGuidToLidTblRec) (t : SsaTableId) :
    (d.withGuidToLid r).dataset t = if t = .guidToLid then r.pDest.pDataset else d.dataset t :=
  dataset_setDataset d .guidToLid t r.pDest.pDataset

@[simp] theorem dataset_withNode (r : TblDiff EpNodeTblRec) (t : SsaTableId) :
    (d.withNode r).dataset t = if t = .node then r.pDest.pDataset else d.dataset t :=
  dataset_setDataset d .node t r.pDest.pDataset

@[simp] theorem dataset_withLink (r : TblDiff EpLinkTblRec) (t : SsaTableId) :
    (d.withLink r).dataset t = if t = .link then r.pDest.pDataset else d.dataset t :=
  dataset_setDataset d .link t r.pDest.pDataset

@[simp] theorem dataset_withPort (r : VarTblDiff) (t : SsaTableId) :
    (d.withPort r).dataset t
      = if t = .pkey then r.pRef.pRefDataset
        else if t = .port then r.pDest.pDataset else d.dataset t := by
  show ((d.setDataset .port r.pDest.pDataset).setDataset .pkey r.pRef.pRefDataset).dataset t = _
  rw [dataset_setDataset, dataset_setDataset]

@[simp] theorem tables_withGuidToLid (r : TblDiff EpGuidToLidTblRec) :
    (d.withGuidToLid r).tables = { d.tables with guidToLid := r.pDest.pDataTbl } := rfl

@[simp] theorem tables_withNode (r : TblDiff EpNodeTblRec) :
    (d.withNode r).tables = { d.tables with node := r.pDest.pDataTbl } := rfl

@[simp] theorem tables_withLink (r : TblDiff EpLinkTblRec) :
    (d.withLink r).tables = { d.tables with link := r.pDest.pDataTbl } := rfl

@[simp] theorem tables_withPort (r : VarTblDiff) :
    (d.withPort r).tables
      = { d.tables with port := r.pDest.pDataTbl, pkey := r.pRef.pDataRefTbl } := rfl

end With

section Parts

variable (mem : Mem) (pPreviousDb pCurrentDb : SsaDbExtract) (d : SsaDbDiff)

/-- Comparing the options touches no other table. -/
private theorem compareSubnetOpts_parts :
    let d' := ssaDbDiffCompareSubnetOpts pPreviousDb pCurrentDb d
    d'.guidToLidPart = d.guidToLidPart ∧ d'.nodePart = d.nodePart ∧
      d'.linkPart = d.linkPart ∧ d'.portPart = d.portPart ∧
      d'.dataset .pkey = d.dataset .pkey ∧ d'.tables.pkey = d.tables.pkey ∧
      d'.lftBlockPart = d.lftBlockPart ∧ d'.lftTopPart = d.lftTopPart := by
  simp only [ssaDbDiffCompareSubnetOpts]
  split
  · exact ⟨rfl, rfl, rfl, rfl, rfl, rfl, rfl, rfl⟩
  · exact ⟨rfl, rfl, rfl, rfl, rfl, rfl, rfl, rfl⟩

/-! A walk reads its own table of the diff and nothing else of it. -/

private theorem compareNode_congr {d d' : SsaDbDiff} (h : d.nodePart = d'.nodePart) :
    compareNode pPreviousDb pCurrentDb d = compareNode pPreviousDb pCurrentDb d' := by
  injection h with ha hr ht
  rw [compareNode, compareNode, ha, hr, ht]

private theorem compareLink_congr {d d' : SsaDbDiff} (h : d.linkPart = d'.linkPart) :
    compareLink pPreviousDb pCurrentDb d = compareLink pPreviousDb pCurrentDb d' := by
  injection h with ha hr ht
  rw [compareLink, compareLink, ha, hr, ht]

private theorem comparePort_congr {d d' : SsaDbDiff} (h : d.portPart = d'.portPart)
    (hds : d.dataset .pkey = d'.dataset .pkey) (htb : d.tables.pkey = d'.tables.pkey) :
    comparePort mem pPreviousDb pCurrentDb d = comparePort mem pPreviousDb pCurrentDb d' := by
  injection h with ha hr ht
  rw [comparePort, comparePort, ha, hr, ht, hds, htb]

/-- The diff after the four walks. -/
private def withWalks (d : SsaDbDiff) (g : TblDiff EpGuidToLidTblRec) (n : TblDiff EpNodeTblRec)
    (l : TblDiff EpLinkTblRec) (p : VarTblDiff) : SsaDbDiff :=
  (((d.withGuidToLid g).withNode n).withLink l).withPort p

private theorem withWalks_parts (d : SsaDbDiff) (g : TblDiff EpGuidToLidTblRec)
    (n : TblDiff EpNodeTblRec) (l : TblDiff EpLinkTblRec) (p : VarTblDiff) (dirty : UInt8) :
    let d' := { withWalks d g n l p with dirty := dirty }
    d'.guidToLidPart = g.part ∧ d'.nodePart = n.part ∧ d'.linkPart = l.part ∧
      d'.portPart = p.part ∧ d'.dataset .pkey = p.pRef.pRefDataset ∧
      d'.tables.pkey = p.pRef.pDataRefTbl ∧ d'.lftBlockPart = d.lftBlockPart ∧
      d'.lftTopPart = d.lftTopPart := by
  have hds : ∀ t, ({ withWalks d g n l p with dirty := dirty } : SsaDbDiff).dataset t
      = (withWalks d g n l p).dataset t := fun _ => rfl
  have htb : ({ withWalks d g n l p with dirty := dirty } : SsaDbDiff).tables
      = (withWalks d g n l p).tables := rfl
  simp only [SsaDbDiff.guidToLidPart, SsaDbDiff.nodePart, SsaDbDiff.linkPart,
    SsaDbDiff.portPart, SsaDbDiff.lftBlockPart, SsaDbDiff.lftTopPart, hds, htb]
  simp only [withWalks, dataset_withPort, dataset_withLink, dataset_withNode,
    dataset_withGuidToLid, tables_withPort, tables_withLink, tables_withNode,
    tables_withGuidToLid, reduceCtorEq, if_true, if_false]
  simp only [SsaDbDiff.withPort, SsaDbDiff.withLink, SsaDbDiff.withNode,
    SsaDbDiff.withGuidToLid, SsaDbDiff.setTables, SsaDbDiff.setDataset]
  exact ⟨rfl, rfl, rfl, rfl, trivial, trivial, trivial, trivial⟩

private theorem nodePart_withGuidToLid (d : SsaDbDiff) (g : TblDiff EpGuidToLidTblRec) :
    (d.withGuidToLid g).nodePart = d.nodePart := by
  simp only [SsaDbDiff.nodePart, dataset_withGuidToLid, tables_withGuidToLid, reduceCtorEq,
    if_false]
  simp only [SsaDbDiff.withGuidToLid, SsaDbDiff.setTables, SsaDbDiff.setDataset]

private theorem linkPart_withNode (d : SsaDbDiff) (g : TblDiff EpGuidToLidTblRec)
    (n : TblDiff EpNodeTblRec) :
    ((d.withGuidToLid g).withNode n).linkPart = d.linkPart := by
  simp only [SsaDbDiff.linkPart, dataset_withNode, dataset_withGuidToLid, tables_withNode,
    tables_withGuidToLid, reduceCtorEq, if_false]
  simp only [SsaDbDiff.withNode, SsaDbDiff.withGuidToLid, SsaDbDiff.setTables,
    SsaDbDiff.setDataset]

private theorem portPart_withLink (d : SsaDbDiff) (g : TblDiff EpGuidToLidTblRec)
    (n : TblDiff EpNodeTblRec) (l : TblDiff EpLinkTblRec) :
    let d' := ((d.withGuidToLid g).withNode n).withLink l
    d'.portPart = d.portPart ∧ d'.dataset .pkey = d.dataset .pkey ∧
      d'.tables.pkey = d.tables.pkey := by
  simp only [SsaDbDiff.portPart, dataset_withLink, dataset_withNode, dataset_withGuidToLid,
    tables_withLink, tables_withNode, tables_withGuidToLid, reduceCtorEq, if_false]
  simp only [SsaDbDiff.withLink, SsaDbDiff.withNode, SsaDbDiff.withGuidToLid,
    SsaDbDiff.setTables, SsaDbDiff.setDataset]
  exact ⟨trivial, trivial, trivial⟩

/-- `dirty` as the four walks leave it. -/
private def walksDirty (g : TblDiff EpGuidToLidTblRec) (n : TblDiff EpNodeTblRec)
    (l : TblDiff EpLinkTblRec) (p : VarTblDiff) : UInt8 :=
  ((g.dirty <<< 1 ||| n.dirty) <<< 1 ||| l.dirty) <<< 1 ||| p.dirty

private theorem compareSubnetTables_eq :
    let g := compareGuidToLid pPreviousDb pCurrentDb d
    let n := compareNode pPreviousDb pCurrentDb d
    let l := compareLink pPreviousDb pCurrentDb d
    let p := comparePort mem pPreviousDb pCurrentDb d
    ssaDbDiffCompareSubnetTables mem pPreviousDb pCurrentDb d
      = { withWalks d g n l p with
          dirty := if walksDirty g n l p ≠ 0 then 1 else (withWalks d g n l p).dirty } := by
  intro g n l p
  have heq : ssaDbDiffCompareSubnetTables mem pPreviousDb pCurrentDb d
      = if walksDirty g n l p ≠ 0 then { withWalks d g n l p with dirty := 1 }
        else withWalks d g n l p := by
    simp only [ssaDbDiffCompareSubnetTables]
    rw [compareNode_congr _ _ (nodePart_withGuidToLid d _),
      compareLink_congr _ _ (linkPart_withNode d _ _),
      comparePort_congr _ _ _ (portPart_withLink d _ _ _).1 (portPart_withLink d _ _ _).2.1
        (portPart_withLink d _ _ _).2.2]
    rfl
  rw [heq]
  by_cases hd : walksDirty g n l p ≠ 0
  · rw [if_pos hd, if_pos hd]
  · rw [if_neg hd, if_neg hd]

private theorem dirty_withWalks (d : SsaDbDiff) (g : TblDiff EpGuidToLidTblRec)
    (n : TblDiff EpNodeTblRec) (l : TblDiff EpLinkTblRec) (p : VarTblDiff) :
    (withWalks d g n l p).dirty = d.dirty := by
  simp only [withWalks, SsaDbDiff.withPort, SsaDbDiff.withLink, SsaDbDiff.withNode,
    SsaDbDiff.withGuidToLid, SsaDbDiff.setTables, SsaDbDiff.setDataset]

/-- The four walks, each on its own table. -/
private theorem compareSubnetTables_parts :
    let d' := ssaDbDiffCompareSubnetTables mem pPreviousDb pCurrentDb d
    let g := compareGuidToLid pPreviousDb pCurrentDb d
    let n := compareNode pPreviousDb pCurrentDb d
    let l := compareLink pPreviousDb pCurrentDb d
    let p := comparePort mem pPreviousDb pCurrentDb d
    d'.guidToLidPart = g.part ∧ d'.nodePart = n.part ∧ d'.linkPart = l.part ∧
      d'.portPart = p.part ∧ d'.dataset .pkey = p.pRef.pRefDataset ∧
      d'.tables.pkey = p.pRef.pDataRefTbl ∧ d'.lftBlockPart = d.lftBlockPart ∧
      d'.lftTopPart = d.lftTopPart ∧
      d'.dirty = if walksDirty g n l p ≠ 0 then 1 else d.dirty := by
  intro d' g n l p
  have heq : d' = { withWalks d g n l p with
      dirty := if walksDirty g n l p ≠ 0 then 1 else (withWalks d g n l p).dirty } :=
    compareSubnetTables_eq mem pPreviousDb pCurrentDb d
  obtain ⟨hg, hn, hl, hp, hkd, hkt, hb, ht⟩ := withWalks_parts d g n l p
    (if walksDirty g n l p ≠ 0 then 1 else (withWalks d g n l p).dirty)
  rw [heq]
  refine ⟨hg, hn, hl, hp, hkd, hkt, hb, ht, ?_⟩
  rw [dirty_withWalks]

private theorem walksDirty_eq_zero {g : TblDiff EpGuidToLidTblRec} {n : TblDiff EpNodeTblRec}
    {l : TblDiff EpLinkTblRec} {p : VarTblDiff} {α β γ δ : Type} {gOps : List α}
    {nOps : List β} {lOps : List γ} {pOps : List δ} (hg : g.dirty = dirtyAfter gOps)
    (hn : n.dirty = dirtyAfter nOps) (hl : l.dirty = dirtyAfter lOps)
    (hp : p.dirty = dirtyAfter pOps) :
    walksDirty g n l p = 0 ↔ gOps = [] ∧ nOps = [] ∧ lOps = [] ∧ pOps = [] := by
  rw [walksDirty, hg, hn, hl, hp]
  cases gOps <;> cases nOps <;> cases lOps <;> cases pOps <;>
    simp only [dirtyAfter, List.isEmpty_nil, List.isEmpty_cons, reduceCtorEq, if_true,
      Bool.false_eq_true, if_false, and_self, and_true, and_false, iff_true, iff_false] <;>
    decide

end Parts

/-! ## Copying LFT records into the diff -/

/-- One record of a key that the copy has not met yet. -/
private theorem lftQmapCopyRec_new {α : Type} {recSize cap : Nat} {l : List (WalkOp UInt64 α)}
    {m : EpMap} {ds : DbDataset} {tbl pSrcTbl : Buf α} {p : EpMapRec}
    (h : Filled recSize cap l m OrdMap.empty ⟨ds, tbl⟩)
    (hnew : ∀ op ∈ l, op.addKey ≠ some p.1) :
    lftQmapCopyRec recSize pSrcTbl ⟨m, some ds, tbl⟩ p
      = ⟨m.insert p.1 (ntohll ds.setCount), some (ds.countRec recSize),
          tbl.write (ntohll ds.setCount) (pSrcTbl.cell p.2)⟩ := by
  have hnone : m.get? p.1 = none := by
    rw [h.added.places, placeOf_eq_none]
    exact hnew
  simp only [lftQmapCopyRec, hnone, Option.map_some]

private theorem lftQmapCopy_fold {α : Type} {recSize cap : Nat} {pSrcTbl : Buf α}
    (items : List EpMapRec) :
    ∀ {l : List (WalkOp UInt64 α)} {m : EpMap} {ds : DbDataset} {tbl : Buf α},
      Filled recSize cap l m OrdMap.empty ⟨ds, tbl⟩ →
      (∀ op ∈ l, ∀ p ∈ items, op.addKey ≠ some p.1) →
      items.Pairwise (fun a b => a.1 < b.1) →
      ∃ m' ds' tbl', items.foldl (lftQmapCopyRec recSize pSrcTbl) ⟨m, some ds, tbl⟩
          = ⟨m', some ds', tbl'⟩ ∧
        Filled recSize cap (l ++ items.map fun p => .add (p.1, pSrcTbl.cell p.2)) m'
          OrdMap.empty ⟨ds', tbl'⟩ := by
  induction items with
  | nil =>
      intro l m ds tbl h _ _
      refine ⟨m, ds, tbl, rfl, ?_⟩
      rw [List.map_nil, List.append_nil]
      exact h
  | cons p rest ih =>
      intro l m ds tbl h hnew hsorted
      have hs := List.pairwise_cons.mp hsorted
      have hstep := h.add p.1 (pSrcTbl.cell p.2)
      have hnew' : ∀ op ∈ l ++ [.add (p.1, pSrcTbl.cell p.2)], ∀ q ∈ rest,
          op.addKey ≠ some q.1 := by
        intro op hop q hq
        rcases List.mem_append.mp hop with hop | hop
        · exact hnew op hop q (List.mem_cons_of_mem p hq)
        · rw [List.mem_singleton.mp hop]
          intro hc
          exact absurd (Option.some.inj hc) (ne_of_lt (hs.1 q hq))
      obtain ⟨m', ds', tbl', heq, hf⟩ := ih hstep hnew' hs.2
      refine ⟨m', ds', tbl', ?_, ?_⟩
      · rw [List.foldl_cons,
          lftQmapCopyRec_new h (fun op hop => hnew op hop p List.mem_cons_self)]
        exact heq
      · rw [List.append_assoc] at hf
        exact hf

/-- The records of a store, each as an addition. -/
def storeOps {α : Type} (m : EpMap) (tbl : Buf α) : List (WalkOp UInt64 α) :=
  (entries m tbl).map .add

theorem oncePerKey_storeOps {α : Type} (m : EpMap) (tbl : Buf α) :
    OncePerKey (storeOps m tbl) := by
  constructor
  · rw [filterMap_addKey, storeOps, addedOf_map_add]
    exact (List.pairwise_map.mpr (entries_sorted m tbl)).imp ne_of_lt
  · rw [filterMap_removeKey, storeOps, removedOf_map_add]
    exact List.nodup_nil

theorem length_storeOps {α : Type} (m : EpMap) (tbl : Buf α) :
    (storeOps m tbl).length = m.count := by
  rw [storeOps, List.length_map, entries, List.length_map]
  rfl

/-- What a table that was filled by a copy says about a key: what the source
of the copy says. -/
theorem Filled.view_storeOps {α : Type} {recSize cap : Nat} {m m' : EpMap} {tbl : Buf α}
    {t : DataTbl α} (h : Filled recSize cap (storeOps m tbl) m' OrdMap.empty t) :
    view m' t.pDataTbl = view m tbl := by
  funext k
  refine Option.ext fun v => ?_
  rw [h.placed.view_added (oncePerKey_storeOps m tbl), ← find_entries, storeOps,
    List.mem_map_of_injective (fun _ _ => WalkOp.add.inj)]
  constructor
  · exact OrdMap.find_of_mem (entries_sorted m tbl)
  · exact OrdMap.mem_of_find

/-- A copy into an empty map with a fresh header appends every record. -/
theorem lftQmapCopy_spec {α : Type} (recSize : Nat) {ds : DbDataset} {tbl : Buf α}
    (h : Fresh ⟨ds, tbl⟩) (m : EpMap) (pSrcTbl : Buf α) :
    ∃ m' ds' tbl', lftQmapCopy recSize OrdMap.empty (some ds) tbl m pSrcTbl
        = ⟨m', some ds', tbl'⟩ ∧
      Filled recSize tbl.cap (storeOps m pSrcTbl) m' OrdMap.empty ⟨ds', tbl'⟩ := by
  have hops : storeOps m pSrcTbl
      = m.items.map fun p => WalkOp.add (p.1, pSrcTbl.cell p.2) := by
    rw [storeOps, entries, List.map_map]
    rfl
  rw [hops]
  exact lftQmapCopy_fold m.items (h.filled recSize) (fun op hop => by cases hop) m.sorted

/-! ## What makes a diff dirty -/

/-- The subnet options of two snapshots differ, or the newer one is the first. -/
def OptsDiffer (pPreviousDb pCurrentDb : SsaDbExtract) : Prop :=
  (pPreviousDb.initialized = false ∧ pCurrentDb.initialized = true) ∨
    pPreviousDb.subnetPrefix ≠ pCurrentDb.subnetPrefix ∨
    pPreviousDb.smState ≠ pCurrentDb.smState ∨ pPreviousDb.lmc ≠ pCurrentDb.lmc ∨
    pPreviousDb.subnetTimeout ≠ pCurrentDb.subnetTimeout ∨
    pPreviousDb.allowBothPkeys ≠ pCurrentDb.allowBothPkeys

private theorem dirty_optsCmp {α : Type} [DecidableEq α] (field : SsaDbExtract → α)
    (store : EpSubnetOptsTblRec → α → EpSubnetOptsTblRec) (mask : UInt64)
    (pPreviousDb pCurrentDb : SsaDbExtract) (o : OptsDiff) :
    (optsCmp field store mask pPreviousDb pCurrentDb o).dirty = 0 ↔
      field pPreviousDb = field pCurrentDb ∧ o.dirty = 0 := by
  rw [optsCmp]
  by_cases h : field pPreviousDb = field pCurrentDb
  · rw [if_neg (by simpa using h)]
    exact ⟨fun hd => ⟨h, hd⟩, And.right⟩
  · rw [if_pos h]
    exact ⟨fun hd => absurd hd (show ¬ ((1 : UInt8) = 0) by decide), fun hd => absurd hd.1 h⟩

theorem dirty_optsDiff (pPreviousDb pCurrentDb : SsaDbExtract) (r : EpSubnetOptsTblRec) :
    (optsDiff pPreviousDb pCurrentDb ⟨r, 0⟩).dirty = 0 ↔ ¬ OptsDiffer pPreviousDb pCurrentDb := by
  rw [optsDiff, OptsDiffer]
  split
  · next hfirst =>
      have hf : pPreviousDb.initialized = false ∧ pCurrentDb.initialized = true := by
        simpa using hfirst
      exact ⟨fun hd => absurd hd (show ¬ ((1 : UInt8) = 0) by decide),
        fun hn => absurd (Or.inl hf) hn⟩
  · next hfirst =>
      have hf : ¬ (pPreviousDb.initialized = false ∧ pCurrentDb.initialized = true) := by
        simpa using hfirst
      simp only [dirty_optsCmp, hf, false_or, not_or, not_not]
      constructor
      · rintro ⟨h₅, h₄, h₃, h₂, h₁, _⟩
        exact ⟨h₁, h₂, h₃, h₄, h₅⟩
      · rintro ⟨h₁, h₂, h₃, h₄, h₅⟩
        exact ⟨h₅, h₄, h₃, h₂, h₁, trivial⟩

private theorem dirty_compareSubnetOpts (pPreviousDb pCurrentDb : SsaDbExtract) {d : SsaDbDiff}
    (hd : d.dirty = 0) :
    (ssaDbDiffCompareSubnetOpts pPreviousDb pCurrentDb d).dirty = 0 ↔
      ¬ OptsDiffer pPreviousDb pCurrentDb := by
  rw [← dirty_optsDiff pPreviousDb pCurrentDb (d.tables.subnetOpts.cell 0)]
  simp only [ssaDbDiffCompareSubnetOpts, hd]
  split
  · next h =>
      rw [h]
      exact ⟨fun _ => rfl, fun _ => hd⟩
  · next h => rfl

/-! ## The whole diff -/

section Whole

variable (mem : Mem) (pPreviousDb pCurrentDb : SsaDbExtract)

/-- What each table of the diff is filled with. -/
def guidToLidOps : List (WalkOp UInt64 EpGuidToLidTblRec) :=
  recOps ssaDbGuidToLidCmp pPreviousDb.epGuidToLidTbl pCurrentDb.epGuidToLidTbl
    pPreviousDb.pGuidToLidTbl pCurrentDb.pGuidToLidTbl

def nodeOps : List (WalkOp UInt64 EpNodeTblRec) :=
  recOps ssaDbNodeCmp pPreviousDb.epNodeTbl pCurrentDb.epNodeTbl pPreviousDb.pNodeTbl
    pCurrentDb.pNodeTbl

def linkOps : List (WalkOp UInt64 EpLinkTblRec) :=
  recOps ssaDbLinkCmp pPreviousDb.epLinkTbl pCurrentDb.epLinkTbl pPreviousDb.pLinkTbl
    pCurrentDb.pLinkTbl

/-- The comparison of two port items. -/
def portChanged : EpMapRec → EpMapRec → Bool :=
  portItemCmp (ssaDbPortCmp mem) pPreviousDb.pPortTbl pPreviousDb.pPkeyTbl pCurrentDb.pPortTbl
    pCurrentDb.pPkeyTbl

/-- The operations of the walk over the ports. -/
def portWalk : List (WalkOp UInt64 Nat) :=
  walkOps (portChanged mem pPreviousDb pCurrentDb) pPreviousDb.epPortTbl.items
    pCurrentDb.epPortTbl.items

/-- The records the walk over the ports moves, pkeys rebased. -/
def portDiffOps : List (WalkOp UInt64 EpPortTblRec) :=
  portOps pPreviousDb.pPortTbl pCurrentDb.pPortTbl pCurrentDb.pPkeyTbl 0
    (portWalk mem pPreviousDb pCurrentDb)

/-- The records of the ports that are added, as the current snapshot has them. -/
def addedPorts : List EpPortTblRec :=
  addedRecs pCurrentDb.pPortTbl (portWalk mem pPreviousDb pCurrentDb)

/-- Anything the comparison can see: an option, a key that only one snapshot
has, or a common key that a comparator calls changed. -/
def SnapshotsDiffer : Prop :=
  OptsDiffer pPreviousDb pCurrentDb ∨
    Differ (itemCmp ssaDbGuidToLidCmp pPreviousDb.pGuidToLidTbl pCurrentDb.pGuidToLidTbl)
      pPreviousDb.epGuidToLidTbl pCurrentDb.epGuidToLidTbl ∨
    Differ (itemCmp ssaDbNodeCmp pPreviousDb.pNodeTbl pCurrentDb.pNodeTbl)
      pPreviousDb.epNodeTbl pCurrentDb.epNodeTbl ∨
    Differ (itemCmp ssaDbLinkCmp pPreviousDb.pLinkTbl pCurrentDb.pLinkTbl)
      pPreviousDb.epLinkTbl pCurrentDb.epLinkTbl ∨
    Differ (portChanged mem pPreviousDb pCurrentDb) pPreviousDb.epPortTbl pCurrentDb.epPortTbl

end Whole

/-- The LFT stores that a comparison copies into the diff: the database the
first time, the dump from then on. -/
def pushedBlockMap (firstTimeSubnetUp : Bool) (l : SsaDbLft) : EpMap :=
  if firstTimeSubnetUp then l.epDbLftBlockTbl else l.epDumpLftBlockTbl

def pushedBlockTbl (firstTimeSubnetUp : Bool) (l : SsaDbLft) : Buf EpLftBlockTblRec :=
  if firstTimeSubnetUp then l.pDbLftBlockTbl else l.pDumpLftBlockTbl

def pushedTopMap (firstTimeSubnetUp : Bool) (l : SsaDbLft) : EpMap :=
  if firstTimeSubnetUp then l.epDbLftTopTbl else l.epDumpLftTopTbl

def pushedTopTbl (firstTimeSubnetUp : Bool) (l : SsaDbLft) : Buf EpLftTopTblRec :=
  if firstTimeSubnetUp then l.pDbLftTopTbl else l.pDumpLftTopTbl

/-- A part of a diff is filled with a list of records. -/
def DiffPart.FilledWith {α : Type} (p : DiffPart α) (recSize cap : Nat)
    (l : List (WalkOp UInt64 α)) : Prop :=
  Filled recSize cap l p.pMapAdded p.pMapRemoved p.tbl

/-- The PKEY table of an empty diff. -/
def emptyRef (mem : Mem) (ssaDb : SsaDatabase) : RefTbl :=
  ⟨zeroDataset SsaTableId.pkey.num,
    Buf.malloc mem.addr (SsaTableId.pkey.recSize * ssaDb.pCurrentDb.pkeyTblRecNum)
      mem.pkeyBytes, 0⟩

/-- Everything there is to know of a diff before its dirty check. -/
structure DiffSpec (mem : Mem) (firstTimeSubnetUp : Bool) (ssaDb : SsaDatabase)
    (d : SsaDbDiff) : Prop where
  guidToLid : d.guidToLidPart.FilledWith SsaTableId.guidToLid.recSize
    (ssaDb.pCurrentDb.epGuidToLidTbl.count + ssaDb.pPreviousDb.epGuidToLidTbl.count)
    (guidToLidOps ssaDb.pPreviousDb ssaDb.pCurrentDb)
  node : d.nodePart.FilledWith SsaTableId.node.recSize
    (ssaDb.pCurrentDb.epNodeTbl.count + ssaDb.pPreviousDb.epNodeTbl.count)
    (nodeOps ssaDb.pPreviousDb ssaDb.pCurrentDb)
  link : d.linkPart.FilledWith SsaTableId.link.recSize
    (ssaDb.pCurrentDb.epLinkTbl.count + ssaDb.pPreviousDb.epLinkTbl.count)
    (linkOps ssaDb.pPreviousDb ssaDb.pCurrentDb)
  port : d.portPart.FilledWith SsaTableId.port.recSize
    (ssaDb.pCurrentDb.epPortTbl.count + ssaDb.pPreviousDb.epPortTbl.count)
    (portDiffOps mem ssaDb.pPreviousDb ssaDb.pCurrentDb)
  pkeyDataset : d.dataset .pkey = ((emptyRef mem ssaDb).appendAll ssaDb.pCurrentDb.pPkeyTbl
    (addedPorts mem ssaDb.pPreviousDb ssaDb.pCurrentDb)).pRefDataset
  pkeyTable : d.tables.pkey = ((emptyRef mem ssaDb).appendAll ssaDb.pCurrentDb.pPkeyTbl
    (addedPorts mem ssaDb.pPreviousDb ssaDb.pCurrentDb)).pDataRefTbl
  lftBlock : d.lftBlockPart.FilledWith SsaTableId.lftBlock.recSize
    (ssaDb.pLftDb.epDbLftBlockTbl.count + ssaDb.pLftDb.epDumpLftBlockTbl.count)
    (storeOps (pushedBlockMap firstTimeSubnetUp ssaDb.pLftDb)
      (pushedBlockTbl firstTimeSubnetUp ssaDb.pLftDb))
  lftTop : d.lftTopPart.FilledWith SsaTableId.lftTop.recSize
    (ssaDb.pLftDb.epDbLftTopTbl.count + ssaDb.pLftDb.epDumpLftTopTbl.count)
    (storeOps (pushedTopMap firstTimeSubnetUp ssaDb.pLftDb)
      (pushedTopTbl firstTimeSubnetUp ssaDb.pLftDb))
  dirty : d.dirty = 0 ↔ ¬ SnapshotsDiffer mem ssaDb.pPreviousDb ssaDb.pCurrentDb

/-- A part of a diff that has no records yet, and room for `cap` of them. -/
structure DiffPart.Blank {α : Type} (p : DiffPart α) (cap : Nat) : Prop where
  added : p.pMapAdded = OrdMap.empty
  removed : p.pMapRemoved = OrdMap.empty
  fresh : Fresh p.tbl
  cap_eq : p.tbl.pDataTbl.cap = cap

@[simp] theorem dataset_withLft (d : SsaDbDiff) (block : LftCopy EpLftBlockTblRec)
    (top : LftCopy EpLftTopTblRec) (t : SsaTableId) :
    (d.withLft block top).dataset t
      = if t = .lftTop then top.pDestDataset.getD (d.dataset .lftTop)
        else if t = .lftBlock then block.pDestDataset.getD (d.dataset .lftBlock)
        else d.dataset t := by
  have htop : (d.setDataset .lftBlock (block.pDestDataset.getD (d.dataset .lftBlock))).dataset
      .lftTop = d.dataset .lftTop := by
    rw [dataset_setDataset, if_neg (by decide)]
  show ((d.setDataset .lftBlock _).setDataset .lftTop
    (top.pDestDataset.getD ((d.setDataset .lftBlock _).dataset .lftTop))).dataset t = _
  rw [htop, dataset_setDataset, dataset_setDataset]

@[simp] theorem tables_withLft (d : SsaDbDiff) (block : LftCopy EpLftBlockTblRec)
    (top : LftCopy EpLftTopTblRec) :
    (d.withLft block top).tables
      = { d.tables with lftBlock := block.pDestTbl, lftTop := top.pDestTbl } := rfl

private theorem withLft_parts (d : SsaDbDiff) (block : LftCopy EpLftBlockTblRec)
    (top : LftCopy EpLftTopTblRec) :
    let d' := d.withLft block top
    d'.guidToLidPart = d.guidToLidPart ∧ d'.nodePart = d.nodePart ∧
      d'.linkPart = d.linkPart ∧ d'.portPart = d.portPart ∧
      d'.dataset .pkey = d.dataset .pkey ∧ d'.tables.pkey = d.tables.pkey ∧
      d'.lftBlockPart = ⟨block.pDestQmap, OrdMap.empty,
        ⟨block.pDestDataset.getD (d.dataset .lftBlock), block.pDestTbl⟩⟩ ∧
      d'.lftTopPart = ⟨top.pDestQmap, OrdMap.empty,
        ⟨top.pDestDataset.getD (d.dataset .lftTop), top.pDestTbl⟩⟩ ∧
      d'.dirty = d.dirty := by
  simp only [SsaDbDiff.guidToLidPart, SsaDbDiff.nodePart, SsaDbDiff.linkPart,
    SsaDbDiff.portPart, SsaDbDiff.lftBlockPart, SsaDbDiff.lftTopPart, dataset_withLft,
    tables_withLft, reduceCtorEq, if_true, if_false]
  simp only [SsaDbDiff.withLft, SsaDbDiff.setTables, SsaDbDiff.setDataset]
  exact ⟨trivial, trivial, trivial, trivial, trivial, trivial, trivial, trivial, trivial⟩

/-- The copies into a diff whose LFT tables are still blank. -/
private theorem lftIntoDiff_parts {d : SsaDbDiff} {capBlock capTop : Nat}
    (hb : d.lftBlockPart.Blank capBlock) (ht : d.lftTopPart.Blank capTop)
    (blockMap topMap : EpMap) (blockTbl : Buf EpLftBlockTblRec) (topTbl : Buf EpLftTopTblRec) :
    let d' := lftIntoDiff d blockMap topMap blockTbl topTbl
    d'.guidToLidPart = d.guidToLidPart ∧ d'.nodePart = d.nodePart ∧
      d'.linkPart = d.linkPart ∧ d'.portPart = d.portPart ∧
      d'.dataset .pkey = d.dataset .pkey ∧ d'.tables.pkey = d.tables.pkey ∧
      d'.lftBlockPart.FilledWith SsaTableId.lftBlock.recSize capBlock
        (storeOps blockMap blockTbl) ∧
      d'.lftTopPart.FilledWith SsaTableId.lftTop.recSize capTop (storeOps topMap topTbl) ∧
      d'.dirty = d.dirty := by
  obtain ⟨hbm : d.epLftBlockTbl = _, _, hfb, rfl⟩ := hb
  obtain ⟨htm : d.epLftTopTbl = _, _, hft, rfl⟩ := ht
  obtain ⟨mb, dsb, tb, heqb, hfilb⟩ := lftQmapCopy_spec SsaTableId.lftBlock.recSize hfb blockMap
    blockTbl
  obtain ⟨mt, dst, tt, heqt, hfilt⟩ := lftQmapCopy_spec SsaTableId.lftTop.recSize hft topMap
    topTbl
  have hcopy : lftIntoDiff d blockMap topMap blockTbl topTbl
      = d.withLft ⟨mb, some dsb, tb⟩ ⟨mt, some dst, tt⟩ := by
    rw [lftIntoDiff, epLftBlockQmapCopy, epLftTopQmapCopy, hbm, htm]
    exact congrArg₂ d.withLft heqb heqt
  obtain ⟨hg, hn, hl, hp, hkd, hkt, hbp, htp, hd⟩ :=
    withLft_parts d ⟨mb, some dsb, tb⟩ ⟨mt, some dst, tt⟩
  rw [hcopy]
  refine ⟨hg, hn, hl, hp, hkd, hkt, ?_, ?_, hd⟩
  · rw [hbp]
    exact hfilb
  · rw [htp]
    exact hfilt

section Walks

variable (mem : Mem) (pPreviousDb pCurrentDb : SsaDbExtract) {d : SsaDbDiff} {cap : Nat}

private theorem compareGuidToLid_spec (h : d.guidToLidPart.Blank cap) :
    TblDiff.Spec SsaTableId.guidToLid.recSize ssaDbGuidToLidCmp pPreviousDb.epGuidToLidTbl
      pCurrentDb.epGuidToLidTbl pPreviousDb.pGuidToLidTbl pCurrentDb.pGuidToLidTbl cap
      (compareGuidToLid pPreviousDb pCurrentDb d) := by
  obtain ⟨ha : d.epGuidToLidTblAdded = _, hr : d.epGuidToLidTblRemoved = _, hf, rfl⟩ := h
  rw [compareGuidToLid, ha, hr]
  exact ssaDbDiffTableCmpV2_spec _ hf

private theorem compareNode_spec (h : d.nodePart.Blank cap) :
    TblDiff.Spec SsaTableId.node.recSize ssaDbNodeCmp pPreviousDb.epNodeTbl
      pCurrentDb.epNodeTbl pPreviousDb.pNodeTbl pCurrentDb.pNodeTbl cap
      (compareNode pPreviousDb pCurrentDb d) := by
  obtain ⟨ha : d.epNodeTblAdded = _, hr : d.epNodeTblRemoved = _, hf, rfl⟩ := h
  rw [compareNode, ha, hr]
  exact ssaDbDiffTableCmpV2_spec _ hf

private theorem compareLink_spec (h : d.linkPart.Blank cap) :
    TblDiff.Spec SsaTableId.link.recSize ssaDbLinkCmp pPreviousDb.epLinkTbl
      pCurrentDb.epLinkTbl pPreviousDb.pLinkTbl pCurrentDb.pLinkTbl cap
      (compareLink pPreviousDb pCurrentDb d) := by
  obtain ⟨ha : d.epLinkTblAdded = _, hr : d.epLinkTblRemoved = _, hf, rfl⟩ := h
  rw [compareLink, ha, hr]
  exact ssaDbDiffTableCmpV2_spec _ hf

private theorem comparePort_spec (h : d.portPart.Blank cap) :
    VarTblDiff.Spec (ssaDbPortCmp mem) pPreviousDb.epPortTbl pCurrentDb.epPortTbl
      pPreviousDb.pPortTbl pPreviousDb.pPkeyTbl pCurrentDb.pPortTbl pCurrentDb.pPkeyTbl cap
      ⟨d.dataset .pkey, d.tables.pkey, 0⟩ (comparePort mem pPreviousDb pCurrentDb d) := by
  obtain ⟨ha : d.epPortTblAdded = _, hr : d.epPortTblRemoved = _, hf, rfl⟩ := h
  rw [comparePort, ha, hr]
  exact ssaDbDiffVarSizeTableCmp_spec hf _ _

end Walks

private theorem recOps_eq_nil {α : Type} {cmp : EpMapRec → Buf α → EpMapRec → Buf α → Bool}
    {pMapOld pMapNew : EpMap} {pDataTblOld pDataTblNew : Buf α} :
    recOps cmp pMapOld pMapNew pDataTblOld pDataTblNew = [] ↔
      ¬ Differ (itemCmp cmp pDataTblOld pDataTblNew) pMapOld pMapNew := by
  rw [recOps, List.map_eq_nil_iff, walkOps_eq_nil]

section Stages

variable {mem : Mem} {firstTimeSubnetUp : Bool} {ssaDb : SsaDatabase} {d : SsaDbDiff}

/-- A diff before the walks: no records, and room for those of both snapshots
and of both LFT stores. -/
private structure Unfilled (mem : Mem) (ssaDb : SsaDatabase) (d : SsaDbDiff) : Prop where
  guidToLid : d.guidToLidPart.Blank
    (ssaDb.pCurrentDb.epGuidToLidTbl.count + ssaDb.pPreviousDb.epGuidToLidTbl.count)
  node : d.nodePart.Blank
    (ssaDb.pCurrentDb.epNodeTbl.count + ssaDb.pPreviousDb.epNodeTbl.count)
  link : d.linkPart.Blank
    (ssaDb.pCurrentDb.epLinkTbl.count + ssaDb.pPreviousDb.epLinkTbl.count)
  port : d.portPart.Blank
    (ssaDb.pCurrentDb.epPortTbl.count + ssaDb.pPreviousDb.epPortTbl.count)
  pkey : (⟨d.dataset .pkey, d.tables.pkey, 0⟩ : RefTbl) = emptyRef mem ssaDb
  lftBlock : d.lftBlockPart.Blank
    (ssaDb.pLftDb.epDbLftBlockTbl.count + ssaDb.pLftDb.epDumpLftBlockTbl.count)
  lftTop : d.lftTopPart.Blank
    (ssaDb.pLftDb.epDbLftTopTbl.count + ssaDb.pLftDb.epDumpLftTopTbl.count)

private theorem unfilled_emptyDiff (mem : Mem) (ssaDb : SsaDatabase) :
    Unfilled mem ssaDb (emptyDiff mem ssaDb) := by
  have htables := tables_emptyDiff mem ssaDb
  have hblank : ∀ {α : Type} {t : SsaTableId} {b : Buf α} {n : Nat} {junk : Nat → α},
      b = Buf.malloc mem.addr n junk →
      DiffPart.Blank ⟨OrdMap.empty, OrdMap.empty, ⟨(emptyDiff mem ssaDb).dataset t, b⟩⟩ n := by
    rintro α t b n junk rfl
    rw [dataset_emptyDiff]
    exact ⟨rfl, rfl, ⟨rfl, rfl, rfl⟩, rfl⟩
  refine ⟨hblank (congrArg SmdbTables.guidToLid htables),
    hblank (congrArg SmdbTables.node htables), hblank (congrArg SmdbTables.link htables),
    hblank (congrArg SmdbTables.port htables), ?_,
    hblank (congrArg SmdbTables.lftBlock htables), hblank (congrArg SmdbTables.lftTop htables)⟩
  rw [htables, dataset_emptyDiff, emptyRef]

/-- The options leave the other tables as they are. -/
private theorem Unfilled.compareSubnetOpts (h : Unfilled mem ssaDb d) :
    Unfilled mem ssaDb
      (ssaDbDiffCompareSubnetOpts ssaDb.pPreviousDb ssaDb.pCurrentDb d) := by
  obtain ⟨hg, hn, hl, hp, hkd, hkt, hb, ht⟩ :=
    compareSubnetOpts_parts ssaDb.pPreviousDb ssaDb.pCurrentDb d
  refine ⟨?_, ?_, ?_, ?_, ?_, ?_, ?_⟩
  · rw [hg]
    exact h.guidToLid
  · rw [hn]
    exact h.node
  · rw [hl]
    exact h.link
  · rw [hp]
    exact h.port
  · rw [hkd, hkt]
    exact h.pkey
  · rw [hb]
    exact h.lftBlock
  · rw [ht]
    exact h.lftTop

/-- A diff after the walks: the LFT tables are still blank. -/
private structure Walked (mem : Mem) (ssaDb : SsaDatabase) (d : SsaDbDiff) : Prop where
  guidToLid : d.guidToLidPart.FilledWith SsaTableId.guidToLid.recSize
    (ssaDb.pCurrentDb.epGuidToLidTbl.count + ssaDb.pPreviousDb.epGuidToLidTbl.count)
    (guidToLidOps ssaDb.pPreviousDb ssaDb.pCurrentDb)
  node : d.nodePart.FilledWith SsaTableId.node.recSize
    (ssaDb.pCurrentDb.epNodeTbl.count + ssaDb.pPreviousDb.epNodeTbl.count)
    (nodeOps ssaDb.pPreviousDb ssaDb.pCurrentDb)
  link : d.linkPart.FilledWith SsaTableId.link.recSize
    (ssaDb.pCurrentDb.epLinkTbl.count + ssaDb.pPreviousDb.epLinkTbl.count)
    (linkOps ssaDb.pPreviousDb ssaDb.pCurrentDb)
  port : d.portPart.FilledWith SsaTableId.port.recSize
    (ssaDb.pCurrentDb.epPortTbl.count + ssaDb.pPreviousDb.epPortTbl.count)
    (portDiffOps mem ssaDb.pPreviousDb ssaDb.pCurrentDb)
  pkeyDataset : d.dataset .pkey = ((emptyRef mem ssaDb).appendAll ssaDb.pCurrentDb.pPkeyTbl
    (addedPorts mem ssaDb.pPreviousDb ssaDb.pCurrentDb)).pRefDataset
  pkeyTable : d.tables.pkey = ((emptyRef mem ssaDb).appendAll ssaDb.pCurrentDb.pPkeyTbl
    (addedPorts mem ssaDb.pPreviousDb ssaDb.pCurrentDb)).pDataRefTbl
  lftBlock : d.lftBlockPart.Blank
    (ssaDb.pLftDb.epDbLftBlockTbl.count + ssaDb.pLftDb.epDumpLftBlockTbl.count)
  lftTop : d.lftTopPart.Blank
    (ssaDb.pLftDb.epDbLftTopTbl.count + ssaDb.pLftDb.epDumpLftTopTbl.count)
  dirty : d.dirty = 0 ↔ ¬ SnapshotsDiffer mem ssaDb.pPreviousDb ssaDb.pCurrentDb

private theorem Unfilled.compareSubnetTables (h : Unfilled mem ssaDb d)
    (hopts : d.dirty = 0 ↔ ¬ OptsDiffer ssaDb.pPreviousDb ssaDb.pCurrentDb) :
    Walked mem ssaDb
      (ssaDbDiffCompareSubnetTables mem ssaDb.pPreviousDb ssaDb.pCurrentDb d) := by
  have hg := compareGuidToLid_spec ssaDb.pPreviousDb ssaDb.pCurrentDb h.guidToLid
  have hn := compareNode_spec ssaDb.pPreviousDb ssaDb.pCurrentDb h.node
  have hl := compareLink_spec ssaDb.pPreviousDb ssaDb.pCurrentDb h.link
  have hp := comparePort_spec mem ssaDb.pPreviousDb ssaDb.pCurrentDb h.port
  rw [h.pkey] at hp
  have hzero := walksDirty_eq_zero hg.dirty hn.dirty hl.dirty hp.dirty
  rw [recOps_eq_nil, recOps_eq_nil, recOps_eq_nil, walkOps_eq_nil] at hzero
  obtain ⟨hgp, hnp, hlp, hpp, hkd, hkt, hb, ht, hdirty⟩ :=
    compareSubnetTables_parts mem ssaDb.pPreviousDb ssaDb.pCurrentDb d
  refine ⟨?_, ?_, ?_, ?_, ?_, ?_, ?_, ?_, ?_⟩
  · rw [hgp]
    exact hg.filled
  · rw [hnp]
    exact hn.filled
  · rw [hlp]
    exact hl.filled
  · rw [hpp]
    exact hp.filled
  · rw [hkd, hp.pRef]
    rfl
  · rw [hkt, hp.pRef]
    rfl
  · rw [hb]
    exact h.lftBlock
  · rw [ht]
    exact h.lftTop
  · rw [hdirty, SnapshotsDiffer, not_or, not_or, not_or, not_or, ← hopts]
    by_cases hw : walksDirty (compareGuidToLid ssaDb.pPreviousDb ssaDb.pCurrentDb d)
        (compareNode ssaDb.pPreviousDb ssaDb.pCurrentDb d)
        (compareLink ssaDb.pPreviousDb ssaDb.pCurrentDb d)
        (comparePort mem ssaDb.pPreviousDb ssaDb.pCurrentDb d) = 0
    · rw [if_neg (not_not.mpr hw)]
      exact ⟨fun hd => ⟨hd, hzero.mp hw⟩, And.left⟩
    · rw [if_pos hw]
      exact ⟨fun hd => absurd hd (by decide), fun hd => absurd (hzero.mpr hd.2) hw⟩

private theorem Walked.lftIntoDiff (h : Walked mem ssaDb d) :
    DiffSpec mem firstTimeSubnetUp ssaDb
      (lftIntoDiff d (pushedBlockMap firstTimeSubnetUp ssaDb.pLftDb)
        (pushedTopMap firstTimeSubnetUp ssaDb.pLftDb)
        (pushedBlockTbl firstTimeSubnetUp ssaDb.pLftDb)
        (pushedTopTbl firstTimeSubnetUp ssaDb.pLftDb)) := by
  obtain ⟨hg, hn, hl, hp, hkd, hkt, hb, ht, hdirty⟩ :=
    lftIntoDiff_parts h.lftBlock h.lftTop (pushedBlockMap firstTimeSubnetUp ssaDb.pLftDb)
      (pushedTopMap firstTimeSubnetUp ssaDb.pLftDb)
      (pushedBlockTbl firstTimeSubnetUp ssaDb.pLftDb)
      (pushedTopTbl firstTimeSubnetUp ssaDb.pLftDb)
  refine ⟨?_, ?_, ?_, ?_, hkd.trans h.pkeyDataset, hkt.trans h.pkeyTable, hb, ht, ?_⟩
  · rw [hg]
    exact h.guidToLid
  · rw [hn]
    exact h.node
  · rw [hl]
    exact h.link
  · rw [hp]
    exact h.port
  · rw [hdirty]
    exact h.dirty

end Stages

/-- `ssa_db_compare` up to its dirty check fills every table as specified. -/
theorem buildDiff_spec (mem : Mem) (firstTimeSubnetUp : Bool) (ssaDb : SsaDatabase) :
    DiffSpec mem firstTimeSubnetUp ssaDb (buildDiff mem firstTimeSubnetUp ssaDb).1 := by
  have hbuild : (buildDiff mem firstTimeSubnetUp ssaDb).1
      = lftIntoDiff
          (ssaDbDiffCompareSubnetTables mem ssaDb.pPreviousDb ssaDb.pCurrentDb
            (ssaDbDiffCompareSubnetOpts ssaDb.pPreviousDb ssaDb.pCurrentDb
              (emptyDiff mem ssaDb)))
          (pushedBlockMap firstTimeSubnetUp ssaDb.pLftDb)
          (pushedTopMap firstTimeSubnetUp ssaDb.pLftDb)
          (pushedBlockTbl firstTimeSubnetUp ssaDb.pLftDb)
          (pushedTopTbl firstTimeSubnetUp ssaDb.pLftDb) := by
    rw [buildDiff]
    cases firstTimeSubnetUp <;> rfl
  have hopts := dirty_compareSubnetOpts ssaDb.pPreviousDb ssaDb.pCurrentDb
    (show (emptyDiff mem ssaDb).dirty = 0 from rfl)
  rw [hbuild]
  exact ((unfilled_emptyDiff mem ssaDb).compareSubnetOpts.compareSubnetTables hopts).lftIntoDiff

end Ibssa
