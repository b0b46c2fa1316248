import Ibssa.Core.Create
import Ibssa.Core.Worker
import Ibssa.Lib.Items

/-!
# The plugin's memory

`Worker` has the plugin's data and says nothing about where it lies. Here are the
same functions once more with what they ask of `malloc` and give to `free`: the
tables, the records that extraction builds entries in, one item for each insert
into a map, the change records `report` queues, and the diff with its SMDB. What
they read to decide about it is left to the functions `Worker` is made of. A
database stands where its pointer does, as no two pointers are ever to one
database (`Proofs.Versions`).

An allocation whose result the source does not look at before it uses it is
taken to be granted. Those that `construct` and `ssa_db_diff_init` check may be
refused.

`ssa_plugin.c`, `ssa_database.c`, `ssa_extract.c`, `ssa_comparison.c`.
-/

namespace Ibssa.Heap

open Lifetime Keyed ByteOrder
open Alloc (Ptr)

/-- A `cl_qmap_t`, by where its items lie. -/
abbrev QMap := Items UInt64 UInt64

/-- What the source leaves to the host: the sizes of the structs that hold types
of other packages, and what the memory of a new `ssa_db` held before. -/
structure Host where
  ssaEvents : UInt64
  ssaDatabase : UInt64
  ssaDbLft : UInt64
  ssaDbExtract : UInt64
  ssaDbDiff : UInt64
  epMapRec : UInt64
  ssaDbLftChangeRec : UInt64
  smdb : Alloc.SsaDb

structure SsaDbExtract where
  pSsaDb : Block UInt64
  pGuidToLidTbl : Ptr
  pNodeTbl : Ptr
  pLinkTbl : Ptr
  pPortTbl : Ptr
  pPkeyTbl : Ptr
  epGuidToLidTbl : QMap
  epNodeTbl : QMap
  epPortTbl : QMap
  epLinkTbl : QMap
  initialized : Bool

structure SsaDbLft where
  pLftDb : Block UInt64
  pDbLftTopTbl : Ptr
  pDbLftBlockTbl : Ptr
  pDumpLftTopTbl : Ptr
  pDumpLftBlockTbl : Ptr
  epDbLftBlockTbl : QMap
  epDbLftTopTbl : QMap
  epDumpLftBlockTbl : QMap
  epDumpLftTopTbl : QMap

/-- The plugin's pointers. A queued change record is kept with its block. -/
structure Memory where
  ssa : Block UInt64
  ssaDb : Block UInt64
  pLftDb : SsaDbLft
  pCurrentDb : SsaDbExtract
  pPreviousDb : SsaDbExtract
  pDumpDb : SsaDbExtract
  lftRecList : List (SsaDbLftChangeRec × Block UInt64)
  ledger : Ledger UInt64

/-- `sizeof(record) * n`. -/
def tblSize (t : SsaTableId) (n : Nat) : UInt64 := UInt64.ofNat t.recSize * UInt64.ofNat n

/-- `if (!p) p = malloc(...)`. -/
def mallocIfNull (p : Ptr) (size : UInt64) (l : Ledger UInt64) : Ptr × Ledger UInt64 :=
  match p with
  | none =>
      let r := l.get size
      (some r.1, r.2)
  | some b => (some b, l)

section

variable (host : Host)

/-! ## `ssa_db_extract` -/

/-- The local variables of the loop over the nodes that matter here. -/
structure NodeLoop where
  pSsa : SsaDbExtract
  pLftDb : SsaDbLft
  switchPortsNum : UInt32
  lidHo : UInt16
  ledger : Ledger UInt64

def addNode (st : NodeLoop) (pNode : OsmNode) : NodeLoop :=
  let r := st.pSsa.epNodeTbl.add host.epMapRec pNode.nodeGuid st.ledger
  { st with
    pSsa := { st.pSsa with epNodeTbl := r.1 }
    switchPortsNum :=
      if pNode.isSwitch then st.switchPortsNum + pNode.sw.numPorts.toUInt32
      else st.switchPortsNum
    ledger := r.2 }

def addLftBlock (st : NodeLoop) (i : Nat) : NodeLoop :=
  let r := st.pLftDb.epDbLftBlockTbl.add host.epMapRec (epRecGenKey st.lidHo (UInt16.ofNat i))
    st.ledger
  { st with pLftDb := { st.pLftDb with epDbLftBlockTbl := r.1 }, ledger := r.2 }

def addLftTop (st : NodeLoop) (pNode : OsmNode) : NodeLoop :=
  let lidHo := ntohs (pNode.baseLid 0)
  let r := st.pLftDb.epDbLftTopTbl.add host.epMapRec lidHo.toUInt64 st.ledger
  { st with
    pLftDb := { st.pLftDb with epDbLftTopTbl := r.1 }
    lidHo := lidHo
    ledger := r.2 }

def addLft (st : NodeLoop) (pNode : OsmNode) : NodeLoop :=
  let maxBlock := pNode.sw.lftSize.toNat / ibSmpDataSize
  (List.range maxBlock).foldl (addLftBlock host) (addLftTop host st pNode)

def nodeLoopBody (firstTimeSubnetUp : Bool) (st : NodeLoop) (pNode : OsmNode) : NodeLoop :=
  let st := addNode host st pNode
  if !firstTimeSubnetUp then st
  else if pNode.isSwitch then addLft host st pNode
  else st

/-- The local variables of the loop over the end ports that matter here. -/
structure PortLoop where
  pSsa : SsaDbExtract
  lidHo : UInt16
  ledger : Ledger UInt64

def addGuidToLid (s : OsmSubn) (st : PortLoop) (pPort : OsmPort) : PortLoop :=
  let r := st.pSsa.epGuidToLidTbl.add host.epMapRec (s.physp pPort.pPhysp).portGuid st.ledger
  { st with pSsa := { st.pSsa with epGuidToLidTbl := r.1 }, ledger := r.2 }

def addPort (st : PortLoop) (epRecKey : UInt64) : PortLoop :=
  let r := st.pSsa.epPortTbl.add host.epMapRec epRecKey st.ledger
  { st with pSsa := { st.pSsa with epPortTbl := r.1 }, ledger := r.2 }

def addLink (st : PortLoop) (epRecKey : UInt64) : PortLoop :=
  let r := st.pSsa.epLinkTbl.add host.epMapRec epRecKey st.ledger
  { st with pSsa := { st.pSsa with epLinkTbl := r.1 }, ledger := r.2 }

def addSwitchPhysp (s : OsmSubn) (pPort : OsmPort) (st : PortLoop) (i : Nat) : PortLoop :=
  let pPhysp := s.physp ⟨pPort.pPhysp.node, i⟩
  if !pPhysp.valid then st
  else
    let st := if i = 0 then { st with lidHo := ntohs pPhysp.baseLid } else st
    let epRecKey := epRecGenKey st.lidHo pPhysp.portNum.toUInt16
    let st := addPort host st epRecKey
    match pPhysp.remote with
    | none => st
    | some _ => addLink host st epRecKey

def portLoopBody (s : OsmSubn) (st : PortLoop) (pPort : OsmPort) : PortLoop :=
  let st := addGuidToLid host s st pPort
  let pNode := s.nodeOf pPort.pPhysp
  if pNode.isSwitch then
    (List.range pNode.physpTblSize.toNat).foldl (addSwitchPhysp host s pPort) st
  else
    let pPhysp := s.physp pPort.pPhysp
    let epRecKey := epRecGenKey (ntohs pPhysp.baseLid) pPhysp.portNum.toUInt16
    let st := addPort host st epRecKey
    match pPhysp.remote with
    | none => st
    | some _ => addLink host st epRecKey

/-- The records that entries are built in before they are copied to their tables,
those allocated before the loop over the nodes and those allocated after it. -/
structure NodeScratch where
  pNodeTblRec : Block UInt64
  pLftTopTblRec : Block UInt64
  pLftBlockTblRec : Block UInt64

structure PortScratch where
  pGuidToLidTblRec : Block UInt64
  pLinkTblRec : Block UInt64
  pPortTblRec : Block UInt64

/-- What is allocated before the loop over the nodes. -/
def nodeLoopInit (s : OsmSubn) (m : Memory) : NodeLoop × NodeScratch :=
  let nodes := UInt32.ofNat s.nodeGuidTbl.count
  let nodeTbl := mallocIfNull m.pDumpDb.pNodeTbl (tblSize .node nodes.toNat) m.ledger
  let nodeRec := nodeTbl.2.get (tblSize .node 1)
  let lftTops := UInt16.ofNat s.swGuidTblCount
  let topTbl := mallocIfNull m.pLftDb.pDbLftTopTbl (tblSize .lftTop lftTops.toNat) nodeRec.2
  let topRec := topTbl.2.get (tblSize .lftTop 1)
  let blockTbl := mallocIfNull m.pLftDb.pDbLftBlockTbl
    (tblSize .lftBlock (lftBlocksNum s).toNat) topRec.2
  let blockRec := blockTbl.2.get (tblSize .lftBlock 1)
  ({ pSsa := { m.pDumpDb with pNodeTbl := nodeTbl.1 }
     pLftDb := { m.pLftDb with pDbLftTopTbl := topTbl.1, pDbLftBlockTbl := blockTbl.1 }
     switchPortsNum := 0
     lidHo := 0
     ledger := blockRec.2 },
    ⟨nodeRec.1, topRec.1, blockRec.1⟩)

def nodeLoop (firstTimeSubnetUp : Bool) (s : OsmSubn) (st : NodeLoop) : NodeLoop :=
  (s.nodeGuidTbl.items.map fun p => s.deref p.2).foldl (nodeLoopBody host firstTimeSubnetUp) st

/-- What is allocated between the loops. -/
def portLoopInit (s : OsmSubn) (st : NodeLoop) : PortLoop × PortScratch :=
  let guids := UInt32.ofNat s.portGuidTbl.count
  let guidToLidTbl := mallocIfNull st.pSsa.pGuidToLidTbl (tblSize .guidToLid guids.toNat) st.ledger
  let guidToLidRec := guidToLidTbl.2.get (tblSize .guidToLid 1)
  let links := guids + st.switchPortsNum
  let linkTbl := mallocIfNull st.pSsa.pLinkTbl (tblSize .link links.toNat) guidToLidRec.2
  let linkRec := linkTbl.2.get (tblSize .link 1)
  let ports := links
  let portTbl := mallocIfNull st.pSsa.pPortTbl (tblSize .port ports.toNat) linkRec.2
  let portRec := portTbl.2.get (tblSize .port 1)
  let pkeys := portPkeysNum s
  let pkeyTbl := mallocIfNull st.pSsa.pPkeyTbl (tblSize .pkey pkeys.toNat) portRec.2
  ({ pSsa :=
      { st.pSsa with
        pGuidToLidTbl := guidToLidTbl.1
        pLinkTbl := linkTbl.1
        pPortTbl := portTbl.1
        pPkeyTbl := pkeyTbl.1 }
     lidHo := st.lidHo
     ledger := pkeyTbl.2 },
    ⟨guidToLidRec.1, linkRec.1, portRec.1⟩)

def portLoop (s : OsmSubn) (st : PortLoop) : PortLoop :=
  (s.portGuidTbl.items.map Prod.snd).foldl (portLoopBody host s) st

/-- The six calls of `free` at the end of `ssa_db_extract`. -/
def freeScratch (a : NodeScratch) (b : PortScratch) (l : Ledger UInt64) : Ledger UInt64 :=
  let l := l.free (some b.pPortTblRec)
  let l := l.free (some b.pLinkTblRec)
  let l := l.free (some b.pGuidToLidTblRec)
  let l := l.free (some a.pLftBlockTblRec)
  let l := l.free (some a.pLftTopTblRec)
  l.free (some a.pNodeTblRec)

/-- `ssa_db_extract`. -/
def ssaDbExtract (firstTimeSubnetUp : Bool) (s : OsmSubn) (m : Memory) : Memory :=
  let a := nodeLoopInit s m
  let nodes := nodeLoop host firstTimeSubnetUp s a.1
  let b := portLoopInit s nodes
  let ports := portLoop host s b.1
  { m with
    pDumpDb := { ports.pSsa with initialized := true }
    pLftDb := nodes.pLftDb
    ledger := freeScratch a.2 b.2 ports.ledger }

/-! ## `report` and `ssa_db_lft_handle` -/

/-- The size of a change record. The block comes with the block flag only. -/
def lftChangeRecSize (flags : LftChangeFlags) : UInt64 :=
  match flags with
  | .block => host.ssaDbLftChangeRec + UInt64.ofNat ibSmpDataSize
  | _ => host.ssaDbLftChangeRec

/-- `report` on `OSM_EVENT_ID_LFT_CHANGE`. -/
def reportLftChange (pLftChange : Option OsmEpiLftChangeEvent) (m : Memory) : Memory :=
  match pLftChange with
  | none => m
  | some e =>
      match e.pSw with
      | none => m
      | some pSw =>
          let r := m.ledger.get (lftChangeRecSize host e.flags)
          { m with
            lftRecList := m.lftRecList ++ [(lftChangeRec pSw e, r.1)]
            ledger := r.2 }

/-- What storing a change in the dump allocates and frees: a record to build it
in, room when the count has reached a multiple of `SSA_TABLE_BLOCK_SIZE`, and an
item, which is freed if the key has one. -/
def dumpChange (t : SsaTableId) (map : QMap) (tbl : Ptr) (key : UInt64) (l : Ledger UInt64) :
    (QMap × Ptr) × Ledger UInt64 :=
  let pRec := l.get (tblSize t 1)
  let recNum := map.count
  let tbl :=
    if recNum % ssaTableBlockSize = 0 then
      let r := pRec.2.regrow tbl
        (tblSize t ((recNum / ssaTableBlockSize + 1) * ssaTableBlockSize))
      (some r.1, r.2)
    else (tbl, pRec.2)
  let map := map.addOrFree host.epMapRec key tbl.2
  ((map.1, tbl.1), map.2.free (some pRec.1))

/-- One round of the loop over the queue, which ends with the record freed. -/
def lftHandleChange (st : SsaDbLft × Ledger UInt64) (c : SsaDbLftChangeRec × Block UInt64) :
    SsaDbLft × Ledger UInt64 :=
  let pLftDb := st.1
  match c.1.flags with
  | .block =>
      let r := dumpChange host .lftBlock pLftDb.epDumpLftBlockTbl pLftDb.pDumpLftBlockTbl
        (lftChangeBlockKey c.1) st.2
      ({ pLftDb with epDumpLftBlockTbl := r.1.1, pDumpLftBlockTbl := r.1.2 },
        r.2.free (some c.2))
  | .lftTop =>
      let r := dumpChange host .lftTop pLftDb.epDumpLftTopTbl pLftDb.pDumpLftTopTbl
        (lftChangeTopKey c.1) st.2
      ({ pLftDb with epDumpLftTopTbl := r.1.1, pDumpLftTopTbl := r.1.2 }, r.2.free (some c.2))
  | .other _ => (pLftDb, st.2.free (some c.2))

/-- `ssa_db_lft_handle`. -/
def ssaDbLftHandle (m : Memory) : Memory :=
  let r := m.lftRecList.foldl (lftHandleChange host) (m.pLftDb, m.ledger)
  { m with pLftDb := r.1, lftRecList := [], ledger := r.2 }

/-! ## `ssa_db_update` -/

/-- `ssa_db_extract_init`, which must not be refused here. -/
def ssaDbExtractInit (pSsaDb : Block UInt64) : SsaDbExtract where
  pSsaDb := pSsaDb
  pGuidToLidTbl := none
  pNodeTbl := none
  pLinkTbl := none
  pPortTbl := none
  pPkeyTbl := none
  epGuidToLidTbl := OrdMap.empty
  epNodeTbl := OrdMap.empty
  epPortTbl := OrdMap.empty
  epLinkTbl := OrdMap.empty
  initialized := false

/-- `ssa_db_remove`. -/
def ssaDbRemove (pSsaDb : SsaDbExtract) (l : Ledger UInt64) : SsaDbExtract × Ledger UInt64 :=
  if !pSsaDb.initialized then (pSsaDb, l)
  else
    let l := pSsaDb.epGuidToLidTbl.drop l
    let l := pSsaDb.epNodeTbl.drop l
    let l := pSsaDb.epPortTbl.drop l
    let l := pSsaDb.epLinkTbl.drop l
    ({ pSsaDb with
       epGuidToLidTbl := OrdMap.empty
       epNodeTbl := OrdMap.empty
       epPortTbl := OrdMap.empty
       epLinkTbl := OrdMap.empty
       initialized := false }, l)

/-- `ssa_db_extract_delete`. -/
def ssaDbExtractDelete (pSsaDb : SsaDbExtract) (l : Ledger UInt64) : Ledger UInt64 :=
  let l := l.free pSsaDb.pPkeyTbl
  let l := l.free pSsaDb.pPortTbl
  let l := l.free pSsaDb.pLinkTbl
  let l := l.free pSsaDb.pGuidToLidTbl
  let l := l.free pSsaDb.pNodeTbl
  let l := pSsaDb.epGuidToLidTbl.drop l
  let l := pSsaDb.epNodeTbl.drop l
  let l := pSsaDb.epPortTbl.drop l
  let l := pSsaDb.epLinkTbl.drop l
  l.free (some pSsaDb.pSsaDb)

/-- The first half of `ssa_db_update`. -/
def updatePrevious (m : Memory) : Memory :=
  if m.pCurrentDb.initialized then
    let r := ssaDbRemove m.pPreviousDb m.ledger
    { m with pPreviousDb := m.pCurrentDb, ledger := ssaDbExtractDelete r.1 r.2 }
  else m

/-- `ssa_db_update`. -/
def ssaDbUpdate (m : Memory) : Memory :=
  let m := updatePrevious m
  let r := m.ledger.get host.ssaDbExtract
  { m with pCurrentDb := m.pDumpDb, pDumpDb := ssaDbExtractInit r.1, ledger := r.2 }

/-! ## `ssa_db_compare` -/

structure SsaDbDiff where
  pSsaDbDiff : Block UInt64
  pSmdb : Option Alloc.SsaDb
  epGuidToLidTblAdded : QMap
  epNodeTblAdded : QMap
  epPortTblAdded : QMap
  epLinkTblAdded : QMap
  epGuidToLidTblRemoved : QMap
  epNodeTblRemoved : QMap
  epPortTblRemoved : QMap
  epLinkTblRemoved : QMap
  epLftBlockTbl : QMap
  epLftTopTbl : QMap

/-- `num_recs_arr` of `ssa_db_smdb_init`, as `ssa_db_compare` asks for it. -/
def numRecsArr (ssaDb : Ibssa.SsaDatabase) : List Nat :=
  [1,
    ssaDb.pCurrentDb.epGuidToLidTbl.count + ssaDb.pPreviousDb.epGuidToLidTbl.count,
    ssaDb.pCurrentDb.epNodeTbl.count + ssaDb.pPreviousDb.epNodeTbl.count,
    ssaDb.pCurrentDb.epLinkTbl.count + ssaDb.pPreviousDb.epLinkTbl.count,
    ssaDb.pCurrentDb.epPortTbl.count + ssaDb.pPreviousDb.epPortTbl.count,
    ssaDb.pCurrentDb.pkeyTblRecNum,
    ssaDb.pLftDb.epDbLftTopTbl.count + ssaDb.pLftDb.epDumpLftTopTbl.count,
    ssaDb.pLftDb.epDbLftBlockTbl.count + ssaDb.pLftDb.epDumpLftBlockTbl.count]

/-- An array of `ssa_db_smdb_init`. -/
def smdbArr (l : List Nat) (i : Nat) : UInt64 := UInt64.ofNat (l.getD i 0)

/-- `ssa_db_smdb_init`. -/
def ssaDbSmdbInit (numRecs : List Nat) (l : Ledger UInt64) :
    Option Alloc.SsaDb × Ledger UInt64 :=
  Alloc.ssaDbCreate (fun _ _ => false) (smdbArr numRecs)
    (smdbArr (ssaTableIds.map SsaTableId.recSize))
    (smdbArr (ssaTableIds.map SsaTableId.fieldIdMax)) (UInt64.ofNat ssaTableIdMax) host.smdb l

/-- `ssa_db_diff_init`, when its own allocation succeeds. -/
def ssaDbDiffInit (numRecs : List Nat) (l : Ledger UInt64) : SsaDbDiff × Ledger UInt64 :=
  let r := l.get host.ssaDbDiff
  let smdb := ssaDbSmdbInit host numRecs r.2
  ({ pSsaDbDiff := r.1
     pSmdb := smdb.1
     epGuidToLidTblAdded := OrdMap.empty
     epNodeTblAdded := OrdMap.empty
     epPortTblAdded := OrdMap.empty
     epLinkTblAdded := OrdMap.empty
     epGuidToLidTblRemoved := OrdMap.empty
     epNodeTblRemoved := OrdMap.empty
     epPortTblRemoved := OrdMap.empty
     epLinkTblRemoved := OrdMap.empty
     epLftBlockTbl := OrdMap.empty
     epLftTopTbl := OrdMap.empty }, smdb.2)

/-- `ssa_db_diff_destroy`. -/
def ssaDbDiffDestroy (d : SsaDbDiff) (l : Ledger UInt64) : Ledger UInt64 :=
  let l := Alloc.ssaDbDestroy d.pSmdb l
  let l := d.epGuidToLidTblAdded.drop l
  let l := d.epGuidToLidTblRemoved.drop l
  let l := d.epNodeTblAdded.drop l
  let l := d.epNodeTblRemoved.drop l
  let l := d.epPortTblAdded.drop l
  let l := d.epPortTblRemoved.drop l
  let l := d.epLinkTblAdded.drop l
  let l := d.epLinkTblRemoved.drop l
  let l := d.epLftBlockTbl.drop l
  let l := d.epLftTopTbl.drop l
  l.free (some d.pSsaDbDiff)

/-- What a walk over two tables changes. -/
structure TblDiff where
  pMapAdded : QMap
  pMapRemoved : QMap
  ledger : Ledger UInt64

/-- The part of the insert routines that allocates: each makes an item and hands
it to the map. -/
def TblDiff.remove (pItemOld : EpMapRec) (st : TblDiff) : TblDiff :=
  let r := st.pMapRemoved.add host.epMapRec pItemOld.1 st.ledger
  { st with pMapRemoved := r.1, ledger := r.2 }

def TblDiff.add (pItemNew : EpMapRec) (st : TblDiff) : TblDiff :=
  let r := st.pMapAdded.add host.epMapRec pItemNew.1 st.ledger
  { st with pMapAdded := r.1, ledger := r.2 }

/-- `ssa_db_diff_table_cmp_v2` and `ssa_db_diff_var_size_table_cmp`. -/
def tableCmp (cmp : EpMapRec → EpMapRec → Bool) (pMapOld pMapNew : EpMap) (st : TblDiff) :
    TblDiff :=
  walk cmp (TblDiff.remove host) (TblDiff.add host) pMapOld.items pMapNew.items st

/-- `ssa_db_diff_compare_subnet_tables`. -/
def ssaDbDiffCompareSubnetTables (mem : Mem) (pPreviousDb pCurrentDb : Ibssa.SsaDbExtract)
    (d : SsaDbDiff) (l : Ledger UInt64) : SsaDbDiff × Ledger UInt64 :=
  let guidToLid := tableCmp host
    (fun pItemOld pItemNew => ssaDbGuidToLidCmp pItemOld pPreviousDb.pGuidToLidTbl pItemNew
      pCurrentDb.pGuidToLidTbl)
    pPreviousDb.epGuidToLidTbl pCurrentDb.epGuidToLidTbl
    ⟨d.epGuidToLidTblAdded, d.epGuidToLidTblRemoved, l⟩
  let node := tableCmp host
    (fun pItemOld pItemNew => ssaDbNodeCmp pItemOld pPreviousDb.pNodeTbl pItemNew
      pCurrentDb.pNodeTbl)
    pPreviousDb.epNodeTbl pCurrentDb.epNodeTbl
    ⟨d.epNodeTblAdded, d.epNodeTblRemoved, guidToLid.ledger⟩
  let link := tableCmp host
    (fun pItemOld pItemNew => ssaDbLinkCmp pItemOld pPreviousDb.pLinkTbl pItemNew
      pCurrentDb.pLinkTbl)
    pPreviousDb.epLinkTbl pCurrentDb.epLinkTbl
    ⟨d.epLinkTblAdded, d.epLinkTblRemoved, node.ledger⟩
  let port := tableCmp host
    (fun pItemOld pItemNew => ssaDbPortCmp mem pItemOld pPreviousDb.pPortTbl
      pPreviousDb.pPkeyTbl pItemNew pCurrentDb.pPortTbl pCurrentDb.pPkeyTbl)
    pPreviousDb.epPortTbl pCurrentDb.epPortTbl
    ⟨d.epPortTblAdded, d.epPortTblRemoved, link.ledger⟩
  ({ d with
     epGuidToLidTblAdded := guidToLid.pMapAdded
     epGuidToLidTblRemoved := guidToLid.pMapRemoved
     epNodeTblAdded := node.pMapAdded
     epNodeTblRemoved := node.pMapRemoved
     epLinkTblAdded := link.pMapAdded
     epLinkTblRemoved := link.pMapRemoved
     epPortTblAdded := port.pMapAdded
     epPortTblRemoved := port.pMapRemoved }, port.ledger)

/-- One round of a copy between LFT maps: an item for a key that has none. -/
def lftQmapCopyRec (st : QMap × Ledger UInt64) (key : UInt64) : QMap × Ledger UInt64 :=
  match st.1.get? key with
  | some _ => st
  | none => st.1.add host.epMapRec key st.2

/-- `ep_lft_block_qmap_copy` and `ep_lft_top_qmap_copy`. -/
def lftQmapCopy (pDestQmap pSrcQmap : QMap) (l : Ledger UInt64) : QMap × Ledger UInt64 :=
  pSrcQmap.keys.foldl (lftQmapCopyRec host) (pDestQmap, l)

/-- Room in a database table for `newRecs` more records. -/
def growLftTbl (t : SsaTableId) (map : QMap) (newRecs : Nat) (tbl : Ptr) (l : Ledger UInt64) :
    Ptr × Ledger UInt64 :=
  if newRecs > 0 then
    let r := l.regrow tbl (tblSize t (map.count + newRecs))
    (some r.1, r.2)
  else (tbl, l)

/-- Apply the LFT changes to the database, and clear the dump. -/
def mergeLftDump (pLftDb : Ibssa.SsaDbLft) (p : SsaDbLft) (l : Ledger UInt64) :
    SsaDbLft × Ledger UInt64 :=
  let topTbl := growLftTbl .lftTop p.epDbLftTopTbl
    (ssaDbDiffNewQmapRecs pLftDb.epDbLftTopTbl pLftDb.epDumpLftTopTbl) p.pDbLftTopTbl l
  let blockTbl := growLftTbl .lftBlock p.epDbLftBlockTbl
    (ssaDbDiffNewQmapRecs pLftDb.epDbLftBlockTbl pLftDb.epDumpLftBlockTbl) p.pDbLftBlockTbl
    topTbl.2
  let block := lftQmapCopy host p.epDbLftBlockTbl p.epDumpLftBlockTbl blockTbl.2
  let top := lftQmapCopy host p.epDbLftTopTbl p.epDumpLftTopTbl block.2
  let l := p.epDumpLftBlockTbl.drop top.2
  let l := p.epDumpLftTopTbl.drop l
  ({ p with
     pDbLftTopTbl := topTbl.1
     pDbLftBlockTbl := blockTbl.1
     epDbLftTopTbl := top.1
     epDbLftBlockTbl := block.1
     epDumpLftBlockTbl := OrdMap.empty
     epDumpLftTopTbl := OrdMap.empty }, l)

/-- The copies of LFT records into the diff. -/
def lftIntoDiff (d : SsaDbDiff) (blockMap topMap : QMap) (l : Ledger UInt64) :
    SsaDbDiff × Ledger UInt64 :=
  let block := lftQmapCopy host d.epLftBlockTbl blockMap l
  let top := lftQmapCopy host d.epLftTopTbl topMap block.2
  ({ d with epLftBlockTbl := block.1, epLftTopTbl := top.1 }, top.2)

/-- `ssa_db_compare` before its dirty check. -/
def buildDiff (mem : Mem) (firstTimeSubnetUp : Bool) (ssaDb : Ibssa.SsaDatabase) (m : Memory) :
    SsaDbDiff × Memory :=
  let d := ssaDbDiffInit host (numRecsArr ssaDb) m.ledger
  let d := ssaDbDiffCompareSubnetTables host mem ssaDb.pPreviousDb ssaDb.pCurrentDb d.1 d.2
  let p := m.pLftDb
  if firstTimeSubnetUp then
    let d := lftIntoDiff host d.1 p.epDbLftBlockTbl p.epDbLftTopTbl d.2
    (d.1, { m with ledger := d.2 })
  else
    let d := lftIntoDiff host d.1 p.epDumpLftBlockTbl p.epDumpLftTopTbl d.2
    let r := mergeLftDump host ssaDb.pLftDb p d.2
    (d.1, { m with pLftDb := r.1, ledger := r.2 })

/-- `ssa_db_compare`. -/
def ssaDbCompare (mem : Mem) (alloc firstTimeSubnetUp : Bool) (ssaDb : Ibssa.SsaDatabase)
    (m : Memory) : Option SsaDbDiff × Memory :=
  if !alloc then (none, m)
  else
    let r := buildDiff host mem firstTimeSubnetUp ssaDb m
    if (Ibssa.buildDiff mem firstTimeSubnetUp ssaDb).1.dirty = 0 then
      (none, { r.2 with ledger := ssaDbDiffDestroy r.1 r.2.ledger })
    else (some r.1, r.2)

/-- The last call of a START_EXTRACT: `ssa_db_run` destroys the diff it has pushed. -/
def compareAndPush (mem : Mem) (alloc firstTimeSubnetUp : Bool) (ssaDb : Ibssa.SsaDatabase)
    (m : Memory) : Memory :=
  let r := ssaDbCompare host mem alloc firstTimeSubnetUp ssaDb m
  match r.1 with
  | none => r.2
  | some d => { r.2 with ledger := ssaDbDiffDestroy d r.2.ledger }

/-! ## Runs -/

/-- The worker, and the memory it works in. -/
structure Process where
  worker : Worker
  memory : Memory

/-- What a step of the worker does to the memory. -/
def memoryStep (w : Worker) (m : Memory) : Event → Memory
  | .report pLftChange => reportLftChange host pLftChange m
  | .lftChange _ => ssaDbLftHandle host m
  | .extract _ subn => ssaDbExtract host w.firstTimeSubnetUp subn m
  | .lftHandle _ => ssaDbLftHandle host m
  | .update => ssaDbUpdate host m
  | .compare mem alloc => compareAndPush host mem alloc w.firstTimeSubnetUp w.ssaDb m

def processStep (p : Process) (e : Event) : Option Process :=
  (workerStep p.worker e).map fun w => ⟨w, memoryStep host p.worker p.memory e⟩

/-! ## `construct` and `destroy` -/

/-- `ssa_database_init`. -/
def ssaDatabaseInit (fails : Nat → UInt64 → Bool) (l : Ledger UInt64) :
    Option (Block UInt64 × SsaDbLft) × Ledger UInt64 :=
  let r := l.malloc fails host.ssaDatabase
  match r.1 with
  | none => (none, r.2)
  | some pSsaDatabase =>
      let lft := r.2.malloc fails host.ssaDbLft
      match lft.1 with
      | none => (none, lft.2.free (some pSsaDatabase))
      | some pLftDb =>
          (some (pSsaDatabase,
            { pLftDb := pLftDb
              pDbLftTopTbl := none
              pDbLftBlockTbl := none
              pDumpLftTopTbl := none
              pDumpLftBlockTbl := none
              epDbLftBlockTbl := OrdMap.empty
              epDbLftTopTbl := OrdMap.empty
              epDumpLftBlockTbl := OrdMap.empty
              epDumpLftTopTbl := OrdMap.empty }), lft.2)

/-- `ssa_database_delete`. The queue is not looked at. -/
def ssaDatabaseDelete (m : Memory) : Ledger UInt64 :=
  let l := ssaDbExtractDelete m.pDumpDb m.ledger
  let l := ssaDbExtractDelete m.pPreviousDb l
  let l := ssaDbExtractDelete m.pCurrentDb l
  let p := m.pLftDb
  let l := p.epDbLftBlockTbl.drop l
  let l := p.epDbLftTopTbl.drop l
  let l := p.epDumpLftBlockTbl.drop l
  let l := p.epDumpLftTopTbl.drop l
  let l := l.free p.pDbLftBlockTbl
  let l := l.free p.pDumpLftBlockTbl
  let l := l.free p.pDbLftTopTbl
  let l := l.free p.pDumpLftTopTbl
  let l := l.free (some p.pLftDb)
  l.free (some m.ssaDb)

/-- What is left behind by a call that has ended the plugin: the ledger, and
whether the log is still open. The sockets are closed wherever they were opened. -/
structure Left where
  ledger : Ledger UInt64
  log : Bool

/-- Which of the calls that `construct` makes succeed. -/
structure Luck where
  fails : Nat → UInt64 → Bool
  openLog : Bool
  socketpair : Bool
  pthreadCreate : Bool

/-- `construct` from the first `ssa_db_extract_init` on. -/
def constructDbs (luck : Luck) (ssa ssaDb : Block UInt64) (pLftDb : SsaDbLft)
    (l : Ledger UInt64) : Except Left Memory :=
  let previous := l.malloc luck.fails host.ssaDbExtract
  match previous.1 with
  | none => .error ⟨previous.2, true⟩
  | some pPreviousDb =>
      let current := previous.2.malloc luck.fails host.ssaDbExtract
      match current.1 with
      | none =>
          .error ⟨ssaDbExtractDelete (ssaDbExtractInit pPreviousDb) current.2, true⟩
      | some pCurrentDb =>
          let dump := current.2.malloc luck.fails host.ssaDbExtract
          match dump.1 with
          | none =>
              let l := ssaDbExtractDelete (ssaDbExtractInit pPreviousDb) dump.2
              .error ⟨ssaDbExtractDelete (ssaDbExtractInit pCurrentDb) l, true⟩
          | some pDumpDb =>
              let m : Memory :=
                { ssa := ssa
                  ssaDb := ssaDb
                  pLftDb := pLftDb
                  pCurrentDb := ssaDbExtractInit pCurrentDb
                  pPreviousDb := ssaDbExtractInit pPreviousDb
                  pDumpDb := ssaDbExtractInit pDumpDb
                  lftRecList := []
                  ledger := dump.2 }
              if !luck.socketpair then .error ⟨ssaDatabaseDelete m, true⟩
              else if !luck.pthreadCreate then .error ⟨ssaDatabaseDelete m, true⟩
              else .ok m

/-- `construct`. -/
def construct (luck : Luck) : Except Left Memory :=
  let ssa := Ledger.empty.malloc luck.fails host.ssaEvents
  match ssa.1 with
  | none => .error ⟨ssa.2, false⟩
  | some pSsa =>
      if !luck.openLog then .error ⟨ssa.2.free (some pSsa), false⟩
      else
        let db := ssaDatabaseInit host luck.fails ssa.2
        match db.1 with
        | none => .error ⟨db.2.free (some pSsa), false⟩
        | some (ssaDb, pLftDb) => constructDbs host luck pSsa ssaDb pLftDb db.2

/-- `destroy`, once the worker has been joined. -/
def destroy (m : Memory) : Left := ⟨(ssaDatabaseDelete m).free (some m.ssa), false⟩

end

end Ibssa.Heap
