import Ibssa.Core.Database

/-!
# Taking a snapshot, and draining LFT changes (`ssa_extract.c`)

`ssaDbExtract` is `ssa_db_extract`: one loop over the nodes, one that counts
pkeys, one over the end ports, each a fold over the items of an OpenSM map
with the function's local variables as its state. A `continue` of the source
is a branch that returns the state without the rest of the body.

`ssaDbLftHandle` drains the queue of LFT changes into the dump, and
`ssaDbUpdate` rotates the three snapshots.
-/

namespace Ibssa

open Keyed ByteOrder

/-! ## The loop over the nodes -/

/-- The local variables the loop over the nodes changes. -/
structure NodeLoop where
  pSsa : SsaDbExtract
  pLftDb : SsaDbLft
  nodeOffset : Nat
  lftTopOffset : Nat
  lftBlockOffset : Nat
  switchPortsNum : UInt32
  lidHo : UInt16

/-- Write the node's record and map its GUID to it. -/
def addNode (st : NodeLoop) (pNode : OsmNode) : NodeLoop :=
  { st with
    pSsa :=
      { st.pSsa with
        pNodeTbl := st.pSsa.pNodeTbl.write st.nodeOffset (epNodeTblRecInit pNode)
        epNodeTbl := st.pSsa.epNodeTbl.insert pNode.nodeGuid st.nodeOffset }
    nodeOffset := st.nodeOffset + 1
    switchPortsNum :=
      if pNode.isSwitch then st.switchPortsNum + pNode.sw.numPorts.toUInt32
      else st.switchPortsNum }

/-- One LFT block of a switch. -/
def addLftBlock (pSw : OsmSwitch) (st : NodeLoop) (i : Nat) : NodeLoop :=
  { st with
    pLftDb :=
      { st.pLftDb with
        pDbLftBlockTbl :=
          st.pLftDb.pDbLftBlockTbl.write st.lftBlockOffset
            (epLftBlockTblRecInit pSw st.lidHo (UInt16.ofNat i))
        epDbLftBlockTbl :=
          st.pLftDb.epDbLftBlockTbl.insert (epRecGenKey st.lidHo (UInt16.ofNat i))
            st.lftBlockOffset }
    lftBlockOffset := st.lftBlockOffset + 1 }

/-- The LFT top of a switch, under its base LID. -/
def addLftTop (st : NodeLoop) (pNode : OsmNode) : NodeLoop :=
  let lidHo := ntohs (pNode.baseLid 0)
  { st with
    pLftDb :=
      { st.pLftDb with
        pDbLftTopTbl :=
          st.pLftDb.pDbLftTopTbl.write st.lftTopOffset
            (epLftTopTblRecInit lidHo pNode.sw.lftSize)
        epDbLftTopTbl := st.pLftDb.epDbLftTopTbl.insert lidHo.toUInt64 st.lftTopOffset }
    lftTopOffset := st.lftTopOffset + 1
    lidHo := lidHo }

/-- The full LFT of a switch: its top, and one record for each whole block. -/
def addLft (st : NodeLoop) (pNode : OsmNode) : NodeLoop :=
  let maxBlock := pNode.sw.lftSize.toNat / ibSmpDataSize
  (List.range maxBlock).foldl (addLftBlock pNode.sw) (addLftTop st pNode)

def nodeLoopBody (firstTimeSubnetUp : Bool) (st : NodeLoop) (pNode : OsmNode) : NodeLoop :=
  let st := addNode st pNode
  if !firstTimeSubnetUp then st
  else if pNode.isSwitch then addLft st pNode
  else st

/-! ## The loop over the end ports -/

/-- The local variables the loop over the end ports changes. -/
structure PortLoop where
  pSsa : SsaDbExtract
  guidToLidOffset : Nat
  portOffset : Nat
  linkOffset : Nat
  pkeyBaseOffset : Nat
  pkeyCurOffset : Nat
  lidHo : UInt16

def addGuidToLid (s : OsmSubn) (st : PortLoop) (pPort : OsmPort) : PortLoop :=
  { st with
    pSsa :=
      { st.pSsa with
        pGuidToLidTbl :=
          st.pSsa.pGuidToLidTbl.write st.guidToLidOffset (epGuidToLidTblRecInit s pPort)
        epGuidToLidTbl :=
          st.pSsa.epGuidToLidTbl.insert (s.physp pPort.pPhysp).portGuid st.guidToLidOffset }
    guidToLidOffset := st.guidToLidOffset + 1 }

/-- One pkey, behind those already copied for this port. -/
def addPkey (st : PortLoop) (pPkey : UInt16) : PortLoop :=
  { st with
    pSsa :=
      { st.pSsa with
        pPkeyTbl := st.pSsa.pPkeyTbl.write (st.pkeyBaseOffset + st.pkeyCurOffset) pPkey }
    pkeyCurOffset := st.pkeyCurOffset + 1 }

def addPort (st : PortLoop) (epRecKey : UInt64) (pRec : EpPortTblRec) : PortLoop :=
  { st with
    pSsa :=
      { st.pSsa with
        pPortTbl := st.pSsa.pPortTbl.write st.portOffset pRec
        epPortTbl := st.pSsa.epPortTbl.insert epRecKey st.portOffset }
    portOffset := st.portOffset + 1 }

def addLink (st : PortLoop) (epRecKey : UInt64) (pRec : EpLinkTblRec) : PortLoop :=
  { st with
    pSsa :=
      { st.pSsa with
        pLinkTbl := st.pSsa.pLinkTbl.write st.linkOffset pRec
        epLinkTbl := st.pSsa.epLinkTbl.insert epRecKey st.linkOffset }
    linkOffset := st.linkOffset + 1 }

/-- The pkey fields of a port record: where the port's pkeys start, in
entries, and their size in bytes. -/
def withPkeys (st : PortLoop) (pRec : EpPortTblRec) : EpPortTblRec :=
  { pRec with
    pkeyTblOffset := htonll st.pkeyBaseOffset
    pkeyTblSize := htons (UInt16.ofNat (st.pkeyCurOffset * SsaTableId.pkey.recSize)) }

/-- Physical port `i` of the switch that the end port `p_port` belongs to. -/
def addSwitchPhysp (s : OsmSubn) (pPort : OsmPort) (st : PortLoop) (i : Nat) : PortLoop :=
  let r : PhyspRef := ⟨pPort.pPhysp.node, i⟩
  let pPhysp := s.physp r
  if !pPhysp.valid then st
  else
    let st :=
      if i = 0 then
        (s.physp pPort.pPhysp).pkeys.foldl addPkey { st with lidHo := ntohs pPhysp.baseLid }
      else st
    let epRecKey := epRecGenKey st.lidHo pPhysp.portNum.toUInt16
    let pRec := { epPortTblRecInit s r with portLid := htons st.lidHo }
    let pRec := if i = 0 then withPkeys st pRec else pRec
    let st := addPort st epRecKey pRec
    match pPhysp.remote with
    | none => st
    | some pRemote => addLink st epRecKey (epLinkTblRecInit s r pRemote)

/-- The two assignments at the end of the loop body. -/
def nextPkeyBase (st : PortLoop) : PortLoop :=
  { st with pkeyBaseOffset := st.pkeyBaseOffset + st.pkeyCurOffset, pkeyCurOffset := 0 }

def portLoopBody (s : OsmSubn) (st : PortLoop) (pPort : OsmPort) : PortLoop :=
  let st := addGuidToLid s st pPort
  let pNode := s.nodeOf pPort.pPhysp
  if pNode.isSwitch then
    nextPkeyBase ((List.range pNode.physpTblSize.toNat).foldl (addSwitchPhysp s pPort) st)
  else
    let pPhysp := s.physp pPort.pPhysp
    let epRecKey := epRecGenKey (ntohs pPhysp.baseLid) pPhysp.portNum.toUInt16
    let st := pPhysp.pkeys.foldl addPkey st
    let st := addPort st epRecKey (withPkeys st (epPortTblRecInit s pPort.pPhysp))
    match pPhysp.remote with
    -- the `continue` of the outer loop: the pkey offsets stay where they are
    | none => st
    | some pRemote =>
        nextPkeyBase (addLink st epRecKey (epLinkTblRecInit s pPort.pPhysp pRemote))

/-! ## `ssa_db_extract` -/

/-- `port_pkeys_num`, a 32-bit sum over the end ports. -/
def portPkeysNum (s : OsmSubn) : UInt32 :=
  s.portGuidTbl.items.foldl
    (fun n p => n + UInt32.ofNat (s.physp p.2.pPhysp).pkeys.length) 0

/-- The number of LFT blocks that room is made for. -/
def lftBlocksNum (s : OsmSubn) : UInt64 :=
  let lids := UInt16.ofNat s.portLidTblSize
  let lftTops := UInt16.ofNat s.swGuidTblCount
  let perSwitch :=
    if lids.toNat % ibSmpDataSize ≠ 0 then lids.toNat / ibSmpDataSize + 1
    else lids.toNat / ibSmpDataSize
  lftTops.toUInt64 * UInt64.ofNat perSwitch * ((1 : UInt64) <<< s.lmc.toUInt64)

/-- `if (!p) p = malloc(...)`. -/
def mallocIfNull {α : Type} (b : Buf α) (a : Addr) (n : Nat) (junk : Nat → α) : Buf α :=
  if b.isNull then Buf.malloc a n junk else b

/-- The state in which the loop over the nodes starts. -/
def nodeLoopInit (mem : Mem) (ssaDb : SsaDatabase) (s : OsmSubn) : NodeLoop where
  pSsa :=
    { ssaDb.pDumpDb with
      subnetPrefix := UInt64.ofNat (ntohll s.subnetPrefix)
      smState := s.smState
      lmc := s.lmc
      subnetTimeout := s.subnetTimeout
      allowBothPkeys := s.allowBothPkeys.toUInt8
      pNodeTbl :=
        mallocIfNull ssaDb.pDumpDb.pNodeTbl mem.addr
          (UInt32.ofNat s.nodeGuidTbl.count).toNat mem.node }
  pLftDb :=
    { ssaDb.pLftDb with
      pDbLftTopTbl :=
        mallocIfNull ssaDb.pLftDb.pDbLftTopTbl mem.addr
          (UInt16.ofNat s.swGuidTblCount).toNat mem.lftTop
      pDbLftBlockTbl :=
        mallocIfNull ssaDb.pLftDb.pDbLftBlockTbl mem.addr (lftBlocksNum s).toNat
          mem.lftBlock }
  nodeOffset := 0
  lftTopOffset := 0
  lftBlockOffset := 0
  switchPortsNum := 0
  lidHo := 0

def nodeLoop (mem : Mem) (firstTimeSubnetUp : Bool) (ssaDb : SsaDatabase) (s : OsmSubn) :
    NodeLoop :=
  (s.nodeGuidTbl.items.map fun p => s.deref p.2).foldl (nodeLoopBody firstTimeSubnetUp)
    (nodeLoopInit mem ssaDb s)

/-- The state in which the loop over the end ports starts. -/
def portLoopInit (mem : Mem) (s : OsmSubn) (st : NodeLoop) : PortLoop :=
  let guids := UInt32.ofNat s.portGuidTbl.count
  let links := guids + st.switchPortsNum
  let ports := links
  let pkeys := portPkeysNum s
  { pSsa :=
      { st.pSsa with
        pGuidToLidTbl :=
          mallocIfNull st.pSsa.pGuidToLidTbl mem.addr guids.toNat mem.guidToLid
        pLinkTbl := mallocIfNull st.pSsa.pLinkTbl mem.addr links.toNat mem.link
        pPortTbl := mallocIfNull st.pSsa.pPortTbl mem.addr ports.toNat mem.port
        pPkeyTbl := mallocIfNull st.pSsa.pPkeyTbl mem.pkeyAddr pkeys.toNat mem.pkey
        pkeyTblRecNum := pkeys.toNat }
    guidToLidOffset := 0
    portOffset := 0
    linkOffset := 0
    pkeyBaseOffset := 0
    pkeyCurOffset := 0
    lidHo := st.lidHo }

def portLoop (mem : Mem) (s : OsmSubn) (st : NodeLoop) : PortLoop :=
  (s.portGuidTbl.items.map Prod.snd).foldl (portLoopBody s) (portLoopInit mem s st)

/-- `ssa_db_extract`. The snapshot is taken into `p_dump_db`, and the first
time the LFTs of all switches go into the LFT database. -/
def ssaDbExtract (mem : Mem) (firstTimeSubnetUp : Bool) (ssaDb : SsaDatabase) (s : OsmSubn) :
    SsaDatabase :=
  let nodes := nodeLoop mem firstTimeSubnetUp ssaDb s
  let ports := portLoop mem s nodes
  { ssaDb with
    pDumpDb := { ports.pSsa with initialized := true }
    pLftDb := nodes.pLftDb }

/-! ## `ssa_db_lft_handle` -/

/-- Store a change in the dump: make room when the count has reached a
multiple of `SSA_TABLE_BLOCK_SIZE`, insert the key, and write the record
where the map says, which is the old place if the key was there. -/
def dumpChange {α : Type} (a : Addr) (junk : Nat → α) (map : EpMap) (tbl : Buf α)
    (key : UInt64) (pRec : α) : EpMap × Buf α :=
  let recNum := map.count
  let tbl :=
    if recNum % ssaTableBlockSize = 0 then
      tbl.realloc a ((recNum / ssaTableBlockSize + 1) * ssaTableBlockSize) junk
    else tbl
  let map := map.insert key recNum
  let recNum := (map.get? key).getD recNum
  (map, tbl.write recNum pRec)

/-- The LFT block record of a change, and its key. -/
def lftChangeBlockRec (c : SsaDbLftChangeRec) : EpLftBlockTblRec :=
  ⟨c.lid, htons c.blockNum.toUInt16, c.block⟩

def lftChangeBlockKey (c : SsaDbLftChangeRec) : UInt64 :=
  epRecGenKey (ntohs c.lid) c.blockNum.toUInt16

/-- The LFT top record of a change, and its key. -/
def lftChangeTopRec (c : SsaDbLftChangeRec) : EpLftTopTblRec := ⟨c.lid, htons c.lftTop⟩

def lftChangeTopKey (c : SsaDbLftChangeRec) : UInt64 := (ntohs c.lid).toUInt64

/-- One round of the loop over the queue. -/
def lftHandleChange (mem : Mem) (pLftDb : SsaDbLft) (c : SsaDbLftChangeRec) : SsaDbLft :=
  match c.flags with
  | .block =>
      let r := dumpChange mem.addr mem.lftBlock pLftDb.epDumpLftBlockTbl
        pLftDb.pDumpLftBlockTbl (lftChangeBlockKey c) (lftChangeBlockRec c)
      { pLftDb with epDumpLftBlockTbl := r.1, pDumpLftBlockTbl := r.2 }
  | .lftTop =>
      let r := dumpChange mem.addr mem.lftTop pLftDb.epDumpLftTopTbl
        pLftDb.pDumpLftTopTbl (lftChangeTopKey c) (lftChangeTopRec c)
      { pLftDb with epDumpLftTopTbl := r.1, pDumpLftTopTbl := r.2 }
  | .other _ => pLftDb

/-- `ssa_db_lft_handle`: drain the queue, under its lock. -/
def ssaDbLftHandle (mem : Mem) (ssaDb : SsaDatabase) : SsaDatabase :=
  { ssaDb with
    pLftDb := ssaDb.lftRecList.foldl (lftHandleChange mem) ssaDb.pLftDb
    lftRecList := [] }

/-! ## `ssa_db_update` -/

/-- `ssa_db_update`: the current snapshot becomes the previous one if it is
one, the dump becomes current, and a fresh dump takes its place. -/
def ssaDbUpdate (ssaDb : SsaDatabase) : SsaDatabase :=
  { ssaDb with
    pPreviousDb := if ssaDb.pCurrentDb.initialized then ssaDb.pCurrentDb else ssaDb.pPreviousDb
    pCurrentDb := ssaDb.pDumpDb
    pDumpDb := ssaDbExtractInit }

end Ibssa
