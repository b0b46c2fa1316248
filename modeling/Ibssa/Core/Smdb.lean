import Ibssa.Core.Db
import Ibssa.Core.Osm

/-!
# The SMDB schema and its records (`ssa_smdb.h`, `ssa_smdb.c`)

The records of the data tables, the routines that fill them from OpenSM's
structures, and the definition arrays an SMDB is initialised from.

LIDs and the two pkey fields of a port record are network-order fields that
the code converts; GUIDs are only moved. The padding of `ep_lft_top_tbl_rec`
is never written by anybody, so the record does not carry it; the padding of
the other records is part of them.
-/

namespace Ibssa

open Keyed ByteOrder

/-! ## Identifiers -/

/-- `enum ssa_db_smdb_table_id`. -/
inductive SsaTableId where
  | subnetOpts
  | guidToLid
  | node
  | link
  | port
  | pkey
  | lftTop
  | lftBlock
deriving DecidableEq, Inhabited, Repr

/-- The number of a data table. -/
def SsaTableId.num : SsaTableId → Nat
  | .subnetOpts => 0
  | .guidToLid => 1
  | .node => 2
  | .link => 3
  | .port => 4
  | .pkey => 5
  | .lftTop => 6
  | .lftBlock => 7

/-- `SSA_TABLE_ID_MAX`. -/
def ssaTableIdMax : Nat := 8

/-- `enum ssa_db_smdb_field_table_id`: the field table of a data table. -/
def SsaTableId.fieldDef (t : SsaTableId) : Nat := ssaTableIdMax + t.num

theorem SsaTableId.num_inj {t t' : SsaTableId} : t.num = t'.num ↔ t = t' := by
  cases t <;> cases t' <;> decide

/-- `SSA_TABLE_BLOCK_SIZE`. -/
def ssaTableBlockSize : Nat := 1024

/-- The number of fields of each table, the `_MAX` of its field enum. The
PKEY table has variable-size records and no field table. -/
def SsaTableId.fieldIdMax : SsaTableId → Nat
  | .subnetOpts => 6
  | .guidToLid => 4
  | .node => 4
  | .link => 4
  | .port => 7
  | .pkey => dbVariableSize.toNat
  | .lftTop => 2
  | .lftBlock => 3

/-! ## Records -/

structure EpSubnetOptsTblRec where
  changeMask : Be64
  subnetPrefix : Be64
  smState : UInt8
  lmc : UInt8
  subnetTimeout : UInt8
  allowBothPkeys : UInt8
  pad : Vector UInt8 4
deriving DecidableEq, Inhabited

structure EpGuidToLidTblRec where
  guid : UInt64
  lid : Be16
  lmc : UInt8
  isSwitch : UInt8
  pad : Vector UInt8 4
deriving DecidableEq, Inhabited

structure EpNodeTblRec where
  nodeGuid : UInt64
  isEnhancedSp0 : UInt8
  nodeType : UInt8
  description : Vector UInt8 64
  pad : Vector UInt8 6
deriving DecidableEq, Inhabited

structure EpLinkTblRec where
  fromLid : Be16
  toLid : Be16
  fromPortNum : UInt8
  toPortNum : UInt8
  pad : Vector UInt8 2
deriving DecidableEq, Inhabited

structure EpPortTblRec where
  pkeyTblOffset : Be64
  pkeyTblSize : Be16
  portLid : Be16
  portNum : UInt8
  neighborMtu : UInt8
  rate : UInt8
  vlEnforce : UInt8
deriving DecidableEq, Inhabited

structure EpLftTopTblRec where
  lid : Be16
  lftTop : Be16
deriving DecidableEq, Inhabited

structure EpLftBlockTblRec where
  lid : Be16
  blockNum : Be16
  block : Vector UInt8 64
deriving DecidableEq, Inhabited

/-- The record sizes, in bytes. A PKEY record is one 16-bit pkey. -/
def SsaTableId.recSize : SsaTableId → Nat
  | .subnetOpts => 24
  | .guidToLid => 16
  | .node => 80
  | .link => 8
  | .port => 16
  | .pkey => 2
  | .lftTop => 8
  | .lftBlock => 68

/-- `SSA_DB_PORT_RATE_MASK`, `SSA_DB_PORT_IS_SWITCH_MASK` and
`SSA_DB_PORT_IS_FDR10_ACTIVE_MASK`. -/
def ssaDbPortRateMask : UInt8 := 0x3F
def ssaDbPortIsSwitchMask : UInt8 := 0x40
def ssaDbPortIsFdr10ActiveMask : UInt8 := 0x80

/-- `SSA_DB_CHANGEMASK_*`. -/
def ssaDbChangemaskSubnetPrefix : UInt64 := (1 : UInt64) <<< 0
def ssaDbChangemaskSmState : UInt64 := (1 : UInt64) <<< 1
def ssaDbChangemaskLmc : UInt64 := (1 : UInt64) <<< 2
def ssaDbChangemaskSubnetTimeout : UInt64 := (1 : UInt64) <<< 3
def ssaDbChangemaskAllowBothPkeys : UInt64 := (1 : UInt64) <<< 4

/-! ## Filling records -/

def epGuidToLidTblRecInit (s : OsmSubn) (pPort : OsmPort) : EpGuidToLidTblRec where
  guid := (s.physp pPort.pPhysp).portGuid
  lid := (s.physp pPort.pPhysp).baseLid
  lmc := (s.physp pPort.pPhysp).lmc
  isSwitch := if (s.deref pPort.pNode).isSwitch then 1 else 0
  pad := Vector.replicate 4 0

def epNodeTblRecInit (pNode : OsmNode) : EpNodeTblRec where
  nodeGuid := pNode.nodeGuid
  isEnhancedSp0 := if pNode.isSwitch then pNode.sw.isEnhancedPort0 else 0
  nodeType := pNode.nodeType
  description := pNode.description
  pad := Vector.replicate 6 0

/-- The LID and port number by which `ep_link_tbl_rec_init` names one end of
a link: a switch by the base LID of its port 0 and the port's number, any
other node by the port's own base LID and port 0. -/
def linkEnd (s : OsmSubn) (r : PhyspRef) : Be16 × UInt8 :=
  if (s.nodeOf r).isSwitch then ((s.nodeOf r).baseLid 0, (s.physp r).portNum)
  else ((s.physp r).baseLid, 0)

def epLinkTblRecInit (s : OsmSubn) (pPhysp pRemotePhysp : PhyspRef) : EpLinkTblRec where
  fromLid := (linkEnd s pPhysp).1
  toLid := (linkEnd s pRemotePhysp).1
  fromPortNum := (linkEnd s pPhysp).2
  toPortNum := (linkEnd s pRemotePhysp).2
  pad := Vector.replicate 2 0

/-- The source asks OpenSM for a pointer to port 0 of a switch and reads through
it unchecked. OpenSM gives NULL when port 0 is not valid, and what happens then
is not modelled: the entry of the port table is read here all the same. -/
def epPortTblRecInit (s : OsmSubn) (r : PhyspRef) : EpPortTblRec :=
  let pPhysp := s.physp r
  -- external ports of a switch go by the capability mask of its port 0
  let pPi :=
    if (s.nodeOf r).isSwitch ∧ pPhysp.portNum > 0 then (s.nodeOf r).physpTable 0 else pPhysp
  let isFdr10Active := (if pPhysp.fdr10Active then 0xff else 0) &&& ssaDbPortIsFdr10ActiveMask
  let isSwitch := (if (s.nodeOf r).isSwitch then 0xff else 0) &&& ssaDbPortIsSwitchMask
  { pkeyTblOffset := htonll 0
    pkeyTblSize := htons 0
    portLid := pPhysp.baseLid
    portNum := pPhysp.portNum
    neighborMtu := pPhysp.neighborMtu
    rate :=
      (pPhysp.computeRate pPi.hasExtSpeeds &&& ssaDbPortRateMask) ||| isFdr10Active ||| isSwitch
    vlEnforce := pPhysp.vlEnforce }

/-- The 64 bytes of a forwarding table from entry `block * 64` on. -/
def lftBlockAt (lft : Nat → UInt8) (block : Nat) : Vector UInt8 64 :=
  Vector.ofFn fun i => lft (block * ibSmpDataSize + i)

def epLftBlockTblRecInit (pSw : OsmSwitch) (lid block : UInt16) : EpLftBlockTblRec where
  lid := htons lid
  blockNum := htons block
  block := lftBlockAt pSw.lft block.toNat

def epLftTopTblRecInit (lid lftTop : UInt16) : EpLftTopTblRec where
  lid := htons lid
  lftTop := htons lftTop

/-! ## The definition arrays -/

def dbTableId (n : Nat) : DbId := ⟨0, UInt8.ofNat n, 0⟩

def dataTblDef (t : SsaTableId) (name : String) (recordSize : Nat) (ref : Nat) :
    DbTableDef :=
  ⟨dbtDefVersion, UInt8.ofNat sizeofDbTableDef, dbtTypeData, 0, dbTableId t.num, name.toList,
    htonl (UInt32.ofNat recordSize), htonl (UInt32.ofNat ref)⟩

def fieldTblDef (t : SsaTableId) (name : String) : DbTableDef :=
  ⟨dbtDefVersion, UInt8.ofNat sizeofDbTableDef, dbtTypeDef, 0, dbTableId t.fieldDef,
    name.toList, htonl (UInt32.ofNat sizeofDbFieldDef), htonl (UInt32.ofNat t.num)⟩

/-- `def_tbl`. -/
def defTbl : List DbTableDef :=
  [dataTblDef .subnetOpts "SUBNET OPTS" SsaTableId.subnetOpts.recSize 0,
    fieldTblDef .subnetOpts "SUBNET OPTS fields",
    dataTblDef .guidToLid "GUID to LID" SsaTableId.guidToLid.recSize 0,
    fieldTblDef .guidToLid "GUID to LID fields",
    dataTblDef .node "NODE" SsaTableId.node.recSize 0,
    fieldTblDef .node "NODE fields",
    dataTblDef .link "LINK" SsaTableId.link.recSize 0,
    fieldTblDef .link "LINK fields",
    dataTblDef .port "PORT" SsaTableId.port.recSize 0,
    fieldTblDef .port "PORT fields",
    dataTblDef .pkey "PKEY" dbVariableSize.toNat SsaTableId.port.num,
    dataTblDef .lftTop "LFT TOP" SsaTableId.lftTop.recSize 0,
    fieldTblDef .lftTop "LFT TOP fields",
    dataTblDef .lftBlock "LFT BLOCK" SsaTableId.lftBlock.recSize 0,
    fieldTblDef .lftBlock "LFT BLOCK fields",
    { (default : DbTableDef) with version := dbVersionInvalid }]

def zeroDataset (table : Nat) : DbDataset :=
  ⟨dbDsVersion, sizeofDbDataset, 0, dbTableId table, htonll 0, htonll 0, htonll 0, htonll 0⟩

/-- The data tables in the order of their numbers. -/
def ssaTableIds : List SsaTableId :=
  [.subnetOpts, .guidToLid, .node, .link, .port, .pkey, .lftTop, .lftBlock]

def endDataset : DbDataset := { (default : DbDataset) with version := dbVersionInvalid }

/-- `dataset_tbl`. -/
def datasetTbl : List DbDataset :=
  ssaTableIds.map (fun t => zeroDataset t.num) ++ [endDataset]

/-- `field_dataset_tbl`. -/
def fieldDatasetTbl : List DbDataset :=
  ssaTableIds.map (fun t => zeroDataset t.fieldDef) ++ [endDataset]

def fieldEntry (type : UInt8) (t : SsaTableId) (field : UInt8) (name : String)
    (size offset : UInt32) : DbFieldDef :=
  ⟨dbfDefVersion, type, ⟨0, UInt8.ofNat t.fieldDef, field⟩, name.toList, htonl size,
    htonl offset⟩

/-- `field_tbl`. The entry named `description` carries the field id of
`is_enhanced_sp0`, as in the source. -/
def fieldTbl : List DbFieldDef :=
  [fieldEntry dbfTypeNet64 .subnetOpts 0 "change_mask" 64 0,
    fieldEntry dbfTypeNet64 .subnetOpts 1 "subnet_prefix" 64 64,
    fieldEntry dbfTypeU8 .subnetOpts 2 "sm_state" 8 128,
    fieldEntry dbfTypeU8 .subnetOpts 3 "lmc" 8 136,
    fieldEntry dbfTypeU8 .subnetOpts 4 "subnet_timeout" 8 144,
    fieldEntry dbfTypeU8 .subnetOpts 5 "allow_both_pkeys" 8 152,
    fieldEntry dbfTypeNet64 .guidToLid 0 "guid" 64 0,
    fieldEntry dbfTypeNet16 .guidToLid 1 "lid" 16 64,
    fieldEntry dbfTypeU8 .guidToLid 2 "lmc" 8 80,
    fieldEntry dbfTypeU8 .guidToLid 3 "is_switch" 8 88,
    fieldEntry dbfTypeNet64 .node 0 "node_guid" 64 0,
    fieldEntry dbfTypeU8 .node 1 "is_enhanced_sp0" 8 64,
    fieldEntry dbfTypeU8 .node 2 "node_type" 8 72,
    fieldEntry dbfTypeU8 .node 1 "description" (8 * 64) 80,
    fieldEntry dbfTypeNet16 .link 0 "from_lid" 16 0,
    fieldEntry dbfTypeNet16 .link 1 "to_lid" 16 16,
    fieldEntry dbfTypeU8 .link 2 "from_port_num" 8 32,
    fieldEntry dbfTypeU8 .link 3 "to_port_num" 8 40,
    fieldEntry dbfTypeNet64 .port 0 "pkey_tbl_offset" 64 0,
    fieldEntry dbfTypeNet16 .port 1 "pkey_tbl_size" 16 64,
    fieldEntry dbfTypeNet16 .port 2 "port_lid" 16 80,
    fieldEntry dbfTypeU8 .port 3 "port_num" 8 96,
    fieldEntry dbfTypeU8 .port 4 "neighbor_mtu" 8 104,
    fieldEntry dbfTypeU8 .port 5 "rate" 8 112,
    fieldEntry dbfTypeU8 .port 6 "vl_enforce" 8 120,
    fieldEntry dbfTypeNet16 .lftTop 0 "lid" 16 0,
    fieldEntry dbfTypeNet16 .lftTop 1 "lft_top" 16 16,
    fieldEntry dbfTypeNet16 .lftBlock 0 "lid" 16 0,
    fieldEntry dbfTypeNet16 .lftBlock 1 "block_num" 16 16,
    fieldEntry dbfTypeU8 .lftBlock 2 "block" (8 * 64) 32,
    { (default : DbFieldDef) with version := dbVersionInvalid }]

/-! ## The SMDB -/

/-- The data tables of an SMDB. PKEY is the one that is addressed in bytes. -/
structure SmdbTables where
  subnetOpts : Buf EpSubnetOptsTblRec
  guidToLid : Buf EpGuidToLidTblRec
  node : Buf EpNodeTblRec
  link : Buf EpLinkTblRec
  port : Buf EpPortTblRec
  pkey : Buf UInt8
  lftTop : Buf EpLftTopTblRec
  lftBlock : Buf EpLftBlockTblRec

/-- What the memory handed out while one message is handled held before,
and the two runs of stack bytes that `ssa_db_port_cmp` may read. -/
structure Mem where
  addr : Addr
  pkeyAddr : Addr
  db : DbMem
  subnetOpts : EpSubnetOptsTblRec
  guidToLid : Nat → EpGuidToLidTblRec
  node : Nat → EpNodeTblRec
  link : Nat → EpLinkTblRec
  port : Nat → EpPortTblRec
  pkey : Nat → UInt16
  pkeyBytes : Nat → UInt8
  lftTop : Nat → EpLftTopTblRec
  lftBlock : Nat → EpLftBlockTblRec
  stackOld : Nat → UInt8
  stackNew : Nat → UInt8
deriving Inhabited

/-- `ssa_db_smdb_init` when every allocation succeeds. -/
def ssaDbSmdbInit (mem : Mem) (guidToLidNumRecs nodeNumRecs linkNumRecs portNumRecs
    pkeyNumRecs lftTopNumRecs lftBlockNumRecs : Nat) : SsaDb SmdbTables :=
  let ppTables : SmdbTables :=
    { subnetOpts := Buf.malloc mem.addr 1 fun _ => mem.subnetOpts
      guidToLid := Buf.malloc mem.addr guidToLidNumRecs mem.guidToLid
      node := Buf.malloc mem.addr nodeNumRecs mem.node
      link := Buf.malloc mem.addr linkNumRecs mem.link
      port := Buf.malloc mem.addr portNumRecs mem.port
      pkey := Buf.malloc mem.addr (SsaTableId.pkey.recSize * pkeyNumRecs) mem.pkeyBytes
      lftTop := Buf.malloc mem.addr lftTopNumRecs mem.lftTop
      lftBlock := Buf.malloc mem.addr lftBlockNumRecs mem.lftBlock }
  ssaDbInit (ssaDbCreate mem.db ppTables (ssaTableIds.map SsaTableId.fieldIdMax) ssaTableIdMax)
    "SMDB".toList 12 defTbl datasetTbl fieldDatasetTbl fieldTbl

end Ibssa
