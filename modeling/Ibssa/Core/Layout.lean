import Ibssa.Core.Smdb
import Ibssa.Lib.Fields

/-!
# The records as bytes, and their readers (`ssa_smdb.h`, `ssa_db.h`)

The layout of a record is stated three times in the source: by its structure,
by the enumeration of its fields' ids, and by the entries of `field_tbl`. The
structures are taken member by member here, padding included, in network order
where the member is declared so, and the ids from the enumerations.

The third statement is for readers. `ssa_db.h` has them process records
generically, from the definitions in the field table of a database:
`DbFieldDef.read` takes `field_size` bits from bit `field_offset` on, in
elements of the width that the definition's type has.
-/

namespace Ibssa

open Keyed ByteOrder

/-! ## Field identifiers -/

/-- The seven enumerations of field ids. -/
inductive SsaFieldId where
  | subnetOptsChangeMask
  | subnetOptsSubnetPrefix
  | subnetOptsSmState
  | subnetOptsLmc
  | subnetOptsSubnetTimeout
  | subnetOptsAllowBothPkeys
  | guidToLidGuid
  | guidToLidLid
  | guidToLidLmc
  | guidToLidIsSwitch
  | nodeNodeGuid
  | nodeIsEnhancedSp0
  | nodeNodeType
  | nodeDescription
  | linkFromLid
  | linkToLid
  | linkFromPortNum
  | linkToPortNum
  | portPkeyTblOffset
  | portPkeyTblSize
  | portPortLid
  | portPortNum
  | portNeighborMtu
  | portRate
  | portVlEnforce
  | lftTopLid
  | lftTopLftTop
  | lftBlockLid
  | lftBlockBlockNum
  | lftBlockBlock
deriving DecidableEq, Inhabited, Repr

/-- The table whose enumeration declares a field. -/
def SsaFieldId.table : SsaFieldId → SsaTableId
  | .subnetOptsChangeMask | .subnetOptsSubnetPrefix | .subnetOptsSmState | .subnetOptsLmc
  | .subnetOptsSubnetTimeout | .subnetOptsAllowBothPkeys => .subnetOpts
  | .guidToLidGuid | .guidToLidLid | .guidToLidLmc | .guidToLidIsSwitch => .guidToLid
  | .nodeNodeGuid | .nodeIsEnhancedSp0 | .nodeNodeType | .nodeDescription => .node
  | .linkFromLid | .linkToLid | .linkFromPortNum | .linkToPortNum => .link
  | .portPkeyTblOffset | .portPkeyTblSize | .portPortLid | .portPortNum | .portNeighborMtu
  | .portRate | .portVlEnforce => .port
  | .lftTopLid | .lftTopLftTop => .lftTop
  | .lftBlockLid | .lftBlockBlockNum | .lftBlockBlock => .lftBlock

/-- The value of an identifier in its enumeration. -/
def SsaFieldId.num : SsaFieldId → UInt8
  | .subnetOptsChangeMask => 0
  | .subnetOptsSubnetPrefix => 1
  | .subnetOptsSmState => 2
  | .subnetOptsLmc => 3
  | .subnetOptsSubnetTimeout => 4
  | .subnetOptsAllowBothPkeys => 5
  | .guidToLidGuid => 0
  | .guidToLidLid => 1
  | .guidToLidLmc => 2
  | .guidToLidIsSwitch => 3
  | .nodeNodeGuid => 0
  | .nodeIsEnhancedSp0 => 1
  | .nodeNodeType => 2
  | .nodeDescription => 3
  | .linkFromLid => 0
  | .linkToLid => 1
  | .linkFromPortNum => 2
  | .linkToPortNum => 3
  | .portPkeyTblOffset => 0
  | .portPkeyTblSize => 1
  | .portPortLid => 2
  | .portPortNum => 3
  | .portNeighborMtu => 4
  | .portRate => 5
  | .portVlEnforce => 6
  | .lftTopLid => 0
  | .lftTopLftTop => 1
  | .lftBlockLid => 0
  | .lftBlockBlockNum => 1
  | .lftBlockBlock => 2

/-! ## Structures -/

/-- The records of a table. An LFT top record has its padding beside it. -/
def SsaTableId.Rec : SsaTableId → Type
  | .subnetOpts => EpSubnetOptsTblRec
  | .guidToLid => EpGuidToLidTblRec
  | .node => EpNodeTblRec
  | .link => EpLinkTblRec
  | .port => EpPortTblRec
  | .pkey => UInt16
  | .lftTop => EpLftTopTblRec × Vector UInt8 4
  | .lftBlock => EpLftBlockTblRec

/-- The number that a 64-bit field in network order stands for. -/
def be64Val (b : Be64) : UInt64 := UInt64.ofNat b.host

/-- A GUID is moved as it lies in memory; the number it stands for has the
bytes the other way round. -/
def guidVal (guid : UInt64) : UInt64 := bswap64 guid

/-- The members of a record's structure, in order. -/
def SsaTableId.members : (t : SsaTableId) → t.Rec → List Member
  | .subnetOpts, r =>
      let r : EpSubnetOptsTblRec := r
      [.net64 (be64Val r.changeMask), .net64 (be64Val r.subnetPrefix), .bytes [r.smState],
        .bytes [r.lmc], .bytes [r.subnetTimeout], .bytes [r.allowBothPkeys],
        .bytes r.pad.toList]
  | .guidToLid, r =>
      let r : EpGuidToLidTblRec := r
      [.net64 (guidVal r.guid), .net16 r.lid.host, .bytes [r.lmc], .bytes [r.isSwitch],
        .bytes r.pad.toList]
  | .node, r =>
      let r : EpNodeTblRec := r
      [.net64 (guidVal r.nodeGuid), .bytes [r.isEnhancedSp0], .bytes [r.nodeType],
        .bytes r.description.toList, .bytes r.pad.toList]
  | .link, r =>
      let r : EpLinkTblRec := r
      [.net16 r.fromLid.host, .net16 r.toLid.host, .bytes [r.fromPortNum],
        .bytes [r.toPortNum], .bytes r.pad.toList]
  | .port, r =>
      let r : EpPortTblRec := r
      [.net64 (be64Val r.pkeyTblOffset), .net16 r.pkeyTblSize.host, .net16 r.portLid.host,
        .bytes [r.portNum], .bytes [r.neighborMtu], .bytes [r.rate], .bytes [r.vlEnforce]]
  | .pkey, r =>
      let r : UInt16 := r
      [.bytes [r.toUInt8, (r >>> 8).toUInt8]]
  | .lftTop, r =>
      let r : EpLftTopTblRec × Vector UInt8 4 := r
      [.net16 r.1.lid.host, .net16 r.1.lftTop.host, .bytes r.2.toList]
  | .lftBlock, r =>
      let r : EpLftBlockTblRec := r
      [.net16 r.lid.host, .net16 r.blockNum.host, .bytes r.block.toList]

/-- A record's bytes. -/
def SsaTableId.recBytes (t : SsaTableId) (r : t.Rec) : List UInt8 := encAll (t.members r)

/-- The value of the structure member that an identifier stands for: one number,
or the bytes of an array. -/
def SsaFieldId.value : (f : SsaFieldId) → f.table.Rec → List Nat
  | .subnetOptsChangeMask => fun r : EpSubnetOptsTblRec => [(be64Val r.changeMask).toNat]
  | .subnetOptsSubnetPrefix => fun r : EpSubnetOptsTblRec => [(be64Val r.subnetPrefix).toNat]
  | .subnetOptsSmState => fun r : EpSubnetOptsTblRec => [r.smState.toNat]
  | .subnetOptsLmc => fun r : EpSubnetOptsTblRec => [r.lmc.toNat]
  | .subnetOptsSubnetTimeout => fun r : EpSubnetOptsTblRec => [r.subnetTimeout.toNat]
  | .subnetOptsAllowBothPkeys => fun r : EpSubnetOptsTblRec => [r.allowBothPkeys.toNat]
  | .guidToLidGuid => fun r : EpGuidToLidTblRec => [(guidVal r.guid).toNat]
  | .guidToLidLid => fun r : EpGuidToLidTblRec => [(ntohs r.lid).toNat]
  | .guidToLidLmc => fun r : EpGuidToLidTblRec => [r.lmc.toNat]
  | .guidToLidIsSwitch => fun r : EpGuidToLidTblRec => [r.isSwitch.toNat]
  | .nodeNodeGuid => fun r : EpNodeTblRec => [(guidVal r.nodeGuid).toNat]
  | .nodeIsEnhancedSp0 => fun r : EpNodeTblRec => [r.isEnhancedSp0.toNat]
  | .nodeNodeType => fun r : EpNodeTblRec => [r.nodeType.toNat]
  | .nodeDescription => fun r : EpNodeTblRec => r.description.toList.map UInt8.toNat
  | .linkFromLid => fun r : EpLinkTblRec => [(ntohs r.fromLid).toNat]
  | .linkToLid => fun r : EpLinkTblRec => [(ntohs r.toLid).toNat]
  | .linkFromPortNum => fun r : EpLinkTblRec => [r.fromPortNum.toNat]
  | .linkToPortNum => fun r : EpLinkTblRec => [r.toPortNum.toNat]
  | .portPkeyTblOffset => fun r : EpPortTblRec => [(be64Val r.pkeyTblOffset).toNat]
  | .portPkeyTblSize => fun r : EpPortTblRec => [(ntohs r.pkeyTblSize).toNat]
  | .portPortLid => fun r : EpPortTblRec => [(ntohs r.portLid).toNat]
  | .portPortNum => fun r : EpPortTblRec => [r.portNum.toNat]
  | .portNeighborMtu => fun r : EpPortTblRec => [r.neighborMtu.toNat]
  | .portRate => fun r : EpPortTblRec => [r.rate.toNat]
  | .portVlEnforce => fun r : EpPortTblRec => [r.vlEnforce.toNat]
  | .lftTopLid => fun r : EpLftTopTblRec × Vector UInt8 4 => [(ntohs r.1.lid).toNat]
  | .lftTopLftTop => fun r : EpLftTopTblRec × Vector UInt8 4 => [(ntohs r.1.lftTop).toNat]
  | .lftBlockLid => fun r : EpLftBlockTblRec => [(ntohs r.lid).toNat]
  | .lftBlockBlockNum => fun r : EpLftBlockTblRec => [(ntohs r.blockNum).toNat]
  | .lftBlockBlock => fun r : EpLftBlockTblRec => r.block.toList.map UInt8.toNat

/-! ## Readers -/

/-- `DBF_TYPE_NET32` and `DBF_TYPE_NET128`. -/
def dbfTypeNet32 : UInt8 := 5
def dbfTypeNet128 : UInt8 := 7

/-- The width of an element of a type that is read alike on every host, in
bits: bytes, and numbers in network order. -/
def elementBits (type : UInt8) : Option Nat :=
  if type = dbfTypeU8 then some 8
  else if type = dbfTypeNet16 then some 16
  else if type = dbfTypeNet32 then some 32
  else if type = dbfTypeNet64 then some 64
  else if type = dbfTypeNet128 then some 128
  else none

/-- What a generic reader finds in a record by a field definition. -/
def DbFieldDef.read (d : DbFieldDef) (rec : List UInt8) : Option (List Nat) :=
  (elementBits d.type).map fun w =>
    numbers w (slice (ntohl d.fieldOffset).toNat (ntohl d.fieldSize).toNat (bits rec))

/-- The definitions in the field table of a data table: as many as its header
counts. -/
def SsaDb.fieldDefs {τ : Type} (db : SsaDb τ) (t : SsaTableId) : List DbFieldDef :=
  (List.range (ntohll (db.pDbFieldTables.cell t.num).setCount)).map
    (db.ppFieldTables.cell t.num).cell

/-- Those with a field's id. -/
def SsaDb.defsOf {τ : Type} (db : SsaDb τ) (f : SsaFieldId) : List DbFieldDef :=
  (db.fieldDefs f.table).filter fun d => d.id.field == f.num

end Ibssa
