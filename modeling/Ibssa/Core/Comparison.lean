import Ibssa.Core.Extract
import Ibssa.Lib.Walk

/-!
# Comparing two snapshots (`ssa_comparison.h`, `ssa_comparison.c`)

A diff is an SMDB with, for each table that is compared, a map of the
records to be added and one of the records to be removed, both pointing into
the one data table; for the LFT tables there is a single map of records to
be set.

The routines that move a record into the diff are four copies of one body
in the source, and `mapRecInsert` is that body; `ssaDbPortInsert` has its own
because it moves the port's pkeys as well. The comparators are kept as they
index: `ssaDbPortCmp` and `ssaDbLinkCmp` step the old record's pointer twice
and the new one's never.
-/

namespace Ibssa

open Keyed ByteOrder

/-! ## The diff -/

structure SsaDbDiff where
  pSmdb : SsaDb SmdbTables
  epGuidToLidTblAdded : EpMap
  epNodeTblAdded : EpMap
  epPortTblAdded : EpMap
  epLinkTblAdded : EpMap
  epGuidToLidTblRemoved : EpMap
  epNodeTblRemoved : EpMap
  epPortTblRemoved : EpMap
  epLinkTblRemoved : EpMap
  epLftBlockTbl : EpMap
  epLftTopTbl : EpMap
  dirty : UInt8

/-- `ssa_db_diff_init` when its allocation succeeds. -/
def ssaDbDiffInit (mem : Mem) (guidToLidNumRecs nodeNumRecs linkNumRecs portNumRecs
    pkeyNumRecs lftTopNumRecs lftBlockNumRecs : Nat) : SsaDbDiff where
  pSmdb :=
    ssaDbSmdbInit mem guidToLidNumRecs nodeNumRecs linkNumRecs portNumRecs pkeyNumRecs
      lftTopNumRecs lftBlockNumRecs
  epGuidToLidTblAdded := OrdMap.empty
  epNodeTblAdded := OrdMap.empty
  epPortTblAdded := OrdMap.empty
  epLinkTblAdded := OrdMap.empty
  epGuidToLidTblRemoved := OrdMap.empty
  epNodeTblRemoved := OrdMap.empty
  epPortTblRemoved := OrdMap.empty
  epLinkTblRemoved := OrdMap.empty
  epLftBlockTbl := OrdMap.empty
  epLftTopTbl := OrdMap.empty
  dirty := 0

namespace SsaDbDiff

/-- `p_smdb->p_db_tables[id]`. -/
def dataset (d : SsaDbDiff) (t : SsaTableId) : DbDataset := d.pSmdb.pDbTables.cell t.num

def setDataset (d : SsaDbDiff) (t : SsaTableId) (ds : DbDataset) : SsaDbDiff :=
  { d with pSmdb := { d.pSmdb with pDbTables := d.pSmdb.pDbTables.write t.num ds } }

/-- `p_smdb->pp_tables`. -/
def tables (d : SsaDbDiff) : SmdbTables := d.pSmdb.ppTables

def setTables (d : SsaDbDiff) (ts : SmdbTables) : SsaDbDiff :=
  { d with pSmdb := { d.pSmdb with ppTables := ts } }

end SsaDbDiff

/-! ## Subnet options -/

/-- What `ssa_db_diff_compare_subnet_opts` changes: the record, and its local
`dirty`. -/
structure OptsDiff where
  pSubnetOpts : EpSubnetOptsTblRec
  dirty : UInt8

/-- `change_mask |= mask`, on the field as it lies in memory. -/
def EpSubnetOptsTblRec.orChangeMask (r : EpSubnetOptsTblRec) (mask : UInt64) :
    EpSubnetOptsTblRec :=
  { r with changeMask := Be64.ofRaw (r.changeMask.raw ||| mask) }

/-- One of the five comparisons: store the field and mark it. -/
def optsCmp {α : Type} [DecidableEq α] (field : SsaDbExtract → α)
    (store : EpSubnetOptsTblRec → α → EpSubnetOptsTblRec) (mask : UInt64)
    (pPreviousDb pCurrentDb : SsaDbExtract) (o : OptsDiff) : OptsDiff :=
  if field pPreviousDb ≠ field pCurrentDb then
    ⟨(store o.pSubnetOpts (field pCurrentDb)).orChangeMask mask, 1⟩
  else o

/-- The whole record, with all five marks. -/
def optsAll (pCurrentDb : SsaDbExtract) (r : EpSubnetOptsTblRec) : EpSubnetOptsTblRec :=
  let r :=
    { r with
      subnetPrefix := Be64.ofRaw pCurrentDb.subnetPrefix
      smState := pCurrentDb.smState
      lmc := pCurrentDb.lmc
      subnetTimeout := pCurrentDb.subnetTimeout
      allowBothPkeys := pCurrentDb.allowBothPkeys }
  let r := r.orChangeMask ssaDbChangemaskSubnetPrefix
  let r := r.orChangeMask ssaDbChangemaskSmState
  let r := r.orChangeMask ssaDbChangemaskLmc
  let r := r.orChangeMask ssaDbChangemaskSubnetTimeout
  r.orChangeMask ssaDbChangemaskAllowBothPkeys

def optsDiff (pPreviousDb pCurrentDb : SsaDbExtract) (o : OptsDiff) : OptsDiff :=
  if !pPreviousDb.initialized && pCurrentDb.initialized then
    ⟨optsAll pCurrentDb o.pSubnetOpts, 1⟩
  else
    let o := optsCmp SsaDbExtract.subnetPrefix
      (fun r v => { r with subnetPrefix := Be64.ofRaw v }) ssaDbChangemaskSubnetPrefix
      pPreviousDb pCurrentDb o
    let o := optsCmp SsaDbExtract.smState (fun r v => { r with smState := v })
      ssaDbChangemaskSmState pPreviousDb pCurrentDb o
    let o := optsCmp SsaDbExtract.lmc (fun r v => { r with lmc := v })
      ssaDbChangemaskLmc pPreviousDb pCurrentDb o
    let o := optsCmp SsaDbExtract.subnetTimeout (fun r v => { r with subnetTimeout := v })
      ssaDbChangemaskSubnetTimeout pPreviousDb pCurrentDb o
    optsCmp SsaDbExtract.allowBothPkeys (fun r v => { r with allowBothPkeys := v })
      ssaDbChangemaskAllowBothPkeys pPreviousDb pCurrentDb o

/-- `ssa_db_diff_compare_subnet_opts`. The record is the one of the table's
single cell. -/
def ssaDbDiffCompareSubnetOpts (pPreviousDb pCurrentDb : SsaDbExtract) (d : SsaDbDiff) :
    SsaDbDiff :=
  let o := optsDiff pPreviousDb pCurrentDb ⟨d.tables.subnetOpts.cell 0, d.dirty⟩
  let d :=
    d.setTables { d.tables with subnetOpts := d.tables.subnetOpts.write 0 o.pSubnetOpts }
  if o.dirty = 0 then d
  else
    let ds :=
      { d.dataset .subnetOpts with
        setSize := htonll SsaTableId.subnetOpts.recSize
        setCount := htonll 1 }
    { d.setDataset .subnetOpts ds with dirty := o.dirty }

/-! ## Moving records into the diff -/

/-- A data table of the diff with the header that counts its records. -/
structure DataTbl (α : Type) where
  pDataset : DbDataset
  pDataTbl : Buf α

/-- The body the `insert` routines share: the record that `p_item` points to
goes into the next free slot, and the map learns the slot. -/
def mapRecInsert {α : Type} (recSize : Nat) (pMap : EpMap) (pDest : DataTbl α) (key : UInt64)
    (pItem : EpMapRec) (pDataTblSrc : Buf α) : EpMap × DataTbl α :=
  let setCount := ntohll pDest.pDataset.setCount
  (pMap.insert key setCount,
    { pDataset := pDest.pDataset.countRec recSize
      pDataTbl := pDest.pDataTbl.write setCount (pDataTblSrc.cell pItem.2) })

def ssaDbGuidToLidInsert :=
  mapRecInsert (α := EpGuidToLidTblRec) SsaTableId.guidToLid.recSize

def ssaDbNodeInsert := mapRecInsert (α := EpNodeTblRec) SsaTableId.node.recSize

def ssaDbLinkInsert := mapRecInsert (α := EpLinkTblRec) SsaTableId.link.recSize

/-- The diff's PKEY table while ports are moved: header, bytes, and the
cursor `ref_tbl_offset`. -/
structure RefTbl where
  pRefDataset : DbDataset
  pDataRefTbl : Buf UInt8
  pOffset : Nat

/-- A table of 16-bit entries as bytes, on a little-endian host. -/
def bytesOf (b : Buf UInt16) (i : Nat) : UInt8 :=
  if i % 2 = 0 then (b.cell (i / 2)).toUInt8 else (b.cell (i / 2) >>> 8).toUInt8

/-- `ssa_db_port_insert`. `pRef` is absent where the source passes `NULL` for
the three reference arguments. -/
def ssaDbPortInsert (pMap : EpMap) (pDest : DataTbl EpPortTblRec) (pRef : Option RefTbl)
    (key : UInt64) (pItem : EpMapRec) (pDataTblSrc : Buf EpPortTblRec)
    (pDataRefTblSrc : Buf UInt16) : EpMap × DataTbl EpPortTblRec × Option RefTbl :=
  let setCount := ntohll pDest.pDataset.setCount
  let r := mapRecInsert SsaTableId.port.recSize pMap pDest key pItem pDataTblSrc
  match pRef with
  | none => (r.1, r.2, none)
  | some ref =>
      if pDataRefTblSrc.isNull then (r.1, r.2, some ref)
      else
        let offsetSrc := ntohll (pDataTblSrc.cell pItem.2).pkeyTblOffset
        let sizePkeyTblSrc := ntohs (pDataTblSrc.cell pItem.2).pkeyTblSize
        if sizePkeyTblSrc = 0 then (r.1, r.2, some ref)
        else
          let pRec :=
            { r.2.pDataTbl.cell setCount with
              pkeyTblOffset := htonll ref.pOffset
              pkeyTblSize := htons sizePkeyTblSrc }
          (r.1, { r.2 with pDataTbl := r.2.pDataTbl.write setCount pRec },
            some
              { pRefDataset :=
                  { ref.pRefDataset with
                    setSize := htonll (ntohll ref.pRefDataset.setSize + sizePkeyTblSrc.toNat) }
                -- the source's offset counts entries, and is used on bytes here
                pDataRefTbl :=
                  ref.pDataRefTbl.copy ref.pOffset sizePkeyTblSrc.toNat fun i =>
                    bytesOf pDataRefTblSrc (offsetSrc + i)
                pOffset := ref.pOffset + sizePkeyTblSrc.toNat })

/-! ## Comparators -/

def ssaDbGuidToLidCmp (pItemOld : EpMapRec) (pDataTblOld : Buf EpGuidToLidTblRec)
    (pItemNew : EpMapRec) (pDataTblNew : Buf EpGuidToLidTblRec) : Bool :=
  let pTblRecOld := pDataTblOld.cell pItemOld.2
  let pTblRecNew := pDataTblNew.cell pItemNew.2
  pTblRecOld.lid != pTblRecNew.lid || pTblRecOld.lmc != pTblRecNew.lmc ||
    pTblRecOld.isSwitch != pTblRecNew.isSwitch

def ssaDbNodeCmp (pItemOld : EpMapRec) (pDataTblOld : Buf EpNodeTblRec)
    (pItemNew : EpMapRec) (pDataTblNew : Buf EpNodeTblRec) : Bool :=
  let pTblRecOld := pDataTblOld.cell pItemOld.2
  let pTblRecNew := pDataTblNew.cell pItemNew.2
  pTblRecOld.isEnhancedSp0 != pTblRecNew.isEnhancedSp0 ||
    pTblRecOld.nodeType != pTblRecNew.nodeType ||
    pTblRecOld.description != pTblRecNew.description

/-- Where `p_tbl_rec_old` points after both of its `+=` lines, and where
`p_tbl_rec_new` still points: the two records that `ssa_db_port_cmp` and
`ssa_db_link_cmp` read. -/
def oldRecIdx (pItemOld pItemNew : EpMapRec) : Nat := pItemOld.2 + pItemNew.2
def newRecIdx (_pItemOld _pItemNew : EpMapRec) : Nat := 0

/-- The fields of two port records that are compared. -/
def portFieldsDiffer (a b : EpPortTblRec) : Bool :=
  a.pkeyTblSize != b.pkeyTblSize || a.portLid != b.portLid ||
    a.neighborMtu != b.neighborMtu || a.rate != b.rate || a.vlEnforce != b.vlEnforce

/-- The value of `p_tbl_ref_rec` once it has been stepped to a port's pkeys. -/
def refRecPtr (pDataRefTbl : Buf UInt16) (pTblRec : EpPortTblRec) : UInt64 :=
  pDataRefTbl.addr + UInt64.ofNat (SsaTableId.pkey.recSize * ntohll pTblRec.pkeyTblOffset)

/-- Byte `i` from the address of a local pointer variable on: the variable's
own eight bytes, then what lies behind it on the stack. -/
def bytesOfVar (ptr : UInt64) (stack : Nat → UInt8) (i : Nat) : UInt8 :=
  if i < 8 then (ptr >>> UInt64.ofNat (8 * i)).toUInt8 else stack (i - 8)

/-- `memcmp(a, b, n) != 0`. -/
def memcmpDiffers (a b : Nat → UInt8) (n : Nat) : Bool :=
  (List.range n).any fun i => a i != b i

/-- `ssa_db_port_cmp`. The `memcmp` is given the addresses of the two pointer
variables. -/
def ssaDbPortCmp (mem : Mem) (pItemOld : EpMapRec) (pDataTblOld : Buf EpPortTblRec)
    (pDataRefTblOld : Buf UInt16) (pItemNew : EpMapRec) (pDataTblNew : Buf EpPortTblRec)
    (pDataRefTblNew : Buf UInt16) : Bool :=
  let pTblRecOld := pDataTblOld.cell (oldRecIdx pItemOld pItemNew)
  let pTblRecNew := pDataTblNew.cell (newRecIdx pItemOld pItemNew)
  let pTblRefRecOld := refRecPtr pDataRefTblOld pTblRecOld
  let pTblRefRecNew := refRecPtr pDataRefTblNew pTblRecNew
  portFieldsDiffer pTblRecOld pTblRecNew ||
    (!pDataRefTblOld.isNull && !pDataRefTblNew.isNull &&
      memcmpDiffers (bytesOfVar pTblRefRecOld mem.stackOld)
        (bytesOfVar pTblRefRecNew mem.stackNew) (ntohs pTblRecOld.pkeyTblSize).toNat)

/-- The fields of two link records that are compared. -/
def linkFieldsDiffer (a b : EpLinkTblRec) : Bool :=
  a.fromLid != b.fromLid || a.toLid != b.toLid || a.fromPortNum != b.fromPortNum ||
    a.toPortNum != b.toPortNum

def ssaDbLinkCmp (pItemOld : EpMapRec) (pDataTblOld : Buf EpLinkTblRec)
    (pItemNew : EpMapRec) (pDataTblNew : Buf EpLinkTblRec) : Bool :=
  linkFieldsDiffer (pDataTblOld.cell (oldRecIdx pItemOld pItemNew))
    (pDataTblNew.cell (newRecIdx pItemOld pItemNew))

/-! ## The two walks -/

/-- What a walk over fixed-size records changes. -/
structure TblDiff (α : Type) where
  pMapAdded : EpMap
  pMapRemoved : EpMap
  pDest : DataTbl α
  dirty : UInt8

/-- What the walk does on a key to be removed, and on one to be added. -/
def TblDiff.remove {α : Type}
    (qmapInsert : EpMap → DataTbl α → UInt64 → EpMapRec → Buf α → EpMap × DataTbl α)
    (pDataTblOld : Buf α) (pItemOld : EpMapRec) (s : TblDiff α) : TblDiff α :=
  let r := qmapInsert s.pMapRemoved s.pDest pItemOld.1 pItemOld pDataTblOld
  { s with pMapRemoved := r.1, pDest := r.2, dirty := 1 }

def TblDiff.add {α : Type}
    (qmapInsert : EpMap → DataTbl α → UInt64 → EpMapRec → Buf α → EpMap × DataTbl α)
    (pDataTblNew : Buf α) (pItemNew : EpMapRec) (s : TblDiff α) : TblDiff α :=
  let r := qmapInsert s.pMapAdded s.pDest pItemNew.1 pItemNew pDataTblNew
  { s with pMapAdded := r.1, pDest := r.2, dirty := 1 }

/-- `ssa_db_diff_table_cmp_v2`. -/
def ssaDbDiffTableCmpV2 {α : Type} (pMapOld pMapNew : EpMap) (pDataTblOld pDataTblNew : Buf α)
    (qmapInsert : EpMap → DataTbl α → UInt64 → EpMapRec → Buf α → EpMap × DataTbl α)
    (cmp : EpMapRec → Buf α → EpMapRec → Buf α → Bool) (pMapAdded pMapRemoved : EpMap)
    (pDest : DataTbl α) : TblDiff α :=
  walk (fun pItemOld pItemNew => cmp pItemOld pDataTblOld pItemNew pDataTblNew)
    (TblDiff.remove qmapInsert pDataTblOld) (TblDiff.add qmapInsert pDataTblNew)
    pMapOld.items pMapNew.items ⟨pMapAdded, pMapRemoved, pDest, 0⟩

/-- What the walk over the ports changes. -/
structure VarTblDiff where
  pMapAdded : EpMap
  pMapRemoved : EpMap
  pDest : DataTbl EpPortTblRec
  pRef : RefTbl
  dirty : UInt8

/-- The type of `ssa_db_port_insert`, the parameter `qmap_insert_pfn`. -/
abbrev VarInsert := EpMap → DataTbl EpPortTblRec → Option RefTbl → UInt64 → EpMapRec →
  Buf EpPortTblRec → Buf UInt16 → EpMap × DataTbl EpPortTblRec × Option RefTbl

/-- The type of `ssa_db_port_cmp`, the parameter `cmp_pfn`. -/
abbrev VarCmp := EpMapRec → Buf EpPortTblRec → Buf UInt16 → EpMapRec → Buf EpPortTblRec →
  Buf UInt16 → Bool

def VarTblDiff.remove (qmapInsert : VarInsert) (pDataTblOld : Buf EpPortTblRec)
    (pItemOld : EpMapRec) (s : VarTblDiff) : VarTblDiff :=
  let r := qmapInsert s.pMapRemoved s.pDest none pItemOld.1 pItemOld pDataTblOld Buf.null
  { s with pMapRemoved := r.1, pDest := r.2.1, dirty := 1 }

def VarTblDiff.add (qmapInsert : VarInsert) (pDataTblNew : Buf EpPortTblRec)
    (pDataRefTblNew : Buf UInt16) (pItemNew : EpMapRec) (s : VarTblDiff) : VarTblDiff :=
  let r := qmapInsert s.pMapAdded s.pDest (some s.pRef) pItemNew.1 pItemNew pDataTblNew
    pDataRefTblNew
  { s with pMapAdded := r.1, pDest := r.2.1, pRef := r.2.2.getD s.pRef, dirty := 1 }

/-- `ssa_db_diff_var_size_table_cmp`. -/
def ssaDbDiffVarSizeTableCmp (pMapOld pMapNew : EpMap)
    (pDataTblOld : Buf EpPortTblRec) (pDataRefTblOld : Buf UInt16)
    (pDataTblNew : Buf EpPortTblRec) (pDataRefTblNew : Buf UInt16)
    (qmapInsert : VarInsert) (cmp : VarCmp) (pMapAdded pMapRemoved : EpMap)
    (pDest : DataTbl EpPortTblRec) (pRefDataset : DbDataset) (pDataRefTbl : Buf UInt8) :
    VarTblDiff :=
  walk
    (fun pItemOld pItemNew =>
      cmp pItemOld pDataTblOld pDataRefTblOld pItemNew pDataTblNew pDataRefTblNew)
    (VarTblDiff.remove qmapInsert pDataTblOld)
    (VarTblDiff.add qmapInsert pDataTblNew pDataRefTblNew)
    pMapOld.items pMapNew.items ⟨pMapAdded, pMapRemoved, pDest, ⟨pRefDataset, pDataRefTbl, 0⟩, 0⟩

/-! ## `ssa_db_diff_compare_subnet_tables` -/

def compareGuidToLid (pPreviousDb pCurrentDb : SsaDbExtract) (d : SsaDbDiff) :
    TblDiff EpGuidToLidTblRec :=
  ssaDbDiffTableCmpV2 pPreviousDb.epGuidToLidTbl pCurrentDb.epGuidToLidTbl
    pPreviousDb.pGuidToLidTbl pCurrentDb.pGuidToLidTbl ssaDbGuidToLidInsert ssaDbGuidToLidCmp
    d.epGuidToLidTblAdded d.epGuidToLidTblRemoved ⟨d.dataset .guidToLid, d.tables.guidToLid⟩

def compareNode (pPreviousDb pCurrentDb : SsaDbExtract) (d : SsaDbDiff) :
    TblDiff EpNodeTblRec :=
  ssaDbDiffTableCmpV2 pPreviousDb.epNodeTbl pCurrentDb.epNodeTbl pPreviousDb.pNodeTbl
    pCurrentDb.pNodeTbl ssaDbNodeInsert ssaDbNodeCmp d.epNodeTblAdded d.epNodeTblRemoved
    ⟨d.dataset .node, d.tables.node⟩

def compareLink (pPreviousDb pCurrentDb : SsaDbExtract) (d : SsaDbDiff) :
    TblDiff EpLinkTblRec :=
  ssaDbDiffTableCmpV2 pPreviousDb.epLinkTbl pCurrentDb.epLinkTbl pPreviousDb.pLinkTbl
    pCurrentDb.pLinkTbl ssaDbLinkInsert ssaDbLinkCmp d.epLinkTblAdded d.epLinkTblRemoved
    ⟨d.dataset .link, d.tables.link⟩

def comparePort (mem : Mem) (pPreviousDb pCurrentDb : SsaDbExtract) (d : SsaDbDiff) :
    VarTblDiff :=
  ssaDbDiffVarSizeTableCmp pPreviousDb.epPortTbl pCurrentDb.epPortTbl pPreviousDb.pPortTbl
    pPreviousDb.pPkeyTbl pCurrentDb.pPortTbl pCurrentDb.pPkeyTbl ssaDbPortInsert
    (ssaDbPortCmp mem) d.epPortTblAdded d.epPortTblRemoved ⟨d.dataset .port, d.tables.port⟩
    (d.dataset .pkey) d.tables.pkey

/-- What each of the four walks leaves behind in the diff. -/
def SsaDbDiff.withGuidToLid (d : SsaDbDiff) (r : TblDiff EpGuidToLidTblRec) : SsaDbDiff :=
  { (d.setDataset .guidToLid r.pDest.pDataset).setTables
      { d.tables with guidToLid := r.pDest.pDataTbl } with
    epGuidToLidTblAdded := r.pMapAdded
    epGuidToLidTblRemoved := r.pMapRemoved }

def SsaDbDiff.withNode (d : SsaDbDiff) (r : TblDiff EpNodeTblRec) : SsaDbDiff :=
  { (d.setDataset .node r.pDest.pDataset).setTables
      { d.tables with node := r.pDest.pDataTbl } with
    epNodeTblAdded := r.pMapAdded
    epNodeTblRemoved := r.pMapRemoved }

def SsaDbDiff.withLink (d : SsaDbDiff) (r : TblDiff EpLinkTblRec) : SsaDbDiff :=
  { (d.setDataset .link r.pDest.pDataset).setTables
      { d.tables with link := r.pDest.pDataTbl } with
    epLinkTblAdded := r.pMapAdded
    epLinkTblRemoved := r.pMapRemoved }

def SsaDbDiff.withPort (d : SsaDbDiff) (r : VarTblDiff) : SsaDbDiff :=
  { ((d.setDataset .port r.pDest.pDataset).setDataset .pkey r.pRef.pRefDataset).setTables
      { d.tables with port := r.pDest.pDataTbl, pkey := r.pRef.pDataRefTbl } with
    epPortTblAdded := r.pMapAdded
    epPortTblRemoved := r.pMapRemoved }

def ssaDbDiffCompareSubnetTables (mem : Mem) (pPreviousDb pCurrentDb : SsaDbExtract)
    (d : SsaDbDiff) : SsaDbDiff :=
  let rGuidToLid := compareGuidToLid pPreviousDb pCurrentDb d
  let d := d.withGuidToLid rGuidToLid
  let dirty := rGuidToLid.dirty <<< 1
  let rNode := compareNode pPreviousDb pCurrentDb d
  let d := d.withNode rNode
  let dirty := (dirty ||| rNode.dirty) <<< 1
  let rLink := compareLink pPreviousDb pCurrentDb d
  let d := d.withLink rLink
  let dirty := (dirty ||| rLink.dirty) <<< 1
  let rPort := comparePort mem pPreviousDb pCurrentDb d
  let d := d.withPort rPort
  let dirty := dirty ||| rPort.dirty
  if dirty ≠ 0 then { d with dirty := 1 } else d

/-! ## LFT records -/

/-- What a copy between LFT stores changes. The database that is copied into
has no dataset header. -/
structure LftCopy (α : Type) where
  pDestQmap : EpMap
  pDestDataset : Option DbDataset
  pDestTbl : Buf α

/-- One round of a copy. -/
def lftQmapCopyRec {α : Type} (recSize : Nat) (pSrcTbl : Buf α) (s : LftCopy α)
    (pMapRec : EpMapRec) : LftCopy α :=
  let pTblRec := pSrcTbl.cell pMapRec.2
  match s.pDestQmap.get? pMapRec.1 with
  | some offset => { s with pDestTbl := s.pDestTbl.write offset pTblRec }
  | none =>
      let offset :=
        match s.pDestDataset with
        | some ds => ntohll ds.setCount
        | none => s.pDestQmap.count
      { pDestQmap := s.pDestQmap.insert pMapRec.1 offset
        pDestDataset := s.pDestDataset.map fun ds => ds.countRec recSize
        pDestTbl := s.pDestTbl.write offset pTblRec }

def lftQmapCopy {α : Type} (recSize : Nat) (pDestQmap : EpMap) (pDestDataset : Option DbDataset)
    (pDestTbl : Buf α) (pSrcQmap : EpMap) (pSrcTbl : Buf α) : LftCopy α :=
  pSrcQmap.items.foldl (lftQmapCopyRec recSize pSrcTbl) ⟨pDestQmap, pDestDataset, pDestTbl⟩

def epLftBlockQmapCopy := lftQmapCopy (α := EpLftBlockTblRec) SsaTableId.lftBlock.recSize

def epLftTopQmapCopy := lftQmapCopy (α := EpLftTopTblRec) SsaTableId.lftTop.recSize

/-- The loop of `ssa_db_diff_new_qmap_recs` that runs while both maps have an
item, with what is left of the new map. -/
def newQmapRecsBoth : List EpMapRec → List EpMapRec → Nat → List EpMapRec × Nat
  | [], new, newRecs => (new, newRecs)
  | _ :: _, [], newRecs => ([], newRecs)
  | o :: old, n :: new, newRecs =>
      if o.1 < n.1 then newQmapRecsBoth old (n :: new) newRecs
      else if n.1 < o.1 then newQmapRecsBoth (o :: old) new (newRecs + 1)
      else newQmapRecsBoth old new newRecs
termination_by old new => old.length + new.length

/-- `ssa_db_diff_new_qmap_recs`. -/
def ssaDbDiffNewQmapRecs (pMapOld pMapNew : EpMap) : Nat :=
  let r := newQmapRecsBoth pMapOld.items pMapNew.items 0
  r.1.foldl (fun newRecs _ => newRecs + 1) r.2

/-! ## `ssa_db_compare` -/

/-- What the two copies into the diff leave behind. -/
def SsaDbDiff.withLft (d : SsaDbDiff) (block : LftCopy EpLftBlockTblRec)
    (top : LftCopy EpLftTopTblRec) : SsaDbDiff :=
  let d :=
    { (d.setDataset .lftBlock (block.pDestDataset.getD (d.dataset .lftBlock))).setTables
        { d.tables with lftBlock := block.pDestTbl } with
      epLftBlockTbl := block.pDestQmap }
  { (d.setDataset .lftTop (top.pDestDataset.getD (d.dataset .lftTop))).setTables
      { d.tables with lftTop := top.pDestTbl } with
    epLftTopTbl := top.pDestQmap }

/-- Copy LFT records into the diff. -/
def lftIntoDiff (d : SsaDbDiff) (blockMap topMap : EpMap) (blockTbl : Buf EpLftBlockTblRec)
    (topTbl : Buf EpLftTopTblRec) : SsaDbDiff :=
  d.withLft
    (epLftBlockQmapCopy d.epLftBlockTbl (some (d.dataset .lftBlock)) d.tables.lftBlock blockMap
      blockTbl)
    (epLftTopQmapCopy d.epLftTopTbl (some (d.dataset .lftTop)) d.tables.lftTop topMap topTbl)

/-- Room in a database table for the keys the dump brings. -/
def growLftTbl {α : Type} (a : Addr) (junk : Nat → α) (map dumpMap : EpMap) (tbl : Buf α) :
    Buf α :=
  let newRecs := ssaDbDiffNewQmapRecs map dumpMap
  if newRecs > 0 then tbl.realloc a (map.count + newRecs) junk else tbl

/-- Apply the LFT changes to the database, and clear the dump. -/
def mergeLftDump (mem : Mem) (l : SsaDbLft) : SsaDbLft :=
  let topTbl := growLftTbl mem.addr mem.lftTop l.epDbLftTopTbl l.epDumpLftTopTbl l.pDbLftTopTbl
  let blockTbl :=
    growLftTbl mem.addr mem.lftBlock l.epDbLftBlockTbl l.epDumpLftBlockTbl l.pDbLftBlockTbl
  let block := epLftBlockQmapCopy l.epDbLftBlockTbl none blockTbl l.epDumpLftBlockTbl
    l.pDumpLftBlockTbl
  let top := epLftTopQmapCopy l.epDbLftTopTbl none topTbl l.epDumpLftTopTbl l.pDumpLftTopTbl
  { l with
    pDbLftTopTbl := top.pDestTbl
    pDbLftBlockTbl := block.pDestTbl
    epDbLftTopTbl := top.pDestQmap
    epDbLftBlockTbl := block.pDestQmap
    epDumpLftBlockTbl := epQmapClear l.epDumpLftBlockTbl
    epDumpLftTopTbl := epQmapClear l.epDumpLftTopTbl }

/-- The empty diff `ssa_db_compare` makes room for. -/
def emptyDiff (mem : Mem) (ssaDb : SsaDatabase) : SsaDbDiff :=
  ssaDbDiffInit mem
    (ssaDb.pCurrentDb.epGuidToLidTbl.count + ssaDb.pPreviousDb.epGuidToLidTbl.count)
    (ssaDb.pCurrentDb.epNodeTbl.count + ssaDb.pPreviousDb.epNodeTbl.count)
    (ssaDb.pCurrentDb.epLinkTbl.count + ssaDb.pPreviousDb.epLinkTbl.count)
    (ssaDb.pCurrentDb.epPortTbl.count + ssaDb.pPreviousDb.epPortTbl.count)
    ssaDb.pCurrentDb.pkeyTblRecNum
    (ssaDb.pLftDb.epDbLftTopTbl.count + ssaDb.pLftDb.epDumpLftTopTbl.count)
    (ssaDb.pLftDb.epDbLftBlockTbl.count + ssaDb.pLftDb.epDumpLftBlockTbl.count)

/-- The part of `ssa_db_compare` before its dirty check: the diff, and the
LFT database it leaves. -/
def buildDiff (mem : Mem) (firstTimeSubnetUp : Bool) (ssaDb : SsaDatabase) :
    SsaDbDiff × SsaDbLft :=
  let d := ssaDbDiffCompareSubnetOpts ssaDb.pPreviousDb ssaDb.pCurrentDb (emptyDiff mem ssaDb)
  let d := ssaDbDiffCompareSubnetTables mem ssaDb.pPreviousDb ssaDb.pCurrentDb d
  let l := ssaDb.pLftDb
  if firstTimeSubnetUp then
    (lftIntoDiff d l.epDbLftBlockTbl l.epDbLftTopTbl l.pDbLftBlockTbl l.pDbLftTopTbl, l)
  else
    (lftIntoDiff d l.epDumpLftBlockTbl l.epDumpLftTopTbl l.pDumpLftBlockTbl l.pDumpLftTopTbl,
      mergeLftDump mem l)

/-- `ssa_db_compare`. `alloc` says whether `ssa_db_diff_init` gets its memory;
a diff that is not dirty is destroyed. -/
def ssaDbCompare (mem : Mem) (alloc firstTimeSubnetUp : Bool) (ssaDb : SsaDatabase) :
    Option SsaDbDiff × SsaDatabase :=
  if !alloc then (none, ssaDb)
  else
    let r := buildDiff mem firstTimeSubnetUp ssaDb
    let ssaDb := { ssaDb with pLftDb := r.2 }
    if r.1.dirty = 0 then (none, ssaDb) else (some r.1, ssaDb)

end Ibssa
