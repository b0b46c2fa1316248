import Ibssa.Lib.Buf
import Ibssa.Lib.ByteOrder

/-!
# The generic database (`ssa_db.h`, `ssa_db.c`)

A database is a set of data tables with a header for each (`db_dataset`),
the definitions of the tables, and for each table a field table that
describes its records. The definitions come in as arrays ended by an entry
of version `DB_VERSION_INVALID`.

The data tables themselves are `void **` in the source. They are a
parameter here, so that a database can carry tables of its own record
types; nothing in this file looks at them.
-/

namespace Ibssa

open Keyed ByteOrder

/-- `DB_NAME_LEN`. -/
def dbNameLen : Nat := 64

/-- `DB_VARIABLE_SIZE`. -/
def dbVariableSize : UInt32 := 0xFFFFFFFF

/-- `DB_VERSION_INVALID`. -/
def dbVersionInvalid : UInt8 := 0xFF

/-- `DB_DEF_VERSION`, `DBT_DEF_VERSION`, `DBF_DEF_VERSION` and `DB_DS_VERSION`. -/
def dbDefVersion : UInt8 := 0
def dbtDefVersion : UInt8 := 0
def dbfDefVersion : UInt8 := 0
def dbDsVersion : UInt8 := 0

/-- `DBT_DEF_DS_ID`. -/
def dbtDefDsId : UInt8 := 0xFE

/-- `DBT_TYPE_DEF` and `DBT_TYPE_DATA`. -/
def dbtTypeDef : UInt8 := 0
def dbtTypeData : UInt8 := 1

/-- `DBT_ACCESS_NET_ORDER`. -/
def dbtAccessNetOrder : UInt8 := 2

/-- `DBF_TYPE_U8`, `DBF_TYPE_NET16` and `DBF_TYPE_NET64`. -/
def dbfTypeU8 : UInt8 := 0
def dbfTypeNet16 : UInt8 := 4
def dbfTypeNet64 : UInt8 := 6

/-- `struct db_id`, without its reserved byte. -/
structure DbId where
  db : UInt8
  table : UInt8
  field : UInt8
deriving DecidableEq, Inhabited, Repr

structure DbDef where
  version : UInt8
  size : UInt8
  id : DbId
  name : List Char
  tableDefSize : Be32
deriving DecidableEq, Inhabited

structure DbTableDef where
  version : UInt8
  size : UInt8
  type : UInt8
  access : UInt8
  id : DbId
  name : List Char
  recordSize : Be32
  refTableId : Be32
deriving DecidableEq, Inhabited

structure DbFieldDef where
  version : UInt8
  type : UInt8
  id : DbId
  name : List Char
  fieldSize : Be32
  fieldOffset : Be32
deriving DecidableEq, Inhabited

structure DbDataset where
  version : UInt8
  size : UInt8
  access : UInt8
  id : DbId
  epoch : Be64
  setSize : Be64
  setOffset : Be64
  setCount : Be64
deriving DecidableEq, Inhabited

/-- The sizes of the four structures, in bytes. -/
def sizeofDbDef : UInt8 := 76
def sizeofDbTableDef : Nat := 80
def sizeofDbFieldDef : Nat := 80
def sizeofDbDataset : UInt8 := 40

/-- `struct ssa_db`, with `pp_tables` of type `τ`. -/
structure SsaDb (τ : Type) where
  dbDef : DbDef
  dbTableDef : DbDataset
  pDefTbl : Buf DbTableDef
  pDbTables : Buf DbDataset
  ppTables : τ
  dataTblCnt : Nat
  pDbFieldTables : Buf DbDataset
  ppFieldTables : Buf (Buf DbFieldDef)

/-- What the memory handed to `ssa_db_create` held before. -/
structure DbMem where
  addr : Addr
  dbDef : DbDef
  dbTableDef : DbDataset
  defTbl : Nat → DbTableDef
  dbTables : Nat → DbDataset
  dbFieldTables : Nat → DbDataset
  fieldTables : Nat → DbFieldDef
  fieldTablePtrs : Nat → Buf DbFieldDef
deriving Inhabited

/-- `strncpy` into a name field: at most `DB_NAME_LEN` characters. -/
def strncpyName (name : List Char) : List Char := name.take dbNameLen

def ssaDbDefInit (version size dbId tableId fieldId : UInt8) (name : List Char)
    (tableDefSize : UInt32) : DbDef where
  version := version
  size := size
  id := ⟨dbId, tableId, fieldId⟩
  name := strncpyName name
  tableDefSize := htonl tableDefSize

def ssaDbDatasetInit (version size access dbId tableId fieldId : UInt8)
    (epoch setSize setOffset setCount : Nat) : DbDataset where
  version := version
  size := size
  access := access
  id := ⟨dbId, tableId, fieldId⟩
  epoch := htonll epoch
  setSize := htonll setSize
  setOffset := htonll setOffset
  setCount := htonll setCount

/-- Account for one more record of `size` bytes in a dataset header. -/
def DbDataset.countRec (d : DbDataset) (size : Nat) : DbDataset :=
  { d with
    setCount := htonll (ntohll d.setCount + 1)
    setSize := htonll (ntohll d.setSize + size) }

def ssaDbTableDefInsert (pTbl : Buf DbTableDef) (pDataset : DbDataset)
    (version size type access dbId tableId fieldId : UInt8) (name : List Char)
    (recordSize refTableId : UInt32) : Buf DbTableDef × DbDataset :=
  let dbTableDefRec : DbTableDef :=
    { version := version
      size := size
      type := type
      access := access
      id := ⟨dbId, tableId, fieldId⟩
      name := strncpyName name
      recordSize := htonl recordSize
      refTableId := htonl refTableId }
  (pTbl.write (ntohll pDataset.setCount) dbTableDefRec, pDataset.countRec sizeofDbTableDef)

def ssaDbFieldDefInsert (pTbl : Buf DbFieldDef) (pDataset : DbDataset)
    (version type dbId tableId fieldId : UInt8) (name : List Char)
    (fieldSize fieldOffset : UInt32) : Buf DbFieldDef × DbDataset :=
  let dbFieldDefRec : DbFieldDef :=
    { version := version
      type := type
      id := ⟨dbId, tableId, fieldId⟩
      name := strncpyName name
      fieldSize := htonl fieldSize
      fieldOffset := htonl fieldOffset }
  (pTbl.write (ntohll pDataset.setCount) dbFieldDefRec, pDataset.countRec sizeofDbFieldDef)

/-- `ssa_db_create` when every allocation succeeds. The block of each data
table is the caller's, who knows its record type. -/
def ssaDbCreate {τ : Type} (mem : DbMem) (ppTables : τ) (pNumFieldRecsArr : List Nat)
    (len : Nat) : SsaDb τ where
  dbDef := mem.dbDef
  dbTableDef := mem.dbTableDef
  pDefTbl := Buf.malloc mem.addr (len * 2) mem.defTbl
  pDbTables := Buf.malloc mem.addr len mem.dbTables
  ppTables := ppTables
  dataTblCnt := len
  pDbFieldTables := Buf.malloc mem.addr len mem.dbFieldTables
  ppFieldTables :=
    Buf.malloc mem.addr len fun i =>
      match pNumFieldRecsArr[i]? with
      | none => mem.fieldTablePtrs i
      | some n =>
          if n = dbVariableSize.toNat then Buf.null
          else Buf.malloc mem.addr n mem.fieldTables

/-- The entries of a definition array before its end mark. -/
def untilInvalid {α : Type} (version : α → UInt8) (tbl : List α) : List α :=
  tbl.takeWhile fun p => version p != dbVersionInvalid

/-- One round of the loop over `def_tbl` that adds table definitions. -/
def addTableDef {τ : Type} (pSsaDb : SsaDb τ) (pTblDef : DbTableDef) : SsaDb τ :=
  let r := ssaDbTableDefInsert pSsaDb.pDefTbl pSsaDb.dbTableDef pTblDef.version pTblDef.size
    pTblDef.type pTblDef.access pTblDef.id.db pTblDef.id.table pTblDef.id.field pTblDef.name
    (ntohl pTblDef.recordSize) (ntohl pTblDef.refTableId)
  { pSsaDb with pDefTbl := r.1, dbTableDef := r.2 }

/-- One round of the two loops over `dataset_tbl`, on either header array.
The four 64-bit fields of the template are handed over as they lie in
memory, and `ssa_db_dataset_init` converts them. -/
def initDataset (headers : Buf DbDataset) (pDataset : DbDataset) : Buf DbDataset :=
  headers.write pDataset.id.table.toNat
    (ssaDbDatasetInit pDataset.version pDataset.size pDataset.access pDataset.id.db
      pDataset.id.table pDataset.id.field pDataset.epoch.raw.toNat pDataset.setSize.raw.toNat
      pDataset.setOffset.raw.toNat pDataset.setCount.raw.toNat)

/-- One round of the inner loop over `field_tbl`, for the table definition
`p_tbl_def` whose referenced table is `tbl_id`. -/
def addFieldDef {τ : Type} (pTblDef : DbTableDef) (pSsaDb : SsaDb τ) (pFieldDef : DbFieldDef) :
    SsaDb τ :=
  let tblId := (ntohl pTblDef.refTableId).toUInt8.toNat
  if pFieldDef.id.table == pTblDef.id.table then
    let r := ssaDbFieldDefInsert (pSsaDb.ppFieldTables.cell tblId)
      (pSsaDb.pDbFieldTables.cell tblId) pFieldDef.version pFieldDef.type pFieldDef.id.db
      pFieldDef.id.table pFieldDef.id.field pFieldDef.name (ntohl pFieldDef.fieldSize)
      (ntohl pFieldDef.fieldOffset)
    { pSsaDb with
      ppFieldTables := pSsaDb.ppFieldTables.write tblId r.1
      pDbFieldTables := pSsaDb.pDbFieldTables.write tblId r.2 }
  else pSsaDb

/-- One round of the last loop over `def_tbl`. -/
def addFieldDefs {τ : Type} (fieldTbl : List DbFieldDef) (pSsaDb : SsaDb τ)
    (pTblDef : DbTableDef) : SsaDb τ :=
  if pTblDef.type != dbtTypeDef then pSsaDb
  else (untilInvalid DbFieldDef.version fieldTbl).foldl (addFieldDef pTblDef) pSsaDb

/-- `ssa_db_init`. The source reads `dataset_tbl` for the field tables'
headers too, and never reads `field_dataset_tbl`. -/
def ssaDbInit {τ : Type} (pSsaDb : SsaDb τ) (name : List Char) (dbId : UInt8)
    (defTbl : List DbTableDef) (datasetTbl _fieldDatasetTbl : List DbDataset)
    (fieldTbl : List DbFieldDef) : SsaDb τ :=
  let pSsaDb :=
    { pSsaDb with
      dbDef := ssaDbDefInit dbDefVersion sizeofDbDef dbId 0 0 name
        (UInt32.ofNat sizeofDbTableDef)
      dbTableDef := ssaDbDatasetInit dbDsVersion sizeofDbDataset dbtAccessNetOrder dbId
        dbtDefDsId 0 0 0 0 0 }
  let pSsaDb := (untilInvalid DbTableDef.version defTbl).foldl addTableDef pSsaDb
  let pSsaDb :=
    { pSsaDb with
      pDbTables := (untilInvalid DbDataset.version datasetTbl).foldl initDataset pSsaDb.pDbTables }
  let pSsaDb :=
    { pSsaDb with
      pDbFieldTables :=
        (untilInvalid DbDataset.version datasetTbl).foldl initDataset pSsaDb.pDbFieldTables }
  (untilInvalid DbTableDef.version defTbl).foldl (addFieldDefs fieldTbl) pSsaDb

end Ibssa
