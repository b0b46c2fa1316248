import Ibssa.Core.Db
import Ibssa.Lib.Ledger

/-!
# `ssa_db_create` and `ssa_db_destroy`, allocation by allocation (`ssa_db.c`)

Everywhere else a database is created with all the memory it asks for, and the
model of `ssa_db_create` is the value it returns then. Here it is the calls to
`malloc` and `free` that are modelled, each of which may be refused, together
with the labels that a refusal jumps to.

A database is its pointers. The two arrays of pointers are read through
functions, and so are the arrays of sizes and counts that come in. A loop of
the source counts in an `int`, so this is the code for a table count below
2^31.
-/

namespace Ibssa.Alloc

open Lifetime Keyed

/-- A pointer to an allocated block, or null. -/
abbrev Ptr := Option (Block UInt64)

/-- `struct ssa_db`, by what `ssa_db_create` writes to it, and where it lies. -/
structure SsaDb where
  pSsaDb : Ptr
  pDefTbl : Ptr
  pDbTables : Ptr
  ppTables : Ptr
  ppTablesAt : Nat → Ptr
  dataTblCnt : UInt64
  pDbFieldTables : Ptr
  ppFieldTables : Ptr
  ppFieldTablesAt : Nat → Ptr

/-- The sizes of `struct ssa_db` and of a pointer, in bytes. -/
def sizeofSsaDb : UInt64 := 168
def sizeofPtr : UInt64 := 8

section Labels

variable (pDb : SsaDb) (len : UInt64)

/-! The labels, each of which falls through to the next. -/

def err1 (l : Ledger UInt64) : Option SsaDb × Ledger UInt64 := (none, l)

def err2 (l : Ledger UInt64) : Option SsaDb × Ledger UInt64 := err1 (l.free pDb.pSsaDb)

def err3 (l : Ledger UInt64) : Option SsaDb × Ledger UInt64 := err2 pDb (l.free pDb.pDefTbl)

def err4 (l : Ledger UInt64) : Option SsaDb × Ledger UInt64 := err3 pDb (l.free pDb.pDbTables)

def err5 (l : Ledger UInt64) : Option SsaDb × Ledger UInt64 :=
  err4 pDb (l.free pDb.pDbFieldTables)

def err6 (l : Ledger UInt64) : Option SsaDb × Ledger UInt64 := err5 pDb (l.free pDb.ppTables)

def err7 (l : Ledger UInt64) : Option SsaDb × Ledger UInt64 :=
  err6 pDb (l.freeDown pDb.ppTablesAt len.toNat)

def err8 (l : Ledger UInt64) : Option SsaDb × Ledger UInt64 :=
  err7 pDb len (l.free pDb.ppFieldTables)

end Labels

/-- The loop over the data tables. -/
def fillTables (fails : Nat → UInt64 → Bool) (pNumRecsArr pDataRecsSizeArr : Nat → UInt64)
    (len : UInt64) (ppTables : Nat → Ptr) (l : Ledger UInt64) :
    Bool × (Nat → Ptr) × Ledger UInt64 :=
  Ledger.fill fails (fun i => some (pDataRecsSizeArr i * pNumRecsArr i)) len.toNat 0 ppTables l

/-- How many bytes a field table asks for. One of a table with variable-size
records asks for none and stays null. -/
def fieldTableSize (pNumFieldRecsArr : Nat → UInt64) (i : Nat) : Option UInt64 :=
  if pNumFieldRecsArr i = dbVariableSize.toUInt64 then none
  else some (UInt64.ofNat sizeofDbFieldDef * pNumFieldRecsArr i)

/-- The loop over the field tables. -/
def fillFieldTables (fails : Nat → UInt64 → Bool) (pNumFieldRecsArr : Nat → UInt64)
    (len : UInt64) (ppFieldTables : Nat → Ptr) (l : Ledger UInt64) :
    Bool × (Nat → Ptr) × Ledger UInt64 :=
  Ledger.fill fails (fieldTableSize pNumFieldRecsArr) len.toNat 0 ppFieldTables l

section Create

variable (fails : Nat → UInt64 → Bool)
  (pNumRecsArr pDataRecsSizeArr pNumFieldRecsArr : Nat → UInt64) (len : UInt64)

/-- `ssa_db_create` from the allocation of `pp_field_tables` on. -/
def createFieldTables (pDb : SsaDb) (l : Ledger UInt64) : Option SsaDb × Ledger UInt64 :=
  let m := l.malloc fails (sizeofPtr * len)
  let pDb := { pDb with ppFieldTables := m.1 }
  if pDb.ppFieldTables.isNone then err7 pDb len m.2
  else
    let f := fillFieldTables fails pNumFieldRecsArr len pDb.ppFieldTablesAt m.2
    let pDb := { pDb with ppFieldTablesAt := f.2.1 }
    if !f.1 then err8 pDb len f.2.2
    else (some { pDb with dataTblCnt := len }, f.2.2)

/-- `ssa_db_create` from the allocation of `pp_tables` on. -/
def createTables (pDb : SsaDb) (l : Ledger UInt64) : Option SsaDb × Ledger UInt64 :=
  let m := l.malloc fails (sizeofPtr * len)
  let pDb := { pDb with ppTables := m.1 }
  if pDb.ppTables.isNone then err5 pDb m.2
  else
    let t := fillTables fails pNumRecsArr pDataRecsSizeArr len pDb.ppTablesAt m.2
    let pDb := { pDb with ppTablesAt := t.2.1 }
    if !t.1 then err6 pDb t.2.2
    else createFieldTables fails pNumFieldRecsArr len pDb t.2.2

/-- `ssa_db_create` from the allocation of `p_db_tables` on. -/
def createDatasets (pDb : SsaDb) (l : Ledger UInt64) : Option SsaDb × Ledger UInt64 :=
  let m := l.malloc fails (sizeofDbDataset.toUInt64 * len)
  let pDb := { pDb with pDbTables := m.1 }
  if pDb.pDbTables.isNone then err3 pDb m.2
  else
    let m := m.2.malloc fails (sizeofDbDataset.toUInt64 * len)
    let pDb := { pDb with pDbFieldTables := m.1 }
    if pDb.pDbFieldTables.isNone then err4 pDb m.2
    else createTables fails pNumRecsArr pDataRecsSizeArr pNumFieldRecsArr len pDb m.2

/-- `ssa_db_create`. `mem` is what the memory of the new database held before,
and `fails` says which allocation is refused. -/
def ssaDbCreate (mem : SsaDb) (l : Ledger UInt64) : Option SsaDb × Ledger UInt64 :=
  let m := l.malloc fails sizeofSsaDb
  let pDb := { mem with pSsaDb := m.1 }
  if pDb.pSsaDb.isNone then err1 m.2
  else
    let m := m.2.malloc fails (UInt64.ofNat sizeofDbTableDef * len * 2)
    let pDb := { pDb with pDefTbl := m.1 }
    if pDb.pDefTbl.isNone then err2 pDb m.2
    else createDatasets fails pNumRecsArr pDataRecsSizeArr pNumFieldRecsArr len pDb m.2

end Create

/-- The loop of `ssa_db_destroy` over the field tables, which passes over the
null ones. -/
def destroyFieldTables (ppFieldTables : Nat → Ptr) : Nat → Ledger UInt64 → Ledger UInt64
  | 0, l => l
  | i + 1, l =>
      if (ppFieldTables i).isNone then destroyFieldTables ppFieldTables i l
      else destroyFieldTables ppFieldTables i (l.free (ppFieldTables i))

/-- `ssa_db_destroy`. The nulls it stores on its way are in blocks it frees. -/
def ssaDbDestroy (pSsaDb : Option SsaDb) (l : Ledger UInt64) : Ledger UInt64 :=
  match pSsaDb with
  | none => l
  | some p =>
      let l := destroyFieldTables p.ppFieldTablesAt p.dataTblCnt.toNat l
      let l := l.free p.ppFieldTables
      let l := l.freeDown p.ppTablesAt p.dataTblCnt.toNat
      let l := l.free p.ppTables
      let l := l.free p.pDbFieldTables
      let l := l.free p.pDbTables
      let l := l.free p.pDefTbl
      l.free p.pSsaDb

end Ibssa.Alloc
