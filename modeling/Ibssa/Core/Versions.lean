import Ibssa.Core.Worker
import Ibssa.Lib.Objects

/-!
# The worker with its pointers (`ssa_plugin.c`, `ssa_extract.c`, `ssa_database.c`)

`Worker` holds the three databases themselves. The source holds pointers to
them: `construct` allocates three objects, and `ssa_db_update` moves the
pointers along, deletes one object and allocates another. `Plugin` is the
worker with these pointers and the objects, and its functions are those of
the source once more, now with what they read, write, allocate and delete.
What they compute is left to the functions `Worker` is made of, which take
the database with every pointer read.

A pointer may be NULL, and `calloc` may fail, so that the NULL checks of the
source have something to check. The event says whether it failed.
-/

namespace Ibssa

open Lifetime Keyed

structure Plugin where
  objects : Objects SsaDbExtract
  pCurrentDb : Option Nat
  pPreviousDb : Option Nat
  pDumpDb : Option Nat
  pLftDb : SsaDbLft
  lftRecList : List SsaDbLftChangeRec
  firstTimeSubnetUp : Bool
  phase : Phase
  pSsaDbDiff : Option SsaDbDiff

namespace Plugin

/-- What is read through a pointer. A dead pointer reads as an empty database,
which does not matter: nothing is sound after that. -/
def deref (s : Plugin) (p : Option Nat) : SsaDbExtract :=
  (s.objects.read p).getD Ibssa.ssaDbExtractInit

/-- The database with every pointer read. -/
def database (s : Plugin) : SsaDatabase where
  pCurrentDb := s.deref s.pCurrentDb
  pPreviousDb := s.deref s.pPreviousDb
  pDumpDb := s.deref s.pDumpDb
  pLftDb := s.pLftDb
  lftRecList := s.lftRecList

/-- The worker that the pointers stand for. -/
def worker (s : Plugin) : Worker where
  ssaDb := s.database
  firstTimeSubnetUp := s.firstTimeSubnetUp
  phase := s.phase
  pSsaDbDiff := s.pSsaDbDiff

/-- Keep what was done to the LFT database and to the queue. -/
def withLft (s : Plugin) (ssaDb : SsaDatabase) : Plugin :=
  { s with pLftDb := ssaDb.pLftDb, lftRecList := ssaDb.lftRecList }

/-- `ssa_db_extract_init`. -/
def ssaDbExtractInit (calloc : Bool) (s : Plugin) : Option Nat × Plugin :=
  if calloc then
    (some s.objects.next, { s with objects := s.objects.alloc Ibssa.ssaDbExtractInit })
  else (none, s)

/-- `ssa_db_extract_delete`. -/
def ssaDbExtractDelete (s : Plugin) (pSsaDb : Option Nat) : Plugin :=
  { s with objects := s.objects.free pSsaDb }

/-- What `ssa_db_remove` does to a database that is initialized: its maps lose
their items. -/
def removeItems (d : SsaDbExtract) : SsaDbExtract :=
  if !d.initialized then d
  else
    { d with
      epGuidToLidTbl := OrdMap.empty
      epNodeTbl := OrdMap.empty
      epPortTbl := OrdMap.empty
      epLinkTbl := OrdMap.empty
      initialized := false }

/-- `ssa_db_remove`. -/
def ssaDbRemove (s : Plugin) (pSsaDb : Option Nat) : Plugin :=
  match pSsaDb with
  | none => s
  | some _ => { s with objects := s.objects.modify pSsaDb removeItems }

/-- `ssa_db_extract`, which writes the object behind `p_dump_db`. -/
def ssaDbExtract (mem : Mem) (subn : OsmSubn) (s : Plugin) : Plugin :=
  let r := Ibssa.ssaDbExtract mem s.firstTimeSubnetUp s.database subn
  { s.withLft r with objects := s.objects.modify s.pDumpDb fun _ => r.pDumpDb }

/-- `ssa_db_validate`, which only prints. -/
def ssaDbValidate (s : Plugin) (pSsaDb : Option Nat) : Plugin :=
  match pSsaDb with
  | none => s
  | some _ => { s with objects := s.objects.use pSsaDb }

/-- The check of the three pointers that `ssa_db_update` and `ssa_db_compare`
begin with. -/
def badArguments (s : Plugin) : Bool :=
  s.pPreviousDb.isNone || s.pCurrentDb.isNone || s.pDumpDb.isNone

/-- The first half of `ssa_db_update`, the update of the previous SMDB. -/
def updatePrevious (s : Plugin) : Plugin :=
  let s := { s with objects := s.objects.use s.pCurrentDb }
  if (s.deref s.pCurrentDb).initialized then
    let s := (s.ssaDbRemove s.pPreviousDb).ssaDbExtractDelete s.pPreviousDb
    { s with pPreviousDb := s.pCurrentDb }
  else s

/-- `ssa_db_update`. -/
def ssaDbUpdate (calloc : Bool) (s : Plugin) : Plugin :=
  if s.badArguments then s
  else
    let s := s.updatePrevious
    let s := { s with pCurrentDb := s.pDumpDb }
    let r := s.ssaDbExtractInit calloc
    { r.2 with pDumpDb := r.1 }

/-- `ssa_db_compare`. -/
def ssaDbCompare (mem : Mem) (alloc : Bool) (s : Plugin) : Plugin :=
  if s.badArguments then { s with pSsaDbDiff := none }
  else
    let s := { s with objects := (s.objects.use s.pCurrentDb).use s.pPreviousDb }
    let r := Ibssa.ssaDbCompare mem alloc s.firstTimeSubnetUp s.database
    { s.withLft r.2 with pSsaDbDiff := r.1 }

/-- What `ssa_database_delete` does with the three databases. -/
def ssaDatabaseDelete (s : Plugin) : Plugin :=
  let s := s.ssaDbExtractDelete s.pDumpDb
  let s := s.ssaDbExtractDelete s.pPreviousDb
  s.ssaDbExtractDelete s.pCurrentDb

/-- What `construct` starts from: `ssa_database_init` leaves the three pointers
NULL. -/
def ssaDatabaseInit : Plugin where
  objects := Objects.empty
  pCurrentDb := none
  pPreviousDb := none
  pDumpDb := none
  pLftDb := ssaDbLftInit
  lftRecList := []
  firstTimeSubnetUp := true
  phase := .idle
  pSsaDbDiff := none

/-- `construct`, when it succeeds. -/
def construct : Plugin :=
  let r := ssaDatabaseInit.ssaDbExtractInit true
  let s := { r.2 with pPreviousDb := r.1 }
  let r := s.ssaDbExtractInit true
  let s := { r.2 with pCurrentDb := r.1 }
  let r := s.ssaDbExtractInit true
  { r.2 with pDumpDb := r.1 }

end Plugin

/-- An event, and whether `ssa_db_extract_init` gets its memory in it. -/
abbrev PluginEvent := Event × Bool

/-- `workerStep`, with the pointers. -/
def pluginStep (s : Plugin) : PluginEvent → Option Plugin
  | (.report pLftChange, _) => some (s.withLft (reportLftChange s.database pLftChange))
  | (.lftChange mem, _) =>
      match s.phase with
      | .idle => some (s.withLft (ssaDbLftHandle mem s.database))
      | _ => none
  | (.extract mem subn, _) =>
      match s.phase with
      | .idle => some { s.ssaDbExtract mem subn with phase := .extracted }
      | _ => none
  | (.lftHandle mem, _) =>
      match s.phase with
      | .extracted =>
          some { s.withLft (ssaDbLftHandle mem s.database) with phase := .drained }
      | _ => none
  | (.update, calloc) =>
      match s.phase with
      | .drained =>
          some { (s.ssaDbValidate s.pDumpDb).ssaDbUpdate calloc with phase := .updated }
      | _ => none
  | (.compare mem alloc, _) =>
      match s.phase with
      | .updated =>
          some { s.ssaDbCompare mem alloc with firstTimeSubnetUp := false, phase := .idle }
      | _ => none

end Ibssa
