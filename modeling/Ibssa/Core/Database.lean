import Ibssa.Core.Smdb
import Ibssa.Lib.Slots

/-!
# The core's databases (`ssa_database.h`, `ssa_database.c`)

A snapshot (`ssa_db_extract`) is four record tables with a map from keys to
offsets for each, and a pkey table that the port records point into. The
LFT database is two such tables of current records and two more, the dump,
for changes that have not been merged yet.

`ep_map_rec` is an item of such a map: the key, and the offset it carries.
-/

namespace Ibssa

open Keyed ByteOrder

/-- A `cl_qmap_t` of `ep_map_rec` items. -/
abbrev EpMap := OrdMap UInt64 Nat

/-- An `ep_map_rec`: its key and its offset. -/
abbrev EpMapRec := UInt64 × Nat

structure SsaDbLft where
  pDbLftTopTbl : Buf EpLftTopTblRec
  pDbLftBlockTbl : Buf EpLftBlockTblRec
  pDumpLftTopTbl : Buf EpLftTopTblRec
  pDumpLftBlockTbl : Buf EpLftBlockTblRec
  epDbLftBlockTbl : EpMap
  epDbLftTopTbl : EpMap
  epDumpLftBlockTbl : EpMap
  epDumpLftTopTbl : EpMap

structure SsaDbExtract where
  pGuidToLidTbl : Buf EpGuidToLidTblRec
  pNodeTbl : Buf EpNodeTblRec
  pLinkTbl : Buf EpLinkTblRec
  pPortTbl : Buf EpPortTblRec
  pPkeyTbl : Buf UInt16
  pkeyTblRecNum : Nat
  epGuidToLidTbl : EpMap
  epNodeTbl : EpMap
  epPortTbl : EpMap
  epLinkTbl : EpMap
  subnetPrefix : UInt64
  smState : UInt8
  lmc : UInt8
  subnetTimeout : UInt8
  allowBothPkeys : UInt8
  initialized : Bool

/-- `struct ssa_db_lft_change_rec`: what the plugin keeps of an LFT change
event. The block is there with the block flag only. -/
structure SsaDbLftChangeRec where
  flags : LftChangeFlags
  lftTop : UInt16
  blockNum : UInt32
  lid : Be16
  block : Vector UInt8 64
deriving DecidableEq, Inhabited

structure SsaDatabase where
  pCurrentDb : SsaDbExtract
  pPreviousDb : SsaDbExtract
  pDumpDb : SsaDbExtract
  pLftDb : SsaDbLft
  lftRecList : List SsaDbLftChangeRec

/-- `ssa_db_extract_init`: `calloc`, and four empty maps. -/
def ssaDbExtractInit : SsaDbExtract where
  pGuidToLidTbl := Buf.null
  pNodeTbl := Buf.null
  pLinkTbl := Buf.null
  pPortTbl := Buf.null
  pPkeyTbl := Buf.null
  pkeyTblRecNum := 0
  epGuidToLidTbl := OrdMap.empty
  epNodeTbl := OrdMap.empty
  epPortTbl := OrdMap.empty
  epLinkTbl := OrdMap.empty
  subnetPrefix := 0
  smState := 0
  lmc := 0
  subnetTimeout := 0
  allowBothPkeys := 0
  initialized := false

/-- The LFT database of `ssa_database_init`. -/
def ssaDbLftInit : SsaDbLft where
  pDbLftTopTbl := Buf.null
  pDbLftBlockTbl := Buf.null
  pDumpLftTopTbl := Buf.null
  pDumpLftBlockTbl := Buf.null
  epDbLftBlockTbl := OrdMap.empty
  epDbLftTopTbl := OrdMap.empty
  epDumpLftBlockTbl := OrdMap.empty
  epDumpLftTopTbl := OrdMap.empty

/-- `ssa_database_init`, and the three snapshots that `construct` adds. -/
def ssaDatabaseInit : SsaDatabase where
  pCurrentDb := ssaDbExtractInit
  pPreviousDb := ssaDbExtractInit
  pDumpDb := ssaDbExtractInit
  pLftDb := ssaDbLftInit
  lftRecList := []

/-- `ep_rec_gen_key`. -/
def epRecGenKey (base index : UInt16) : UInt64 :=
  base.toUInt64 ||| (index.toUInt64 <<< 16)

/-- `ep_qmap_clear`. -/
def epQmapClear (_pMap : EpMap) : EpMap := OrdMap.empty

end Ibssa
