import Ibssa.Core.Comparison
import Ibssa.Lib.Run

/-!
# The worker, and who it runs beside (`ssa_plugin.c`, `ssa_extract.c`)

OpenSM's callback `report` queues LFT changes from its own threads, whenever
it likes; the worker handles one message after the other. A START_EXTRACT is
four calls, and a report may fall between any two of them, so the worker's
state says how far it has come. Each call is one step: what it does to the
queue is done under the queue's lock, and nothing else is shared.

`Sys` puts a consumer beside the worker, on the receiving end of the diffs
that `ssa_db_compare` returns. The consumer is not part of the source. It does
what the comment in `ssa_db_diff_compare_subnet_tables` asks of whoever
updates an SMDB with a diff: removed records first, then the added ones, and
LFT records are set.
-/

namespace Ibssa

open Keyed ByteOrder

/-! ## Reporting LFT changes -/

/-- The record `report` makes of an LFT change event. The block is copied
with the block flag only; nothing reads it otherwise. -/
def lftChangeRec (pSw : OsmNode) (e : OsmEpiLftChangeEvent) : SsaDbLftChangeRec where
  flags := e.flags
  lftTop := e.lftTop
  blockNum := e.blockNum
  lid := pSw.baseLid 0
  block :=
    match e.flags with
    | .block =>
        let start := e.blockNum * UInt32.ofNat ibSmpDataSize
        Vector.ofFn fun i => pSw.sw.lft (start.toNat + i)
    | _ => Vector.replicate 64 0

/-- `report` on `OSM_EVENT_ID_LFT_CHANGE`. -/
def reportLftChange (ssaDb : SsaDatabase) (pLftChange : Option OsmEpiLftChangeEvent) :
    SsaDatabase :=
  match pLftChange with
  | none => ssaDb
  | some e =>
      match e.pSw with
      | none => ssaDb
      | some pSw => { ssaDb with lftRecList := ssaDb.lftRecList ++ [lftChangeRec pSw e] }

/-! ## The worker -/

/-- How far the worker has come with a START_EXTRACT. -/
inductive Phase where
  | idle
  | extracted
  | drained
  | updated
deriving DecidableEq, Inhabited, Repr

structure Worker where
  ssaDb : SsaDatabase
  firstTimeSubnetUp : Bool
  phase : Phase
  pSsaDbDiff : Option SsaDbDiff

/-- The worker as `construct` starts it. -/
def workerInit : Worker where
  ssaDb := ssaDatabaseInit
  firstTimeSubnetUp := true
  phase := .idle
  pSsaDbDiff := none

/-- One step: a report, an LFT_CHANGE message, or one of the four calls of a
START_EXTRACT. -/
inductive Event where
  | report (pLftChange : Option OsmEpiLftChangeEvent)
  | lftChange (mem : Mem)
  | extract (mem : Mem) (subn : OsmSubn)
  | lftHandle (mem : Mem)
  | update
  | compare (mem : Mem) (alloc : Bool)

/-- A START_EXTRACT with no report in between. -/
def startExtract (mem : Mem) (subn : OsmSubn) (alloc : Bool) : List Event :=
  [.extract mem subn, .lftHandle mem, .update, .compare mem alloc]

/-- The worker takes its calls in their order, and a report at any time. -/
def workerStep (w : Worker) : Event → Option Worker
  | .report pLftChange => some { w with ssaDb := reportLftChange w.ssaDb pLftChange }
  | .lftChange mem =>
      match w.phase with
      | .idle => some { w with ssaDb := ssaDbLftHandle mem w.ssaDb }
      | _ => none
  | .extract mem subn =>
      match w.phase with
      | .idle =>
          some
            { w with
              ssaDb := ssaDbExtract mem w.firstTimeSubnetUp w.ssaDb subn
              phase := .extracted }
      | _ => none
  | .lftHandle mem =>
      match w.phase with
      | .extracted => some { w with ssaDb := ssaDbLftHandle mem w.ssaDb, phase := .drained }
      | _ => none
  | .update =>
      match w.phase with
      | .drained => some { w with ssaDb := ssaDbUpdate w.ssaDb, phase := .updated }
      | _ => none
  | .compare mem alloc =>
      match w.phase with
      | .updated =>
          let r := ssaDbCompare mem alloc w.firstTimeSubnetUp w.ssaDb
          some
            { ssaDb := r.2
              firstTimeSubnetUp := false
              phase := .idle
              pSsaDbDiff := r.1 }
      | _ => none

/-! ## The consumer -/

structure Consumer where
  guidToLid : UInt64 → Option EpGuidToLidTblRec
  node : UInt64 → Option EpNodeTblRec
  lftBlock : UInt64 → Option EpLftBlockTblRec
  lftTop : UInt64 → Option EpLftTopTblRec

def consumerInit : Consumer where
  guidToLid := fun _ => none
  node := fun _ => none
  lftBlock := fun _ => none
  lftTop := fun _ => none

/-- Take in a diff. -/
def Consumer.push (c : Consumer) (d : SsaDbDiff) : Consumer where
  guidToLid :=
    patch c.guidToLid (fun k => (d.epGuidToLidTblRemoved.get? k).isSome)
      (view d.epGuidToLidTblAdded d.tables.guidToLid)
  node :=
    patch c.node (fun k => (d.epNodeTblRemoved.get? k).isSome)
      (view d.epNodeTblAdded d.tables.node)
  lftBlock := layered c.lftBlock (view d.epLftBlockTbl d.tables.lftBlock)
  lftTop := layered c.lftTop (view d.epLftTopTbl d.tables.lftTop)

/-- The worker with a consumer. `returned` counts the diffs so far. -/
structure Sys where
  worker : Worker
  consumer : Consumer
  returned : Nat

def sysInit : Sys := ⟨workerInit, consumerInit, 0⟩

/-- What the consumer does after a step of the worker: nothing, unless the
step was a comparison that returned a diff. -/
def Sys.deliver (s : Sys) (e : Event) (w : Worker) : Sys :=
  match e, w.pSsaDbDiff with
  | .compare _ _, some d => ⟨w, s.consumer.push d, s.returned + 1⟩
  | _, _ => { s with worker := w }

def sysStep (s : Sys) (e : Event) : Option Sys := (workerStep s.worker e).map (s.deliver e)

end Ibssa
