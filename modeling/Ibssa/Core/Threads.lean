import Ibssa.Core.Worker
import Ibssa.Lib.Interleaving

/-!
# The plugin's threads (`ssa_plugin.c`, `ssa_db_run` in `ssa_extract.c`)

OpenSM calls `report` from threads of its own, any number of them at once, and
`destroy` from one. The plugin has one more thread, which runs `ssa_db_run`.
They share the database, the queue's lock, and a socket that carries control
messages to the worker, and the worker shares OpenSM's lock with OpenSM.

Each thread is a program counter, and a step of a thread is what it does between
two points where another thread can see it: one operation on a lock, one
operation under it, one message written or read. A thread that has to wait has
no step. The socket holds `capacity` messages; a write to a full one waits, and
so does a read from an empty one. Messages are written and read whole.

`report` makes its record before it takes the lock, so its counter carries what
the record is made of. What `ssa_db_validate` and the logging functions do is
not here: they write to the log and nowhere else.
-/

namespace Ibssa

open Keyed ByteOrder Machine

/-! ## The messages -/

/-- `struct ssa_db_ctrl_msg`, by its type; `other` is any value of the field
that the enumeration does not have. -/
inductive SsaDbCtrlMsg where
  | startExtract
  | lftChange
  | exit
  | other (type : Nat)
deriving DecidableEq, Inhabited, Repr

/-- What OpenSM reports: `event_id`, with as much of `event_data` and of the
subnet as `report` looks at. -/
inductive OsmEvent where
  | trap
  | lftChange (pLftChange : Option OsmEpiLftChangeEvent)
  | ucastRoutingDone (reroute : Option Bool)
  | subnetUp (subnetInitializationError : Bool)
  | stateChange
  | other (eventId : Nat)

/-! ## The program counters -/

/-- A call of `report`. -/
inductive ReportPc where
  /-- at `pthread_mutex_lock`, with the record made -/
  | lock (pSw : OsmNode) (e : OsmEpiLftChangeEvent)
  /-- at `cl_qlist_insert_tail` -/
  | insert (pSw : OsmNode) (e : OsmEpiLftChangeEvent)
  /-- at `pthread_mutex_unlock` -/
  | unlock
  /-- at `write` -/
  | write (msg : SsaDbCtrlMsg)
  | done

/-- How far `report` comes without touching what other threads touch. -/
def report : OsmEvent → ReportPc
  | .trap => .done
  | .lftChange pLftChange =>
      match pLftChange with
      | none => .done
      | some e =>
          match e.pSw with
          | none => .done
          | some pSw => .lock pSw e
  | .ucastRoutingDone _ => .done
  | .subnetUp subnetInitializationError =>
      if subnetInitializationError then .done else .write .startExtract
  | .stateChange => .done
  | .other _ => .done

/-- The worker, `ssa_db_run`. `starting` says whether `ssa_db_lft_handle` was
called for a START_EXTRACT or for an LFT_CHANGE. -/
inductive RunPc where
  /-- at `poll` and `read` -/
  | poll
  /-- at `CL_PLOCK_ACQUIRE` -/
  | acquire
  /-- at `ssa_db_extract` -/
  | extract
  /-- at `pthread_mutex_lock` in `ssa_db_lft_handle` -/
  | lftLock (starting : Bool)
  /-- in the loop of `ssa_db_lft_handle` -/
  | lftLoop (starting : Bool) (mem : Mem)
  /-- at `CL_PLOCK_RELEASE` -/
  | release
  /-- at `ssa_db_update` -/
  | update
  /-- at `ssa_db_compare` -/
  | compare
  | exited

/-- OpenSM's call of `destroy`. -/
inductive DestroyPc where
  | notCalled
  /-- at `write` -/
  | write
  /-- at `pthread_join` -/
  | join
  /-- back, with the socket closed and the database deleted -/
  | done
deriving DecidableEq, Inhabited, Repr

/-! ## The shared state -/

structure Threads where
  ssaDb : SsaDatabase
  firstTimeSubnetUp : Bool
  pSsaDbDiff : Option SsaDbDiff
  /-- whether `lft_rec_list_lock` is held -/
  lftRecListLock : Bool
  /-- whether a thread of OpenSM holds OpenSM's lock for writing -/
  osmLock : Bool
  /-- the messages on their way from `fd[0]` to `fd[1]` -/
  fd : List SsaDbCtrlMsg
  reports : List ReportPc
  workThread : RunPc
  destroy : DestroyPc

/-- The state `construct` leaves when it succeeds. -/
def threadsInit : Threads where
  ssaDb := ssaDatabaseInit
  firstTimeSubnetUp := true
  pSsaDbDiff := none
  lftRecListLock := false
  osmLock := false
  fd := []
  reports := []
  workThread := .poll
  destroy := .notCalled

/-- Call `i` of `report` goes on at `pc`. -/
def Threads.atReport (t : Threads) (i : Nat) (pc : ReportPc) : Threads :=
  { t with reports := t.reports.set i pc }

/-! ## What each thread does next -/

def reportStep (capacity : Nat) (t : Threads) (i : Nat) : Option Threads :=
  match t.reports[i]? with
  | some (.lock pSw e) =>
      if t.lftRecListLock then none
      else some { t.atReport i (.insert pSw e) with lftRecListLock := true }
  | some (.insert pSw e) =>
      some
        { t.atReport i .unlock with
          ssaDb :=
            { t.ssaDb with lftRecList := t.ssaDb.lftRecList ++ [lftChangeRec pSw e] } }
  | some .unlock => some { t.atReport i (.write .lftChange) with lftRecListLock := false }
  | some (.write msg) =>
      if t.fd.length < capacity then some { t.atReport i .done with fd := t.fd ++ [msg] }
      else none
  | some .done => none
  | none => none

/-- What the worker does with a message it has read. -/
def readMsg : SsaDbCtrlMsg → RunPc
  | .startExtract => .acquire
  | .lftChange => .lftLock false
  | .exit => .exited
  | .other _ => .poll

/-- Where the worker is when `ssa_db_lft_handle` returns. -/
def afterLftHandle (starting : Bool) : RunPc := if starting then .release else .poll

/-- One step of the worker. `subn`, `mem` and `alloc` are what it finds there:
OpenSM's subnet, and the allocator. -/
def ssaDbRunStep (t : Threads) (subn : OsmSubn) (mem : Mem) (alloc : Bool) : Option Threads :=
  match t.workThread with
  | .poll =>
      match t.fd with
      | [] => none
      | msg :: fd => some { t with fd := fd, workThread := readMsg msg }
  | .acquire => if t.osmLock then none else some { t with workThread := .extract }
  | .extract =>
      some
        { t with
          ssaDb := ssaDbExtract mem t.firstTimeSubnetUp t.ssaDb subn
          workThread := .lftLock true }
  | .lftLock starting =>
      if t.lftRecListLock then none
      else some { t with lftRecListLock := true, workThread := .lftLoop starting mem }
  | .lftLoop starting mem =>
      match t.ssaDb.lftRecList with
      | [] => some { t with lftRecListLock := false, workThread := afterLftHandle starting }
      | c :: rest =>
          some
            { t with
              ssaDb :=
                { t.ssaDb with
                  pLftDb := lftHandleChange mem t.ssaDb.pLftDb c, lftRecList := rest } }
  | .release => some { t with workThread := .update }
  | .update => some { t with ssaDb := ssaDbUpdate t.ssaDb, workThread := .compare }
  | .compare =>
      let r := ssaDbCompare mem alloc t.firstTimeSubnetUp t.ssaDb
      some
        { t with
          ssaDb := r.2
          firstTimeSubnetUp := false
          pSsaDbDiff := r.1
          workThread := .poll }
  | .exited => none

def destroyStep (capacity : Nat) (t : Threads) : Option Threads :=
  match t.destroy with
  | .notCalled => none
  | .write =>
      if t.fd.length < capacity then some { t with fd := t.fd ++ [.exit], destroy := .join }
      else none
  | .join =>
      match t.workThread with
      | .exited => some { t with destroy := .done }
      | _ => none
  | .done => none

/-- The plugin's own steps. -/
inductive Inner where
  | report (i : Nat)
  | work (subn : OsmSubn) (mem : Mem) (alloc : Bool)
  | destroy

/-- After `destroy` there is nothing left to step. -/
def innerStep (capacity : Nat) (t : Threads) (a : Inner) : Option Threads :=
  match t.destroy with
  | .done => none
  | _ =>
      match a with
      | .report i => reportStep capacity t i
      | .work subn mem alloc => ssaDbRunStep t subn mem alloc
      | .destroy => destroyStep capacity t

/-! ## OpenSM -/

/-- The worker holds OpenSM's lock, for reading. -/
def RunPc.holdsOsmLock : RunPc → Bool
  | .extract => true
  | .lftLock starting => starting
  | .lftLoop starting _ => starting
  | .release => true
  | _ => false

/-- A step of the whole. OpenSM may report, may take its own lock for writing
and give it back, and may call `destroy` once. -/
inductive Act where
  | report (e : OsmEvent)
  | osmAcquire
  | osmRelease
  | destroy
  | inner (a : Inner)

def threadStep (capacity : Nat) (t : Threads) (a : Act) : Option Threads :=
  match a with
  | .report e =>
      match t.destroy with
      | .done => none
      | _ => some { t with reports := t.reports ++ [report e] }
  | .osmAcquire =>
      if t.osmLock || t.workThread.holdsOsmLock then none else some { t with osmLock := true }
  | .osmRelease => if t.osmLock then some { t with osmLock := false } else none
  | .destroy =>
      match t.destroy with
      | .notCalled => some { t with destroy := .write }
      | _ => none
  | .inner a => innerStep capacity t a

end Ibssa
