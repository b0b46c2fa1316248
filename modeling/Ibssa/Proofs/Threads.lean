import Ibssa.Core.Threads
import Ibssa.Proofs.Replication

/-!
# Every interleaving is a run of the worker

The worker of `Core.Worker` takes a report, a drain and each call of a
START_EXTRACT in one step. The threads take many, and between any two of them
another thread may take one of its own. What makes the large steps right is the
queue's lock: a report holds it when it inserts, the worker holds it for the
whole drain, and at most one of them does (`exclusive`). So nothing is inserted
in the middle of a drain, and a drain may be counted as done when the lock is
taken, with everything that was in the queue at that moment.

`Threads.worker` is the worker that a state of the threads stands for, with the
drain in progress already done, and `commits` names the large step that a small
one commits. `Move` says what a step can do, once, for every proof about the
threads.
-/

namespace Ibssa

open Keyed ByteOrder Machine

/-! ## What a step can do -/

inductive Move (capacity : Nat) (t : Threads) : Act → Threads → Prop where
  | called (e : OsmEvent) (alive : t.destroy ≠ .done) :
      Move capacity t (.report e) { t with reports := t.reports ++ [report e] }
  | osmAcquired (free : t.osmLock = false) (unread : t.workThread.holdsOsmLock = false) :
      Move capacity t .osmAcquire { t with osmLock := true }
  | osmReleased (held : t.osmLock = true) :
      Move capacity t .osmRelease { t with osmLock := false }
  | destroyed (first : t.destroy = .notCalled) :
      Move capacity t .destroy { t with destroy := .write }
  | locked {i : Nat} {pSw : OsmNode} {e : OsmEpiLftChangeEvent} (alive : t.destroy ≠ .done)
      (pc : t.reports[i]? = some (.lock pSw e)) (free : t.lftRecListLock = false) :
      Move capacity t (.inner (.report i))
        { t.atReport i (.insert pSw e) with lftRecListLock := true }
  | inserted {i : Nat} {pSw : OsmNode} {e : OsmEpiLftChangeEvent} (alive : t.destroy ≠ .done)
      (pc : t.reports[i]? = some (.insert pSw e)) :
      Move capacity t (.inner (.report i))
        { t.atReport i .unlock with
          ssaDb := { t.ssaDb with lftRecList := t.ssaDb.lftRecList ++ [lftChangeRec pSw e] } }
  | unlocked {i : Nat} (alive : t.destroy ≠ .done) (pc : t.reports[i]? = some .unlock) :
      Move capacity t (.inner (.report i))
        { t.atReport i (.write .lftChange) with lftRecListLock := false }
  | wrote {i : Nat} {msg : SsaDbCtrlMsg} (alive : t.destroy ≠ .done)
      (pc : t.reports[i]? = some (.write msg)) (room : t.fd.length < capacity) :
      Move capacity t (.inner (.report i)) { t.atReport i .done with fd := t.fd ++ [msg] }
  | read {subn : OsmSubn} {mem : Mem} {alloc : Bool} {msg : SsaDbCtrlMsg}
      {fd : List SsaDbCtrlMsg} (alive : t.destroy ≠ .done) (pc : t.workThread = .poll)
      (first : t.fd = msg :: fd) :
      Move capacity t (.inner (.work subn mem alloc))
        { t with fd := fd, workThread := readMsg msg }
  | acquired {subn : OsmSubn} {mem : Mem} {alloc : Bool} (alive : t.destroy ≠ .done)
      (pc : t.workThread = .acquire) (free : t.osmLock = false) :
      Move capacity t (.inner (.work subn mem alloc)) { t with workThread := .extract }
  | extracted {subn : OsmSubn} {mem : Mem} {alloc : Bool} (alive : t.destroy ≠ .done)
      (pc : t.workThread = .extract) :
      Move capacity t (.inner (.work subn mem alloc))
        { t with
          ssaDb := ssaDbExtract mem t.firstTimeSubnetUp t.ssaDb subn
          workThread := .lftLock true }
  | drainLocked {subn : OsmSubn} {mem : Mem} {alloc starting : Bool} (alive : t.destroy ≠ .done)
      (pc : t.workThread = .lftLock starting) (free : t.lftRecListLock = false) :
      Move capacity t (.inner (.work subn mem alloc))
        { t with lftRecListLock := true, workThread := .lftLoop starting mem }
  | drainedOne {subn : OsmSubn} {mem mem' : Mem} {alloc starting : Bool}
      {c : SsaDbLftChangeRec} {rest : List SsaDbLftChangeRec} (alive : t.destroy ≠ .done)
      (pc : t.workThread = .lftLoop starting mem) (first : t.ssaDb.lftRecList = c :: rest) :
      Move capacity t (.inner (.work subn mem' alloc))
        { t with
          ssaDb :=
            { t.ssaDb with
              pLftDb := lftHandleChange mem t.ssaDb.pLftDb c, lftRecList := rest } }
  | drainUnlocked {subn : OsmSubn} {mem mem' : Mem} {alloc starting : Bool}
      (alive : t.destroy ≠ .done) (pc : t.workThread = .lftLoop starting mem)
      (empty : t.ssaDb.lftRecList = []) :
      Move capacity t (.inner (.work subn mem' alloc))
        { t with lftRecListLock := false, workThread := afterLftHandle starting }
  | released {subn : OsmSubn} {mem : Mem} {alloc : Bool} (alive : t.destroy ≠ .done)
      (pc : t.workThread = .release) :
      Move capacity t (.inner (.work subn mem alloc)) { t with workThread := .update }
  | updated {subn : OsmSubn} {mem : Mem} {alloc : Bool} (alive : t.destroy ≠ .done)
      (pc : t.workThread = .update) :
      Move capacity t (.inner (.work subn mem alloc))
        { t with ssaDb := ssaDbUpdate t.ssaDb, workThread := .compare }
  | compared {subn : OsmSubn} {mem : Mem} {alloc : Bool} (alive : t.destroy ≠ .done)
      (pc : t.workThread = .compare) :
      Move capacity t (.inner (.work subn mem alloc))
        { t with
          ssaDb := (ssaDbCompare mem alloc t.firstTimeSubnetUp t.ssaDb).2
          firstTimeSubnetUp := false
          pSsaDbDiff := (ssaDbCompare mem alloc t.firstTimeSubnetUp t.ssaDb).1
          workThread := .poll }
  | wroteExit (pc : t.destroy = .write) (room : t.fd.length < capacity) :
      Move capacity t (.inner .destroy) { t with fd := t.fd ++ [.exit], destroy := .join }
  | joined (pc : t.destroy = .join) (gone : t.workThread = .exited) :
      Move capacity t (.inner .destroy) { t with destroy := .done }

section Moves

variable {capacity : Nat} {t t' : Threads}

private theorem move_of_reportStep {i : Nat} (alive : t.destroy ≠ .done)
    (h : reportStep capacity t i = some t') : Move capacity t (.inner (.report i)) t' := by
  rw [reportStep] at h
  split at h
  next pSw e hpc =>
      split at h
      · cases h
      next hlock =>
          obtain rfl := Option.some.inj h
          exact .locked alive hpc (Bool.eq_false_iff.mpr hlock)
  next pSw e hpc =>
      obtain rfl := Option.some.inj h
      exact .inserted alive hpc
  next hpc =>
      obtain rfl := Option.some.inj h
      exact .unlocked alive hpc
  next msg hpc =>
      split at h
      next hroom =>
          obtain rfl := Option.some.inj h
          exact .wrote alive hpc hroom
      · cases h
  · cases h
  · cases h

private theorem move_of_ssaDbRunStep {subn : OsmSubn} {mem : Mem} {alloc : Bool}
    (alive : t.destroy ≠ .done) (h : ssaDbRunStep t subn mem alloc = some t') :
    Move capacity t (.inner (.work subn mem alloc)) t' := by
  rw [ssaDbRunStep] at h
  split at h
  next hpc =>
      split at h
      · cases h
      next msg fd hfd =>
          obtain rfl := Option.some.inj h
          exact .read alive hpc hfd
  next hpc =>
      split at h
      · cases h
      next hlock =>
          obtain rfl := Option.some.inj h
          exact .acquired alive hpc (Bool.eq_false_iff.mpr hlock)
  next hpc =>
      obtain rfl := Option.some.inj h
      exact .extracted alive hpc
  next starting hpc =>
      split at h
      · cases h
      next hlock =>
          obtain rfl := Option.some.inj h
          exact .drainLocked alive hpc (Bool.eq_false_iff.mpr hlock)
  next starting mem' hpc =>
      split at h
      next hnil =>
          obtain rfl := Option.some.inj h
          exact .drainUnlocked alive hpc hnil
      next c rest hcons =>
          obtain rfl := Option.some.inj h
          exact .drainedOne alive hpc hcons
  next hpc =>
      obtain rfl := Option.some.inj h
      exact .released alive hpc
  next hpc =>
      obtain rfl := Option.some.inj h
      exact .updated alive hpc
  next hpc =>
      obtain rfl := Option.some.inj h
      exact .compared alive hpc
  · cases h

private theorem move_of_destroyStep (h : destroyStep capacity t = some t') :
    Move capacity t (.inner .destroy) t' := by
  rw [destroyStep] at h
  split at h
  · cases h
  next hpc =>
      split at h
      next hroom =>
          obtain rfl := Option.some.inj h
          exact .wroteExit hpc hroom
      · cases h
  next hpc =>
      split at h
      next hgone =>
          obtain rfl := Option.some.inj h
          exact .joined hpc hgone
      · cases h
  · cases h

private theorem move_of_innerStep {a : Inner} (h : innerStep capacity t a = some t') :
    Move capacity t (.inner a) t' := by
  unfold innerStep at h
  split at h
  · cases h
  next alive =>
      cases a with
      | report i => exact move_of_reportStep alive h
      | work subn mem alloc => exact move_of_ssaDbRunStep alive h
      | destroy => exact move_of_destroyStep h

theorem move_of_step {a : Act} (h : threadStep capacity t a = some t') :
    Move capacity t a t' := by
  unfold threadStep at h
  split at h
  next e =>
      split at h
      · cases h
      next alive =>
          obtain rfl := Option.some.inj h
          exact .called e alive
  next =>
      split at h
      · cases h
      next hfree =>
          obtain rfl := Option.some.inj h
          rw [Bool.not_eq_true, Bool.or_eq_false_iff] at hfree
          exact .osmAcquired hfree.1 hfree.2
  next =>
      split at h
      next hheld =>
          obtain rfl := Option.some.inj h
          exact .osmReleased hheld
      · cases h
  next =>
      split at h
      next hfirst =>
          obtain rfl := Option.some.inj h
          exact .destroyed hfirst
      · cases h
  next a => exact move_of_innerStep h

end Moves

/-! ## Who holds the locks -/

/-- Between taking the queue's lock and giving it back. -/
def ReportPc.holdsLock : ReportPc → Bool
  | .insert _ _ => true
  | .unlock => true
  | _ => false

def RunPc.holdsLock : RunPc → Bool
  | .lftLoop _ _ => true
  | _ => false

def Threads.holders (t : Threads) : Nat :=
  t.reports.countP ReportPc.holdsLock + t.workThread.holdsLock.toNat

/-- The lock's flag counts its holders, and OpenSM's lock is not held for
reading and for writing. -/
structure Exclusive (t : Threads) : Prop where
  queue : t.holders = t.lftRecListLock.toNat
  osm : t.osmLock = true → t.workThread.holdsOsmLock = false

section Exclusive

variable {capacity : Nat} {t t' : Threads} {i : Nat} {pc pc' : ReportPc}

theorem holdsLock_report (e : OsmEvent) : (report e).holdsLock = false := by
  unfold report
  repeat' split
  all_goals rfl

theorem holdsLock_readMsg (msg : SsaDbCtrlMsg) : (readMsg msg).holdsLock = false := by
  cases msg <;> rfl

theorem holdsOsmLock_readMsg (msg : SsaDbCtrlMsg) : (readMsg msg).holdsOsmLock = false := by
  cases msg <;> rfl

/-- A call that holds the lock has set the flag, and the worker does not hold it. -/
theorem Exclusive.of_holder (h : Exclusive t) (hpc : t.reports[i]? = some pc)
    (hholds : pc.holdsLock = true) :
    t.lftRecListLock = true ∧ t.workThread.holdsLock = false := by
  have hpos : 0 < t.reports.countP ReportPc.holdsLock :=
    List.countP_pos_iff.mpr ⟨pc, List.mem_of_getElem? hpc, hholds⟩
  have hqueue := h.queue
  rw [Threads.holders] at hqueue
  have hone : t.lftRecListLock.toNat ≤ 1 := Bool.toNat_le _
  have hwork : t.workThread.holdsLock.toNat = 0 := by omega
  have hflag : t.lftRecListLock.toNat = 1 := by omega
  exact ⟨Bool.toNat_eq_one.mp hflag, Bool.toNat_eq_zero.mp hwork⟩

theorem Exclusive.of_draining (h : Exclusive t) (hholds : t.workThread.holdsLock = true) :
    t.lftRecListLock = true := by
  have hqueue := h.queue
  rw [Threads.holders, hholds, Bool.toNat_true] at hqueue
  have hone : t.lftRecListLock.toNat ≤ 1 := Bool.toNat_le _
  exact Bool.toNat_eq_one.mp (by omega)

/-- A step of a call, which moves the flag as it moves its own hold. -/
theorem Exclusive.of_report (h : Exclusive t) (hpc : t.reports[i]? = some pc)
    (hreports : t'.reports = t.reports.set i pc') (hwork : t'.workThread = t.workThread)
    (hosm : t'.osmLock = t.osmLock)
    (hflag : t'.lftRecListLock.toNat + pc.holdsLock.toNat
      = t.lftRecListLock.toNat + pc'.holdsLock.toNat) : Exclusive t' := by
  refine ⟨?_, ?_⟩
  · have hcount := countP_set_add ReportPc.holdsLock hpc pc'
    have htoNat : ∀ b : Bool, (if b = true then 1 else 0) = b.toNat := by decide
    have hqueue := h.queue
    rw [htoNat, htoNat] at hcount
    rw [Threads.holders] at hqueue ⊢
    rw [hreports, hwork]
    omega
  · rw [hosm, hwork]
    exact h.osm

/-- A step of the worker, likewise. -/
theorem Exclusive.of_work (h : Exclusive t) (hreports : t'.reports = t.reports)
    (hosm : t'.osmLock = true → t'.workThread.holdsOsmLock = false)
    (hflag : t'.lftRecListLock.toNat + t.workThread.holdsLock.toNat
      = t.lftRecListLock.toNat + t'.workThread.holdsLock.toNat) : Exclusive t' := by
  refine ⟨?_, hosm⟩
  have hqueue := h.queue
  rw [Threads.holders] at hqueue ⊢
  rw [hreports]
  omega

theorem exclusive_init : Exclusive threadsInit := ⟨rfl, fun h => by cases h⟩

theorem Exclusive.of_move {a : Act} (h : Exclusive t) (hmove : Move capacity t a t') :
    Exclusive t' := by
  cases hmove with
  | called e _ =>
      refine ⟨?_, h.osm⟩
      show (t.reports ++ [report e]).countP ReportPc.holdsLock + _ = _
      rw [List.countP_append, List.countP_singleton, holdsLock_report]
      exact h.queue
  | osmAcquired _ unread => exact ⟨h.queue, fun _ => unread⟩
  | osmReleased _ => exact ⟨h.queue, fun hc => by cases hc⟩
  | destroyed _ => exact ⟨h.queue, h.osm⟩
  | locked _ pc free => exact h.of_report pc rfl rfl rfl (by rw [free]; rfl)
  | inserted _ pc => exact h.of_report pc rfl rfl rfl rfl
  | unlocked _ pc =>
      have hlocked := (h.of_holder pc rfl).1
      exact h.of_report pc rfl rfl rfl (by rw [hlocked]; rfl)
  | wrote _ pc _ => exact h.of_report pc rfl rfl rfl rfl
  | @read _ _ _ msg _ _ pc _ =>
      refine h.of_work rfl (fun _ => holdsOsmLock_readMsg msg) ?_
      show _ = _ + (readMsg msg).holdsLock.toNat
      rw [holdsLock_readMsg, pc]
      rfl
  | acquired _ pc free =>
      refine h.of_work rfl (fun hc => ?_) (by rw [pc]; rfl)
      rw [free] at hc
      cases hc
  | extracted _ pc =>
      refine h.of_work rfl (fun hc => ?_) (by rw [pc]; rfl)
      have hosm := h.osm hc
      rw [pc] at hosm
      cases hosm
  | @drainLocked _ _ _ starting _ pc free =>
      refine h.of_work rfl (fun hc => ?_) (by rw [pc, free]; rfl)
      have hosm := h.osm hc
      rw [pc] at hosm
      exact hosm
  | drainedOne _ pc _ => exact h.of_work rfl h.osm rfl
  | @drainUnlocked _ _ _ _ starting _ pc _ =>
      have hlocked := h.of_draining (by rw [pc]; rfl)
      refine h.of_work rfl (fun hc => ?_) ?_
      · have hosm := h.osm hc
        rw [pc] at hosm
        cases hs : starting with
        | false => rfl
        | true =>
            rw [hs] at hosm
            cases hosm
      · rw [pc, hlocked]
        cases starting <;> rfl
  | released _ pc => exact h.of_work rfl (fun _ => rfl) (by rw [pc]; rfl)
  | updated _ pc => exact h.of_work rfl (fun _ => rfl) (by rw [pc]; rfl)
  | compared _ pc => exact h.of_work rfl (fun _ => rfl) (by rw [pc]; rfl)
  | wroteExit _ _ => exact ⟨h.queue, h.osm⟩
  | joined _ _ => exact ⟨h.queue, h.osm⟩

theorem exclusive_of_step {a : Act} (h : Exclusive t) (hstep : threadStep capacity t a = some t') :
    Exclusive t' :=
  h.of_move (move_of_step hstep)

theorem exclusive {as : List Act} (hrun : run (threadStep capacity) threadsInit as = some t) :
    Exclusive t :=
  run_inv exclusive_of_step exclusive_init hrun

end Exclusive

/-! ## The worker the threads stand for -/

/-- How far the worker has come with a START_EXTRACT. A drain is over when it
starts. -/
def RunPc.phase : RunPc → Phase
  | .lftLock starting => if starting then .extracted else .idle
  | .lftLoop starting _ => if starting then .drained else .idle
  | .release => .drained
  | .update => .drained
  | .compare => .updated
  | _ => .idle

/-- The database with the drain in progress carried out. -/
def Threads.drainedDb (t : Threads) : SsaDatabase :=
  match t.workThread with
  | .lftLoop _ mem => ssaDbLftHandle mem t.ssaDb
  | _ => t.ssaDb

def Threads.worker (t : Threads) : Worker where
  ssaDb := t.drainedDb
  firstTimeSubnetUp := t.firstTimeSubnetUp
  phase := t.workThread.phase
  pSsaDbDiff := t.pSsaDbDiff

def drainEvent (starting : Bool) (mem : Mem) : Event :=
  if starting then .lftHandle mem else .lftChange mem

/-- The step of the worker that a step of a thread commits: a report where it
inserts, a drain where it has the lock, and the worker's other calls where they
are made. -/
def commits (t : Threads) : Act → List Event
  | .inner (.report i) =>
      match t.reports[i]? with
      | some (.insert pSw e) => [.report (some { e with pSw := some pSw })]
      | _ => []
  | .inner (.work subn mem alloc) =>
      match t.workThread with
      | .extract => [.extract mem subn]
      | .lftLock starting => [drainEvent starting mem]
      | .update => [.update]
      | .compare => [.compare mem alloc]
      | _ => []
  | _ => []

/-- The steps of the worker that a run of the threads commits, in their order. -/
def committed (capacity : Nat) (as : List Act) : List Event :=
  outputs (threadStep capacity) commits threadsInit as

section Simulation

variable {capacity : Nat} {t t' : Threads}

/-- Outside a drain the worker is what the fields say. -/
theorem worker_of_notDraining (h : t.workThread.holdsLock = false) :
    t.worker = ⟨t.ssaDb, t.firstTimeSubnetUp, t.workThread.phase, t.pSsaDbDiff⟩ := by
  rw [Threads.worker, Threads.drainedDb]
  split
  next hpc =>
      rw [hpc] at h
      cases h
  · rfl

theorem worker_of_pc {pc : RunPc} (hpc : t.workThread = pc) (h : pc.holdsLock = false) :
    t.worker = ⟨t.ssaDb, t.firstTimeSubnetUp, pc.phase, t.pSsaDbDiff⟩ := by
  subst hpc
  exact worker_of_notDraining h

theorem worker_of_draining {starting : Bool} {mem : Mem}
    (hpc : t.workThread = .lftLoop starting mem) :
    t.worker = ⟨ssaDbLftHandle mem t.ssaDb, t.firstTimeSubnetUp,
      (RunPc.lftLoop starting mem).phase, t.pSsaDbDiff⟩ := by
  rw [Threads.worker, Threads.drainedDb, hpc]

/-- One round of the loop changes nothing once the whole drain is counted. -/
theorem ssaDbLftHandle_cons (mem : Mem) {ssaDb : SsaDatabase} {c : SsaDbLftChangeRec}
    {rest : List SsaDbLftChangeRec} (h : ssaDb.lftRecList = c :: rest) :
    ssaDbLftHandle mem
        { ssaDb with pLftDb := lftHandleChange mem ssaDb.pLftDb c, lftRecList := rest }
      = ssaDbLftHandle mem ssaDb := by
  rw [ssaDbLftHandle, ssaDbLftHandle, h]
  rfl

theorem ssaDbLftHandle_nil (mem : Mem) {ssaDb : SsaDatabase} (h : ssaDb.lftRecList = []) :
    ssaDbLftHandle mem ssaDb = ssaDb := by
  rw [ssaDbLftHandle, h, List.foldl_nil, ← h]

theorem phase_readMsg (msg : SsaDbCtrlMsg) : (readMsg msg).phase = .idle := by
  cases msg <;> rfl

theorem phase_afterLftHandle (starting : Bool) (mem : Mem) :
    (afterLftHandle starting).phase = (RunPc.lftLoop starting mem).phase := by
  cases starting <;> rfl

theorem holdsLock_afterLftHandle (starting : Bool) :
    (afterLftHandle starting).holdsLock = false := by
  cases starting <;> rfl

theorem run_singleton {w w' : Worker} {e : Event} (h : workerStep w e = some w') :
    run workerStep w [e] = some w' :=
  run_cons_eq_some.mpr ⟨w', h, rfl⟩

theorem workerStep_drainEvent {w : Worker} {starting : Bool} (mem : Mem)
    (hphase : w.phase = (RunPc.lftLock starting).phase) :
    workerStep w (drainEvent starting mem)
      = some ⟨ssaDbLftHandle mem w.ssaDb, w.firstTimeSubnetUp,
          (RunPc.lftLoop starting mem).phase, w.pSsaDbDiff⟩ := by
  cases starting with
  | false =>
      have hidle : w.phase = .idle := hphase
      refine workerStep_lftChange.mpr ⟨hidle, ?_⟩
      rw [hidle]
      rfl
  | true => exact workerStep_lftHandle.mpr ⟨hphase, rfl⟩

theorem run_commits_of_move {a : Act} (h : Exclusive t) (hmove : Move capacity t a t') :
    run workerStep t.worker (commits t a) = some t'.worker := by
  cases hmove with
  | called e _ => rfl
  | osmAcquired _ _ => rfl
  | osmReleased _ => rfl
  | destroyed _ => rfl
  | locked _ pc _ =>
      rw [commits, pc]
      rfl
  | inserted _ pc =>
      have hpc := (h.of_holder pc rfl).2
      rw [commits, pc, worker_of_notDraining hpc]
      refine Eq.trans ?_ (congrArg some (worker_of_notDraining ?_).symm)
      · rfl
      · exact hpc
  | unlocked _ pc =>
      rw [commits, pc]
      rfl
  | wrote _ pc _ =>
      rw [commits, pc]
      rfl
  | @read _ _ _ msg fd _ pc _ =>
      rw [commits, pc, worker_of_pc pc rfl, worker_of_pc rfl (holdsLock_readMsg msg),
        phase_readMsg]
      rfl
  | acquired _ pc _ =>
      rw [commits, pc, worker_of_pc pc rfl]
      rfl
  | extracted _ pc =>
      rw [commits, pc, worker_of_pc pc rfl]
      rfl
  | @drainLocked _ mem _ starting _ pc _ =>
      rw [commits, pc, worker_of_pc pc rfl]
      exact run_singleton (workerStep_drainEvent mem rfl)
  | drainedOne _ pc first =>
      rw [commits, pc, worker_of_draining pc, ← ssaDbLftHandle_cons _ first]
      rfl
  | @drainUnlocked _ mem _ _ starting _ pc empty =>
      rw [commits, pc, worker_of_draining pc, ssaDbLftHandle_nil _ empty,
        worker_of_pc rfl (holdsLock_afterLftHandle starting), phase_afterLftHandle _ mem]
      rfl
  | released _ pc =>
      rw [commits, pc, worker_of_pc pc rfl]
      rfl
  | updated _ pc =>
      rw [commits, pc, worker_of_pc pc rfl]
      rfl
  | compared _ pc =>
      rw [commits, pc, worker_of_pc pc rfl]
      rfl
  | wroteExit _ _ => rfl
  | joined _ _ => rfl

/-- The threads do what the worker does. -/
theorem simulates_worker :
    Simulates (threadStep capacity) workerStep commits Threads.worker Exclusive :=
  ⟨exclusive_of_step, fun h hstep => run_commits_of_move h (move_of_step hstep)⟩

theorem run_worker_of_threads {as : List Act}
    (hrun : run (threadStep capacity) threadsInit as = some t) :
    run workerStep workerInit (committed capacity as) = some t.worker :=
  simulates_worker.run exclusive_init hrun

theorem exists_sys_of_worker {es : List Event} {w : Worker}
    (hrun : run workerStep workerInit es = some w) :
    ∃ s, run sysStep sysInit es = some s ∧ s.worker = w :=
  Option.map_eq_some_iff.mp ((map_run (fun _ _ => rfl) deliver_worker sysInit es).trans hrun)

end Simulation

/-! ## Main results -/

/-- Whatever the threads do in whatever order is a run of the worker and its
consumer. -/
theorem threads_refine {capacity : Nat} {as : List Act} {t : Threads}
    (hrun : run (threadStep capacity) threadsInit as = some t) :
    ∃ s, run sysStep sysInit (committed capacity as) = some s ∧ s.worker = t.worker :=
  exists_sys_of_worker (run_worker_of_threads hrun)

/-- A block changes while the worker takes its first snapshot, and the call
that reports it has the queue's lock when the worker comes for it. -/
def changeDuringExtract : List Act :=
  let work : Act := .inner (.work (OsmSubn.ofNodes [plainSwitch 1 1 0]) default true)
  let change : OsmEpiLftChangeEvent := ⟨some (plainSwitch 1 1 7), .block, 0, 0⟩
  [.report (.subnetUp false), .inner (.report 0), work, work,
    .report (.lftChange (some change)), .inner (.report 1), work,
    .inner (.report 1), .inner (.report 1), work, work, work, work, work, work,
    .inner (.report 1)]

theorem threads_refine_changeDuringExtract :
    ∃ t s, run (threadStep 4) threadsInit changeDuringExtract = some t ∧
      run sysStep sysInit (committed 4 changeDuringExtract) = some s ∧ s.worker = t.worker := by
  have hrun : run (threadStep 4) threadsInit changeDuringExtract = some _ := rfl
  obtain ⟨s, hs, hw⟩ := threads_refine hrun
  exact ⟨_, s, hrun, hs, hw⟩

/-- The queue's lock has one holder when its flag is set and none when it is
not, and what is in the queue when the worker has it only gets less. -/
structure LockKept (capacity : Nat) (t : Threads) : Prop where
  held : t.lftRecListLock = true ↔
    t.workThread.holdsLock = true ∨ ∃ pc ∈ t.reports, pc.holdsLock = true
  oneCall : ∀ {i j : Nat} {pc pc' : ReportPc}, t.reports[i]? = some pc →
    t.reports[j]? = some pc' → pc.holdsLock = true → pc'.holdsLock = true → i = j
  apart : t.workThread.holdsLock = true → ∀ pc ∈ t.reports, pc.holdsLock = false
  draining : t.workThread.holdsLock = true → ∀ {a : Act} {t' : Threads},
    threadStep capacity t a = some t' →
      t'.ssaDb.lftRecList = t.ssaDb.lftRecList ∨ ∃ c, t.ssaDb.lftRecList = c :: t'.ssaDb.lftRecList
  osm : t.osmLock = true → t.workThread.holdsOsmLock = false

theorem Exclusive.held_iff {t : Threads} (h : Exclusive t) :
    t.lftRecListLock = true ↔
      t.workThread.holdsLock = true ∨ ∃ pc ∈ t.reports, pc.holdsLock = true := by
  have hqueue := h.queue
  rw [Threads.holders] at hqueue
  rw [← List.countP_pos_iff, ← Bool.toNat_eq_one, ← Bool.toNat_eq_one]
  have hone : t.lftRecListLock.toNat ≤ 1 := Bool.toNat_le _
  have hwork : t.workThread.holdsLock.toNat ≤ 1 := Bool.toNat_le _
  omega

/-- In every reachable state the locks keep their threads apart. -/
theorem lock_kept {capacity : Nat} {as : List Act} {t : Threads}
    (hrun : run (threadStep capacity) threadsInit as = some t) : LockKept capacity t := by
  have h := exclusive hrun
  refine ⟨h.held_iff, ?_, ?_, ?_, h.osm⟩
  · intro i j pc pc' hi hj hpc hpc'
    refine index_unique (p := ReportPc.holdsLock) ?_ hi hj hpc hpc'
    have hone : t.lftRecListLock.toNat ≤ 1 := Bool.toNat_le _
    rw [← h.queue, Threads.holders] at hone
    omega
  · intro hdrain pc hmem
    obtain ⟨i, hi⟩ := List.mem_iff_getElem?.mp hmem
    refine Bool.eq_false_iff.mpr fun hpc => ?_
    rw [(h.of_holder hi hpc).2] at hdrain
    cases hdrain
  · intro hdrain a t' hstep
    cases move_of_step hstep with
    | called _ _ => exact Or.inl rfl
    | osmAcquired _ _ => exact Or.inl rfl
    | osmReleased _ => exact Or.inl rfl
    | destroyed _ => exact Or.inl rfl
    | locked _ _ _ => exact Or.inl rfl
    | inserted _ pc =>
        rw [(h.of_holder pc rfl).2] at hdrain
        cases hdrain
    | unlocked _ _ => exact Or.inl rfl
    | wrote _ _ _ => exact Or.inl rfl
    | drainedOne _ _ first => exact Or.inr ⟨_, first⟩
    | drainUnlocked _ _ _ => exact Or.inl rfl
    | wroteExit _ _ => exact Or.inl rfl
    | joined _ _ => exact Or.inl rfl
    | read _ pc _ | acquired _ pc _ | extracted _ pc | drainLocked _ pc _ | released _ pc
    | updated _ pc | compared _ pc =>
        rw [pc] at hdrain
        cases hdrain

/-- The worker waits for the lock that a report holds. -/
theorem lock_kept_changeDuringExtract :
    ∃ t, run (threadStep 4) threadsInit (changeDuringExtract.take 7) = some t ∧
      LockKept 4 t ∧ t.lftRecListLock = true := by
  have hrun : run (threadStep 4) threadsInit (changeDuringExtract.take 7) = some _ := rfl
  exact ⟨_, hrun, lock_kept hrun, rfl⟩

end Ibssa
