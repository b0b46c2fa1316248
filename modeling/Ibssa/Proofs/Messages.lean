import Ibssa.Proofs.LftAge
import Ibssa.Proofs.Threads

/-!
# What was asked for is on its way or served

Three things travel through the threads: control messages, from a call of
OpenSM over the socket to the worker; change records, from a call into the queue
and from there into the dump; and extractions, from a START_EXTRACT to the
comparison that ends it. For each of them a step moves what it moves from one
place to the next, and the places are the program counters, the socket, the
queue and the worker. So none of the three is lost, doubled or made up, in any
interleaving (`messages_kept`, `changes_kept`, `extracts_kept`).

The calls overtake each other on their way to the socket and to the queue, and
what is kept there is the bag. The socket itself keeps the order. When the calls
do not overlap they keep the order as well (`changes_in_order`).
-/

namespace Ibssa

open Keyed ByteOrder Machine

/-! ## Messages -/

/-- What a call still has to write. -/
def ReportPc.msgs : ReportPc → List SsaDbCtrlMsg
  | .lock _ _ => [.lftChange]
  | .insert _ _ => [.lftChange]
  | .unlock => [.lftChange]
  | .write msg => [msg]
  | .done => []

def DestroyPc.msgs : DestroyPc → List SsaDbCtrlMsg
  | .write => [.exit]
  | _ => []

def Threads.unwritten (t : Threads) : List SsaDbCtrlMsg :=
  t.reports.flatMap ReportPc.msgs ++ t.destroy.msgs

/-- The message that a call of OpenSM is going to write. -/
def asks : Act → List SsaDbCtrlMsg
  | .report e => (report e).msgs
  | .destroy => [.exit]
  | _ => []

/-- The message that a step writes. -/
def writes (t : Threads) : Act → List SsaDbCtrlMsg
  | .inner (.report i) =>
      match t.reports[i]? with
      | some (.write msg) => [msg]
      | _ => []
  | .inner .destroy =>
      match t.destroy with
      | .write => [.exit]
      | _ => []
  | _ => []

/-- The message that a step reads. -/
def reads (t : Threads) : Act → List SsaDbCtrlMsg
  | .inner (.work _ _ _) =>
      match t.workThread with
      | .poll => t.fd.take 1
      | _ => []
  | _ => []

/-- The messages written in a run, and those read, in their order. -/
def written (capacity : Nat) (as : List Act) : List SsaDbCtrlMsg :=
  outputs (threadStep capacity) writes threadsInit as

def readMsgs (capacity : Nat) (as : List Act) : List SsaDbCtrlMsg :=
  outputs (threadStep capacity) reads threadsInit as

section Messages

variable {capacity : Nat} {t t' : Threads} {a : Act} {i : Nat} {pc : ReportPc}

theorem outputs_const {σ ε ω : Type} {step : σ → ε → Option σ} (f : ε → List ω) {s s' : σ}
    {es : List ε} (hrun : run step s es = some s') :
    outputs step (fun _ => f) s es = es.flatMap f := by
  induction es generalizing s with
  | nil => rfl
  | cons e es ih =>
      obtain ⟨t, ht, hrest⟩ := run_cons_eq_some.mp hrun
      rw [outputs, ht, List.flatMap_cons]
      exact congrArg (f e ++ ·) (ih hrest)

theorem flatMap_outputs {σ ε ω ι : Type} (step : σ → ε → Option σ) (out : σ → ε → List ω)
    (f : ω → List ι) (s : σ) (es : List ε) :
    (outputs step out s es).flatMap f = outputs step (fun s e => (out s e).flatMap f) s es := by
  induction es generalizing s with
  | nil => rfl
  | cons e es ih =>
      rw [outputs, outputs]
      split
      · rfl
      · rw [List.flatMap_append, ih]

/-- A call goes on: its old counter's share is exchanged for the new one's. -/
theorem flatMap_atReport {β : Type} (f : ReportPc → List β) (h : t.reports[i]? = some pc)
    (pc' : ReportPc) :
    (f pc ++ (t.atReport i pc').reports.flatMap f).Perm (f pc' ++ t.reports.flatMap f) :=
  flatMap_set_perm f h pc'

/-- If the share stays the same, so does the bag. -/
theorem flatMap_atReport_same {β : Type} (f : ReportPc → List β) (h : t.reports[i]? = some pc)
    {pc' : ReportPc} (hsame : f pc' = f pc) :
    (t.reports.flatMap f).Perm ((t.atReport i pc').reports.flatMap f) := by
  have hperm := flatMap_atReport f h pc'
  rw [hsame] at hperm
  exact (List.perm_append_left_iff (f pc)).mp hperm.symm

theorem unwritten_of_reports {ms : List SsaDbCtrlMsg} (hdestroy : t'.destroy = t.destroy)
    (h : (t.reports.flatMap ReportPc.msgs).Perm (ms ++ t'.reports.flatMap ReportPc.msgs)) :
    (t.unwritten ++ []).Perm (ms ++ t'.unwritten) := by
  rw [Threads.unwritten, Threads.unwritten, hdestroy, List.append_nil, ← List.append_assoc]
  exact h.append_right _

theorem unwritten_of_move (hmove : Move capacity t a t') :
    (t.unwritten ++ asks a).Perm (writes t a ++ t'.unwritten) := by
  cases hmove with
  | called e _ =>
      show (t.reports.flatMap _ ++ t.destroy.msgs ++ (report e).msgs).Perm
        ((t.reports ++ [report e]).flatMap _ ++ t.destroy.msgs)
      rw [List.flatMap_append, List.flatMap_singleton, List.append_assoc, List.append_assoc]
      exact List.perm_append_comm.append_left _
  | destroyed first =>
      show (t.reports.flatMap _ ++ t.destroy.msgs ++ [SsaDbCtrlMsg.exit]).Perm
        (t.reports.flatMap _ ++ [SsaDbCtrlMsg.exit])
      rw [first, DestroyPc.msgs, List.append_nil]
      · intro hc
        cases hc
  | locked _ pc _ =>
      rw [writes, pc]
      exact unwritten_of_reports rfl (flatMap_atReport_same _ pc rfl)
  | inserted _ pc =>
      rw [writes, pc]
      exact unwritten_of_reports rfl (flatMap_atReport_same _ pc rfl)
  | unlocked _ pc =>
      rw [writes, pc]
      exact unwritten_of_reports rfl (flatMap_atReport_same _ pc rfl)
  | wrote _ pc _ =>
      rw [writes, pc]
      exact unwritten_of_reports rfl (flatMap_atReport ReportPc.msgs pc .done).symm
  | wroteExit pc _ =>
      rw [writes, pc]
      show (t.reports.flatMap _ ++ t.destroy.msgs ++ []).Perm
        ([SsaDbCtrlMsg.exit] ++ (t.reports.flatMap _ ++ []))
      rw [pc, List.append_nil, List.append_nil]
      exact List.perm_append_comm
  | joined pc _ =>
      rw [writes, pc]
      show (t.reports.flatMap _ ++ t.destroy.msgs ++ []).Perm (t.reports.flatMap _ ++ [])
      rw [pc, List.append_nil]
      rfl
  | osmAcquired _ _ | osmReleased _ | read _ _ _ | acquired _ _ _ | extracted _ _
  | drainLocked _ _ _ | drainedOne _ _ _ | drainUnlocked _ _ _ | released _ _ | updated _ _
  | compared _ _ => exact unwritten_of_reports rfl (List.Perm.refl _)

/-- The socket is a queue. -/
theorem fd_of_move (hmove : Move capacity t a t') : t.fd ++ writes t a = reads t a ++ t'.fd := by
  cases hmove with
  | locked _ pc _ | inserted _ pc | unlocked _ pc =>
      rw [writes, pc]
      exact List.append_nil _
  | wrote _ pc _ =>
      rw [writes, pc]
      rfl
  | wroteExit pc _ =>
      rw [writes, pc]
      rfl
  | joined pc _ =>
      rw [writes, pc]
      exact List.append_nil _
  | @read _ _ _ msg fd _ pc first =>
      rw [reads, pc, first]
      exact List.append_nil _
  | acquired _ pc _ | extracted _ pc | drainLocked _ pc _ | drainedOne _ pc _
  | drainUnlocked _ pc _ | released _ pc | updated _ pc | compared _ pc =>
      rw [reads, pc]
      exact List.append_nil _
  | called _ _ | osmAcquired _ _ | osmReleased _ | destroyed _ => exact List.append_nil _

theorem asked_kept {as : List Act} (hrun : run (threadStep capacity) threadsInit as = some t) :
    (as.flatMap asks).Perm (written capacity as ++ t.unwritten) := by
  have hkept := conserved (fun _ => asks) writes Threads.unwritten exclusive_of_step
    (fun _ hstep => unwritten_of_move (move_of_step hstep)) exclusive_init hrun
  rwa [outputs_const asks hrun] at hkept

theorem written_eq {as : List Act} (hrun : run (threadStep capacity) threadsInit as = some t) :
    written capacity as = readMsgs capacity as ++ t.fd :=
  conserved_in_order writes reads Threads.fd exclusive_of_step
    (fun _ hstep => fd_of_move (move_of_step hstep)) exclusive_init hrun

theorem room_of_move (h : t.fd.length ≤ capacity) (hmove : Move capacity t a t') :
    t'.fd.length ≤ capacity := by
  cases hmove with
  | wrote _ _ room =>
      rw [List.length_append, List.length_singleton]
      exact room
  | wroteExit _ room =>
      rw [List.length_append, List.length_singleton]
      exact room
  | read _ _ first =>
      rw [first, List.length_cons] at h
      exact Nat.le_of_succ_le h
  | called _ _ | osmAcquired _ _ | osmReleased _ | destroyed _ | locked _ _ _ | inserted _ _
  | unlocked _ _ | acquired _ _ _ | extracted _ _ | drainLocked _ _ _ | drainedOne _ _ _
  | drainUnlocked _ _ _ | released _ _ | updated _ _ | compared _ _ | joined _ _ => exact h

theorem known_of_asks {msg : SsaDbCtrlMsg} (h : msg ∈ asks a) :
    msg = .startExtract ∨ msg = .lftChange ∨ msg = .exit := by
  cases a with
  | report e =>
      simp only [asks, report] at h
      split at h
      · cases h
      · repeat' split at h
        · cases h
        · cases h
        · exact Or.inr (Or.inl (List.mem_singleton.mp h))
      · cases h
      · split at h
        · cases h
        · exact Or.inl (List.mem_singleton.mp h)
      · cases h
      · cases h
  | destroy => exact Or.inr (Or.inr (List.mem_singleton.mp h))
  | osmAcquire | osmRelease | inner _ => cases h

/-- The worker ends when it reads an EXIT, and not otherwise. -/
theorem exited_of_move (hmove : Move capacity t a t') :
    t'.workThread = .exited ↔ t.workThread = .exited ∨ .exit ∈ reads t a := by
  cases hmove with
  | @read _ _ _ msg fd _ pc first =>
      rw [reads, pc, first]
      show readMsg msg = .exited ↔ RunPc.poll = .exited ∨ SsaDbCtrlMsg.exit ∈ [msg]
      cases msg <;> simp [readMsg]
  | acquired _ pc _ | extracted _ pc | drainLocked _ pc _ | drainedOne _ pc _ | released _ pc
  | updated _ pc | compared _ pc =>
      rw [reads, pc]
      simp
  | @drainUnlocked _ _ _ _ starting _ pc _ =>
      rw [reads, pc]
      cases starting <;> simp [afterLftHandle]
  | locked _ _ _ | inserted _ _ | unlocked _ _ | wrote _ _ _ | wroteExit _ _ | joined _ _
  | called _ _ | osmAcquired _ _ | osmReleased _ | destroyed _ => simp [reads, Threads.atReport]

theorem exited_iff {as : List Act} (hrun : run (threadStep capacity) threadsInit as = some t) :
    t.workThread = .exited ↔ .exit ∈ readMsgs capacity as := by
  refine run_induction
    (P := fun as (t : Threads) => t.workThread = .exited ↔ .exit ∈ readMsgs capacity as)
    (iff_of_false (fun h => by cases h) (fun h => by cases h)) ?_ hrun
  intro as a t t' hrun ih hstep
  rw [exited_of_move (move_of_step hstep), ih, readMsgs, readMsgs, outputs_snoc hrun hstep,
    List.mem_append]

end Messages

/-! ## Change records -/

/-- The record that a call still has to queue. -/
def ReportPc.recs : ReportPc → List SsaDbLftChangeRec
  | .lock pSw e => [lftChangeRec pSw e]
  | .insert pSw e => [lftChangeRec pSw e]
  | _ => []

def Threads.unqueued (t : Threads) : List SsaDbLftChangeRec := t.reports.flatMap ReportPc.recs

/-- The change that a call of OpenSM reports. -/
def Act.changes : Act → List SsaDbLftChangeRec
  | .report (.lftChange pLftChange) => reportedRecs pLftChange
  | _ => []

/-- The change that a step of the worker takes in. -/
def Event.changes : Event → List SsaDbLftChangeRec
  | .report pLftChange => reportedRecs pLftChange
  | _ => []

section Changes

variable {capacity : Nat} {t t' : Threads} {a : Act}

theorem reported_eq_flatMap (es : List Event) :
    (history es).reported = es.flatMap Event.changes := by
  induction es using List.reverseRecOn with
  | nil => rfl
  | append_singleton es e ih =>
      rw [history_snoc, List.flatMap_append, List.flatMap_singleton, ← ih]
      cases e with
      | report pLftChange => rfl
      | lftChange mem => exact (List.append_nil _).symm
      | extract mem s => exact (List.append_nil _).symm
      | lftHandle mem => exact (List.append_nil _).symm
      | update => exact (List.append_nil _).symm
      | compare mem alloc => exact (List.append_nil _).symm

theorem recs_report (e : OsmEvent) : (report e).recs = (Act.report e).changes := by
  cases e with
  | lftChange pLftChange =>
      cases pLftChange with
      | none => rfl
      | some e =>
          show (report (.lftChange (some e))).recs = reportedRecs (some e)
          rw [report, reportedRecs]
          cases he : e.pSw <;> simp [ReportPc.recs]
  | subnetUp subnetInitializationError => cases subnetInitializationError <;> rfl
  | trap | ucastRoutingDone | stateChange | other => rfl

theorem changes_drainEvent (starting : Bool) (mem : Mem) :
    (drainEvent starting mem).changes = [] := by
  cases starting <;> rfl

theorem unqueued_of_reports {cs : List SsaDbLftChangeRec}
    (h : (t.reports.flatMap ReportPc.recs).Perm (cs ++ t'.reports.flatMap ReportPc.recs)) :
    (t.unqueued ++ []).Perm (cs ++ t'.unqueued) := by
  rw [List.append_nil]
  exact h

theorem unqueued_of_move (hmove : Move capacity t a t') :
    (t.unqueued ++ a.changes).Perm ((commits t a).flatMap Event.changes ++ t'.unqueued) := by
  have hstay : (t.unqueued ++ []).Perm ([] ++ t.unqueued) :=
    unqueued_of_reports (List.Perm.refl _)
  cases hmove with
  | called e _ =>
      show (t.reports.flatMap _ ++ _).Perm ((t.reports ++ [report e]).flatMap _)
      rw [List.flatMap_append, List.flatMap_singleton, recs_report]
  | locked _ pc _ =>
      rw [commits, pc]
      exact unqueued_of_reports (flatMap_atReport_same ReportPc.recs pc rfl)
  | inserted _ pc =>
      rw [commits, pc]
      exact unqueued_of_reports (flatMap_atReport ReportPc.recs pc .unlock).symm
  | unlocked _ pc =>
      rw [commits, pc]
      exact unqueued_of_reports (flatMap_atReport_same ReportPc.recs pc rfl)
  | wrote _ pc _ =>
      rw [commits, pc]
      exact unqueued_of_reports (flatMap_atReport_same ReportPc.recs pc rfl)
  | @drainLocked _ mem _ starting _ pc _ =>
      rw [commits, pc]
      show (_ ++ []).Perm ((drainEvent starting mem).changes ++ [] ++ _)
      rw [changes_drainEvent]
      exact hstay
  | read _ pc _ | acquired _ pc _ | extracted _ pc | drainedOne _ pc _ | drainUnlocked _ pc _
  | released _ pc | updated _ pc | compared _ pc =>
      rw [commits, pc]
      exact hstay
  | osmAcquired _ _ | osmReleased _ | destroyed _ | wroteExit _ _ | joined _ _ => exact hstay

theorem changes_perm {as : List Act} (hrun : run (threadStep capacity) threadsInit as = some t) :
    (as.flatMap Act.changes).Perm ((history (committed capacity as)).reported ++ t.unqueued) := by
  have hkept := conserved (fun _ => Act.changes)
    (fun t a => (commits t a).flatMap Event.changes) Threads.unqueued exclusive_of_step
    (fun _ hstep => unqueued_of_move (move_of_step hstep)) exclusive_init hrun
  rw [outputs_const Act.changes hrun] at hkept
  rw [reported_eq_flatMap, committed, flatMap_outputs]
  exact hkept

/-- What was reported has been handled or is in the queue. -/
theorem reported_eq {as : List Act} (hrun : run (threadStep capacity) threadsInit as = some t) :
    (history (committed capacity as)).reported
      = (history (committed capacity as)).handled ++ t.worker.ssaDb.lftRecList :=
  (runOk (run_worker_of_threads hrun)).reported

/-! When no call of `report` starts before the last one is back. -/

def OneAtATime (t : Threads) : Act → Prop
  | .report _ => ∀ pc ∈ t.reports, pc = .done
  | _ => True

/-- Every call but the last is back. -/
def Serial (t : Threads) : Prop := ∀ pc ∈ t.reports.dropLast, pc = .done

theorem flatMap_of_done {β : Type} {f : ReportPc → List β} (hdone : f .done = [])
    {l : List ReportPc} (h : ∀ pc ∈ l, pc = .done) : l.flatMap f = [] := by
  rw [List.flatMap_eq_nil_iff]
  intro pc hpc
  rw [h pc hpc, hdone]

/-- A call that is under way is the last. -/
theorem Serial.last (h : Serial t) {i : Nat} {pc : ReportPc} (hpc : t.reports[i]? = some pc)
    (hbusy : pc ≠ .done) : i = t.reports.length - 1 := by
  obtain ⟨hi, rfl⟩ := List.getElem?_eq_some_iff.mp hpc
  by_contra hne
  refine hbusy (h _ (List.mem_iff_getElem?.mpr ⟨i, ?_⟩))
  rw [List.getElem?_dropLast, if_pos (by omega)]
  exact hpc

theorem Serial.split (h : Serial t) {i : Nat} {pc : ReportPc} (hpc : t.reports[i]? = some pc)
    (hbusy : pc ≠ .done) :
    ∃ back, (∀ pc ∈ back, pc = ReportPc.done) ∧ t.reports = back ++ [pc] ∧
      ∀ pc', t.reports.set i pc' = back ++ [pc'] := by
  have hi := h.last hpc hbusy
  obtain ⟨hlt, hget⟩ := List.getElem?_eq_some_iff.mp hpc
  have hne : t.reports ≠ [] := List.ne_nil_of_length_pos (by omega)
  have hlast : t.reports.getLast hne = pc := by
    rw [List.getLast_eq_getElem, ← hget]
    simp only [hi]
  have hsplit : t.reports = t.reports.dropLast ++ [pc] := by
    rw [← hlast, List.dropLast_append_getLast]
  refine ⟨t.reports.dropLast, h, hsplit, fun pc' => ?_⟩
  have hlen : i = t.reports.dropLast.length := by
    rw [List.length_dropLast]
    exact hi
  conv_lhs => rw [hsplit, hlen]
  rw [List.set_append_right _ _ (Nat.le_refl _), Nat.sub_self]
  rfl

theorem Serial.of_set (h : Serial t) {i : Nat} {pc pc' : ReportPc}
    (hpc : t.reports[i]? = some pc) (hbusy : pc ≠ .done)
    (hreports : t'.reports = t.reports.set i pc') : Serial t' := by
  obtain ⟨back, hback, _, hset⟩ := h.split hpc hbusy
  rw [Serial, hreports, hset, List.dropLast_concat]
  exact hback

theorem Serial.of_move (h : Serial t) (hone : OneAtATime t a) (hmove : Move capacity t a t') :
    Serial t' := by
  cases hmove with
  | called e _ =>
      show ∀ pc ∈ (t.reports ++ [report e]).dropLast, pc = .done
      rw [List.dropLast_concat]
      exact hone
  | locked _ pc _ | inserted _ pc | unlocked _ pc | wrote _ pc _ =>
      exact h.of_set pc (fun hc => by cases hc) rfl
  | osmAcquired _ _ | osmReleased _ | destroyed _ | read _ _ _ | acquired _ _ _ | extracted _ _
  | drainLocked _ _ _ | drainedOne _ _ _ | drainUnlocked _ _ _ | released _ _ | updated _ _
  | compared _ _ | wroteExit _ _ | joined _ _ => exact h

/-- A call goes on, and there is no other. -/
theorem Serial.unqueued_of_set (h : Serial t) {i : Nat} {pc pc' : ReportPc}
    {cs : List SsaDbLftChangeRec} (hpc : t.reports[i]? = some pc) (hbusy : pc ≠ .done)
    (hreports : t'.reports = t.reports.set i pc') (hrecs : pc.recs = cs ++ pc'.recs) :
    t.unqueued ++ [] = cs ++ t'.unqueued := by
  obtain ⟨back, hback, hsplit, hset⟩ := h.split hpc hbusy
  have hnil : back.flatMap ReportPc.recs = [] := flatMap_of_done rfl hback
  have hold : t.unqueued = pc.recs := by
    rw [Threads.unqueued, hsplit, List.flatMap_append, hnil, List.flatMap_singleton,
      List.nil_append]
  have hnew : t'.unqueued = pc'.recs := by
    rw [Threads.unqueued, hreports, hset, List.flatMap_append, hnil, List.flatMap_singleton,
      List.nil_append]
  rw [hold, hnew, hrecs, List.append_nil]

theorem Serial.changes_of_move (h : Serial t) (hmove : Move capacity t a t') :
    t.unqueued ++ a.changes = (commits t a).flatMap Event.changes ++ t'.unqueued := by
  cases hmove with
  | called e _ =>
      show t.reports.flatMap _ ++ _ = (t.reports ++ [report e]).flatMap _
      rw [List.flatMap_append, List.flatMap_singleton, recs_report]
  | locked _ pc _ | inserted _ pc | unlocked _ pc | wrote _ pc _ =>
      rw [commits, pc]
      exact h.unqueued_of_set pc (fun hc => by cases hc) rfl rfl
  | @drainLocked _ mem _ starting _ pc _ =>
      rw [commits, pc]
      show _ = (drainEvent starting mem).changes ++ [] ++ _
      rw [changes_drainEvent]
      exact List.append_nil _
  | read _ pc _ | acquired _ pc _ | extracted _ pc | drainedOne _ pc _ | drainUnlocked _ pc _
  | released _ pc | updated _ pc | compared _ pc =>
      rw [commits, pc]
      exact List.append_nil _
  | osmAcquired _ _ | osmReleased _ | destroyed _ | wroteExit _ _ | joined _ _ =>
      exact List.append_nil _

theorem changes_eq {as : List Act} (hone : Guarded (threadStep capacity) OneAtATime threadsInit as)
    (hrun : run (threadStep capacity) threadsInit as = some t) :
    as.flatMap Act.changes = (history (committed capacity as)).reported ++ t.unqueued := by
  have hserial : Serial t ∧ as.flatMap Act.changes
      = (committed capacity as).flatMap Event.changes ++ t.unqueued := by
    refine guarded_induction
      (P := fun as t => Serial t ∧ as.flatMap Act.changes
        = (committed capacity as).flatMap Event.changes ++ t.unqueued)
      ⟨fun _ hpc => (by cases hpc), rfl⟩ ?_ hone hrun
    rintro as a t t' hrun ⟨hser, ih⟩ hok hstep
    have hmove := move_of_step hstep
    refine ⟨hser.of_move hok hmove, ?_⟩
    rw [List.flatMap_append, ih, List.flatMap_singleton, List.append_assoc,
      hser.changes_of_move hmove, committed, committed, outputs_snoc hrun hstep,
      List.flatMap_append, List.append_assoc]
  rw [reported_eq_flatMap]
  exact hserial.2

end Changes

/-! ## The worker's calls -/

/-- What the worker calls; `starting` as in `RunPc`. -/
inductive Call where
  | extract
  | lftHandle (starting : Bool)
  | update
  | compare
deriving DecidableEq

/-- The calls that a message asks for. -/
def SsaDbCtrlMsg.calls : SsaDbCtrlMsg → List Call
  | .startExtract => [.extract, .lftHandle true, .update, .compare]
  | .lftChange => [.lftHandle false]
  | .exit => []
  | .other _ => []

/-- The calls that the worker still has to make for the message it has read. -/
def RunPc.calls : RunPc → List Call
  | .poll => []
  | .acquire => [.extract, .lftHandle true, .update, .compare]
  | .extract => [.extract, .lftHandle true, .update, .compare]
  | .lftLock starting =>
      if starting then [.lftHandle true, .update, .compare] else [.lftHandle false]
  | .lftLoop starting _ => if starting then [.update, .compare] else []
  | .release => [.update, .compare]
  | .update => [.update, .compare]
  | .compare => [.compare]
  | .exited => []

def Event.calls : Event → List Call
  | .report _ => []
  | .lftChange _ => [.lftHandle false]
  | .extract _ _ => [.extract]
  | .lftHandle _ => [.lftHandle true]
  | .update => [.update]
  | .compare _ _ => [.compare]

section Calls

variable {capacity : Nat} {t t' : Threads} {a : Act}

theorem calls_readMsg (msg : SsaDbCtrlMsg) : (readMsg msg).calls = msg.calls := by
  cases msg <;> rfl

theorem calls_of_move (hmove : Move capacity t a t') :
    t.workThread.calls ++ (reads t a).flatMap SsaDbCtrlMsg.calls
      = (commits t a).flatMap Event.calls ++ t'.workThread.calls := by
  cases hmove with
  | @read _ _ _ msg fd _ pc first =>
      rw [reads, commits, pc, first]
      show [] ++ (msg.calls ++ []) = [] ++ (readMsg msg).calls
      rw [calls_readMsg, List.append_nil]
  | @drainLocked _ mem _ starting _ pc _ =>
      rw [reads, commits, pc]
      cases starting <;> rfl
  | @drainUnlocked _ mem _ _ starting _ pc _ =>
      rw [reads, commits, pc]
      cases starting <;> rfl
  | @drainedOne _ mem _ _ starting _ _ _ pc _ =>
      rw [reads, commits, pc]
      exact List.append_nil _
  | acquired _ pc _ | extracted _ pc | released _ pc | updated _ pc | compared _ pc =>
      rw [reads, commits, pc]
      rfl
  | @inserted i _ _ _ pc =>
      rw [commits, pc]
      exact List.append_nil _
  | locked _ pc _ | unlocked _ pc | wrote _ pc _ =>
      rw [commits, pc]
      exact List.append_nil _
  | called _ _ | osmAcquired _ _ | osmReleased _ | destroyed _ | wroteExit _ _ | joined _ _ =>
      exact List.append_nil _

/-- The worker makes the calls that the messages ask for, in their order. -/
theorem calls_eq {as : List Act} (hrun : run (threadStep capacity) threadsInit as = some t) :
    (readMsgs capacity as).flatMap SsaDbCtrlMsg.calls
      = (committed capacity as).flatMap Event.calls ++ t.workThread.calls := by
  rw [readMsgs, committed, flatMap_outputs, flatMap_outputs]
  exact conserved_in_order (fun t a => (reads t a).flatMap SsaDbCtrlMsg.calls)
    (fun t a => (commits t a).flatMap Event.calls) (fun t => t.workThread.calls)
    exclusive_of_step (fun _ hstep => calls_of_move (move_of_step hstep)) exclusive_init hrun

end Calls

/-! ## Main results -/

/-- The socket between OpenSM's calls and the worker, after a run. -/
structure MessagesKept (capacity : Nat) (as : List Act) (t : Threads) : Prop where
  asked : (as.flatMap asks).Perm (written capacity as ++ t.unwritten)
  fifo : written capacity as = readMsgs capacity as ++ t.fd
  served : (readMsgs capacity as).flatMap SsaDbCtrlMsg.calls
    = (committed capacity as).flatMap Event.calls ++ t.workThread.calls
  room : t.fd.length ≤ capacity
  known : ∀ msg ∈ written capacity as, msg = .startExtract ∨ msg = .lftChange ∨ msg = .exit
  exited : t.workThread = .exited ↔ .exit ∈ readMsgs capacity as

/-- Every message asked for is written once, read once in the order of the
writes, and served once, by exactly the calls it asks for and in their order. -/
theorem messages_kept {capacity : Nat} {as : List Act} {t : Threads}
    (hrun : run (threadStep capacity) threadsInit as = some t) : MessagesKept capacity as t where
  asked := asked_kept hrun
  fifo := written_eq hrun
  served := calls_eq hrun
  room :=
    run_induction (P := fun _ t => t.fd.length ≤ capacity) (Nat.zero_le _)
      (fun _ _ _ _ _ ih hstep => room_of_move ih (move_of_step hstep)) hrun
  known := by
    intro msg hmsg
    have hasked := (asked_kept hrun).symm.subset (List.mem_append_left _ hmsg)
    obtain ⟨a, _, ha⟩ := List.mem_flatMap.mp hasked
    exact known_of_asks ha
  exited := exited_iff hrun

theorem messages_kept_changeDuringExtract :
    ∃ t, run (threadStep 4) threadsInit changeDuringExtract = some t ∧
      MessagesKept 4 changeDuringExtract t :=
  ⟨_, rfl, messages_kept rfl⟩

/-- Every change reported is in the hands of its call, in the queue, or handled,
and if the calls do not overlap, in the order of the calls. -/
theorem changes_kept {capacity : Nat} {as : List Act} {t : Threads}
    (hrun : run (threadStep capacity) threadsInit as = some t) :
    (as.flatMap Act.changes).Perm
        ((history (committed capacity as)).handled ++ t.worker.ssaDb.lftRecList ++ t.unqueued) ∧
      (Guarded (threadStep capacity) OneAtATime threadsInit as →
        as.flatMap Act.changes
          = (history (committed capacity as)).handled ++ t.worker.ssaDb.lftRecList
            ++ t.unqueued) := by
  rw [← reported_eq hrun]
  exact ⟨changes_perm hrun, fun hone => changes_eq hone hrun⟩

/-- `OneAtATime`, computed. -/
def oneAtATimeCheck (t : Threads) : Act → Bool
  | .report _ => t.reports.all fun pc => match pc with | .done => true | _ => false
  | _ => true

theorem oneAtATime_of_check (t : Threads) (a : Act) (h : oneAtATimeCheck t a = true) :
    OneAtATime t a := by
  cases a with
  | report e =>
      intro pc hpc
      have hdone := List.all_eq_true.mp h pc hpc
      cases pc with
      | done => rfl
      | lock _ _ | insert _ _ | unlock | write _ => cases hdone
  | osmAcquire | osmRelease | destroy | inner _ => trivial

theorem changes_kept_changeDuringExtract :
    ∃ t, run (threadStep 4) threadsInit changeDuringExtract = some t ∧
      changeDuringExtract.flatMap Act.changes
        = (history (committed 4 changeDuringExtract)).handled ++ t.worker.ssaDb.lftRecList
          ++ t.unqueued := by
  have hone : Guarded (threadStep 4) OneAtATime threadsInit changeDuringExtract :=
    guarded_of_check oneAtATime_of_check (by decide +kernel)
  exact ⟨_, rfl, (changes_kept rfl).2 hone⟩

/-! What a START_EXTRACT sees of the changes before it. -/

theorem count_flatMap_calls (msgs : List SsaDbCtrlMsg) {c : Call}
    (hc : c ∈ SsaDbCtrlMsg.startExtract.calls) :
    (msgs.flatMap SsaDbCtrlMsg.calls).count c = msgs.count .startExtract := by
  induction msgs with
  | nil => rfl
  | cons msg msgs ih =>
      have hmsg : msg.calls.count c = if msg = .startExtract then 1 else 0 := by
        revert hc
        cases msg <;> cases c with
          | lftHandle starting => cases starting <;> simp [SsaDbCtrlMsg.calls]
          | _ => simp [SsaDbCtrlMsg.calls]
      rw [List.flatMap_cons, List.count_append, ih, List.count_cons, hmsg, Nat.add_comm]
      congr 1
      simp

/-- The calls of a START_EXTRACT come one after the other. -/
theorem count_calls_le (pc : RunPc) :
    pc.calls.count .extract ≤ pc.calls.count (.lftHandle true) ∧
      pc.calls.count (.lftHandle true) ≤ pc.calls.count .compare := by
  cases pc with
  | lftLock starting => cases starting <;> decide
  | lftLoop starting _ => cases starting <;> simp [RunPc.calls]
  | poll | acquire | extract | release | update | compare | exited => decide

theorem count_committed {capacity : Nat} {as : List Act} {t : Threads}
    (hrun : run (threadStep capacity) threadsInit as = some t) :
    ((committed capacity as).flatMap Event.calls).count (.lftHandle true)
        ≤ ((committed capacity as).flatMap Event.calls).count .extract ∧
      ((committed capacity as).flatMap Event.calls).count .compare
        ≤ ((committed capacity as).flatMap Event.calls).count (.lftHandle true) := by
  have hcount : ∀ c ∈ SsaDbCtrlMsg.startExtract.calls,
      ((committed capacity as).flatMap Event.calls).count c + t.workThread.calls.count c
        = (readMsgs capacity as).count .startExtract := by
    intro c hc
    rw [← List.count_append, ← calls_eq hrun, count_flatMap_calls _ hc]
  have hextract := hcount .extract (by decide)
  have hdrain := hcount (.lftHandle true) (by decide)
  have hcompare := hcount .compare (by decide)
  have hle := count_calls_le t.workThread
  omega

theorem reported_grows (es es' : List Event) :
    (history es).reported <+: (history (es ++ es')).reported := by
  rw [reported_eq_flatMap, reported_eq_flatMap, List.flatMap_append]
  exact List.prefix_append _ _

/-- A drain handles all that was reported before it, and what is handled stays so. -/
theorem reported_of_drain {es es' : List Event} {starting : Bool}
    (h : Call.lftHandle starting ∈ es'.flatMap Event.calls) :
    (history es).reported <+: (history (es ++ es')).handled := by
  obtain ⟨e, hmem, he⟩ := List.mem_flatMap.mp h
  obtain ⟨es₁, es₂, rfl⟩ := List.append_of_mem hmem
  have hdrain : (history (es ++ es₁ ++ [e])).handled = (history (es ++ es₁)).reported := by
    rw [history_snoc]
    cases e with
    | lftChange mem => rfl
    | lftHandle mem => rfl
    | report _ | extract _ _ | update | compare _ _ => simp [Event.calls] at he
  have hlater := handled_prefix (es ++ es₁ ++ [e]) es₂
  rw [hdrain] at hlater
  rw [← List.singleton_append, ← List.append_assoc, ← List.append_assoc]
  exact (reported_grows es es₁).trans hlater

/-- A change that was in the queue when a subnet up was reported is in the LFT
database by the time the comparison for that subnet up has been made, as long as
that subnet up was not being served already. -/
theorem changes_before_subnetUp {capacity : Nat} {as as' : List Act} {t : Threads}
    (hrun : run (threadStep capacity) threadsInit (as ++ as') = some t)
    (hlate : ((committed capacity as).flatMap Event.calls).count .extract
      < (as.flatMap asks).count .startExtract)
    (hserved : (as.flatMap asks).count .startExtract
      ≤ ((committed capacity (as ++ as')).flatMap Event.calls).count .compare) :
    (history (committed capacity as)).reported
      <+: (history (committed capacity (as ++ as'))).handled := by
  obtain ⟨t₁, hrun₁, hrun₂⟩ := run_append_eq_some.mp hrun
  obtain ⟨hdrain₁, _⟩ := count_committed hrun₁
  obtain ⟨_, hdrain⟩ := count_committed hrun
  have hsplit : committed capacity (as ++ as')
      = committed capacity as ++ outputs (threadStep capacity) commits t₁ as' :=
    outputs_append hrun₁
  rw [hsplit] at hserved hdrain ⊢
  rw [List.flatMap_append, List.count_append] at hserved hdrain
  rw [List.count_append] at hdrain
  have hpos : 0 < ((outputs (threadStep capacity) commits t₁ as').flatMap Event.calls).count
      (.lftHandle true) := by omega
  exact reported_of_drain (List.count_pos_iff.mp hpos)

/-- A change is queued, but the message about it is not written yet, and the
START_EXTRACT comes first. -/
def changeBeforeSubnetUp : List Act × List Act :=
  let work : Act := .inner (.work (OsmSubn.ofNodes [plainSwitch 1 1 0]) default true)
  let change : OsmEpiLftChangeEvent := ⟨some (plainSwitch 1 1 7), .block, 0, 0⟩
  ([.report (.lftChange (some change)), .inner (.report 0), .inner (.report 0),
      .report (.subnetUp false)],
    [.inner (.report 0), .inner (.report 1), work, work, work, work, work, work, work, work, work])

theorem changes_before_subnetUp_changeBeforeSubnetUp :
    ∃ t, run (threadStep 4) threadsInit (changeBeforeSubnetUp.1 ++ changeBeforeSubnetUp.2)
        = some t ∧
      (history (committed 4 changeBeforeSubnetUp.1)).reported
        <+: (history (committed 4 (changeBeforeSubnetUp.1 ++ changeBeforeSubnetUp.2))).handled :=
  ⟨_, rfl, changes_before_subnetUp rfl (by decide +kernel) (by decide +kernel)⟩

end Ibssa
