import Ibssa.Proofs.Messages

/-!
# The threads come to rest

Whatever OpenSM has asked for, the plugin's own steps carry it out: there is a
bound on their number (`effort`), and where they end, every call is back, the
socket and the queue are empty, and the worker waits for a message or has left
(`settles`). No fairness is needed for it, since a step that could be taken
forever does not exist. Two things can keep the plugin from getting there, a
socket without room for a single message and OpenSM's own lock, and both are
hypotheses.

That nothing is left in the queue is the point of the LFT_CHANGE messages: a
record in the queue has a wake-up on its way to the worker (`woken`). The calls
write their message after they have given the lock back, so this is a
statement about every point between two steps of a call.

The rest is the orderly end: OpenSM reports nothing once it has called
`destroy`, and calls it when its reports are back. Then the EXIT is the last
message, and everything asked for before it is served before the worker leaves.
-/

namespace Ibssa

open Keyed ByteOrder Machine

/-! ## Wake-ups -/

/-- A message that takes the worker to the queue. -/
def SsaDbCtrlMsg.wakes : SsaDbCtrlMsg → Bool
  | .startExtract => true
  | .lftChange => true
  | .exit => false
  | .other _ => false

/-- Past the insertion, and with the message still to write. -/
def ReportPc.announces : ReportPc → Bool
  | .lock _ _ => false
  | .insert _ _ => false
  | .unlock => true
  | .write msg => msg.wakes
  | .done => false

/-- On the way to the queue, or at it. -/
def RunPc.headed : RunPc → Bool
  | .acquire => true
  | .extract => true
  | .lftLock _ => true
  | .lftLoop _ _ => true
  | _ => false

def Threads.wakeUps (t : Threads) : Nat :=
  t.reports.countP ReportPc.announces + t.fd.countP SsaDbCtrlMsg.wakes
    + t.workThread.headed.toNat

/-- What is in the queue will be looked at, as long as there is a worker. -/
def Woken (t : Threads) : Prop :=
  t.ssaDb.lftRecList ≠ [] → t.workThread = .exited ∨ 0 < t.wakeUps

section Woken

variable {capacity : Nat} {t t' : Threads} {a : Act} {i : Nat} {pc pc' : ReportPc}

theorem headed_readMsg (msg : SsaDbCtrlMsg) : (readMsg msg).headed = msg.wakes := by
  cases msg <;> rfl

theorem lftRecList_ssaDbCompare (mem : Mem) (alloc firstTimeSubnetUp : Bool) (ssaDb : SsaDatabase) :
    (ssaDbCompare mem alloc firstTimeSubnetUp ssaDb).2.lftRecList = ssaDb.lftRecList := by
  rw [ssaDbCompare_snd]

/-- A step that leaves the queue and has as many wake-ups after it as before. -/
theorem Woken.of_wakeUps (h : Woken t) (hqueue : t'.ssaDb.lftRecList = t.ssaDb.lftRecList)
    (hpc : t.workThread = .exited → t'.workThread = .exited) (hle : t.wakeUps ≤ t'.wakeUps) :
    Woken t' := by
  intro hne
  rw [hqueue] at hne
  rcases h hne with hgone | hpos
  · exact Or.inl (hpc hgone)
  · exact Or.inr (Nat.lt_of_lt_of_le hpos hle)

theorem woken_of_headed (h : t.workThread.headed = true) : Woken t := by
  intro _
  refine Or.inr ?_
  rw [Threads.wakeUps, h, Bool.toNat_true]
  omega

/-- A call goes on, and hands its wake-up to the socket if it gives it up. -/
theorem Woken.of_report (h : Woken t) (hpc : t.reports[i]? = some pc)
    (hqueue : t'.ssaDb.lftRecList = t.ssaDb.lftRecList)
    (hreports : t'.reports = t.reports.set i pc') (hwork : t'.workThread = t.workThread)
    (hle : t.fd.countP SsaDbCtrlMsg.wakes + pc.announces.toNat
      ≤ t'.fd.countP SsaDbCtrlMsg.wakes + pc'.announces.toNat) : Woken t' := by
  refine h.of_wakeUps hqueue (fun hgone => hwork.trans hgone) ?_
  have hcount := countP_set_add ReportPc.announces hpc pc'
  have htoNat : ∀ b : Bool, (if b = true then 1 else 0) = b.toNat := by decide
  rw [htoNat, htoNat] at hcount
  rw [Threads.wakeUps, Threads.wakeUps, hreports, hwork]
  omega

/-- A step of the worker away from the queue. -/
theorem Woken.of_work (h : Woken t) (hqueue : t'.ssaDb.lftRecList = t.ssaDb.lftRecList)
    (hreports : t'.reports = t.reports) (hgone : t.workThread ≠ .exited)
    (hle : t.fd.countP SsaDbCtrlMsg.wakes + t.workThread.headed.toNat
      ≤ t'.fd.countP SsaDbCtrlMsg.wakes + t'.workThread.headed.toNat) : Woken t' := by
  refine h.of_wakeUps hqueue (fun hc => absurd hc hgone) ?_
  rw [Threads.wakeUps, Threads.wakeUps, hreports]
  omega

theorem countP_append_singleton (fd : List SsaDbCtrlMsg) (msg : SsaDbCtrlMsg) :
    (fd ++ [msg]).countP SsaDbCtrlMsg.wakes = fd.countP SsaDbCtrlMsg.wakes + msg.wakes.toNat := by
  rw [List.countP_append, List.countP_singleton]
  cases msg.wakes <;> rfl

theorem countP_cons_fd (msg : SsaDbCtrlMsg) (fd : List SsaDbCtrlMsg) :
    (msg :: fd).countP SsaDbCtrlMsg.wakes = fd.countP SsaDbCtrlMsg.wakes + msg.wakes.toNat := by
  rw [List.countP_cons]
  cases msg.wakes <;> rfl

theorem Woken.of_move (h : Woken t) (hmove : Move capacity t a t') : Woken t' := by
  cases hmove with
  | called e _ =>
      refine h.of_wakeUps rfl id ?_
      show t.reports.countP _ + t.fd.countP _ + t.workThread.headed.toNat
        ≤ (t.reports ++ [report e]).countP _ + t.fd.countP _ + t.workThread.headed.toNat
      rw [List.countP_append]
      omega
  | osmAcquired _ _ | osmReleased _ | destroyed _ | joined _ _ =>
      exact h.of_wakeUps rfl id (Nat.le_refl _)
  | locked _ pc _ => exact h.of_report pc rfl rfl rfl (Nat.le_refl _)
  | @inserted i _ _ _ pc =>
      obtain ⟨hi, _⟩ := List.getElem?_eq_some_iff.mp pc
      have hnew : 0 < (t.reports.set i ReportPc.unlock).countP ReportPc.announces :=
        List.countP_pos_iff.mpr ⟨.unlock, List.mem_set hi _, rfl⟩
      exact fun _ => Or.inr
        (Nat.lt_of_lt_of_le hnew ((Nat.le_add_right _ _).trans (Nat.le_add_right _ _)))
  | unlocked _ pc => exact h.of_report pc rfl rfl rfl (Nat.le_refl _)
  | @wrote _ msg _ pc _ =>
      refine h.of_report pc rfl rfl rfl ?_
      show _ ≤ (t.fd ++ [msg]).countP _ + _
      rw [countP_append_singleton]
      exact Nat.le_refl _
  | @read _ _ _ msg fd _ pc first =>
      refine h.of_work rfl rfl (fun hc => ?_) ?_
      · rw [pc] at hc
        cases hc
      · show _ ≤ fd.countP _ + (readMsg msg).headed.toNat
        rw [first, pc, countP_cons_fd, headed_readMsg]
        exact Nat.le_refl _
  | acquired _ _ _ => exact woken_of_headed rfl
  | extracted _ _ => exact woken_of_headed rfl
  | drainLocked _ _ _ => exact woken_of_headed rfl
  | drainedOne _ pc _ =>
      refine woken_of_headed ?_
      show t.workThread.headed = true
      rw [pc]
      rfl
  | drainUnlocked _ _ empty => exact fun hne => absurd empty hne
  | released _ pc =>
      exact h.of_work rfl rfl (by rw [pc]; exact RunPc.noConfusion)
        (by rw [pc]; exact Nat.le_refl _)
  | updated _ pc =>
      exact h.of_work rfl rfl (by rw [pc]; exact RunPc.noConfusion)
        (by rw [pc]; exact Nat.le_refl _)
  | compared _ pc =>
      exact h.of_work (lftRecList_ssaDbCompare _ _ _ _) rfl (by rw [pc]; exact RunPc.noConfusion)
        (by rw [pc]; exact Nat.le_refl _)
  | wroteExit _ _ =>
      refine h.of_wakeUps rfl id ?_
      show t.reports.countP _ + t.fd.countP _ + t.workThread.headed.toNat
        ≤ t.reports.countP _ + (t.fd ++ [SsaDbCtrlMsg.exit]).countP _ + t.workThread.headed.toNat
      rw [countP_append_singleton]
      exact Nat.le_refl _

theorem woken {as : List Act} (hrun : run (threadStep capacity) threadsInit as = some t) :
    Woken t :=
  run_inv (I := Woken) (fun h hstep => h.of_move (move_of_step hstep))
    (fun hne => absurd rfl hne) hrun

/-- With all calls back and no message that leads to it the queue is empty. -/
theorem Woken.queue_empty (h : Woken t) (hpc : t.workThread = .poll)
    (hback : ∀ pc ∈ t.reports, pc = .done) (hfd : t.fd.countP SsaDbCtrlMsg.wakes = 0) :
    t.ssaDb.lftRecList = [] := by
  by_contra hne
  rcases h hne with hgone | hpos
  · rw [hpc] at hgone
    cases hgone
  · have hcalls : t.reports.countP ReportPc.announces = 0 := by
      rw [List.countP_eq_zero]
      intro pc hmem
      rw [hback pc hmem]
      exact Bool.false_ne_true
    rw [Threads.wakeUps, hcalls, hfd, hpc] at hpos
    exact absurd hpos (by decide)

end Woken

/-! ## The EXIT -/

def RunPc.gone : RunPc → Bool
  | .exited => true
  | _ => false

/-- How many EXITs have been written. -/
def DestroyPc.exits : DestroyPc → Nat
  | .notCalled => 0
  | .write => 0
  | .join => 1
  | .done => 1

/-- The EXIT is in the socket, or read by a worker that has left. -/
structure Ending (t : Threads) : Prop where
  calls : ∀ pc ∈ t.reports, SsaDbCtrlMsg.exit ∉ pc.msgs
  exit : t.fd.count .exit + t.workThread.gone.toNat = t.destroy.exits
  joined : t.destroy = .done → t.workThread = .exited

section Ending

variable {capacity : Nat} {t t' : Threads} {a : Act} {i : Nat} {pc pc' : ReportPc}

theorem gone_readMsg (msg : SsaDbCtrlMsg) :
    (readMsg msg).gone.toNat = if msg = .exit then 1 else 0 := by
  cases msg <;> rfl

theorem exit_notMem_msgs_report (e : OsmEvent) : SsaDbCtrlMsg.exit ∉ (report e).msgs := by
  unfold report
  repeat' split
  all_goals simp [ReportPc.msgs]

theorem Ending.of_report (h : Ending t) (hreports : t'.reports = t.reports.set i pc')
    (hwork : t'.workThread = t.workThread) (hdestroy : t'.destroy = t.destroy)
    (hmsgs : SsaDbCtrlMsg.exit ∉ pc'.msgs)
    (hfd : t'.fd.count .exit = t.fd.count .exit) : Ending t' := by
  refine ⟨?_, ?_, ?_⟩
  · intro pc hpc
    rw [hreports] at hpc
    rcases List.mem_or_eq_of_mem_set hpc with hold | rfl
    · exact h.calls pc hold
    · exact hmsgs
  · rw [hfd, hwork, hdestroy]
    exact h.exit
  · rw [hdestroy, hwork]
    exact h.joined

theorem Ending.of_work (h : Ending t) (hreports : t'.reports = t.reports)
    (hdestroy : t'.destroy = t.destroy) (halive : t.destroy ≠ .done)
    (hfd : t'.fd.count .exit + t'.workThread.gone.toNat
      = t.fd.count .exit + t.workThread.gone.toNat) : Ending t' := by
  refine ⟨?_, ?_, ?_⟩
  · rw [hreports]
    exact h.calls
  · rw [hfd, hdestroy]
    exact h.exit
  · rw [hdestroy]
    exact fun hc => absurd hc halive

theorem gone_afterLftHandle (starting : Bool) : (afterLftHandle starting).gone = false := by
  cases starting <;> rfl

theorem Ending.of_move (h : Ending t) (hmove : Move capacity t a t') : Ending t' := by
  cases hmove with
  | called e alive =>
      refine ⟨?_, h.exit, h.joined⟩
      intro pc hpc
      rcases List.mem_append.mp hpc with hold | hnew
      · exact h.calls pc hold
      · rw [List.mem_singleton.mp hnew]
        exact exit_notMem_msgs_report e
  | osmAcquired _ _ | osmReleased _ => exact ⟨h.calls, h.exit, h.joined⟩
  | destroyed first =>
      refine ⟨h.calls, ?_, fun hc => by cases hc⟩
      have hexit := h.exit
      rw [first] at hexit
      exact hexit
  | locked _ _ _ => exact h.of_report rfl rfl rfl (by simp [ReportPc.msgs]) rfl
  | inserted _ _ => exact h.of_report rfl rfl rfl (by simp [ReportPc.msgs]) rfl
  | unlocked _ _ => exact h.of_report rfl rfl rfl (by simp [ReportPc.msgs]) rfl
  | @wrote i msg _ pc _ =>
      refine h.of_report rfl rfl rfl (by simp [ReportPc.msgs]) ?_
      have hmsg : SsaDbCtrlMsg.exit ∉ [msg] := h.calls _ (List.mem_of_getElem? pc)
      show (t.fd ++ [msg]).count .exit = _
      rw [List.count_append, List.count_eq_zero.mpr hmsg, Nat.add_zero]
  | @read _ _ _ msg fd alive pc first =>
      refine h.of_work rfl rfl alive ?_
      show fd.count .exit + (readMsg msg).gone.toNat = _
      rw [first, pc, gone_readMsg, List.count_cons]
      show _ = _ + (if (msg == SsaDbCtrlMsg.exit) = true then 1 else 0) + 0
      simp
  | acquired alive pc _ | extracted alive pc | drainLocked alive pc _ | released alive pc
  | updated alive pc | compared alive pc => exact h.of_work rfl rfl alive (by rw [pc]; rfl)
  | drainedOne alive pc _ => exact h.of_work rfl rfl alive rfl
  | drainUnlocked alive pc _ =>
      refine h.of_work rfl rfl alive ?_
      rw [pc]
      show _ + (afterLftHandle _).gone.toNat = _
      rw [gone_afterLftHandle]
      rfl
  | wroteExit pc _ =>
      refine ⟨h.calls, ?_, fun hc => by cases hc⟩
      have hexit := h.exit
      rw [pc] at hexit
      show (t.fd ++ [SsaDbCtrlMsg.exit]).count .exit + t.workThread.gone.toNat = 0 + 1
      rw [List.count_append, List.count_singleton_self, Nat.add_right_comm]
      exact congrArg (· + 1) hexit
  | joined pc gone =>
      refine ⟨h.calls, ?_, fun _ => gone⟩
      have hexit := h.exit
      rw [pc] at hexit
      exact hexit

theorem ending_init : Ending threadsInit :=
  ⟨fun _ hpc => (by cases hpc), rfl, fun hc => by cases hc⟩

theorem ending {as : List Act} (hrun : run (threadStep capacity) threadsInit as = some t) :
    Ending t :=
  run_inv (I := Ending) (fun h hstep => h.of_move (move_of_step hstep))
    ending_init hrun

/-- Before the EXIT is written the worker is there. -/
theorem Ending.notGone (h : Ending t) (hdestroy : t.destroy.exits = 0) :
    t.workThread ≠ .exited := by
  intro hgone
  have hexit := h.exit
  rw [hdestroy, hgone] at hexit
  simp [RunPc.gone] at hexit

end Ending

/-! ## The effort that is left -/

/-- How many steps of the worker a message costs, with the one that reads it. -/
def SsaDbCtrlMsg.effort : SsaDbCtrlMsg → Nat
  | .startExtract => 9
  | .lftChange => 3
  | .exit => 1
  | .other _ => 1

def ReportPc.effort : ReportPc → Nat
  | .lock _ _ => 8
  | .insert _ _ => 7
  | .unlock => 5
  | .write msg => msg.effort + 1
  | .done => 0

def RunPc.effort : RunPc → Nat
  | .poll => 0
  | .acquire => 8
  | .extract => 7
  | .lftLock starting => if starting then 6 else 2
  | .lftLoop starting _ => if starting then 5 else 1
  | .release => 3
  | .update => 2
  | .compare => 1
  | .exited => 0

def DestroyPc.effort : DestroyPc → Nat
  | .notCalled => 0
  | .write => 3
  | .join => 1
  | .done => 0

/-- The steps that are left to the plugin, one for each record in the queue, and
for the threads what they cost from where they are. -/
def Threads.effort (t : Threads) : Nat :=
  (t.reports.map ReportPc.effort).sum + (t.fd.map SsaDbCtrlMsg.effort).sum
    + t.ssaDb.lftRecList.length + t.workThread.effort + t.destroy.effort

section Effort

variable {capacity : Nat} {t t' : Threads} {a : Inner} {i : Nat} {pc pc' : ReportPc}

theorem effort_readMsg (msg : SsaDbCtrlMsg) : (readMsg msg).effort < msg.effort := by
  cases msg <;> exact Nat.lt_of_sub_pos (Nat.succ_pos _)

theorem effort_lt_of_report (hpc : t.reports[i]? = some pc)
    (hreports : t'.reports = t.reports.set i pc') (hwork : t'.workThread = t.workThread)
    (hdestroy : t'.destroy = t.destroy)
    (hlt : (t'.fd.map SsaDbCtrlMsg.effort).sum + t'.ssaDb.lftRecList.length + pc'.effort
      < (t.fd.map SsaDbCtrlMsg.effort).sum + t.ssaDb.lftRecList.length + pc.effort) :
    t'.effort < t.effort := by
  have hsum := sum_map_set_add ReportPc.effort hpc pc'
  rw [Threads.effort, Threads.effort, hreports, hwork, hdestroy]
  omega

theorem effort_lt_of_work (hreports : t'.reports = t.reports) (hdestroy : t'.destroy = t.destroy)
    (hlt : (t'.fd.map SsaDbCtrlMsg.effort).sum + t'.ssaDb.lftRecList.length + t'.workThread.effort
      < (t.fd.map SsaDbCtrlMsg.effort).sum + t.ssaDb.lftRecList.length + t.workThread.effort) :
    t'.effort < t.effort := by
  rw [Threads.effort, Threads.effort, hreports, hdestroy]
  omega

/-- Every step of the plugin is one less to take. -/
theorem effort_lt_of_move (hmove : Move capacity t (.inner a) t') : t'.effort < t.effort := by
  cases hmove with
  | locked _ pc _ =>
      exact effort_lt_of_report pc rfl rfl rfl (Nat.add_lt_add_left (Nat.lt_succ_self _) _)
  | inserted _ pc =>
      refine effort_lt_of_report pc rfl rfl rfl ?_
      show (t.fd.map _).sum + (t.ssaDb.lftRecList ++ [_]).length + 5
        < (t.fd.map _).sum + t.ssaDb.lftRecList.length + 7
      rw [List.length_append, List.length_singleton]
      omega
  | unlocked _ pc =>
      exact effort_lt_of_report pc rfl rfl rfl (Nat.add_lt_add_left (Nat.lt_succ_self _) _)
  | @wrote _ msg _ pc _ =>
      refine effort_lt_of_report pc rfl rfl rfl ?_
      show ((t.fd ++ [msg]).map _).sum + _ + 0 < _ + (msg.effort + 1)
      rw [List.map_append, List.sum_append, List.map_singleton, List.sum_singleton]
      show _ + t.ssaDb.lftRecList.length + 0 < _
      omega
  | @read _ _ _ msg fd _ pc first =>
      refine effort_lt_of_work rfl rfl ?_
      have hread := effort_readMsg msg
      show (fd.map _).sum + _ + (readMsg msg).effort < _
      rw [first, pc, List.map_cons, List.sum_cons]
      show _ + t.ssaDb.lftRecList.length + _ < _ + 0
      omega
  | acquired _ pc _ | extracted _ pc | released _ pc | updated _ pc =>
      refine effort_lt_of_work rfl rfl ?_
      rw [pc]
      exact Nat.add_lt_add_left (Nat.lt_succ_self _) _
  | @drainLocked _ mem _ starting _ pc _ =>
      refine effort_lt_of_work rfl rfl ?_
      rw [pc]
      exact Nat.add_lt_add_left (by cases starting <;> simp [RunPc.effort]) _
  | drainedOne _ pc first =>
      refine effort_lt_of_work rfl rfl ?_
      rw [first, List.length_cons]
      exact Nat.add_lt_add_right (Nat.lt_succ_self _) _
  | @drainUnlocked _ _ _ _ starting _ pc _ =>
      refine effort_lt_of_work rfl rfl ?_
      rw [pc]
      exact Nat.add_lt_add_left (by cases starting <;> simp [RunPc.effort, afterLftHandle]) _
  | @compared _ mem alloc _ pc =>
      refine effort_lt_of_work rfl rfl ?_
      rw [pc, lftRecList_ssaDbCompare]
      exact Nat.add_lt_add_left (Nat.lt_succ_self _) _
  | wroteExit pc _ =>
      have hexit : SsaDbCtrlMsg.exit.effort = 1 := rfl
      rw [Threads.effort, Threads.effort, pc]
      show (t.reports.map _).sum + ((t.fd ++ [SsaDbCtrlMsg.exit]).map _).sum
        + t.ssaDb.lftRecList.length + t.workThread.effort + 1 < _ + 3
      rw [List.map_append, List.sum_append, List.map_singleton, List.sum_singleton, hexit]
      omega
  | joined pc _ =>
      rw [Threads.effort, Threads.effort, pc]
      exact Nat.lt_succ_self _

end Effort

/-! ## The orderly end -/

/-- OpenSM reports nothing once it has called `destroy`, and calls it when its
reports are back. -/
def Orderly (t : Threads) : Act → Prop
  | .report _ => t.destroy = .notCalled
  | .destroy => ∀ pc ∈ t.reports, pc = .done
  | _ => True

/-- Once `destroy` is called the calls are back, its EXIT is the last message,
and the worker leaves nothing behind. -/
structure EndsLast (t : Threads) : Prop where
  back : t.destroy ≠ .notCalled → ∀ pc ∈ t.reports, pc = .done
  last : t.destroy = .join → t.workThread ≠ .exited → ∃ fd, t.fd = fd ++ [.exit]
  left : t.workThread = .exited → t.fd = [] ∧ t.ssaDb.lftRecList = []

section EndsLast

variable {capacity : Nat} {t t' : Threads} {a : Act} {i : Nat} {pc pc' : ReportPc}

/-- A call is under way only before `destroy` is called. -/
theorem EndsLast.notCalled (h : EndsLast t) (hpc : t.reports[i]? = some pc) (hbusy : pc ≠ .done) :
    t.destroy = .notCalled := by
  by_contra hcalled
  exact hbusy (h.back hcalled pc (List.mem_of_getElem? hpc))

theorem endsLast_of_notCalled (hend : Ending t) (h : t.destroy = .notCalled) : EndsLast t := by
  refine ⟨fun hc => absurd h hc, fun hc => ?_, fun hgone => ?_⟩
  · rw [h] at hc
    cases hc
  · exact absurd hgone (hend.notGone (by rw [h]; rfl))

theorem EndsLast.of_read (h : EndsLast t) (hend : Ending t) (hwoken : Woken t)
    {msg : SsaDbCtrlMsg} {fd : List SsaDbCtrlMsg} (alive : t.destroy ≠ .done)
    (hpc : t.workThread = .poll) (first : t.fd = msg :: fd) :
    EndsLast { t with fd := fd, workThread := readMsg msg } := by
  have hexit := hend.exit
  rw [first, hpc, List.count_cons] at hexit
  refine ⟨h.back, ?_, ?_⟩
  · intro hjoin hgone
    obtain ⟨pre, hpre⟩ := h.last hjoin (by rw [hpc]; exact RunPc.noConfusion)
    rw [first] at hpre
    cases pre with
    | nil =>
        obtain ⟨rfl, _⟩ := List.cons.inj hpre
        exact absurd rfl hgone
    | cons _ pre => exact ⟨pre, (List.cons.inj hpre).2⟩
  · intro hgone
    have hmsg : msg = .exit := by
      cases msg with
      | exit => rfl
      | startExtract | lftChange | other _ => cases hgone
    subst hmsg
    have hjoin : t.destroy = .join := by
      cases hd : t.destroy with
      | join => rfl
      | notCalled | write =>
          rw [hd] at hexit
          simp [DestroyPc.exits] at hexit
      | done => exact absurd hd alive
    obtain ⟨pre, hpre⟩ := h.last hjoin (by rw [hpc]; exact RunPc.noConfusion)
    rw [hjoin] at hexit
    have hfd : fd = [] := by
      rw [first] at hpre
      cases pre with
      | nil => exact (List.cons.inj hpre).2
      | cons _ pre =>
          rw [List.cons_append] at hpre
          obtain ⟨_, hpre⟩ := List.cons.inj hpre
          rw [hpre, List.count_append, List.count_singleton_self] at hexit
          simp [RunPc.gone, DestroyPc.exits] at hexit
    have hback := h.back (by rw [hjoin]; exact DestroyPc.noConfusion)
    have hqueue := hwoken.queue_empty hpc hback (by rw [first, hfd]; rfl)
    exact ⟨hfd, hqueue⟩

theorem EndsLast.of_move (h : EndsLast t) (hend : Ending t) (hwoken : Woken t)
    (hok : Orderly t a) (hmove : Move capacity t a t') : EndsLast t' := by
  have hend' := hend.of_move hmove
  cases hmove with
  | called e _ => exact endsLast_of_notCalled hend' hok
  | osmAcquired _ _ | osmReleased _ => exact ⟨h.back, h.last, h.left⟩
  | destroyed _ => exact ⟨fun _ => hok, fun hc => (by cases hc), h.left⟩
  | locked _ pc _ | inserted _ pc | unlocked _ pc | wrote _ pc _ =>
      exact endsLast_of_notCalled hend' (h.notCalled pc (fun hc => by cases hc))
  | read alive pc first => exact h.of_read hend hwoken alive pc first
  | acquired _ pc _ | extracted _ pc | drainLocked _ pc _ | released _ pc | updated _ pc
  | compared _ pc =>
      refine ⟨h.back, fun hjoin _ => h.last hjoin (by rw [pc]; exact RunPc.noConfusion), ?_⟩
      intro hc
      cases hc
  | drainedOne _ pc _ =>
      refine ⟨h.back, h.last, fun hc => ?_⟩
      have hgone : t.workThread = .exited := hc
      rw [pc] at hgone
      cases hgone
  | @drainUnlocked _ _ _ _ starting _ pc _ =>
      refine ⟨h.back, fun hjoin _ => h.last hjoin (by rw [pc]; exact RunPc.noConfusion), ?_⟩
      intro hc
      cases starting <;> cases hc
  | wroteExit pc _ =>
      refine ⟨fun _ => h.back (by rw [pc]; exact DestroyPc.noConfusion),
        fun _ _ => ⟨t.fd, rfl⟩, fun hgone => ?_⟩
      exact absurd hgone (hend.notGone (by rw [pc]; rfl))
  | joined pc _ =>
      exact ⟨fun _ => h.back (by rw [pc]; exact DestroyPc.noConfusion),
        fun hc => (by cases hc), h.left⟩

theorem endsLast {as : List Act} (hok : Guarded (threadStep capacity) Orderly threadsInit as)
    (hrun : run (threadStep capacity) threadsInit as = some t) : EndsLast t := by
  refine guarded_induction (P := fun _ t => EndsLast t)
    (endsLast_of_notCalled ending_init rfl) ?_ hok hrun
  intro as a t t' hrun ih hok hstep
  exact ih.of_move (ending hrun) (woken hrun) hok (move_of_step hstep)

end EndsLast

/-! ## Where the steps end -/

/-- No thread of the plugin can move. -/
def Stuck (capacity : Nat) (t : Threads) : Prop := ∀ a, innerStep capacity t a = none

/-- Nothing is left to do. -/
structure Settled (t : Threads) : Prop where
  back : ∀ pc ∈ t.reports, pc = .done
  fd : t.fd = []
  queue : t.ssaDb.lftRecList = []
  rests : t.destroy = .notCalled ∧ t.workThread = .poll ∨
    t.destroy = .done ∧ t.workThread = .exited

section Stuck

variable {capacity : Nat} {t : Threads} {i : Nat} {pc : ReportPc}

theorem Stuck.report (h : Stuck capacity t) (alive : t.destroy ≠ .done) (i : Nat) :
    reportStep capacity t i = none := by
  have hnone := h (.report i)
  unfold innerStep at hnone
  split at hnone
  next hdone => exact absurd hdone alive
  next => exact hnone

theorem Stuck.work (h : Stuck capacity t) (alive : t.destroy ≠ .done) (subn : OsmSubn) (mem : Mem)
    (alloc : Bool) : ssaDbRunStep t subn mem alloc = none := by
  have hnone := h (.work subn mem alloc)
  unfold innerStep at hnone
  split at hnone
  next hdone => exact absurd hdone alive
  next => exact hnone

theorem Stuck.destroy (h : Stuck capacity t) (alive : t.destroy ≠ .done) :
    destroyStep capacity t = none := by
  have hnone := h .destroy
  unfold innerStep at hnone
  split at hnone
  next hdone => exact absurd hdone alive
  next => exact hnone

/-- A thread that holds the queue's lock can always go on, so nobody holds it. -/
theorem Stuck.unlocked (h : Stuck capacity t) (alive : t.destroy ≠ .done) (hex : Exclusive t) :
    t.lftRecListLock = false := by
  refine Bool.eq_false_iff.mpr fun hlocked => ?_
  rcases hex.held_iff.mp hlocked with hdrain | ⟨pc, hmem, hpc⟩
  · have hnone := h.work alive default default true
    rw [ssaDbRunStep] at hnone
    cases hw : t.workThread with
    | lftLoop starting mem =>
        rw [hw] at hnone
        cases hq : t.ssaDb.lftRecList with
        | nil =>
            simp only [hq] at hnone
            cases hnone
        | cons c rest =>
            simp only [hq] at hnone
            cases hnone
    | poll | acquire | extract | lftLock _ | release | update | compare | exited =>
        rw [hw] at hdrain
        cases hdrain
  · obtain ⟨i, hi⟩ := List.mem_iff_getElem?.mp hmem
    have hnone := h.report alive i
    rw [reportStep, hi] at hnone
    cases pc with
    | insert pSw e => cases hnone
    | unlock => cases hnone
    | lock _ _ | write _ | done => cases hpc

/-- A call is back, or has a message to write and no room for it. -/
theorem Stuck.call (h : Stuck capacity t) (alive : t.destroy ≠ .done) (hex : Exclusive t)
    (hpc : t.reports[i]? = some pc) : pc = .done ∨ capacity ≤ t.fd.length := by
  have hnone := h.report alive i
  rw [reportStep, hpc] at hnone
  cases pc with
  | lock pSw e =>
      simp only [h.unlocked alive hex] at hnone
      cases hnone
  | insert pSw e => cases hnone
  | unlock => cases hnone
  | write msg =>
      refine Or.inr (Nat.le_of_not_lt fun hroom => ?_)
      simp only [if_pos hroom] at hnone
      cases hnone
  | done => exact Or.inl rfl

/-- The worker has left or waits for a message. -/
theorem Stuck.worker (h : Stuck capacity t) (alive : t.destroy ≠ .done) (hex : Exclusive t)
    (hosm : t.osmLock = false) :
    t.workThread = .exited ∨ t.workThread = .poll ∧ t.fd = [] := by
  have hnone := h.work alive default default true
  rw [ssaDbRunStep] at hnone
  cases hw : t.workThread with
  | exited => exact Or.inl rfl
  | poll =>
      refine Or.inr ⟨rfl, ?_⟩
      cases hfd : t.fd with
      | nil => rfl
      | cons msg fd =>
          simp only [hw, hfd] at hnone
          cases hnone
  | acquire =>
      simp only [hw, hosm] at hnone
      cases hnone
  | lftLock starting =>
      simp only [hw, h.unlocked alive hex] at hnone
      cases hnone
  | lftLoop starting mem =>
      have hlocked := hex.of_draining (by rw [hw]; rfl)
      rw [h.unlocked alive hex] at hlocked
      cases hlocked
  | extract | release | update | compare =>
      simp only [hw] at hnone
      cases hnone

/-- Where the steps end nothing is left to do. -/
theorem settled_of_stuck (hcap : 0 < capacity) (hosm : t.osmLock = false) (hex : Exclusive t)
    (hwoken : Woken t) (hend : Ending t) (hlast : EndsLast t) (h : Stuck capacity t) :
    Settled t := by
  by_cases alive : t.destroy = .done
  · have hgone := hend.joined alive
    obtain ⟨hfd, hqueue⟩ := hlast.left hgone
    exact ⟨hlast.back (by rw [alive]; exact DestroyPc.noConfusion), hfd, hqueue,
      Or.inr ⟨alive, hgone⟩⟩
  · have hexit := hend.exit
    rcases h.worker alive hex hosm with hgone | ⟨hpoll, hfd⟩
    · -- the worker has read the EXIT, so `destroy` waits for it and can go on
      have hjoin : t.destroy = .join := by
        rw [hgone] at hexit
        cases hd : t.destroy with
        | join => rfl
        | notCalled | write =>
            rw [hd] at hexit
            simp [RunPc.gone, DestroyPc.exits] at hexit
        | done => exact absurd hd alive
      have hnone := h.destroy alive
      simp only [destroyStep, hjoin, hgone] at hnone
      cases hnone
    · have hback : ∀ pc ∈ t.reports, pc = .done := by
        intro pc hmem
        obtain ⟨i, hi⟩ := List.mem_iff_getElem?.mp hmem
        refine (h.call alive hex hi).resolve_right ?_
        rw [hfd]
        exact Nat.not_le_of_lt hcap
      have hnot : t.destroy = .notCalled := by
        rw [hpoll, hfd] at hexit
        cases hd : t.destroy with
        | notCalled => rfl
        | write =>
            have hnone := h.destroy alive
            simp only [destroyStep, hd, hfd, List.length_nil, if_pos hcap] at hnone
            cases hnone
        | join =>
            rw [hd] at hexit
            cases hexit
        | done => exact absurd hd alive
      exact ⟨hback, hfd, hwoken.queue_empty hpoll hback (by rw [hfd]; rfl),
        Or.inl ⟨hnot, hpoll⟩⟩

end Stuck

/-! ## The plugin's own steps in a run -/

section Inner

variable {capacity : Nat} {t t' : Threads}

theorem run_inner (capacity : Nat) (t : Threads) (is : List Inner) :
    run (threadStep capacity) t (is.map .inner) = run (innerStep capacity) t is := by
  rw [run, List.foldlM_map]
  rfl

theorem move_of_inner {a : Inner} (h : innerStep capacity t a = some t') :
    Move capacity t (.inner a) t' :=
  move_of_step h

theorem osmLock_of_inner {a : Inner} (h : innerStep capacity t a = some t') :
    t'.osmLock = t.osmLock := by
  cases move_of_inner h <;> rfl

theorem guarded_inner (is : List Inner) :
    Guarded (threadStep capacity) Orderly t (is.map .inner) := by
  intro as a as' s hsplit _
  have hmem : a ∈ is.map Act.inner := by
    rw [hsplit]
    exact List.mem_append_right _ List.mem_cons_self
  obtain ⟨b, _, rfl⟩ := List.mem_map.mp hmem
  trivial

end Inner

/-! ## Main results -/

/-- All that was asked for has been done. -/
structure Served (capacity : Nat) (as : List Act) (t : Threads) : Prop where
  extracts : (as.flatMap asks).count .startExtract
    = ((committed capacity as).flatMap Event.calls).count .compare
  changes : (as.flatMap Act.changes).Perm (history (committed capacity as)).handled
  phase : t.worker.phase = .idle

theorem Settled.served {capacity : Nat} {as : List Act} {t : Threads} (h : Settled t)
    (hrun : run (threadStep capacity) threadsInit as = some t) : Served capacity as t := by
  have hunwritten : t.unwritten = [] := by
    have hdestroy : t.destroy.msgs = [] := by
      rcases h.rests with ⟨hd, _⟩ | ⟨hd, _⟩ <;> rw [hd] <;> rfl
    rw [Threads.unwritten, flatMap_of_done rfl h.back, hdestroy, List.append_nil]
  have hunqueued : t.unqueued = [] := flatMap_of_done rfl h.back
  have hpc : t.workThread.calls = [] ∧ t.workThread.phase = .idle ∧
      t.workThread.holdsLock = false := by
    rcases h.rests with ⟨_, hw⟩ | ⟨_, hw⟩ <;> rw [hw] <;> exact ⟨rfl, rfl, rfl⟩
  obtain ⟨hcalls, hphase, hdrain⟩ := hpc
  have hworker := worker_of_notDraining hdrain
  refine ⟨?_, ?_, ?_⟩
  · have hasked := asked_kept hrun
    have hserved := calls_eq hrun
    rw [hunwritten, List.append_nil, written_eq hrun, h.fd, List.append_nil] at hasked
    rw [hcalls, List.append_nil] at hserved
    rw [hasked.count_eq, ← hserved, count_flatMap_calls _ (by decide)]
  · have hkept := changes_perm hrun
    rw [hunqueued, List.append_nil, reported_eq hrun, hworker] at hkept
    show (as.flatMap Act.changes).Perm _
    have hqueue : ([] : List SsaDbLftChangeRec) = t.ssaDb.lftRecList := h.queue.symm
    rw [← List.append_nil (history (committed capacity as)).handled, hqueue]
    exact hkept
  · rw [hworker]
    exact hphase

/-- From every state of an orderly run the plugin's own steps come to an end,
after no more than `effort` of them, whichever of them are taken. Where they end
all that OpenSM has asked for is done, and the plugin waits or is gone. -/
theorem settles {capacity : Nat} {as : List Act} {t : Threads} (hcap : 0 < capacity)
    (hrun : run (threadStep capacity) threadsInit as = some t)
    (horderly : Guarded (threadStep capacity) Orderly threadsInit as)
    (hosm : t.osmLock = false) :
    (∀ is t', run (innerStep capacity) t is = some t' →
      is.length ≤ t.effort ∧
        (Stuck capacity t' → Settled t' ∧ Served capacity (as ++ is.map .inner) t')) ∧
      ∃ is t', run (innerStep capacity) t is = some t' ∧ Stuck capacity t' := by
  have pay : ∀ {s : Threads} {a : Inner} {s' : Threads}, s.osmLock = false →
      innerStep capacity s a = some s' → s'.effort < s.effort :=
    fun _ hstep => effort_lt_of_move (move_of_inner hstep)
  have keep : ∀ {s : Threads} {a : Inner} {s' : Threads}, s.osmLock = false →
      innerStep capacity s a = some s' → s'.osmLock = false :=
    fun hs hstep => (osmLock_of_inner hstep).trans hs
  refine ⟨fun is t' his => ⟨?_, fun hstuck => ?_⟩, exists_run_to_end keep pay hosm⟩
  · have hlen := length_add_measure_le keep pay hosm his
    omega
  · have hall : run (threadStep capacity) threadsInit (as ++ is.map .inner) = some t' :=
      run_append_eq_some.mpr ⟨t, hrun, (run_inner capacity t is).trans his⟩
    have hlast := endsLast (guarded_append hrun horderly (guarded_inner is)) hall
    have hosm' : t'.osmLock = false :=
      run_inv (I := fun s : Threads => s.osmLock = false) keep hosm his
    have hsettled := settled_of_stuck hcap hosm' (exclusive hall) (woken hall) (ending hall)
      hlast hstuck
    exact ⟨hsettled, hsettled.served hall⟩

/-- `Orderly`, computed. -/
def orderlyCheck (t : Threads) : Act → Bool
  | .report _ => decide (t.destroy = .notCalled)
  | .destroy => t.reports.all fun pc => match pc with | .done => true | _ => false
  | _ => true

theorem orderly_of_check (t : Threads) (a : Act) (h : orderlyCheck t a = true) : Orderly t a := by
  cases a with
  | report e =>
      have hnot : t.destroy = .notCalled := of_decide_eq_true h
      exact hnot
  | destroy =>
      intro pc hpc
      have hdone := List.all_eq_true.mp h pc hpc
      cases pc with
      | done => rfl
      | lock _ _ | insert _ _ | unlock | write _ => cases hdone
  | osmAcquire | osmRelease | inner _ => trivial

theorem settles_changeDuringExtract :
    ∃ t, run (threadStep 4) threadsInit changeDuringExtract = some t ∧
      ∀ is t', run (innerStep 4) t is = some t' →
        is.length ≤ t.effort ∧
          (Stuck 4 t' → Settled t' ∧ Served 4 (changeDuringExtract ++ is.map .inner) t') := by
  have hrun : run (threadStep 4) threadsInit changeDuringExtract = some _ := rfl
  have horderly : Guarded (threadStep 4) Orderly threadsInit changeDuringExtract :=
    guarded_of_check orderly_of_check (by decide +kernel)
  exact ⟨_, hrun, (settles (by decide) hrun horderly rfl).1⟩

/-- While there is a worker, a record in the queue is not forgotten: the worker is
on its way there, or a message that sends it there is in the socket or about to
be written by a call that is past its insertion. -/
theorem wakeUp_on_its_way {capacity : Nat} {as : List Act} {t : Threads}
    (hrun : run (threadStep capacity) threadsInit as = some t)
    (hqueue : t.ssaDb.lftRecList ≠ []) (hworker : t.workThread ≠ .exited) :
    t.workThread.headed = true ∨ (.startExtract ∈ t.fd ∨ .lftChange ∈ t.fd) ∨
      ∃ pc ∈ t.reports, pc = .unlock ∨ pc = .write .startExtract ∨ pc = .write .lftChange := by
  have hpos := (woken hrun hqueue).resolve_left hworker
  by_cases hheaded : t.workThread.headed = true
  · exact Or.inl hheaded
  by_cases hfd : 0 < t.fd.countP SsaDbCtrlMsg.wakes
  · obtain ⟨msg, hmem, hmsg⟩ := List.countP_pos_iff.mp hfd
    refine Or.inr (Or.inl ?_)
    cases msg with
    | startExtract => exact Or.inl hmem
    | lftChange => exact Or.inr hmem
    | exit | other _ => cases hmsg
  · have hcalls : 0 < t.reports.countP ReportPc.announces := by
      rw [Threads.wakeUps, Bool.eq_false_iff.mpr hheaded, Bool.toNat_false] at hpos
      omega
    obtain ⟨pc, hmem, hpc⟩ := List.countP_pos_iff.mp hcalls
    refine Or.inr (Or.inr ⟨pc, hmem, ?_⟩)
    cases pc with
    | unlock => exact Or.inl rfl
    | write msg =>
        cases msg with
        | startExtract => exact Or.inr (Or.inl rfl)
        | lftChange => exact Or.inr (Or.inr rfl)
        | exit | other _ => cases hpc
    | lock _ _ | insert _ _ | done => cases hpc

/-- The record is in the queue, and its call has not even given the lock back. -/
theorem wakeUp_on_its_way_changeBeforeSubnetUp :
    ∃ t, run (threadStep 4) threadsInit changeBeforeSubnetUp.1 = some t ∧
      (t.workThread.headed = true ∨ (.startExtract ∈ t.fd ∨ .lftChange ∈ t.fd) ∨
        ∃ pc ∈ t.reports,
          pc = .unlock ∨ pc = .write .startExtract ∨ pc = .write .lftChange) := by
  have hrun : run (threadStep 4) threadsInit changeBeforeSubnetUp.1 = some _ := rfl
  exact ⟨_, hrun, wakeUp_on_its_way hrun (List.cons_ne_nil _ _) RunPc.noConfusion⟩

/-- When `destroy` is back, an orderly end has left the socket and the queue empty. -/
theorem settled_of_done {capacity : Nat} {as : List Act} {t : Threads}
    (hrun : run (threadStep capacity) threadsInit as = some t)
    (horderly : Guarded (threadStep capacity) Orderly threadsInit as)
    (hdone : t.destroy = .done) : Settled t := by
  have hlast := endsLast horderly hrun
  have hgone := (ending hrun).joined hdone
  obtain ⟨hfd, hqueue⟩ := hlast.left hgone
  exact ⟨hlast.back (by rw [hdone]; exact DestroyPc.noConfusion), hfd, hqueue,
    Or.inr ⟨hdone, hgone⟩⟩

/-- What an orderly end leaves: when `destroy` is back, every extraction that was
asked for has been compared, every change has been handled, and the socket and
the queue, which it is about to lose, are empty. -/
theorem destroy_leaves_nothing {capacity : Nat} {as : List Act} {t : Threads}
    (hrun : run (threadStep capacity) threadsInit as = some t)
    (horderly : Guarded (threadStep capacity) Orderly threadsInit as)
    (hdone : t.destroy = .done) : Settled t ∧ Served capacity as t :=
  ⟨settled_of_done hrun horderly hdone, (settled_of_done hrun horderly hdone).served hrun⟩

/-- A change is queued and `destroy` is called right after the report is back. -/
def changeThenDestroy : List Act :=
  let work : Act := .inner (.work (OsmSubn.ofNodes [plainSwitch 1 1 0]) default true)
  let change : OsmEpiLftChangeEvent := ⟨some (plainSwitch 1 1 7), .block, 0, 0⟩
  [.report (.lftChange (some change)), .inner (.report 0), .inner (.report 0),
    .inner (.report 0), .inner (.report 0), .destroy, .inner .destroy,
    work, work, work, work, work, .inner .destroy]

theorem destroy_leaves_nothing_changeThenDestroy :
    ∃ t, run (threadStep 4) threadsInit changeThenDestroy = some t ∧ t.destroy = .done ∧
      Settled t ∧ Served 4 changeThenDestroy t := by
  have hrun : run (threadStep 4) threadsInit changeThenDestroy = some _ := rfl
  have horderly : Guarded (threadStep 4) Orderly threadsInit changeThenDestroy :=
    guarded_of_check orderly_of_check (by decide +kernel)
  exact ⟨_, hrun, rfl, destroy_leaves_nothing hrun horderly rfl⟩

end Ibssa
