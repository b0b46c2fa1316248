import Ibssa.Proofs.HeapCompare
import Ibssa.Proofs.UpToDate
import Ibssa.Proofs.Versions

/-!
# The account of a run

Put together, the steps give the account of the whole life of the plugin, from
`construct` to `destroy`. Every block that was handed out has been freed once, is
reached from the plugin's pointers, or is lost, and how many are lost can be read
off the subnets that were extracted: the first `ssa_db_update` loses the database
that `construct` made for the current one, and an extraction loses an item for
each key that it writes twice. In a subnet that is as OpenSM leaves it there are
none, so a plugin that runs for a year has lost one block.

`destroy` frees all that the pointers reach. It does not look at the queue, and
what is left there is lost as well.
-/

namespace Ibssa

open Keyed ByteOrder Machine Lifetime

/-! ## What an extraction loses -/

theorem count_add_repeats {V : Type} {l : List (UInt64 × V)} {m : EpMap} {b₀ b : Buf V}
    (h : Stored l m b₀ b) : m.count + repeats (l.map Prod.fst) = l.length := by
  have hcount := Items.count_eq_dedup fun k => h.mem_keys (k := k)
  have hle : (l.map Prod.fst).dedup.length ≤ (l.map Prod.fst).length :=
    (List.dedup_sublist _).length_le
  rw [repeats, hcount]
  rw [List.length_map] at hle ⊢
  omega

/-- The LID that the loop over the nodes leaves in `lid_ho`. -/
def carriedLid (firstTimeSubnetUp : Bool) (s : OsmSubn) : UInt16 :=
  if firstTimeSubnetUp then
    (((s.nodes.filter OsmNode.isSwitch).map fun n => ntohs (n.baseLid 0)).getLast?).getD 0
  else 0

/-- How many records of an extraction are written under a key that is there. -/
def repeatedKeys (firstTimeSubnetUp : Bool) (s : OsmSubn) : Nat :=
  let c := PortCursor.start (carriedLid firstTimeSubnetUp s)
  repeats ((s.nodes.map nodeEntry).map Prod.fst) +
    (repeats ((s.ports.map (guidToLidEntry s)).map Prod.fst) +
      (repeats ((portRun s c s.ports).map Prod.fst) +
        repeats ((linkRun s c s.ports).map Prod.fst))) +
    if firstTimeSubnetUp then
      repeats ((lftTops s.nodes).map Prod.fst) + repeats ((lftBlocks s.nodes).map Prod.fst)
    else 0

section Loss

variable (mem : Mem) (firstTimeSubnetUp : Bool) {ssaDb : SsaDatabase} (s : OsmSubn)

theorem lidHo_foldl_addLftBlock (pSw : OsmSwitch) (l : List Nat) (st : NodeLoop) :
    (l.foldl (addLftBlock pSw) st).lidHo = st.lidHo := by
  induction l generalizing st with
  | nil => rfl
  | cons i rest ih => exact ih _

theorem lidHo_nodeLoop :
    (nodeLoop mem firstTimeSubnetUp ssaDb s).lidHo = carriedLid firstTimeSubnetUp s := by
  cases firstTimeSubnetUp with
  | false =>
      refine loop_induction (P := fun _ (st : NodeLoop) => st.lidHo = 0) rfl ?_ s.nodes
      intro l n st h
      exact h
  | true =>
      rw [carriedLid, if_pos rfl]
      refine loop_induction
        (P := fun l (st : NodeLoop) => st.lidHo
          = (((l.filter OsmNode.isSwitch).map fun n => ntohs (n.baseLid 0)).getLast?).getD 0)
        rfl ?_ s.nodes
      intro l n st h
      rw [nodeLoopBody]
      cases hsw : n.isSwitch with
      | false => simpa [List.filter_append, hsw, addNode] using h
      | true => simp [List.filter_append, hsw, addLft, lidHo_foldl_addLftBlock, addLftTop]

/-- What the loop over the nodes has written, and the keys that has left. -/
theorem nodes_account (hfresh : ssaDb.pDumpDb = ssaDbExtractInit)
    (hfirst : firstTimeSubnetUp = true →
      ssaDb.pLftDb.epDbLftTopTbl = OrdMap.empty ∧ ssaDb.pLftDb.epDbLftBlockTbl = OrdMap.empty) :
    let st := nodeLoop mem firstTimeSubnetUp ssaDb s
    st.nodeOffset + (st.lftTopOffset + st.lftBlockOffset) + (ssaDb.pLftDb.epDbLftTopTbl.count +
        ssaDb.pLftDb.epDbLftBlockTbl.count)
      = st.pSsa.epNodeTbl.count + (st.pLftDb.epDbLftTopTbl.count +
          st.pLftDb.epDbLftBlockTbl.count) +
        (repeats ((s.nodes.map nodeEntry).map Prod.fst) +
          if firstTimeSubnetUp then
            repeats ((lftTops s.nodes).map Prod.fst) + repeats ((lftBlocks s.nodes).map Prod.fst)
          else 0) := by
  intro st
  have hnodes := nodesDone_nodeLoop mem firstTimeSubnetUp s hfresh
  have hnode : st.pSsa.epNodeTbl.count + repeats ((s.nodes.map nodeEntry).map Prod.fst)
      = s.nodes.length := (count_add_repeats hnodes.node).trans (List.length_map _)
  have hoff : st.nodeOffset = s.nodes.length := hnodes.nodeOffset
  cases firstTimeSubnetUp with
  | true =>
      obtain ⟨htop, hblock⟩ := hfirst rfl
      have hlft : LftDone (nodeLoopInit mem ssaDb s).pLftDb (lftTops s.nodes)
          (lftBlocks s.nodes) st := lftDone_loop htop hblock rfl rfl s.nodes
      have htops := count_add_repeats hlft.top
      have hblocks := count_add_repeats hlft.block
      have htopOff := hlft.topOffset
      have hblockOff := hlft.blockOffset
      have hnoTop : ssaDb.pLftDb.epDbLftTopTbl.count = 0 := by rw [htop]; rfl
      have hnoBlock : ssaDb.pLftDb.epDbLftBlockTbl.count = 0 := by rw [hblock]; rfl
      rw [if_pos rfl]
      omega
  | false =>
      have hlater : st.lftTopOffset = 0 ∧ st.lftBlockOffset = 0 ∧
          st.pLftDb.epDbLftTopTbl = ssaDb.pLftDb.epDbLftTopTbl ∧
          st.pLftDb.epDbLftBlockTbl = ssaDb.pLftDb.epDbLftBlockTbl := by
        refine loop_induction
          (P := fun _ (st : NodeLoop) => st.lftTopOffset = 0 ∧ st.lftBlockOffset = 0 ∧
            st.pLftDb.epDbLftTopTbl = ssaDb.pLftDb.epDbLftTopTbl ∧
            st.pLftDb.epDbLftBlockTbl = ssaDb.pLftDb.epDbLftBlockTbl)
          ⟨rfl, rfl, rfl, rfl⟩ ?_ s.nodes
        intro l n st h
        exact h
      rw [hlater.2.2.1, hlater.2.2.2, if_neg Bool.false_ne_true]
      omega

/-- What the loop over the end ports has written, and the keys that has left. -/
theorem ports_account {nodes : NodeLoop} (hguid : nodes.pSsa.epGuidToLidTbl = OrdMap.empty)
    (hport : nodes.pSsa.epPortTbl = OrdMap.empty) (hlink : nodes.pSsa.epLinkTbl = OrdMap.empty) :
    let st := portLoop mem s nodes
    let c := PortCursor.start nodes.lidHo
    st.guidToLidOffset + (st.portOffset + st.linkOffset)
      = st.pSsa.epGuidToLidTbl.count + (st.pSsa.epPortTbl.count + st.pSsa.epLinkTbl.count) +
        (repeats ((s.ports.map (guidToLidEntry s)).map Prod.fst) +
          (repeats ((portRun s c s.ports).map Prod.fst) +
            repeats ((linkRun s c s.ports).map Prod.fst))) ∧
      st.pSsa.epNodeTbl = nodes.pSsa.epNodeTbl := by
  intro st c
  have hguids : GuidsDone s (portLoopInit mem s nodes) s.ports st :=
    guidsDone_loop s hguid rfl s.ports
  have hstart : PortsHold (portLoopInit mem s nodes) [] [] [] c (portLoopInit mem s nodes) := by
    refine ⟨?_, ?_, Logged.nil _, rfl, rfl, rfl, rfl⟩
    · rw [portLoopInit, hport]
      exact Stored.nil _
    · rw [portLoopInit, hlink]
      exact Stored.nil _
  have hports : PortsHold (portLoopInit mem s nodes) _ _ _ _ st := hstart.loop s s.ports
  have hg : st.pSsa.epGuidToLidTbl.count +
      repeats ((s.ports.map (guidToLidEntry s)).map Prod.fst) = s.ports.length :=
    (count_add_repeats hguids.guidToLid).trans (List.length_map _)
  have hgOff := hguids.guidToLidOffset
  have hp := count_add_repeats hports.port
  have hpOff := hports.portOffset
  have hl := count_add_repeats hports.link
  have hlOff := hports.linkOffset
  rw [List.nil_append] at hp hpOff hl hlOff
  refine ⟨?_, hguids.epNodeTbl⟩
  omega

/-- What is written and not mapped in the end has been written twice. -/
theorem mapped_add_written (hfresh : ssaDb.pDumpDb = ssaDbExtractInit)
    (hfirst : firstTimeSubnetUp = true →
      ssaDb.pLftDb.epDbLftTopTbl = OrdMap.empty ∧ ssaDb.pLftDb.epDbLftBlockTbl = OrdMap.empty) :
    Heap.mapped ssaDb + Heap.written mem firstTimeSubnetUp ssaDb s
      = Heap.mapped (ssaDbExtract mem firstTimeSubnetUp ssaDb s) +
        repeatedKeys firstTimeSubnetUp s := by
  have hnodes := nodes_account mem firstTimeSubnetUp s hfresh hfirst
  have hframe := (nodesDone_nodeLoop mem firstTimeSubnetUp s hfresh).frame
  have hlid : (nodeLoop mem firstTimeSubnetUp ssaDb s).lidHo = carriedLid firstTimeSubnetUp s :=
    lidHo_nodeLoop mem firstTimeSubnetUp s
  have hempty : Heap.mapped ssaDb = ssaDb.pLftDb.epDbLftTopTbl.count +
      ssaDb.pLftDb.epDbLftBlockTbl.count := by
    rw [Heap.mapped, hfresh]
    show 0 + _ + (0 + (0 + 0)) = _
    omega
  rw [Heap.written, hempty, Heap.mapped, ssaDbExtract, repeatedKeys, ← hlid]
  dsimp only at hnodes ⊢
  rw [nodeLoopInit, hfresh] at hframe
  generalize nodeLoop mem firstTimeSubnetUp ssaDb s = nodes at hnodes hframe ⊢
  have hguid : nodes.pSsa.epGuidToLidTbl = OrdMap.empty := by rw [hframe]; rfl
  have hport : nodes.pSsa.epPortTbl = OrdMap.empty := by rw [hframe]; rfl
  have hlink : nodes.pSsa.epLinkTbl = OrdMap.empty := by rw [hframe]; rfl
  obtain ⟨hports, hnode⟩ := ports_account mem s hguid hport hlink
  rw [hnode]
  omega

end Loss

/-! ## The data and the memory together -/

/-- How many blocks the extractions of some subnets lose, the last one first. -/
def lossOf : List OsmSubn → Nat
  | [] => 0
  | s :: earlier => repeatedKeys earlier.isEmpty s + lossOf earlier

def Event.isUpdate : Event → Bool
  | .update => true
  | _ => false

/-- How many blocks a run loses: those of its extractions, and one in the first
`ssa_db_update`. -/
def lostIn (es : List Event) : Nat :=
  lossOf (extracted es) + if es.any Event.isUpdate then 1 else 0

/-- Each extraction is followed by an update, and no update comes without one. -/
theorem count_updates {es : List Event} {w : Worker}
    (hrun : run workerStep workerInit es = some w) :
    es.countP Event.isUpdate + w.phase.pending = (extracted es).length := by
  refine run_induction
    (P := fun es (w : Worker) =>
      es.countP Event.isUpdate + w.phase.pending = (extracted es).length) rfl ?_ hrun
  intro es e w w' _ ih hstep
  rw [List.countP_append, extracted_snoc]
  cases e with
  | report pLftChange =>
      obtain rfl := workerStep_report.mp hstep
      exact ih
  | lftChange mem =>
      obtain ⟨_, rfl⟩ := workerStep_lftChange.mp hstep
      exact ih
  | extract mem s =>
      obtain ⟨hidle, rfl⟩ := workerStep_extract.mp hstep
      rw [hidle] at ih
      exact congrArg Nat.succ ih
  | lftHandle mem =>
      obtain ⟨hphase, rfl⟩ := workerStep_lftHandle.mp hstep
      rw [hphase] at ih
      exact ih
  | update =>
      obtain ⟨hphase, rfl⟩ := workerStep_update.mp hstep
      rw [hphase] at ih
      exact ih
  | compare mem alloc =>
      obtain ⟨hphase, rfl⟩ := workerStep_compare.mp hstep
      rw [hphase] at ih
      exact ih

theorem any_isUpdate_of_idle {es : List Event} {w : Worker}
    (hrun : run workerStep workerInit es = some w) (hphase : w.phase = .idle) :
    es.any Event.isUpdate = !(extracted es).isEmpty := by
  have hcount : es.countP Event.isUpdate + Phase.idle.pending = (extracted es).length :=
    hphase ▸ count_updates hrun
  rw [Phase.pending, Nat.add_zero] at hcount
  rw [Bool.eq_iff_iff, List.any_eq_true, ← List.countP_pos_iff, hcount, List.length_pos_iff,
    Bool.not_eq_true', List.isEmpty_eq_false_iff]

theorem first_history (es : List Event) : (history es).first = (extracted es).getLast? := by
  induction es using List.reverseRecOn with
  | nil => rfl
  | append_singleton es e ih =>
      rw [history_snoc, extracted_snoc]
      cases e with
      | extract mem s =>
          show (history es).first.or (some s) = (s :: extracted es).getLast?
          rw [ih, List.getLast?_cons]
          cases (extracted es).getLast? <;> rfl
      | report | lftChange | lftHandle | update | compare => exact ih

namespace Heap

open Lifetime.Ledger (Trades)

variable {host : Host} {es : List Event} {p p' : Process}

/-- Whatever the worker does, the process does. -/
theorem map_run_process (host : Host) (p : Process) (es : List Event) :
    (run (processStep host) p es).map Process.worker = run workerStep p.worker es :=
  map_run (fun _ _ => rfl) (fun _ _ _ => rfl) p es

theorem processStep_eq_some {e : Event} (h : processStep host p e = some p') :
    workerStep p.worker e = some p'.worker ∧
      p'.memory = memoryStep host p.worker p.memory e := by
  obtain ⟨w, hw, rfl⟩ := Option.map_eq_some_iff.mp h
  exact ⟨hw, rfl⟩

/-- A database that mirrors a fresh one is a block and nothing more. -/
theorem length_blocks_of_fresh {d : SsaDbExtract} (hd : d.Mirrors Ibssa.ssaDbExtractInit) :
    d.blocks.length = 1 := by
  have hitems : ∀ {map : QMap}, map.keys = [] → map.blocks.length = 0 := fun {map} hkeys => by
    rw [Items.length_blocks]
    exact Items.count_of_keys_eq (show map.keys = (OrdMap.empty : EpMap).keys from hkeys)
  have htbl : ∀ {p : Option (Block UInt64)}, p.map Block.size = none → p.toList.length = 0 :=
    fun hp => by rw [Option.map_eq_none_iff.mp hp]; rfl
  simp only [SsaDbExtract.blocks, SsaDbExtract.tables, SsaDbExtract.items, List.length_append,
    List.length_singleton, htbl hd.pPkeyTbl, htbl hd.pPortTbl, htbl hd.pLinkTbl,
    htbl hd.pGuidToLidTbl, htbl hd.pNodeTbl, hitems hd.epGuidToLidTbl, hitems hd.epNodeTbl,
    hitems hd.epPortTbl, hitems hd.epLinkTbl]

/-- The memory is that of the data, and its account is what the run says. -/
structure Accounted (es : List Event) (p : Process) : Prop where
  mirrors : p.memory.Mirrors p.worker.ssaDb
  account : p.memory.ledger.AllBut p.memory.blocks (lostIn es)

theorem lostIn_quiet {e : Event} (hextracted : extracted (es ++ [e]) = extracted es)
    (hupdate : e.isUpdate = false) : lostIn (es ++ [e]) = lostIn es := by
  rw [lostIn, lostIn, hextracted, List.any_append, List.any_cons, hupdate, List.any_nil,
    Bool.or_false, Bool.or_false]

theorem lostIn_extract (es : List Event) (mem : Mem) (s : OsmSubn) :
    lostIn (es ++ [.extract mem s]) = lostIn es + repeatedKeys (extracted es).isEmpty s := by
  have hany : (es ++ [Event.extract mem s]).any Event.isUpdate = es.any Event.isUpdate := by
    rw [List.any_append]
    exact Bool.or_false _
  rw [lostIn, lostIn, hany, extracted_snoc]
  show repeatedKeys (extracted es).isEmpty s + lossOf (extracted es) + _ = _
  omega

/-- The first update loses a block, and no other does. -/
theorem lostIn_update (hlen : es.countP Event.isUpdate + 1 = (extracted es).length) :
    lostIn (es ++ [.update]) = lostIn es + if (extracted es)[1]?.isSome then 0 else 1 := by
  have hany : (es ++ [Event.update]).any Event.isUpdate = true := by
    rw [List.any_append]
    exact Bool.or_true _
  have hbefore : es.any Event.isUpdate = (extracted es)[1]?.isSome := by
    rw [Bool.eq_iff_iff, List.any_eq_true, ← List.countP_pos_iff, isSome_getElem?]
    omega
  rw [lostIn, lostIn, hany, hbefore, extracted_snoc, if_pos rfl]
  cases (extracted es)[1]? <;> rfl

theorem Accounted.step {e : Event} (h : Accounted es p)
    (hrun : run workerStep workerInit es = some p.worker)
    (hstep : processStep host p e = some p') : Accounted (es ++ [e]) p' := by
  obtain ⟨w', m'⟩ := p'
  obtain ⟨hw, rfl⟩ := processStep_eq_some hstep
  cases e with
  | report pLftChange =>
      obtain rfl := workerStep_report.mp hw
      obtain ⟨hmirrors, htrades⟩ := reportLftChange_spec host h.mirrors pLftChange
      refine ⟨hmirrors, ?_⟩
      rw [lostIn_quiet (extracted_snoc es _) rfl]
      exact h.account.trade_all htrades
  | lftChange mem =>
      obtain ⟨_, rfl⟩ := workerStep_lftChange.mp hw
      obtain ⟨hmirrors, htrades⟩ := ssaDbLftHandle_spec host h.mirrors mem
      refine ⟨hmirrors, ?_⟩
      rw [lostIn_quiet (extracted_snoc es _) rfl]
      exact h.account.trade_all htrades
  | extract mem s =>
      obtain ⟨hidle, rfl⟩ := workerStep_extract.mp hw
      obtain ⟨hmirrors, n, htrades, hcount⟩ :=
        ssaDbExtract_spec host mem p.worker.firstTimeSubnetUp s h.mirrors
      refine ⟨hmirrors, ?_⟩
      have hok := runOk hrun
      have hrot := rotated hrun
      rw [Rotated, hidle] at hrot
      have hempty : p.worker.firstTimeSubnetUp = (extracted es).isEmpty := by
        rw [Bool.eq_iff_iff, List.isEmpty_iff, ← List.getLast?_eq_none_iff, ← first_history,
          hok.first]
        exact ⟨fun hfirst => ⟨hfirst, hidle⟩, And.left⟩
      have hwritten := mapped_add_written mem p.worker.firstTimeSubnetUp s hrot.1 fun hfirst =>
        have hnone := hok.first.mpr ⟨hfirst, hidle⟩
        ⟨congrArg Slots.map (hok.noTops hnone), congrArg Slots.map (hok.noBlocks hnone)⟩
      rw [hempty] at hwritten
      have hn : n = repeatedKeys (extracted es).isEmpty s := by
        rw [hempty] at hcount
        omega
      rw [lostIn_extract, ← hn]
      exact h.account.trade_all htrades
  | lftHandle mem =>
      obtain ⟨_, rfl⟩ := workerStep_lftHandle.mp hw
      obtain ⟨hmirrors, htrades⟩ := ssaDbLftHandle_spec host h.mirrors mem
      refine ⟨hmirrors, ?_⟩
      rw [lostIn_quiet (extracted_snoc es _) rfl]
      exact h.account.trade_all htrades
  | update =>
      obtain ⟨hphase, rfl⟩ := workerStep_update.mp hw
      obtain ⟨hmirrors, htrades⟩ := ssaDbUpdate_spec host h.mirrors
      refine ⟨hmirrors, ?_⟩
      have hcount := count_updates hrun
      have hrot := rotated hrun
      rw [Rotated, hphase] at hrot
      rw [hphase] at hcount
      rw [lostIn_update hcount]
      rw [hrot.2.1.initialized] at htrades
      cases hold : (extracted es)[1]? with
      | some s =>
          rw [hold] at htrades
          exact h.account.trade_all htrades
      | none =>
          rw [hold] at htrades hrot
          have hbare := h.mirrors.pCurrentDb
          rw [hrot.2.1] at hbare
          rw [length_blocks_of_fresh hbare] at htrades
          exact h.account.trade_all htrades
  | compare mem alloc =>
      obtain ⟨_, rfl⟩ := workerStep_compare.mp hw
      obtain ⟨hmirrors, htrades⟩ := compareAndPush_spec host mem p.worker.firstTimeSubnetUp
        h.mirrors alloc
      refine ⟨hmirrors, ?_⟩
      rw [lostIn_quiet (extracted_snoc es _) rfl]
      exact h.account.trade_all htrades

theorem accounted {m : Memory} (hmirrors : m.Mirrors Ibssa.ssaDatabaseInit)
    (haccount : m.ledger.AllBut m.blocks 0)
    (hrun : run (processStep host) ⟨workerInit, m⟩ es = some p) : Accounted es p := by
  refine run_induction (P := fun es p => Accounted es p) ⟨hmirrors, haccount⟩ ?_ hrun
  intro es e p p' hes ih hstep
  refine ih.step ?_ hstep
  have hworker := map_run_process host ⟨workerInit, m⟩ es
  rw [hes] at hworker
  exact hworker.symm

end Heap

end Ibssa
