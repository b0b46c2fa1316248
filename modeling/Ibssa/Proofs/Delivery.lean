import Ibssa.Lib.Interleaving
import Ibssa.Proofs.LftReplication

/-!
# Where an LFT change ends up

The replication of the LFT has its conditions, and so has its recovery from a
comparison that fails. What happens when they do not hold is no less definite. A
reported change waits in the queue until a drain puts it into the dump, and stays
in the dump until a comparison merges it into the database. From then on it is
with a consumer too if that comparison returned a diff. If it did not, the change
stays behind, and nothing ever sends it again.

So the rounds of a run say everything (`Traced`): for each comparison that merged
the dump, whether it returned a diff, and the changes that were in the dump. The
database has the changes of all rounds laid over the tables of the first
extraction. A consumer has those of the rounds with a diff, laid over the same
tables if the first comparison got its memory, and over nothing if it did not.

No run is left out. Two switches may have one LID, and any comparison may fail;
it is only for the database that the LIDs matter.
-/

namespace Ibssa

open Keyed ByteOrder Machine

/-! ## Rounds -/

/-- A comparison that merged the dump. -/
structure Round where
  returned : Bool
  changes : List SsaDbLftChangeRec

def mergedOf (rounds : List Round) : List SsaDbLftChangeRec := rounds.flatMap Round.changes

def returnedOf (rounds : List Round) : List SsaDbLftChangeRec :=
  mergedOf (rounds.filter Round.returned)

theorem mergedOf_snoc (rounds : List Round) (r : Round) :
    mergedOf (rounds ++ [r]) = mergedOf rounds ++ r.changes := by
  simp [mergedOf]

theorem returnedOf_snoc (rounds : List Round) (returned : Bool) (cs : List SsaDbLftChangeRec) :
    returnedOf (rounds ++ [⟨returned, cs⟩])
      = returnedOf rounds ++ if returned then cs else [] := by
  cases returned <;> simp [returnedOf, mergedOf]

/-- A run beside its rounds, and the changes that are in the dump. -/
structure Traced where
  sys : Sys
  rounds : List Round
  dumped : List SsaDbLftChangeRec

def tracedInit : Traced := ⟨sysInit, [], []⟩

/-- What a step takes out of the queue. -/
def drainedBy (w : Worker) : Event → List SsaDbLftChangeRec
  | .report _ => []
  | .lftChange _ => w.ssaDb.lftRecList
  | .extract _ _ => []
  | .lftHandle _ => w.ssaDb.lftRecList
  | .update => []
  | .compare _ _ => []

/-- Only a comparison that is not the first and gets its memory merges. -/
def Traced.trace (s : Traced) (e : Event) (t : Sys) : Traced :=
  match e, s.sys.worker.firstTimeSubnetUp with
  | .compare _ true, false => ⟨t, s.rounds ++ [⟨t.worker.pSsaDbDiff.isSome, s.dumped⟩], []⟩
  | _, _ => ⟨t, s.rounds, s.dumped ++ drainedBy s.sys.worker e⟩

def tracedStep (s : Traced) (e : Event) : Option Traced := (sysStep s.sys e).map (s.trace e)

theorem Traced.trace_sys (s : Traced) (e : Event) (t : Sys) : (s.trace e t).sys = t := by
  unfold Traced.trace
  split <;> rfl

theorem Traced.trace_merge (s : Traced) (mem : Mem) (t : Sys)
    (hup : s.sys.worker.firstTimeSubnetUp = false) :
    s.trace (.compare mem true) t
      = ⟨t, s.rounds ++ [⟨t.worker.pSsaDbDiff.isSome, s.dumped⟩], []⟩ := by
  simp only [Traced.trace, hup]

theorem Traced.trace_other (s : Traced) {e : Event} (t : Sys)
    (he : ∀ mem, e = .compare mem true → s.sys.worker.firstTimeSubnetUp = true) :
    s.trace e t = ⟨t, s.rounds, s.dumped ++ drainedBy s.sys.worker e⟩ := by
  unfold Traced.trace
  split
  · next mem hup => exact absurd ((he mem rfl).symm.trans hup) (by decide)
  · rfl

theorem map_run_traced (s : Traced) (es : List Event) :
    (run tracedStep s es).map Traced.sys = run sysStep s.sys es :=
  map_run (fun _ _ => rfl) Traced.trace_sys s es

/-- Whether the first comparison of a run got its memory. -/
def firstCompare (es : List Event) : Option Bool :=
  es.findSome? fun e => match e with | .compare _ alloc => some alloc | _ => none

/-- The subnet of the first extraction, if a consumer was sent its tables. -/
def sentFirst (es : List Event) : Option OsmSubn :=
  match firstCompare es with
  | some true => (history es).first
  | _ => none

def sentBlocks (es : List Event) : List (UInt64 × EpLftBlockTblRec) :=
  ((sentFirst es).map fun s => lftBlocks s.nodes).getD []

def sentTops (es : List Event) : List (UInt64 × EpLftTopTblRec) :=
  ((sentFirst es).map fun s => lftTops s.nodes).getD []

/-! ## One kind of record -/

/-- What a consumer, the dump and the database say of one kind of LFT record. -/
structure Delivered {α : Type} (start sent merged returned dumped : List (UInt64 × α))
    (apart : Prop) (s : LftStore α) (c : UInt64 → Option α) : Prop where
  consumer : c = overlay (fun k => OrdMap.find k sent) returned
  dump : s.dump.view = latest dumped
  database : apart → s.db.view = overlay (fun k => OrdMap.find k start) merged

section Delivered

variable {α : Type} {start sent merged returned dumped : List (UInt64 × α)} {apart : Prop}
  {s : LftStore α} {c : UInt64 → Option α}

theorem delivered_empty [Inhabited α] :
    Delivered [] [] [] [] [] apart (⟨emptyDb, emptyDb⟩ : LftStore α) (fun _ => none) :=
  ⟨rfl, rfl, fun _ => rfl⟩

theorem Delivered.mono {apart' : Prop}
    (h : Delivered start sent merged returned dumped apart s c) (himp : apart' → apart) :
    Delivered start sent merged returned dumped apart' s c :=
  ⟨h.consumer, h.dump, fun ha => h.database (himp ha)⟩

theorem Delivered.changeAll (h : Delivered start sent merged returned dumped apart s c)
    (hok : StoreOk s) (a : Addr) (junk : Nat → α) (l : List (UInt64 × α)) :
    Delivered start sent merged returned (dumped ++ l) apart (s.changeAll a junk l) c := by
  refine ⟨h.consumer, ?_, h.database⟩
  rw [(hok.dump.changeAll a junk l).2, h.dump, latest, latest, overlay_append]

theorem Delivered.alloc (h : Delivered start sent merged returned dumped apart s c)
    (hok : StoreOk s) (a : Addr) (n : Nat) (junk : Nat → α) :
    Delivered start sent merged returned dumped apart (s.alloc a n junk) c := by
  refine ⟨h.consumer, h.dump, fun ha => ?_⟩
  rw [view_alloc hok.live]
  exact h.database ha

/-- The first extraction. -/
theorem Delivered.fill {start' : List (UInt64 × α)} {s' : LftStore α} {b₀ : Buf α}
    (h : Delivered start sent [] returned dumped apart s c)
    (hst : Stored start' s'.db.map b₀ s'.db.buf) (hdump : s'.dump = s.dump) :
    Delivered start' sent [] returned dumped apart s' c := by
  refine ⟨h.consumer, ?_, fun _ => hst.view_eq⟩
  rw [hdump]
  exact h.dump

/-- The first comparison sends the database, and leaves the dump for the next. -/
theorem Delivered.first (h : Delivered start [] [] [] dumped apart s c) (ha : apart) :
    Delivered start start [] [] dumped apart s (layered c s.db.view) := by
  have hc : c = fun _ => none := h.consumer
  refine ⟨?_, h.dump, h.database⟩
  rw [hc, layered_none_left]
  exact h.database ha

/-- A merge, whatever the consumer is sent with it. -/
theorem Delivered.merge {returned' : List (UInt64 × α)} {c' : UInt64 → Option α}
    (h : Delivered start sent merged returned dumped apart s c) (hok : StoreOk s)
    (hroom : apart → s.MergeRoom) (a : Addr) (junk : Nat → α)
    (hc : c' = overlay (fun k => OrdMap.find k sent) returned') :
    Delivered start sent (merged ++ dumped) returned' [] apart (s.merge a junk) c' := by
  refine ⟨hc, rfl, fun ha => ?_⟩
  rw [view_merge (hroom ha) hok.live, LftStore.look, h.database ha, h.dump, latest,
    ← overlay_eq_layered, ← overlay_append]

theorem Delivered.send (h : Delivered start sent merged returned dumped apart s c) :
    layered c s.dump.view = overlay (fun k => OrdMap.find k sent) (returned ++ dumped) := by
  rw [h.consumer, h.dump, latest, ← overlay_eq_layered, ← overlay_append]

end Delivered

/-! ## The account of a run -/

structure Account (es : List Event) (s : Traced) : Prop where
  handled : (history es).handled = mergedOf s.rounds ++ s.dumped
  noRounds : s.sys.worker.firstTimeSubnetUp = true → s.rounds = []
  blocks : Delivered (history es).firstBlocks (sentBlocks es) (changedBlocks (mergedOf s.rounds))
    (changedBlocks (returnedOf s.rounds)) (changedBlocks s.dumped)
    (s.sys.worker.firstTimeSubnetUp = true ∨ (history es).LidsDistinct)
    s.sys.worker.ssaDb.pLftDb.blocks s.sys.consumer.lftBlock
  tops : Delivered (history es).firstTops (sentTops es) (changedTops (mergedOf s.rounds))
    (changedTops (returnedOf s.rounds)) (changedTops s.dumped)
    (s.sys.worker.firstTimeSubnetUp = true ∨ (history es).LidsDistinct)
    s.sys.worker.ssaDb.pLftDb.tops s.sys.consumer.lftTop

theorem account_init : Account [] tracedInit :=
  ⟨rfl, fun _ => rfl, delivered_empty, delivered_empty⟩

section Step

variable {es : List Event} {w w' : Worker} {e : Event}

theorem firstCompare_snoc (es : List Event) (e : Event) :
    firstCompare (es ++ [e])
      = (firstCompare es).or (match e with | .compare _ alloc => some alloc | _ => none) := by
  rw [firstCompare, List.findSome?_append]
  cases e <;> rfl

theorem firstCompare_eq_none (hrun : run workerStep workerInit es = some w) :
    firstCompare es = none ↔ w.firstTimeSubnetUp = true := by
  rw [firstTimeSubnetUp_eq hrun, firstCompare, List.findSome?_eq_none_iff]
  refine ⟨fun h mem alloc hmem => ?_, fun h e hmem => ?_⟩
  · cases h _ hmem
  · cases e with
    | compare mem alloc => exact absurd hmem (h mem alloc)
    | report | lftChange | extract | lftHandle | update => rfl

/-- What was sent first is settled by the first comparison. -/
theorem sentFirst_snoc (hrun : run workerStep workerInit es = some w)
    (he : ∀ mem, e = .compare mem true → w.firstTimeSubnetUp = false) :
    sentFirst (es ++ [e]) = sentFirst es := by
  cases hfirst : firstCompare es with
  | none =>
      have hup := (firstCompare_eq_none hrun).mp hfirst
      rw [sentFirst, sentFirst, firstCompare_snoc, hfirst]
      cases e with
      | compare mem alloc =>
          cases alloc with
          | false => rfl
          | true => exact absurd (hup.symm.trans (he mem rfl)) (by decide)
      | report | lftChange | extract | lftHandle | update => rfl
  | some alloc =>
      have hlater : w.firstTimeSubnetUp = false := by
        refine Bool.eq_false_iff.mpr fun hup => ?_
        rw [(firstCompare_eq_none hrun).mpr hup] at hfirst
        cases hfirst
      have hsame : (history (es ++ [e])).first = (history es).first := by
        rw [history_snoc]
        cases e with
        | extract mem s => exact congrArg History.first ((runOk hrun).later hlater s)
        | report | lftChange | lftHandle | update | compare => rfl
      rw [sentFirst, sentFirst, firstCompare_snoc, hfirst, hsame]
      rfl

variable {s : Traced}

/-- A drain, whoever asked for it. -/
private theorem Account.drain (h : Account es s) (hok : RunOk (history es) s.sys.worker)
    (hhist : history (es ++ [e]) = { history es with handled := (history es).reported })
    (hsent : sentFirst (es ++ [e]) = sentFirst es) (mem : Mem) (phase : Phase) :
    Account (es ++ [e])
      ⟨{ s.sys with
          worker := { s.sys.worker with
            ssaDb := ssaDbLftHandle mem s.sys.worker.ssaDb, phase := phase } },
        s.rounds, s.dumped ++ s.sys.worker.ssaDb.lftRecList⟩ := by
  refine ⟨?_, h.noRounds, ?_, ?_⟩
  · rw [hhist]
    show (history es).reported = _
    rw [hok.reported, h.handled, List.append_assoc]
  · show Delivered _ _ _ _ _ _ (ssaDbLftHandle mem s.sys.worker.ssaDb).pLftDb.blocks _
    rw [hhist, sentBlocks, hsent, changedBlocks_append, blocks_ssaDbLftHandle]
    exact h.blocks.changeAll hok.blocks _ _ _
  · show Delivered _ _ _ _ _ _ (ssaDbLftHandle mem s.sys.worker.ssaDb).pLftDb.tops _
    rw [hhist, sentTops, hsent, changedTops_append, tops_ssaDbLftHandle]
    exact h.tops.changeAll hok.tops _ _ _

private theorem Account.extract (h : Account es s) (hok : RunOk (history es) s.sys.worker)
    (hidle : s.sys.worker.phase = .idle) (mem : Mem) (sub : OsmSubn)
    (hsent : sentFirst (es ++ [.extract mem sub]) = sentFirst es) :
    Account (es ++ [.extract mem sub])
      ⟨{ s.sys with
          worker := { s.sys.worker with
            ssaDb := ssaDbExtract mem s.sys.worker.firstTimeSubnetUp s.sys.worker.ssaDb sub
            phase := .extracted } },
        s.rounds, s.dumped⟩ := by
  have hhist : history (es ++ [.extract mem sub])
      = { history es with first := (history es).first.or (some sub) } := history_snoc _ _
  cases hup : s.sys.worker.firstTimeSubnetUp with
  | false =>
      rw [hok.later hup] at hhist
      obtain ⟨hblocks, htops⟩ := ssaDbExtract_later mem s.sys.worker.ssaDb sub
      refine ⟨hhist ▸ h.handled, fun hc => h.noRounds hc, ?_, ?_⟩
      · show Delivered _ _ _ _ _ _ (ssaDbExtract mem _ s.sys.worker.ssaDb sub).pLftDb.blocks _
        rw [hhist, sentBlocks, hsent, hblocks]
        exact h.blocks.alloc hok.blocks _ _ _
      · show Delivered _ _ _ _ _ _ (ssaDbExtract mem _ s.sys.worker.ssaDb sub).pLftDb.tops _
        rw [hhist, sentTops, hsent, htops]
        exact h.tops.alloc hok.tops _ _ _
  | true =>
      have hnone := hok.first.mpr ⟨hup, hidle⟩
      obtain ⟨hst, hdump, hst', hdump'⟩ :=
        ssaDbExtract_first mem sub (hok.noBlocks hnone) (hok.noTops hnone)
      have hblocks := h.blocks
      have htops := h.tops
      rw [h.noRounds hup] at hblocks htops
      refine ⟨hhist ▸ h.handled, fun _ => h.noRounds hup, ?_, ?_⟩
      · show Delivered _ _ _ _ _ _ (ssaDbExtract mem _ s.sys.worker.ssaDb sub).pLftDb.blocks _
        rw [hhist, sentBlocks, hsent, hnone, h.noRounds hup]
        exact (hblocks.fill hst hdump).mono fun _ => Or.inl hup
      · show Delivered _ _ _ _ _ _ (ssaDbExtract mem _ s.sys.worker.ssaDb sub).pLftDb.tops _
        rw [hhist, sentTops, hsent, hnone, h.noRounds hup]
        exact (htops.fill hst' hdump').mono fun _ => Or.inl hup

/-- A step that neither merges the dump nor sends the database. -/
private theorem Account.other (h : Account es s)
    (hrun : run workerStep workerInit es = some s.sys.worker)
    (he : ∀ mem, e ≠ .compare mem true) (hw : workerStep s.sys.worker e = some w) :
    Account (es ++ [e])
      ⟨{ s.sys with worker := w }, s.rounds, s.dumped ++ drainedBy s.sys.worker e⟩ := by
  have hok := runOk hrun
  have hsent : sentFirst (es ++ [e]) = sentFirst es :=
    sentFirst_snoc hrun fun mem hc => absurd hc (he mem)
  have hhist : history (es ++ [e]) = (history es).add e := history_snoc es e
  cases e with
  | report pLftChange =>
      obtain rfl := workerStep_report.mp hw
      rw [reportLftChange_eq, drainedBy, List.append_nil]
      refine ⟨hhist ▸ h.handled, h.noRounds, ?_, ?_⟩
      · rw [hhist, sentBlocks, hsent]
        exact h.blocks
      · rw [hhist, sentTops, hsent]
        exact h.tops
  | lftChange mem =>
      obtain ⟨_, rfl⟩ := workerStep_lftChange.mp hw
      exact h.drain hok hhist hsent mem s.sys.worker.phase
  | extract mem sub =>
      obtain ⟨hidle, rfl⟩ := workerStep_extract.mp hw
      rw [drainedBy, List.append_nil]
      exact h.extract hok hidle mem sub hsent
  | lftHandle mem =>
      obtain ⟨_, rfl⟩ := workerStep_lftHandle.mp hw
      exact h.drain hok hhist hsent mem .drained
  | update =>
      obtain ⟨_, rfl⟩ := workerStep_update.mp hw
      rw [drainedBy, List.append_nil]
      refine ⟨hhist ▸ h.handled, h.noRounds, ?_, ?_⟩
      · rw [hhist, sentBlocks, hsent]
        exact h.blocks
      · rw [hhist, sentTops, hsent]
        exact h.tops
  | compare mem alloc =>
      cases alloc with
      | true => exact absurd rfl (he mem)
      | false =>
          obtain ⟨_, rfl⟩ := workerStep_compare.mp hw
          rw [ssaDbCompare_snd, drainedBy, List.append_nil]
          have hlater (hc : false = true ∨ (history es).LidsDistinct) :
              s.sys.worker.firstTimeSubnetUp = true ∨ (history es).LidsDistinct :=
            hc.imp (fun hf => absurd hf Bool.false_ne_true) id
          refine ⟨hhist ▸ h.handled, fun hc => absurd hc Bool.false_ne_true, ?_, ?_⟩
          · rw [hhist, sentBlocks, hsent]
            exact h.blocks.mono hlater
          · rw [hhist, sentTops, hsent]
            exact h.tops.mono hlater

/-- The first comparison. It has found a change, as there was no snapshot before. -/
private theorem Account.compare_first (h : Account es s)
    (hrun : run workerStep workerInit es = some s.sys.worker)
    (hup : s.sys.worker.firstTimeSubnetUp = true) {mem : Mem}
    (hw : workerStep s.sys.worker (.compare mem true) = some w) :
    Account (es ++ [.compare mem true])
      ⟨s.sys.deliver (.compare mem true) w, s.rounds, s.dumped⟩ := by
  have hhist : history (es ++ [.compare mem true]) = history es := history_snoc es _
  have hnone := (firstCompare_eq_none hrun).mpr hup
  have hsent : sentFirst es = none := by rw [sentFirst, hnone]
  have hsent' : sentFirst (es ++ [.compare mem true]) = (history es).first := by
    rw [sentFirst, firstCompare_snoc, hnone, hhist]
    rfl
  obtain ⟨hphase, _⟩ := workerStep_compare.mp hw
  obtain ⟨hdiff, _⟩ := compare_worker hw
  obtain ⟨hlater, hdb⟩ := pLftDb_compare hw
  rw [hup, if_pos rfl] at hdb
  have hsome : w.pSsaDbDiff = some (buildDiff mem true s.sys.worker.ssaDb).1 := by
    have hdiffer := (rotation hrun).snapshotsDiffer hphase hup mem
    rw [hup] at hdiff
    rcases ssaDbCompare_fst mem true s.sys.worker.ssaDb with ⟨_, hsome⟩ | ⟨hsame, _⟩
    · exact hdiff.trans hsome
    · exact absurd hdiffer hsame
  obtain ⟨hblock, htop⟩ := (buildDiff_spec mem true s.sys.worker.ssaDb).push_lft s.sys.consumer
  have hblocks := h.blocks
  have htops := h.tops
  rw [h.noRounds hup, sentBlocks, hsent] at hblocks
  rw [h.noRounds hup, sentTops, hsent] at htops
  rw [deliver_compare_some s.sys mem true hsome, h.noRounds hup]
  refine ⟨?_, fun _ => rfl, ?_, ?_⟩
  · rw [hhist, h.handled, h.noRounds hup]
  · show Delivered _ _ _ _ _ _ w.ssaDb.pLftDb.blocks (Consumer.push _ _).lftBlock
    rw [hhist, sentBlocks, hsent', hdb, hblock]
    exact (hblocks.first (Or.inl hup)).mono fun _ => Or.inl hup
  · show Delivered _ _ _ _ _ _ w.ssaDb.pLftDb.tops (Consumer.push _ _).lftTop
    rw [hhist, sentTops, hsent', hdb, htop]
    exact (htops.first (Or.inl hup)).mono fun _ => Or.inl hup

/-- What a consumer has after a later comparison: the diff has the dump in it. -/
private theorem Account.consumer_later (h : Account es s)
    (hup : s.sys.worker.firstTimeSubnetUp = false) {mem : Mem}
    (hw : workerStep s.sys.worker (.compare mem true) = some w) :
    let changes := returnedOf (s.rounds ++ [⟨w.pSsaDbDiff.isSome, s.dumped⟩])
    let c := (s.sys.deliver (.compare mem true) w).consumer
    c.lftBlock = overlay (fun k => OrdMap.find k (sentBlocks es)) (changedBlocks changes) ∧
      c.lftTop = overlay (fun k => OrdMap.find k (sentTops es)) (changedTops changes) := by
  intro changes c
  obtain ⟨hdiff, _⟩ := compare_worker hw
  rw [hup] at hdiff
  simp only [changes, c, returnedOf_snoc]
  rcases ssaDbCompare_fst mem false s.sys.worker.ssaDb with ⟨_, hsome⟩ | ⟨_, hnone⟩
  · obtain ⟨hblock, htop⟩ :=
      (buildDiff_spec mem false s.sys.worker.ssaDb).push_lft s.sys.consumer
    rw [deliver_compare_some s.sys mem true (hdiff.trans hsome), hdiff.trans hsome, hblock, htop]
    show _ = overlay _ (changedBlocks (_ ++ s.dumped)) ∧ _ = overlay _ (changedTops (_ ++ s.dumped))
    rw [changedBlocks_append, changedTops_append]
    exact ⟨h.blocks.send, h.tops.send⟩
  · rw [deliver_compare_none s.sys mem true (hdiff.trans hnone), hdiff.trans hnone]
    show _ = overlay _ (changedBlocks (_ ++ [])) ∧ _ = overlay _ (changedTops (_ ++ []))
    rw [List.append_nil]
    exact ⟨h.blocks.consumer, h.tops.consumer⟩

private theorem Account.compare_later (h : Account es s)
    (hrun : run workerStep workerInit es = some s.sys.worker)
    (hup : s.sys.worker.firstTimeSubnetUp = false) {mem : Mem}
    (hw : workerStep s.sys.worker (.compare mem true) = some w) :
    Account (es ++ [.compare mem true])
      ⟨s.sys.deliver (.compare mem true) w, s.rounds ++ [⟨w.pSsaDbDiff.isSome, s.dumped⟩], []⟩ := by
  have hok := runOk hrun
  have hhist : history (es ++ [.compare mem true]) = history es := history_snoc es _
  have hsent : sentFirst (es ++ [.compare mem true]) = sentFirst es :=
    sentFirst_snoc hrun fun _ _ => hup
  obtain ⟨hlater, hdb⟩ := pLftDb_compare hw
  rw [hup, if_neg Bool.false_ne_true] at hdb
  have hnot : ¬ (w.firstTimeSubnetUp = true) := by
    rw [hlater]
    exact Bool.false_ne_true
  obtain ⟨hblock, htop⟩ := h.consumer_later hup hw
  have hroom (hc : w.firstTimeSubnetUp = true ∨ (history es).LidsDistinct) :=
    mergeRoom_of_lidsDistinct hrun (hc.resolve_left hnot)
  have hapart (hc : w.firstTimeSubnetUp = true ∨ (history es).LidsDistinct) :
      s.sys.worker.firstTimeSubnetUp = true ∨ (history es).LidsDistinct :=
    Or.inr (hc.resolve_left hnot)
  refine ⟨?_, fun hc => ?_, ?_, ?_⟩
  · rw [hhist, h.handled, mergedOf_snoc, List.append_nil]
  · rw [deliver_worker] at hc
    exact absurd hc hnot
  · rw [deliver_worker, hhist, sentBlocks, hsent, hdb, blocks_mergeLftDump, mergedOf_snoc,
      changedBlocks_append]
    exact (h.blocks.mono hapart).merge hok.blocks (fun hc => (hroom hc).1) _ _ hblock
  · rw [deliver_worker, hhist, sentTops, hsent, hdb, tops_mergeLftDump, mergedOf_snoc,
      changedTops_append]
    exact (h.tops.mono hapart).merge hok.tops (fun hc => (hroom hc).2) _ _ htop

theorem deliver_of_not_compared {s : Sys} (he : ∀ mem, e ≠ .compare mem true)
    (hw : workerStep s.worker e = some w) : s.deliver e w = { s with worker := w } := by
  by_cases hne : ∀ mem alloc, e ≠ .compare mem alloc
  · exact deliver_of_ne s hne w
  · push Not at hne
    obtain ⟨mem, alloc, rfl⟩ := hne
    cases alloc with
    | true => exact absurd rfl (he mem)
    | false => exact deliver_compare_none s mem false (compare_worker hw).1

theorem Account.step {s' : Traced} (h : Account es s)
    (hrun : run workerStep workerInit es = some s.sys.worker) (hstep : tracedStep s e = some s') :
    Account (es ++ [e]) s' := by
  obtain ⟨t, ht, rfl⟩ := Option.map_eq_some_iff.mp hstep
  obtain ⟨w, hw, rfl⟩ := sysStep_eq_some.mp ht
  by_cases he : ∃ mem, e = .compare mem true
  · obtain ⟨mem, rfl⟩ := he
    cases hup : s.sys.worker.firstTimeSubnetUp with
    | true =>
        rw [s.trace_other _ fun _ _ => hup, drainedBy, List.append_nil]
        exact h.compare_first hrun hup hw
    | false =>
        rw [s.trace_merge mem _ hup, deliver_worker]
        exact h.compare_later hrun hup hw
  · have hne : ∀ mem, e ≠ .compare mem true := fun mem hc => he ⟨mem, hc⟩
    rw [s.trace_other _ fun mem hc => absurd hc (hne mem), deliver_of_not_compared hne hw]
    exact h.other hrun hne hw

end Step

theorem account {es : List Event} {s : Traced} (hrun : run tracedStep tracedInit es = some s) :
    Account es s := by
  refine run_induction (P := Account) account_init ?_ hrun
  intro es e s s' hrun ih hstep
  have hsys := map_run_traced tracedInit es
  rw [hrun] at hsys
  exact ih.step (run_worker hsys.symm) hstep

/-- Every run has its rounds, and nothing is outside of them: each change that was
reported has been merged in one of them, in the order of the reports, or is still
in the dump or in the queue, and what a consumer and the database have follows
from the rounds alone. -/
theorem lft_delivered {es : List Event} {s : Sys} (hrun : run sysStep sysInit es = some s) :
    ∃ t, run tracedStep tracedInit es = some t ∧ t.sys = s ∧
      (history es).reported = mergedOf t.rounds ++ t.dumped ++ s.worker.ssaDb.lftRecList ∧
      Delivered (history es).firstBlocks (sentBlocks es) (changedBlocks (mergedOf t.rounds))
        (changedBlocks (returnedOf t.rounds)) (changedBlocks t.dumped) (history es).LidsDistinct
        s.worker.ssaDb.pLftDb.blocks s.consumer.lftBlock ∧
      Delivered (history es).firstTops (sentTops es) (changedTops (mergedOf t.rounds))
        (changedTops (returnedOf t.rounds)) (changedTops t.dumped) (history es).LidsDistinct
        s.worker.ssaDb.pLftDb.tops s.consumer.lftTop := by
  obtain ⟨t, htraced, rfl⟩ :=
    Option.map_eq_some_iff.mp ((map_run_traced tracedInit es).trans hrun)
  have hacc := account htraced
  refine ⟨t, htraced, rfl, ?_, hacc.blocks.mono Or.inr, hacc.tops.mono Or.inr⟩
  rw [(runOk (run_worker hrun)).reported, hacc.handled]

/-- The one change of this run was merged in a round that returned no diff. -/
theorem lft_delivered_changeAlone :
    ∃ t, run tracedStep tracedInit changeAlone = some t ∧
      t.rounds.map Round.returned = [false] ∧
      (history changeAlone).reported
        = mergedOf t.rounds ++ t.dumped ++ t.sys.worker.ssaDb.lftRecList := by
  have hrounds : ((run tracedStep tracedInit changeAlone).any fun t =>
      decide (t.rounds.map Round.returned = [false])) = true := by decide +kernel
  obtain ⟨t, ht, hfalse⟩ := (Option.any_eq_true _ _).mp hrounds
  have hsys := map_run_traced tracedInit changeAlone
  rw [ht] at hsys
  obtain ⟨t', ht', _, hreported, _⟩ := lft_delivered hsys.symm
  obtain rfl : t = t' := Option.some.inj (ht.symm.trans ht')
  exact ⟨t, ht, of_decide_eq_true hfalse, hreported⟩

end Ibssa
