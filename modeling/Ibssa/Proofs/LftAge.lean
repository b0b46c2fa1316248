import Ibssa.Proofs.LftReplication

/-!
# The age of LFT data

A switch's table reaches the database when the first extraction reads it, and a
change reaches it when the dump is merged, which is never before the second
START_EXTRACT. The two are out of step for changes that an LFT_CHANGE message
moved into the dump before the first extraction. They are older than the
extracted tables, the first comparison leaves them in the dump, and the next one
lays them over what was extracted.

`handledBefore` and `handledSince` split the changes that a run has handled at
its first extraction. What the database holds after a merge is the extracted
record overlaid by both, and what it should hold is the extracted record
overlaid by the second only; the two agree on a key where a younger change
covers the older ones, or where the last of these says what was extracted.
-/

namespace Ibssa

open Keyed ByteOrder Machine

/-! ## The changes on either side of the first extraction -/

def Event.isExtract : Event → Bool
  | .extract _ _ => true
  | _ => false

/-- The changes handled before the first extraction of a run. -/
def handledBefore (es : List Event) : List SsaDbLftChangeRec :=
  (history (es.takeWhile fun e => !e.isExtract)).handled

/-- The changes handled since. -/
def handledSince (es : List Event) : List SsaDbLftChangeRec :=
  (history es).handled.drop (handledBefore es).length

theorem handled_prefix_reported (es : List Event) :
    (history es).handled <+: (history es).reported := by
  induction es using List.reverseRecOn with
  | nil => exact List.prefix_rfl
  | append_singleton es e ih =>
      rw [history_snoc]
      cases e with
      | report pLftChange => exact ih.trans (List.prefix_append _ _)
      | lftChange mem => exact List.prefix_rfl
      | lftHandle mem => exact List.prefix_rfl
      | extract mem s => exact ih
      | update => exact ih
      | compare mem alloc => exact ih

/-- What has been handled stays handled. -/
theorem handled_prefix (es es' : List Event) :
    (history es).handled <+: (history (es ++ es')).handled := by
  induction es' using List.reverseRecOn with
  | nil => exact (List.append_nil es).symm ▸ List.prefix_rfl
  | append_singleton es' e ih =>
      rw [← List.append_assoc, history_snoc]
      have hreported := handled_prefix_reported (es ++ es')
      cases e with
      | lftChange mem => exact ih.trans hreported
      | lftHandle mem => exact ih.trans hreported
      | report pLftChange => exact ih
      | extract mem s => exact ih
      | update => exact ih
      | compare mem alloc => exact ih

theorem handled_eq_append (es : List Event) :
    (history es).handled = handledBefore es ++ handledSince es := by
  have hpre := handled_prefix (es.takeWhile fun e => !e.isExtract)
    (es.dropWhile fun e => !e.isExtract)
  rw [List.takeWhile_append_dropWhile] at hpre
  exact (List.prefix_iff_eq_append.mp hpre).symm

/-! ## What the stores say together -/

/-- A merge does not meet a slot in use. -/
def MergesApart (w : Worker) : Event → Prop
  | .compare _ _ =>
      w.firstTimeSubnetUp = true ∨
        w.ssaDb.pLftDb.blocks.MergeRoom ∧ w.ssaDb.pLftDb.tops.MergeRoom
  | _ => True

/-- Database and dump together say what was extracted first, overlaid by all
changes that were handled. -/
structure Overlaid (h : History) (l : SsaDbLft) : Prop where
  blocks : l.blocks.look
    = overlay (fun k => OrdMap.find k h.firstBlocks) (changedBlocks h.handled)
  tops : l.tops.look = overlay (fun k => OrdMap.find k h.firstTops) (changedTops h.handled)

section Overlaid

variable {h : History} {w w' : Worker}

private theorem Overlaid.drain (ho : Overlaid h w.ssaDb.pLftDb) (hok : RunOk h w) (mem : Mem) :
    Overlaid { h with handled := h.reported } (ssaDbLftHandle mem w.ssaDb).pLftDb := by
  refine ⟨?_, ?_⟩
  · rw [blocks_ssaDbLftHandle, look_changeAll hok.blocks.dump, ho.blocks, ← overlay_append,
      ← changedBlocks_append, ← hok.reported]
    rfl
  · rw [tops_ssaDbLftHandle, look_changeAll hok.tops.dump, ho.tops, ← overlay_append,
      ← changedTops_append, ← hok.reported]
    rfl

private theorem Overlaid.extract (ho : Overlaid h w.ssaDb.pLftDb) (hok : RunOk h w)
    (hidle : w.phase = .idle) (mem : Mem) (s : OsmSubn) :
    Overlaid { h with first := h.first.or (some s) }
      (ssaDbExtract mem w.firstTimeSubnetUp w.ssaDb s).pLftDb := by
  cases hfirst : w.firstTimeSubnetUp with
  | false =>
      rw [hok.later hfirst]
      obtain ⟨hblocks, htops⟩ := ssaDbExtract_later mem w.ssaDb s
      refine ⟨?_, ?_⟩
      · rw [hblocks, look_alloc hok.blocks.live]
        exact ho.blocks
      · rw [htops, look_alloc hok.tops.live]
        exact ho.tops
  | true =>
      have hnone := hok.first.mpr ⟨hfirst, hidle⟩
      obtain ⟨hst, hdump, hst', hdump'⟩ :=
        ssaDbExtract_first mem s (hok.noBlocks hnone) (hok.noTops hnone)
      have hb := ho.blocks
      have ht := ho.tops
      rw [History.firstBlocks, hnone] at hb
      rw [History.firstTops, hnone] at ht
      rw [hnone]
      exact ⟨look_of_first (hok.noBlocks hnone) hb hst hdump,
        look_of_first (hok.noTops hnone) ht hst' hdump'⟩

theorem Overlaid.step {e : Event} (ho : Overlaid h w.ssaDb.pLftDb) (hok : RunOk h w)
    (hapart : MergesApart w e) (hstep : workerStep w e = some w') :
    Overlaid (h.add e) w'.ssaDb.pLftDb := by
  cases e with
  | report pLftChange =>
      obtain rfl := workerStep_report.mp hstep
      rw [reportLftChange_eq]
      exact ⟨ho.blocks, ho.tops⟩
  | lftChange mem =>
      obtain ⟨_, rfl⟩ := workerStep_lftChange.mp hstep
      exact ho.drain hok mem
  | extract mem s =>
      obtain ⟨hidle, rfl⟩ := workerStep_extract.mp hstep
      exact ho.extract hok hidle mem s
  | lftHandle mem =>
      obtain ⟨_, rfl⟩ := workerStep_lftHandle.mp hstep
      exact ho.drain hok mem
  | update =>
      obtain ⟨_, rfl⟩ := workerStep_update.mp hstep
      exact ho
  | compare mem alloc =>
      obtain ⟨_, rfl⟩ := workerStep_compare.mp hstep
      rw [ssaDbCompare_snd]
      show Overlaid h (if _ then _ else _)
      by_cases hmerge : alloc = true ∧ w.firstTimeSubnetUp = false
      · have hroom := hapart.resolve_left (by rw [hmerge.2]; decide)
        rw [if_pos hmerge]
        refine ⟨?_, ?_⟩
        · rw [blocks_mergeLftDump, look_merge hroom.1 hok.blocks.live]
          exact ho.blocks
        · rw [tops_mergeLftDump, look_merge hroom.2 hok.tops.live]
          exact ho.tops
      · rw [if_neg hmerge]
        exact ho

end Overlaid

theorem overlaid {es : List Event} {w : Worker}
    (hapart : Guarded workerStep MergesApart workerInit es)
    (hrun : run workerStep workerInit es = some w) : Overlaid (history es) w.ssaDb.pLftDb := by
  refine guarded_induction (P := fun es (w : Worker) => Overlaid (history es) w.ssaDb.pLftDb)
    ⟨rfl, rfl⟩ ?_ hapart hrun
  intro es e w w' hrun ho hapart hstep
  rw [history_snoc]
  exact ho.step (runOk hrun) hapart hstep

/-! ## The age of a record -/

/-- A key has the record of the last change handled since the first extraction,
or without one the record that was extracted. -/
def Current {α : Type} (start since : List (UInt64 × α)) (s : LftStore α) (k : UInt64) : Prop :=
  s.db.view k = (latest since k).or (OrdMap.find k start)

/-- A key was changed since the first extraction, or the last change to it before
says what was extracted. -/
def NotStale {α : Type} (start before since : List (UInt64 × α)) (k : UInt64) : Prop :=
  (latest since k).isSome = true ∨
    ∀ pRec, latest before k = some pRec → OrdMap.find k start = some pRec

/-- After every later START_EXTRACT whose comparison gets its memory, a key is
current exactly when it is not stale. -/
theorem lft_current_iff {es : List Event} {mem mem₀ : Mem} {alloc₀ : Bool} {w : Worker}
    (hrun : run workerStep workerInit (es ++ [.compare mem true]) = some w)
    (hlater : Event.compare mem₀ alloc₀ ∈ es)
    (hapart : Guarded workerStep MergesApart workerInit (es ++ [.compare mem true])) (k : UInt64) :
    (Current (history es).firstBlocks (changedBlocks (handledSince es)) w.ssaDb.pLftDb.blocks k ↔
        NotStale (history es).firstBlocks (changedBlocks (handledBefore es))
          (changedBlocks (handledSince es)) k) ∧
      (Current (history es).firstTops (changedTops (handledSince es)) w.ssaDb.pLftDb.tops k ↔
        NotStale (history es).firstTops (changedTops (handledBefore es))
          (changedTops (handledSince es)) k) := by
  obtain ⟨w₀, hrun₀, hstep⟩ := run_snoc_eq_some.mp hrun
  have hok := runOk hrun₀
  have ho := overlaid hapart.init hrun₀
  have hfirst : w₀.firstTimeSubnetUp = false := by
    refine Bool.eq_false_iff.mpr fun htrue => ?_
    exact (firstTimeSubnetUp_eq hrun₀).mp htrue mem₀ alloc₀ hlater
  have hroom : _ ∧ _ := (hapart.last hrun₀ : MergesApart w₀ (.compare mem true)).resolve_left
    (by rw [hfirst]; decide)
  obtain ⟨_, hdb⟩ := pLftDb_compare hstep
  rw [hfirst, if_neg (by decide)] at hdb
  have hblocks := ho.blocks
  have htops := ho.tops
  rw [handled_eq_append, changedBlocks_append] at hblocks
  rw [handled_eq_append, changedTops_append] at htops
  constructor
  · rw [Current, hdb, blocks_mergeLftDump, view_merge hroom.1 hok.blocks.live, hblocks]
    exact overlay_append_eq_iff
  · rw [Current, hdb, tops_mergeLftDump, view_merge hroom.2 hok.tops.live, htops]
    exact overlay_append_eq_iff

theorem lidsDistinct_of_append {es es' : List Event}
    (h : (history (es ++ es')).LidsDistinct) : (history es).LidsDistinct := by
  induction es' using List.reverseRecOn with
  | nil =>
      rw [List.append_nil] at h
      exact h
  | append_singleton es' e ih =>
      rw [← List.append_assoc] at h
      exact ih h.init

/-- With distinct LIDs in the first extraction every merge has room. -/
theorem mergesApart_of_lidsDistinct {es : List Event} (hlids : (history es).LidsDistinct) :
    Guarded workerStep MergesApart workerInit es := by
  intro es₁ e es₂ w heq hrun
  rw [heq] at hlids
  cases e with
  | compare mem alloc =>
      exact Or.inr (mergeRoom_of_lidsDistinct hrun (lidsDistinct_of_append hlids))
  | report | lftChange | extract | lftHandle | update => trivial

instance {α : Type} [DecidableEq α] (start since : List (UInt64 × α)) (s : LftStore α)
    (k : UInt64) : Decidable (Current start since s k) :=
  inferInstanceAs (Decidable (_ = _))

theorem lft_current_iff_changeBetween :
    ∃ w, run workerStep workerInit changeBetween = some w ∧
      (Current (history changeBetween.dropLast).firstBlocks
          (changedBlocks (handledSince changeBetween.dropLast)) w.ssaDb.pLftDb.blocks
          (epRecGenKey 1 0) ↔
        NotStale (history changeBetween.dropLast).firstBlocks
          (changedBlocks (handledBefore changeBetween.dropLast))
          (changedBlocks (handledSince changeBetween.dropLast)) (epRecGenKey 1 0)) := by
  refine ⟨_, rfl, ?_⟩
  have hearlier : Event.compare default true ∈ changeBetween.dropLast := by
    simp [changeBetween, startExtract]
  have hrun : run workerStep workerInit (changeBetween.dropLast ++ [.compare default true])
      = some _ := rfl
  exact (lft_current_iff hrun hearlier
    (mergesApart_of_lidsDistinct lidsDistinct_changeBetween) (epRecGenKey 1 0)).1

/-- A block is reported and handled, then the table is read with other contents,
and then read again. -/
def staleChange : List Event :=
  [blockChanged (plainSwitch 1 1 7), .lftChange default] ++
    startExtract default (OsmSubn.ofNodes [plainSwitch 1 1 0]) true ++
    startExtract default (OsmSubn.ofNodes [plainSwitch 1 1 0]) true

/-- The second START_EXTRACT puts the old block in the place of the extracted
one, though nothing was reported since. -/
theorem lft_stale_staleChange :
    ∃ w, run workerStep workerInit staleChange = some w ∧
      handledSince staleChange = [] ∧
      (OrdMap.find (epRecGenKey 1 0) (history staleChange).firstBlocks).isSome = true ∧
      ¬ Current (history staleChange).firstBlocks (changedBlocks (handledSince staleChange))
        w.ssaDb.pLftDb.blocks (epRecGenKey 1 0) := by
  refine ⟨_, rfl, ?_⟩
  decide +kernel

end Ibssa
