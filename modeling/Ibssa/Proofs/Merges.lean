import Ibssa.Proofs.DiffLaws

/-!
# What a merge of two tables leaves behind

The two merges of `ssa_comparison.c` are one walk written twice, and they are
given one description, `MergeExact`: which keys end up in which map, which
record lies at the offset of each, and when the returned flag is raised.

Nothing is asked of the comparator, and of the table nothing but that its
header counts no records: not that it has room, nor that the rest of the header
is in step. `Filled` is too much for that, since it carries both, and what is
used here is `Placed`, which an insertion keeps whatever the table was like
before.

A port that is added comes with a new pkey offset. What its record is compared
with is therefore a parameter of `MergeExact`, equality for fixed-size records
and equality up to that field for ports.
-/

namespace Ibssa

open Keyed ByteOrder

/-- The outcome of a merge, exactly. `changed` is the comparator at the two
tables, and `carried` relates an added record of the diff to its source. -/
structure MergeExact {α : Type} (carried : α → α → Prop) (changed : EpMapRec → EpMapRec → Bool)
    (pMapOld pMapNew : EpMap) (pDataTblOld pDataTblNew : Buf α) (pMapAdded pMapRemoved : EpMap)
    (pDataTbl : Buf α) (dirty : UInt8) : Prop where
  removed : ∀ k, k ∈ pMapRemoved.keys ↔
    (k ∈ pMapOld.keys ∧ k ∉ pMapNew.keys) ∨
      ∃ o o', pMapOld.get? k = some o ∧ pMapNew.get? k = some o' ∧
        changed (k, o) (k, o') = true
  added : ∀ k, k ∈ pMapAdded.keys ↔
    (k ∈ pMapNew.keys ∧ k ∉ pMapOld.keys) ∨
      ∃ o o', pMapOld.get? k = some o ∧ pMapNew.get? k = some o' ∧
        changed (k, o) (k, o') = true
  removedRec : ∀ k i, pMapRemoved.get? k = some i →
    ∃ o, pMapOld.get? k = some o ∧ pDataTbl.cell i = pDataTblOld.cell o
  addedRec : ∀ k i, pMapAdded.get? k = some i →
    ∃ o, pMapNew.get? k = some o ∧ carried (pDataTbl.cell i) (pDataTblNew.cell o)
  dirty : dirty = 0 ↔ pMapAdded.count = 0 ∧ pMapRemoved.count = 0

/-- Two port records are the same apart from the pkey offset. -/
def SameButPkeyOffset (a b : EpPortTblRec) : Prop :=
  { a with pkeyTblOffset := b.pkeyTblOffset } = b

theorem sameButPkeyOffset_rebasePort (pDataRefTbl : Buf UInt16) (off : Nat) (r : EpPortTblRec) :
    SameButPkeyOffset (rebasePort pDataRefTbl off r) r := by
  rw [rebasePort, SameButPkeyOffset]
  split <;> rfl

theorem dirtyAfter_eq_zero {β : Type} {l : List β} : dirtyAfter l = 0 ↔ l.length = 0 := by
  rw [List.length_eq_zero_iff]
  cases l with
  | nil => exact ⟨fun _ => rfl, fun _ => rfl⟩
  | cons x rest => exact ⟨fun h => absurd h (by decide : (1 : UInt8) ≠ 0), fun h => by cases h⟩

theorem dirtyAfter_congr {β γ : Type} {l : List β} {l' : List γ} (h : l.length = l'.length) :
    dirtyAfter l = dirtyAfter l' := by
  cases l <;> cases l' <;> first | rfl | cases h

section Moved

variable {α : Type} {carried : α → α → Prop} {changed : EpMapRec → EpMapRec → Bool}
  {pMapOld pMapNew : EpMap} {pDataTblOld pDataTblNew : Buf α}

/-- A list of insertions is what a walk did: the old record for each removal,
one that carries the new record for each addition. -/
structure Moves (carried : α → α → Prop) (pDataTblOld pDataTblNew : Buf α)
    (ops : List (WalkOp UInt64 Nat)) (l : List (WalkOp UInt64 α)) : Prop where
  removeKeys : l.filterMap WalkOp.removeKey = ops.filterMap WalkOp.removeKey
  addKeys : l.filterMap WalkOp.addKey = ops.filterMap WalkOp.addKey
  removes : ∀ k r, WalkOp.remove (k, r) ∈ l →
    ∃ o, WalkOp.remove (k, o) ∈ ops ∧ r = pDataTblOld.cell o
  adds : ∀ k r, WalkOp.add (k, r) ∈ l →
    ∃ o, WalkOp.add (k, o) ∈ ops ∧ carried r (pDataTblNew.cell o)

/-- What was placed by a walk is exact. -/
theorem Placed.mergeExact {l : List (WalkOp UInt64 α)} {pMapAdded pMapRemoved : EpMap}
    {t : DataTbl α} (h : Placed l pMapAdded pMapRemoved t)
    (hm : Moves carried pDataTblOld pDataTblNew
      (walkOps changed pMapOld.items pMapNew.items) l) {dirty : UInt8}
    (hd : dirty = dirtyAfter l) :
    MergeExact carried changed pMapOld pMapNew pDataTblOld pDataTblNew pMapAdded pMapRemoved
      t.pDataTbl dirty := by
  have hk : OncePerKey l := by
    refine ⟨?_, ?_⟩
    · rw [hm.addKeys, filterMap_addKey]
      exact added_keys_nodup pMapOld.sorted pMapNew.sorted
    · rw [hm.removeKeys, filterMap_removeKey]
      exact removed_keys_nodup pMapOld.sorted pMapNew.sorted
  refine ⟨?_, ?_, ?_, ?_, ?_⟩
  · intro k
    rw [← OrdMap.get?_isSome, h.removed_isSome hk, ← mem_filterMap_removeKey, hm.removeKeys,
      mem_filterMap_removeKey, exists_remove_mem_walkOps]
  · intro k
    rw [← OrdMap.get?_isSome, h.added_isSome hk, ← mem_filterMap_addKey, hm.addKeys,
      mem_filterMap_addKey, exists_add_mem_walkOps]
  · intro k i hi
    have hop := (h.view_removed hk).mp (view_eq_some.mpr ⟨i, hi, rfl⟩)
    obtain ⟨o, ho, hrec⟩ := hm.removes k _ hop
    exact ⟨o, (remove_mem_walkOps.mp ho).1, hrec⟩
  · intro k i hi
    have hop := (h.view_added hk).mp (view_eq_some.mpr ⟨i, hi, rfl⟩)
    obtain ⟨o, ho, hrec⟩ := hm.adds k _ hop
    exact ⟨o, (add_mem_walkOps.mp ho).1, hrec⟩
  · -- the two maps have an item for every insertion between them
    rw [hd, dirtyAfter_eq_zero, ← h.count_add_count hk]
    omega

end Moved

theorem moves_recOps {α : Type} {cmp : EpMapRec → Buf α → EpMapRec → Buf α → Bool}
    {pMapOld pMapNew : EpMap} {pDataTblOld pDataTblNew : Buf α} :
    Moves Eq pDataTblOld pDataTblNew
      (walkOps (itemCmp cmp pDataTblOld pDataTblNew) pMapOld.items pMapNew.items)
      (recOps cmp pMapOld pMapNew pDataTblOld pDataTblNew) where
  removeKeys := by
    rw [recOps, List.filterMap_map]
    simp only [Function.comp_def, removeKey_recOp]
  addKeys := by
    rw [recOps, List.filterMap_map]
    simp only [Function.comp_def, addKey_recOp]
  removes := by
    intro k r hr
    obtain ⟨o, hop, hrec⟩ := exists_of_remove_mem_recOps hr
    exact ⟨o, hop, hrec.symm⟩
  adds := by
    intro k r hr
    obtain ⟨o, hop, hrec⟩ := exists_of_add_mem_recOps hr
    exact ⟨o, hop, hrec.symm⟩

theorem moves_portOps {pDataTblOld pDataTblNew : Buf EpPortTblRec}
    (pDataRefTblNew : Buf UInt16) (off : Nat) (ops : List (WalkOp UInt64 Nat)) :
    Moves SameButPkeyOffset pDataTblOld pDataTblNew ops
      (portOps pDataTblOld pDataTblNew pDataRefTblNew off ops) where
  removeKeys := filterMap_removeKey_portOps ops off
  addKeys := filterMap_addKey_portOps ops off
  removes := by
    intro k r hr
    obtain ⟨o, ho, rfl⟩ := remove_mem_portOps.mp hr
    exact ⟨o, ho, rfl⟩
  adds := by
    intro k r hr
    obtain ⟨o, c, ho, rfl, _⟩ := add_mem_portOps hr
    exact ⟨o, ho, sameButPkeyOffset_rebasePort _ _ _⟩

/-- `ssa_db_diff_table_cmp_v2`, for records of any type and size. -/
theorem mergeExact_tableCmpV2 {α : Type} (recSize : Nat)
    (cmp : EpMapRec → Buf α → EpMapRec → Buf α → Bool) (pMapOld pMapNew : EpMap)
    (pDataTblOld pDataTblNew : Buf α) {pDest : DataTbl α}
    (h : ntohll pDest.pDataset.setCount = 0) :
    let r := ssaDbDiffTableCmpV2 pMapOld pMapNew pDataTblOld pDataTblNew (mapRecInsert recSize)
      cmp OrdMap.empty OrdMap.empty pDest
    MergeExact Eq (fun o n => cmp o pDataTblOld n pDataTblNew) pMapOld pMapNew pDataTblOld
      pDataTblNew r.pMapAdded r.pMapRemoved r.pDest.pDataTbl r.dirty := by
  intro r
  refine Placed.mergeExact ?_ moves_recOps ?_
  · exact (ssaDbDiffTableCmpV2_keeps (placed_kept recSize) (placed_nil h)).1
  · exact (ssaDbDiffTableCmpV2_keeps (placed_kept recSize) (placed_nil h)).2

/-- `ssa_db_diff_var_size_table_cmp` with the port insert routine. -/
theorem mergeExact_varSizeTableCmp (cmp : VarCmp) (pMapOld pMapNew : EpMap)
    (pDataTblOld : Buf EpPortTblRec) (pDataRefTblOld : Buf UInt16)
    (pDataTblNew : Buf EpPortTblRec) (pDataRefTblNew : Buf UInt16)
    (pRefDataset : DbDataset) (pDataRefTbl : Buf UInt8) {pDest : DataTbl EpPortTblRec}
    (h : ntohll pDest.pDataset.setCount = 0) :
    let r := ssaDbDiffVarSizeTableCmp pMapOld pMapNew pDataTblOld pDataRefTblOld pDataTblNew
      pDataRefTblNew ssaDbPortInsert cmp OrdMap.empty OrdMap.empty pDest pRefDataset pDataRefTbl
    MergeExact SameButPkeyOffset
      (fun o n => cmp o pDataTblOld pDataRefTblOld n pDataTblNew pDataRefTblNew) pMapOld pMapNew
      pDataTblOld pDataTblNew r.pMapAdded r.pMapRemoved r.pDest.pDataTbl r.dirty := by
  intro r
  refine Placed.mergeExact ?_ (moves_portOps pDataRefTblNew 0 _) ?_
  · exact (ssaDbDiffVarSizeTableCmp_keeps (placed_kept SsaTableId.port.recSize) (placed_nil h)
      pRefDataset pDataRefTbl).1
  · refine (ssaDbDiffVarSizeTableCmp_keeps (placed_kept SsaTableId.port.recSize) (placed_nil h)
      pRefDataset pDataRefTbl).2.2.trans ?_
    exact dirtyAfter_congr (length_portOps _ _).symm

/-- Both merges are exact, whatever the maps, the tables and the comparator:
the one for fixed-size records with the body that its insert routines share,
at any record type and size, and the one for ports with the port routine. -/
theorem merges_exact :
    (∀ (α : Type) (recSize : Nat) (cmp : EpMapRec → Buf α → EpMapRec → Buf α → Bool)
      (pMapOld pMapNew : EpMap) (pDataTblOld pDataTblNew : Buf α) (pDest : DataTbl α),
      ntohll pDest.pDataset.setCount = 0 →
        let r := ssaDbDiffTableCmpV2 pMapOld pMapNew pDataTblOld pDataTblNew
          (mapRecInsert recSize) cmp OrdMap.empty OrdMap.empty pDest
        MergeExact Eq (fun o n => cmp o pDataTblOld n pDataTblNew) pMapOld pMapNew pDataTblOld
          pDataTblNew r.pMapAdded r.pMapRemoved r.pDest.pDataTbl r.dirty) ∧
    (∀ (cmp : VarCmp) (pMapOld pMapNew : EpMap) (pDataTblOld : Buf EpPortTblRec)
      (pDataRefTblOld : Buf UInt16) (pDataTblNew : Buf EpPortTblRec)
      (pDataRefTblNew : Buf UInt16) (pRefDataset : DbDataset) (pDataRefTbl : Buf UInt8)
      (pDest : DataTbl EpPortTblRec), ntohll pDest.pDataset.setCount = 0 →
        let r := ssaDbDiffVarSizeTableCmp pMapOld pMapNew pDataTblOld pDataRefTblOld pDataTblNew
          pDataRefTblNew ssaDbPortInsert cmp OrdMap.empty OrdMap.empty pDest pRefDataset
          pDataRefTbl
        MergeExact SameButPkeyOffset
          (fun o n => cmp o pDataTblOld pDataRefTblOld n pDataTblNew pDataRefTblNew) pMapOld
          pMapNew pDataTblOld pDataTblNew r.pMapAdded r.pMapRemoved r.pDest.pDataTbl r.dirty) := by
  constructor
  · intro α recSize cmp pMapOld pMapNew pDataTblOld pDataTblNew pDest h
    exact mergeExact_tableCmpV2 recSize cmp pMapOld pMapNew pDataTblOld pDataTblNew h
  · intro cmp pMapOld pMapNew pDataTblOld pDataRefTblOld pDataTblNew pDataRefTblNew pRefDataset
      pDataRefTbl pDest h
    exact mergeExact_varSizeTableCmp cmp pMapOld pMapNew pDataTblOld pDataRefTblOld pDataTblNew
      pDataRefTblNew pRefDataset pDataRefTbl h

/-- Three links and three ports against three others, with the keys 2 and 3 in
common: what is under 2 has changed, and what is under 3 has only moved. -/
theorem merges_exact_secondChanged :
    let before := OrdMap.ofList [((1 : UInt64), 0), (2, 1), (3, 2)]
    let after := OrdMap.ofList [((2 : UInt64), 0), (3, 1), (4, 2)]
    let links := Buf.ofList default [linkBetween 1 2, linkBetween 3 4, linkBetween 5 6]
    let links' := Buf.ofList default [linkBetween 3 9, linkBetween 5 6, linkBetween 7 8]
    let r := ssaDbDiffTableCmpV2 before after links links' ssaDbLinkInsert
      (fun o t n t' => t.cell o.2 != t'.cell n.2) OrdMap.empty OrdMap.empty
      ⟨zeroDataset SsaTableId.link.num, Buf.ofList default (List.replicate 6 default)⟩
    let ports := Buf.ofList default [portWithPkey 1 0, portWithPkey 2 1, portWithPkey 3 2]
    let ports' := Buf.ofList default [portWithPkey 9 0, portWithPkey 3 1, portWithPkey 4 2]
    let pkeys := Buf.ofList default [0x7fff, 0x8001, 0x8002]
    let p := ssaDbDiffVarSizeTableCmp before after ports pkeys ports' pkeys ssaDbPortInsert
      (fun o t _ n t' _ => (t.cell o.2).portLid != (t'.cell n.2).portLid) OrdMap.empty
      OrdMap.empty ⟨zeroDataset SsaTableId.port.num, Buf.ofList default (List.replicate 6 default)⟩
      (zeroDataset SsaTableId.pkey.num) (Buf.ofList default (List.replicate 6 0))
    (r.pMapRemoved.keys = [1, 2] ∧ r.pMapAdded.keys = [2, 4] ∧
      view r.pMapRemoved r.pDest.pDataTbl 2 = some (linkBetween 3 4) ∧
      view r.pMapAdded r.pDest.pDataTbl 2 = some (linkBetween 3 9) ∧ r.dirty = 1 ∧
      MergeExact Eq (fun o n => links.cell o.2 != links'.cell n.2) before after links links'
        r.pMapAdded r.pMapRemoved r.pDest.pDataTbl r.dirty) ∧
    p.pMapRemoved.keys = [1, 2] ∧ p.pMapAdded.keys = [2, 4] ∧
      view p.pMapRemoved p.pDest.pDataTbl 2 = some (portWithPkey 2 1) ∧
      view p.pMapAdded p.pDest.pDataTbl 4
        = some { portWithPkey 4 2 with pkeyTblOffset := htonll 2 } ∧ p.dirty = 1 ∧
      MergeExact SameButPkeyOffset
        (fun o n => (ports.cell o.2).portLid != (ports'.cell n.2).portLid) before after ports
        ports' p.pMapAdded p.pMapRemoved p.pDest.pDataTbl p.dirty := by
  refine ⟨⟨by decide +kernel, by decide +kernel, by decide +kernel, by decide +kernel,
    by decide +kernel, ?_⟩, by decide +kernel, by decide +kernel, by decide +kernel,
    by decide +kernel, by decide +kernel, ?_⟩
  · exact merges_exact.1 EpLinkTblRec SsaTableId.link.recSize
      (fun o t n t' => t.cell o.2 != t'.cell n.2) _ _ _ _ _ rfl
  · exact merges_exact.2 (fun o t _ n t' _ => (t.cell o.2).portLid != (t'.cell n.2).portLid) _ _
      _ _ _ _ _ _ _ rfl

end Ibssa
