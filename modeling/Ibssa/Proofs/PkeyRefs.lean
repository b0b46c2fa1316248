import Ibssa.Proofs.DiffLaws

/-!
# Where the port records of a diff point

A port record designates its pkeys by an offset, and `ssa_db.h` says what the
offset of a reference is for: it marks the start of the port's part of the
PKEY table that is sent along. The records that are added to a diff are given
such an offset when their pkeys are copied. The records that are removed go
through the same routine with no reference table, so nothing is copied for them
and they keep the offset and the size they had in the previous snapshot, next
to a PKEY table that holds other bytes or none.

For the added records the argument is the cursor of the walk: it has moved past
a record's pkeys when the record is in, and it never moves back. A removed
record is inside by luck, when the added ports happen to bring that many
bytes, and `pkeysInDataset_iff` says that this is all there is to it.
-/

namespace Ibssa

open Keyed ByteOrder

/-- Every port record of a snapshot designates a range inside its pkey table. -/
def RangesInside (db : SsaDbExtract) : Prop :=
  ∀ k o, db.epPortTbl.get? k = some o → ntohs (db.pPortTbl.cell o).pkeyTblSize ≠ 0 →
    db.pPkeyTbl.isNull = false ∧
      SsaTableId.pkey.recSize * ntohll (db.pPortTbl.cell o).pkeyTblOffset
          + (ntohs (db.pPortTbl.cell o).pkeyTblSize).toNat
        ≤ SsaTableId.pkey.recSize * db.pkeyTblRecNum

theorem RangesInside.pkeyTblPresent {db : SsaDbExtract} (h : RangesInside db) :
    PkeyTblPresent db := by
  intro hnull k o ho
  by_contra hsize
  rw [(h k o ho hsize).1] at hnull
  cases hnull

/-- The range a port record of a diff designates ends inside a PKEY dataset of
`setSize` bytes, if it has any pkeys. -/
def DesignatesWithin (setSize : Nat) (r : EpPortTblRec) : Prop :=
  ntohs r.pkeyTblSize ≠ 0 →
    ntohll r.pkeyTblOffset + (ntohs r.pkeyTblSize).toNat ≤ setSize

/-- Every record of a diff's PORT dataset designates bytes of its PKEY dataset. -/
def PkeysInDataset (d : SsaDbDiff) : Prop :=
  ∀ i < ntohll (d.dataset .port).setCount,
    DesignatesWithin (ntohll (d.dataset .pkey).setSize) (d.tables.port.cell i)

/-- A port of the previous snapshot that the comparison removes: its key is
gone, or the comparator calls it changed. -/
def PortRemoved (mem : Mem) (pPreviousDb pCurrentDb : SsaDbExtract) (k : UInt64) (o : Nat) :
    Prop :=
  pPreviousDb.epPortTbl.get? k = some o ∧
    ∀ o', pCurrentDb.epPortTbl.get? k = some o' →
      ssaDbPortCmp mem (k, o) pPreviousDb.pPortTbl pPreviousDb.pPkeyTbl (k, o')
        pCurrentDb.pPortTbl pCurrentDb.pPkeyTbl = true

theorem portRemoved_iff {mem : Mem} {pPreviousDb pCurrentDb : SsaDbExtract} {k : UInt64}
    {o : Nat} :
    PortRemoved mem pPreviousDb pCurrentDb k o ↔
      WalkOp.remove (k, o) ∈ portWalk mem pPreviousDb pCurrentDb := by
  rw [portWalk, remove_mem_walkOps, goes_eq]
  rfl

/-- The pkey bytes of the ports of the current snapshot that a comparison adds. -/
def addedPkeySizes (mem : Mem) (pPreviousDb pCurrentDb : SsaDbExtract) : Nat :=
  ((addedItems mem pPreviousDb pCurrentDb).map fun p =>
    (ntohs (pCurrentDb.pPortTbl.cell p.2).pkeyTblSize).toNat).sum

section Diff

variable {mem : Mem} {firstTimeSubnetUp : Bool} {ssaDb : SsaDatabase} {d : SsaDbDiff}

/-- The PKEY dataset of a diff has the bytes of the added ports. -/
theorem DiffSpec.pkey_setSize (h : DiffSpec mem firstTimeSubnetUp ssaDb d)
    (hpk : PkeyTblPresent ssaDb.pCurrentDb) :
    ntohll (d.dataset .pkey).setSize
      = addedPkeySizes mem ssaDb.pPreviousDb ssaDb.pCurrentDb := by
  rw [h.pkeyDataset, setSize_appendAll, payloads_addedPorts hpk, addedPorts_eq, List.map_map]
  exact Nat.zero_add _

/-- The records of the PORT dataset are those the walk moved. -/
theorem DiffSpec.port_records (h : DiffSpec mem firstTimeSubnetUp ssaDb d)
    (P : EpPortTblRec → Prop) :
    (∀ i < ntohll (d.dataset .port).setCount, P (d.tables.port.cell i)) ↔
      ∀ op ∈ portDiffOps mem ssaDb.pPreviousDb ssaDb.pCurrentDb, P (opRec op) := by
  have hcount : ntohll (d.dataset .port).setCount = _ := h.port.count
  have hcells : ∀ i hi, d.tables.port.cell i = _ := h.port.added.cells
  rw [hcount]
  constructor
  · intro hall op hop
    obtain ⟨i, hi, rfl⟩ := List.mem_iff_getElem.mp hop
    rw [← hcells i hi]
    exact hall i hi
  · intro hall i hi
    rw [hcells i hi]
    exact hall _ (List.getElem_mem hi)

/-- An added record is inside: its pkeys were copied behind the cursor. -/
theorem designatesWithin_of_add (hpk : PkeyTblPresent ssaDb.pCurrentDb) {k : UInt64}
    {r : EpPortTblRec}
    (hop : WalkOp.add (k, r) ∈ portDiffOps mem ssaDb.pPreviousDb ssaDb.pCurrentDb) :
    DesignatesWithin (addedPkeySizes mem ssaDb.pPreviousDb ssaDb.pCurrentDb) r := by
  intro hsize
  obtain ⟨o, c, hadd, rfl, hle⟩ := add_mem_portOps hop
  have hpay := portPayload_eq hpk (portAdded_iff.mpr hadd).1
  rw [pkeyTblSize_rebasePort] at hsize
  have hne : portPayload ssaDb.pCurrentDb.pPkeyTbl (ssaDb.pCurrentDb.pPortTbl.cell o) ≠ 0 := by
    rw [hpay]
    intro hzero
    exact hsize (UInt16.toNat_inj.mp hzero)
  have hoff : ntohll (rebasePort ssaDb.pCurrentDb.pPkeyTbl c
      (ssaDb.pCurrentDb.pPortTbl.cell o)).pkeyTblOffset = c := by
    rw [rebasePort, if_neg hne]
    rfl
  have hsum : payloads ssaDb.pCurrentDb.pPkeyTbl
      (addedPorts mem ssaDb.pPreviousDb ssaDb.pCurrentDb)
        = addedPkeySizes mem ssaDb.pPreviousDb ssaDb.pCurrentDb := by
    rw [payloads_addedPorts hpk, addedPorts_eq, List.map_map]
    rfl
  rw [hoff, pkeyTblSize_rebasePort, ← hpay, ← hsum]
  rw [Nat.zero_add] at hle
  exact hle

/-- The port records of a diff stay inside its PKEY dataset exactly when each
port that is removed had its pkeys, in the previous snapshot, below the number
of bytes that the added ports bring. -/
theorem pkeysInDataset_iff (mem : Mem) (firstTimeSubnetUp : Bool) (ssaDb : SsaDatabase)
    (hcurrent : RangesInside ssaDb.pCurrentDb) :
    PkeysInDataset (buildDiff mem firstTimeSubnetUp ssaDb).1 ↔
      ∀ k o, PortRemoved mem ssaDb.pPreviousDb ssaDb.pCurrentDb k o →
        DesignatesWithin (addedPkeySizes mem ssaDb.pPreviousDb ssaDb.pCurrentDb)
          (ssaDb.pPreviousDb.pPortTbl.cell o) := by
  have h := buildDiff_spec mem firstTimeSubnetUp ssaDb
  generalize (buildDiff mem firstTimeSubnetUp ssaDb).1 = d at h ⊢
  have hpk := hcurrent.pkeyTblPresent
  rw [PkeysInDataset, h.pkey_setSize hpk, h.port_records]
  constructor
  · intro hall k o hrem
    exact hall (.remove (k, ssaDb.pPreviousDb.pPortTbl.cell o))
      (remove_mem_portOps.mpr ⟨o, portRemoved_iff.mp hrem, rfl⟩)
  · intro hremoved op hop
    cases op with
    | add p => exact designatesWithin_of_add hpk hop
    | remove p =>
        obtain ⟨o, hrem, hrec⟩ := remove_mem_portOps.mp hop
        rw [opRec, WalkOp.item, ← hrec]
        exact hremoved p.1 o (portRemoved_iff.mpr hrem)

end Diff

/-- One port with a pkey, which goes. -/
def onlyPortGone : SsaDatabase :=
  { ssaDatabaseInit with
    pPreviousDb := portsDb [portWithPkey 1 0] [0x7fff]
    pCurrentDb := portsDb [] [] }

/-- The items are all there is to look at. -/
theorem rangesInside_of_items {db : SsaDbExtract}
    (h : ∀ p ∈ db.epPortTbl.items, ntohs (db.pPortTbl.cell p.2).pkeyTblSize ≠ 0 →
      db.pPkeyTbl.isNull = false ∧
        SsaTableId.pkey.recSize * ntohll (db.pPortTbl.cell p.2).pkeyTblOffset
            + (ntohs (db.pPortTbl.cell p.2).pkeyTblSize).toNat
          ≤ SsaTableId.pkey.recSize * db.pkeyTblRecNum) : RangesInside db := by
  intro k o ho
  exact h (k, o) (OrdMap.get?_eq_some.mp ho)

/-- Two ports with a pkey each, and a third one that is new. The first one has
another LID, and the comparator calls the second one changed as well. -/
def thirdPortCame : SsaDatabase :=
  { ssaDatabaseInit with
    pPreviousDb := portsDb [portWithPkey 1 0, portWithPkey 2 1] [0x7fff, 0x8001]
    pCurrentDb :=
      portsDb [portWithPkey 9 0, portWithPkey 2 1, portWithPkey 3 2] [0x7fff, 0x8001, 0x8002] }

/-- Two ports with pkeys are removed, and the three that are added bring enough
bytes for them. -/
theorem pkeysInDataset_iff_thirdPortCame :
    PortRemoved default thirdPortCame.pPreviousDb thirdPortCame.pCurrentDb 1 0 ∧
      PortRemoved default thirdPortCame.pPreviousDb thirdPortCame.pCurrentDb 2 1 ∧
      addedPkeySizes default thirdPortCame.pPreviousDb thirdPortCame.pCurrentDb = 6 ∧
      PkeysInDataset (buildDiff default true thirdPortCame).1 := by
  have hsum : addedPkeySizes default thirdPortCame.pPreviousDb thirdPortCame.pCurrentDb = 6 := by
    decide +kernel
  refine ⟨portRemoved_iff.mpr (by decide +kernel), portRemoved_iff.mpr (by decide +kernel),
    hsum, ?_⟩
  have hcurrent : RangesInside thirdPortCame.pCurrentDb :=
    rangesInside_of_items (by decide +kernel)
  rw [pkeysInDataset_iff default true thirdPortCame hcurrent, hsum]
  intro k o hremoved
  have hclaims : ∀ p ∈ thirdPortCame.pPreviousDb.epPortTbl.items,
      ntohs (thirdPortCame.pPreviousDb.pPortTbl.cell p.2).pkeyTblSize ≠ 0 →
        ntohll (thirdPortCame.pPreviousDb.pPortTbl.cell p.2).pkeyTblOffset
          + (ntohs (thirdPortCame.pPreviousDb.pPortTbl.cell p.2).pkeyTblSize).toNat ≤ 6 := by
    decide +kernel
  exact hclaims (k, o) (OrdMap.get?_eq_some.mp hremoved.1)

/-- The removed record claims two bytes of a PKEY dataset of none. -/
theorem pkeysInDataset_fails_onlyPortGone :
    RangesInside onlyPortGone.pPreviousDb ∧ RangesInside onlyPortGone.pCurrentDb ∧
      ¬ PkeysInDataset (buildDiff default true onlyPortGone).1 := by
  refine ⟨rangesInside_of_items (by decide +kernel),
    rangesInside_of_items (by decide +kernel), ?_⟩
  intro hinside
  have hcount : ntohll ((buildDiff default true onlyPortGone).1.dataset .port).setCount = 1 := by
    decide +kernel
  have hclaims := hinside 0 (by rw [hcount]; decide)
  unfold DesignatesWithin at hclaims
  revert hclaims
  decide +kernel

end Ibssa
