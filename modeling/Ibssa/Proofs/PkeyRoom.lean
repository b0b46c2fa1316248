import Mathlib.Algebra.BigOperators.Fin
import Mathlib.Algebra.Order.BigOperators.Group.Finset
import Ibssa.Proofs.Replication

/-!
# Room for the pkeys of a diff

The PKEY table of a diff is allocated for the pkeys of all end ports of the
current snapshot, two bytes each. What is copied into it are the bytes that
the records of the added ports claim, and these are more than the port's own
when ports without a remote peer come before it: their pkeys are counted again,
in every record up to the next linked port. Whether the copies stay inside is
then a matter of which ports are added, and the condition is a comparison of
two sums over the subnet.
-/

namespace Ibssa

open Keyed ByteOrder

/-- The bytes that the record at an offset of a subnet's port table claims: two
for each pkey counted since the last linked port, in a 16-bit field. -/
def portBytes (s : OsmSubn) (offset : Nat) : Nat :=
  (runSize ((pkeyRuns s 0 s.ports)[offset]?.getD 0)).toNat

/-- The bytes that the added ports of a snapshot claim. -/
theorem SnapshotOf.payloads_eq {s : OsmSubn} {pCurrentDb : SsaDbExtract}
    (h : SnapshotOf s pCurrentDb) (mem : Mem) (pPreviousDb : SsaDbExtract) :
    payloads pCurrentDb.pPkeyTbl (addedPorts mem pPreviousDb pCurrentDb)
      = ((addedItems mem pPreviousDb pCurrentDb).map fun p => portBytes s p.2).sum := by
  rw [payloads_addedPorts h.pkeyTblPresent, addedPorts_eq, List.map_map]
  refine congrArg List.sum (List.map_congr_left ?_)
  intro p hp
  obtain ⟨hlt, hsize⟩ := h.pkeySize p.1 p.2 (OrdMap.get?_eq_some.mpr (List.mem_filter.mp hp).1)
  rw [Function.comp_apply, hsize, portBytes, List.getElem?_eq_getElem hlt, Option.getD_some]

/-- Every insert stays inside the PKEY table exactly when the bytes that the
added ports claim are no more than two for each pkey of the subnet. -/
theorem pkey_writes_fit_iff (mem mem' : Mem) (firstTimeSubnetUp firstTimeSubnetUp' : Bool)
    {ssaDb ssaDb' : SsaDatabase} (s : OsmSubn) (hfresh : ssaDb'.pDumpDb = ssaDbExtractInit)
    (hcurrent : ssaDb.pCurrentDb = (ssaDbExtract mem' firstTimeSubnetUp' ssaDb' s).pDumpDb) :
    (buildDiff mem firstTimeSubnetUp ssaDb).1.tables.pkey.fits = true ↔
      ((addedItems mem ssaDb.pPreviousDb ssaDb.pCurrentDb).map fun p => portBytes s p.2).sum
        ≤ 2 * (portPkeysNum s).toNat := by
  have hs : SnapshotOf s ssaDb.pCurrentDb := by
    rw [hcurrent]
    exact snapshotOf_ssaDbExtract mem' firstTimeSubnetUp' hfresh s
  have hspec := buildDiff_spec mem firstTimeSubnetUp ssaDb
  rw [hspec.pkeyTable, fits_appendAll _ _ (Nat.zero_le _), hs.payloads_eq]
  show true = true ∧ 0 + _ ≤ 2 * ssaDb.pCurrentDb.pkeyTblRecNum ↔ _
  rw [hs.pkeyTblRecNum, Nat.zero_add]
  exact and_iff_right rfl

/-- A channel adapter whose one port has one pkey and no remote peer. -/
def unlinkedCa (guid : UInt64) (lid : UInt16) : OsmNode :=
  { (default : OsmNode) with
    nodeGuid := guid
    nodeType := 1
    physpTblSize := 2
    physpTable := fun _ =>
      { (default : OsmPhysp) with
        valid := true
        portGuid := guid
        portNum := 1
        baseLid := htons lid
        pkeys := [0xffff] } }

def unlinkedCas : OsmSubn := OsmSubn.ofNodes [unlinkedCa 1 1, unlinkedCa 2 2]

/-- The worker's database when a second subnet has been extracted after a first
one, and not yet compared with it. -/
def afterTwo (s s' : OsmSubn) : SsaDatabase :=
  let ssaDb := ssaDbUpdate (ssaDbExtract default true ssaDatabaseInit s)
  ssaDbUpdate (ssaDbExtract default false ssaDb s')

theorem pkey_writes_fit_iff_unlinkedCas :
    (buildDiff default false (afterTwo (OsmSubn.ofNodes []) unlinkedCas)).1.tables.pkey.fits
        = true ↔
      ((addedItems default (afterTwo (OsmSubn.ofNodes []) unlinkedCas).pPreviousDb
            (afterTwo (OsmSubn.ofNodes []) unlinkedCas).pCurrentDb).map
          fun p => portBytes unlinkedCas p.2).sum
        ≤ 2 * (portPkeysNum unlinkedCas).toNat :=
  pkey_writes_fit_iff default default false false unlinkedCas rfl rfl

/-- The second port claims both pkeys, so six bytes are copied into four. -/
theorem pkey_writes_overrun_unlinkedCas :
    (buildDiff default false (afterTwo (OsmSubn.ofNodes []) unlinkedCas)).1.tables.pkey.fits
      = false := by
  decide +kernel

/-! ## When every end port is linked

Then no pkeys are left standing, each port's record claims its own, and no
selection of ports can claim more than there is. -/

/-- The number of pkeys of all end ports. -/
def pkeysTotal (s : OsmSubn) (ps : List OsmPort) : Nat :=
  (ps.map fun p => (s.physp p.pPhysp).pkeys.length).sum

/-- Every end port is on a switch, has a remote peer, or has no pkeys. -/
def PkeysLinked (s : OsmSubn) (ps : List OsmPort) : Prop :=
  ∀ p ∈ ps, (s.nodeOf p.pPhysp).isSwitch = true ∨ (s.physp p.pPhysp).remote.isSome = true ∨
    (s.physp p.pPhysp).pkeys = []

/-- Nothing is left standing after an end port exactly when it is one of these. -/
theorem carryAfter_eq_zero {s : OsmSubn} {p : OsmPort} :
    carryAfter s 0 p = 0 ↔
      (s.nodeOf p.pPhysp).isSwitch = true ∨ (s.physp p.pPhysp).remote.isSome = true ∨
        (s.physp p.pPhysp).pkeys = [] := by
  rw [carryAfter, ← or_assoc, ← Bool.or_eq_true]
  by_cases hcloses : ((s.nodeOf p.pPhysp).isSwitch || (s.physp p.pPhysp).remote.isSome) = true
  · rw [if_pos hcloses]
    exact ⟨fun _ => Or.inl hcloses, fun _ => rfl⟩
  · rw [if_neg hcloses, Nat.zero_add, List.length_eq_zero_iff]
    exact ⟨Or.inr, fun h => h.resolve_left hcloses⟩

private theorem sum_run_zero (l : List Nat) (n : Nat) (hl : l.Nodup) :
    (l.map fun i => if i = 0 then n else 0).sum ≤ n := by
  induction l with
  | nil => exact Nat.zero_le _
  | cons i rest ih =>
      obtain ⟨hnot, hrest⟩ := List.nodup_cons.mp hl
      rw [List.map_cons, List.sum_cons]
      by_cases hi : i = 0
      · have hzero : (rest.map fun j => if j = 0 then n else 0).sum = 0 := by
          refine List.sum_eq_zero ?_
          intro x hx
          obtain ⟨j, hj, rfl⟩ := List.mem_map.mp hx
          rw [if_neg]
          rintro rfl
          exact hnot (hi ▸ hj)
        rw [if_pos hi, hzero]
        exact Nat.le_refl _
      · rw [if_neg hi, Nat.zero_add]
        exact ih hrest

theorem sum_portRuns_le (s : OsmSubn) (p : OsmPort) :
    (portRuns s 0 p).sum ≤ (s.physp p.pPhysp).pkeys.length := by
  rw [portRuns]
  split
  · rw [Nat.zero_add]
    exact sum_run_zero _ _ (List.nodup_range.filter _)
  · rw [List.sum_singleton, Nat.zero_add]

theorem sum_pkeyRuns_le {s : OsmSubn} {ps : List OsmPort} (h : PkeysLinked s ps) :
    (pkeyRuns s 0 ps).sum ≤ pkeysTotal s ps := by
  induction ps with
  | nil => exact Nat.le_refl _
  | cons p ps ih =>
      have hcarry := carryAfter_eq_zero.mpr (h p List.mem_cons_self)
      have hrest := ih fun q hq => h q (List.mem_cons_of_mem p hq)
      have hp := sum_portRuns_le s p
      rw [pkeyRuns, hcarry, List.sum_append, pkeysTotal, List.map_cons, List.sum_cons]
      exact Nat.add_le_add hp hrest

/-- Distinct places of a list select no more than the list has. -/
private theorem sum_places_le (f : Nat → Nat) {l runs : List Nat} (hd : l.Nodup)
    (hlt : ∀ o ∈ l, o < runs.length) :
    (l.map fun o => f (runs[o]?.getD 0)).sum ≤ (runs.map f).sum := by
  have hruns : (runs.map f).sum
      = ∑ o ∈ Finset.range runs.length, f (runs[o]?.getD 0) := by
    rw [← List.ofFn_getElem_eq_map, List.sum_ofFn, Finset.sum_range]
    refine Finset.sum_congr rfl fun i _ => ?_
    rw [List.getElem?_eq_getElem i.isLt, Option.getD_some]
  rw [hruns, ← List.sum_toFinset _ hd]
  refine Finset.sum_le_sum_of_subset fun o ho => ?_
  exact Finset.mem_range.mpr (hlt o (List.mem_toFinset.mp ho))

private theorem sum_runSize_le (runs : List Nat) :
    (runs.map fun n => (runSize n).toNat).sum ≤ 2 * runs.sum := by
  induction runs with
  | nil => exact Nat.le_refl _
  | cons n rest ih =>
      have hn : (runSize n).toNat ≤ 2 * n := by
        rw [runSize, UInt16.toNat_ofNat']
        show n * 2 % 2 ^ 16 ≤ 2 * n
        omega
      rw [List.map_cons, List.sum_cons, List.sum_cons]
      omega

theorem toNat_portPkeysNum (s : OsmSubn) :
    (portPkeysNum s).toNat = pkeysTotal s s.ports % 2 ^ 32 := by
  have hfold : ∀ (items : List (UInt64 × OsmPort)) (n : UInt32),
      (items.foldl (fun n p => n + UInt32.ofNat (s.physp p.2.pPhysp).pkeys.length) n).toNat
        = (n.toNat + pkeysTotal s (items.map Prod.snd)) % 2 ^ 32 := by
    intro items
    induction items with
    | nil =>
        intro n
        exact (Nat.mod_eq_of_lt n.toNat_lt).symm
    | cons p rest ih =>
        intro n
        rw [List.foldl_cons, ih, List.map_cons, pkeysTotal, pkeysTotal, List.map_cons,
          List.sum_cons, UInt32.toNat_add, UInt32.toNat_ofNat']
        omega
  have hall := hfold s.portGuidTbl.items 0
  rw [UInt32.toNat_zero, Nat.zero_add] at hall
  exact hall

/-- With all end ports linked the pkeys fit, whatever the previous snapshot. -/
theorem SnapshotOf.pkeys_fit {s : OsmSubn} {pCurrentDb : SsaDbExtract}
    (h : SnapshotOf s pCurrentDb) (hlinked : PkeysLinked s s.ports)
    (htotal : pkeysTotal s s.ports < 2 ^ 32) (mem : Mem) (pPreviousDb : SsaDbExtract) :
    ((addedItems mem pPreviousDb pCurrentDb).map fun p => portBytes s p.2).sum
      ≤ 2 * (portPkeysNum s).toNat := by
  have hsub : ((addedItems mem pPreviousDb pCurrentDb).map Prod.snd).Nodup :=
    h.portApart.sublist (List.filter_sublist.map Prod.snd)
  have hlt : ∀ o ∈ (addedItems mem pPreviousDb pCurrentDb).map Prod.snd,
      o < (pkeyRuns s 0 s.ports).length := by
    intro o ho
    obtain ⟨p, hp, rfl⟩ := List.mem_map.mp ho
    obtain ⟨hlt, _⟩ := h.pkeySize p.1 p.2 (OrdMap.get?_eq_some.mpr (List.mem_filter.mp hp).1)
    exact hlt
  have hplaces := sum_places_le (fun n => (runSize n).toNat) hsub hlt
  rw [List.map_map] at hplaces
  have hdouble := sum_runSize_le (pkeyRuns s 0 s.ports)
  have hruns := sum_pkeyRuns_le hlinked
  rw [toNat_portPkeysNum, Nat.mod_eq_of_lt htotal]
  have hplaces' : ((addedItems mem pPreviousDb pCurrentDb).map fun p => portBytes s p.2).sum
      ≤ ((pkeyRuns s 0 s.ports).map fun n => (runSize n).toNat).sum := hplaces
  omega

end Ibssa
