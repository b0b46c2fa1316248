import Ibssa.Proofs.LftStore

/-!
# The counting merge against the copy it makes room for

`ssa_db_compare` asks `ssa_db_diff_new_qmap_recs` how many records a copy is
going to append, and reallocates the table for that many. The count comes from
walking the two maps side by side; the copy looks every key up in a map that
grows under it. Neither looks at what the other does.

Both are compared with the keys of the source that the destination lacks at
the start. For the copy that needs the source's keys in increasing order: a key
it has just inserted is then never asked for again, so growing the map changes
no later answer. Where the records go is another matter. A new one goes into
the slot numbered by the count, which is free only because the slot numbers
are exactly those below it, and that is also what makes a second copy write
every record over itself.
-/

namespace Ibssa

open Keyed

variable {α : Type}

/-- A copy without a dataset, as `ssa_db_diff_new_qmap_recs` announces it. -/
structure CopyAgrees (copy : EpMap → Option DbDataset → Buf α → EpMap → Buf α → LftCopy α)
    (dest : EpMap) (destTbl : Buf α) (src : EpMap) (srcTbl : Buf α) : Prop where
  /-- As many records are appended as were counted. -/
  appended : (copy dest none destTbl src srcTbl).pDestQmap.count
    = dest.count + ssaDbDiffNewQmapRecs dest src
  /-- The keys that were there keep their offsets. -/
  kept : ∀ k o, dest.get? k = some o →
    (copy dest none destTbl src srcTbl).pDestQmap.get? k = some o
  /-- Offsets are exactly those below the new count, each used once. -/
  offsets : (slotsOf (copy dest none destTbl src srcTbl).pDestQmap).Perm
    (List.range (dest.count + ssaDbDiffNewQmapRecs dest src))
  /-- A key of the source has the source's record. -/
  copied : ∀ k o, src.get? k = some o →
    view (copy dest none destTbl src srcTbl).pDestQmap
      (copy dest none destTbl src srcTbl).pDestTbl k = some (srcTbl.cell o)
  /-- Any other key has what it had. -/
  others : ∀ k, src.get? k = none →
    view (copy dest none destTbl src srcTbl).pDestQmap
      (copy dest none destTbl src srcTbl).pDestTbl k = view dest destTbl k
  /-- A table with room for that many is not written past its end. -/
  room : destTbl.fits = true → dest.count + ssaDbDiffNewQmapRecs dest src ≤ destTbl.cap →
    (copy dest none destTbl src srcTbl).pDestTbl.fits = true
  /-- Copying again changes nothing. -/
  again : copy (copy dest none destTbl src srcTbl).pDestQmap none
      (copy dest none destTbl src srcTbl).pDestTbl src srcTbl
    = copy dest none destTbl src srcTbl

theorem copyAgrees_lftQmapCopy (recSize : Nat) {dest : EpMap} (hd : Dense dest)
    (destTbl : Buf α) (src : EpMap) (srcTbl : Buf α) :
    CopyAgrees (lftQmapCopy recSize) dest destTbl src srcTbl := by
  have hsorted := entries_sorted src srcTbl
  have hroom := Slots.Room.of_dense (s := ⟨dest, destTbl⟩) hd (entries src srcTbl)
  have hcopy := lftQmapCopy_none recSize ⟨dest, destTbl⟩ src srcTbl
  have hcount := Slots.count_putAll (s := ⟨dest, destTbl⟩) hsorted
  rw [length_newKeys_of_entries] at hcount
  have hdense := Slots.dense_putAll (s := ⟨dest, destTbl⟩) (entries src srcTbl) hd
  have hview : Slots.view (Slots.putAll ⟨dest, destTbl⟩ (entries src srcTbl))
      = layered (view dest destTbl) (view src srcTbl) := by
    rw [Slots.view_putAll hroom, overlay_entries]
    rfl
  refine ⟨?_, ?_, ?_, ?_, ?_, ?_, ?_⟩
  · rw [hcopy]
    exact hcount
  · intro k o hk
    rw [hcopy]
    exact Slots.get?_putAll_of_some (s := ⟨dest, destTbl⟩) (entries src srcTbl) hk
  · rw [hcopy, ← hcount]
    exact hdense
  · intro k o hk
    rw [hcopy]
    refine (congrFun hview k).trans ?_
    simp only [layered, view, hk, Option.map_some, Option.some_or]
  · intro k hk
    rw [hcopy]
    refine (congrFun hview k).trans ?_
    rw [layered, view_eq_none.mpr hk, Option.none_or]
  · intro hfits hroom'
    rw [hcopy]
    exact Slots.fits_putAll (s := ⟨dest, destTbl⟩) hd hfits (hcount ▸ hroom')
  · rw [hcopy]
    refine (lftQmapCopy_none recSize _ src srcTbl).trans ?_
    rw [Slots.putAll_putAll hroom hsorted]

/-- `ssa_db_diff_new_qmap_recs` and the two copies agree, for every destination
whose offsets are those below its count. -/
theorem copyAgrees_epLftQmapCopy {dest : EpMap} (hd : Dense dest) (src : EpMap) :
    (∀ destTbl srcTbl, CopyAgrees epLftBlockQmapCopy dest destTbl src srcTbl) ∧
      ∀ destTbl srcTbl, CopyAgrees epLftTopQmapCopy dest destTbl src srcTbl :=
  ⟨fun destTbl srcTbl => copyAgrees_lftQmapCopy _ hd destTbl src srcTbl,
    fun destTbl srcTbl => copyAgrees_lftQmapCopy _ hd destTbl src srcTbl⟩

/-- Two records are there, keys 1 and 3, and two come, for keys 1 and 2. -/
theorem copyAgrees_epLftQmapCopy_two :
    ssaDbDiffNewQmapRecs (OrdMap.ofList [(3, 0), (1, 1)]) (OrdMap.ofList [(2, 0), (1, 1)]) = 1 ∧
      CopyAgrees epLftBlockQmapCopy (OrdMap.ofList [(3, 0), (1, 1)])
        (Buf.ofList default
          [⟨⟨3⟩, ⟨0⟩, Vector.replicate 64 3⟩, ⟨⟨1⟩, ⟨0⟩, Vector.replicate 64 1⟩])
        (OrdMap.ofList [(2, 0), (1, 1)])
        (Buf.ofList default
          [⟨⟨2⟩, ⟨0⟩, Vector.replicate 64 2⟩, ⟨⟨1⟩, ⟨0⟩, Vector.replicate 64 7⟩]) ∧
      CopyAgrees epLftTopQmapCopy (OrdMap.ofList [(3, 0), (1, 1)])
        (Buf.ofList default [⟨⟨3⟩, ⟨63⟩⟩, ⟨⟨1⟩, ⟨63⟩⟩]) (OrdMap.ofList [(2, 0), (1, 1)])
        (Buf.ofList default [⟨⟨2⟩, ⟨127⟩⟩, ⟨⟨1⟩, ⟨127⟩⟩]) := by
  have hagree := @copyAgrees_epLftQmapCopy (OrdMap.ofList [(3, 0), (1, 1)]) (by decide)
    (OrdMap.ofList [(2, 0), (1, 1)])
  exact ⟨by rw [ssaDbDiffNewQmapRecs_eq]; decide, hagree.1 _ _, hagree.2 _ _⟩

end Ibssa
