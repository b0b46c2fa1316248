import Ibssa.Core.Comparison
import Ibssa.Lib.Run

/-!
# The LFT stores

There are two kinds of LFT records, blocks and tops, and each kind has a
database and a dump of changes over it. `LftStore` is the two together, and
what is said here is said once for both kinds.

The dump is a store that is updated in place and grows by whole blocks of
`SSA_TABLE_BLOCK_SIZE` records when its count reaches a multiple of it. Its
capacity is nowhere recorded, but it is a multiple of the block size that is
not below the count, and that is all the growth rule needs: `DumpInv`. The
count starts again at zero when the dump is cleared and the capacity does not,
so the two are tied by nothing else.

Merging the dump into the database makes room for as many records as the dump
has new keys, which the code counts by a walk over both maps, and then puts the
dump's entries into the database one after the other.
-/

namespace Ibssa

open Keyed ByteOrder Machine

structure LftStore (α : Type) where
  db : Slots UInt64 α
  dump : Slots UInt64 α

namespace LftStore

/-- What the store knows of a key: the dump's record, or else the database's. -/
def look {α : Type} (s : LftStore α) : UInt64 → Option α := layered s.db.view s.dump.view

end LftStore

/-- The block records, and the top records, of an LFT database. -/
def SsaDbLft.blocks (l : SsaDbLft) : LftStore EpLftBlockTblRec :=
  ⟨⟨l.epDbLftBlockTbl, l.pDbLftBlockTbl⟩, ⟨l.epDumpLftBlockTbl, l.pDumpLftBlockTbl⟩⟩

def SsaDbLft.tops (l : SsaDbLft) : LftStore EpLftTopTblRec :=
  ⟨⟨l.epDbLftTopTbl, l.pDbLftTopTbl⟩, ⟨l.epDumpLftTopTbl, l.pDumpLftTopTbl⟩⟩

/-! ## Storing a change in the dump -/

section Dump

variable {α : Type}

/-- The dump's block when the next change is about to be stored. -/
def growDump (a : Addr) (junk : Nat → α) (s : Slots UInt64 α) : Slots UInt64 α :=
  if s.map.count % ssaTableBlockSize = 0 then
    ⟨s.map, s.buf.realloc a ((s.map.count / ssaTableBlockSize + 1) * ssaTableBlockSize) junk⟩
  else s

/-- Storing a change is a put, once there is room. -/
theorem dumpChange_eq (a : Addr) (junk : Nat → α) (s : Slots UInt64 α) (key : UInt64)
    (pRec : α) :
    (⟨(dumpChange a junk s.map s.buf key pRec).1, (dumpChange a junk s.map s.buf key pRec).2⟩ :
        Slots UInt64 α)
      = (growDump a junk s).put key pRec := by
  have hmap : (growDump a junk s).map = s.map := by
    rw [growDump]
    split <;> rfl
  have hbuf : (if s.map.count % ssaTableBlockSize = 0 then
        s.buf.realloc a ((s.map.count / ssaTableBlockSize + 1) * ssaTableBlockSize) junk
      else s.buf) = (growDump a junk s).buf := by
    rw [growDump]
    split <;> rfl
  rw [dumpChange, hbuf]
  cases hk : s.map.get? key with
  | some o =>
      rw [Slots.put_of_some _ (hmap ▸ hk), OrdMap.insert_of_mem _ hk, hk, Option.getD_some, hmap]
  | none =>
      rw [Slots.put_of_none _ (hmap ▸ hk), OrdMap.get?_insert_self _ hk, Option.getD_some, hmap]

/-- The dump: the slots in use are those below the count, and the capacity is a
multiple of the block size that covers them. -/
structure DumpInv (s : Slots UInt64 α) : Prop where
  dense : Dense s.map
  live : s.Live
  room : s.map.count ≤ s.buf.cap
  blocks : s.buf.cap % ssaTableBlockSize = 0
  fits : s.buf.fits = true

theorem lt_nextBlock (n : Nat) : n < (n / ssaTableBlockSize + 1) * ssaTableBlockSize := by
  unfold ssaTableBlockSize
  omega

theorem DumpInv.grow {s : Slots UInt64 α} (h : DumpInv s) (a : Addr) (junk : Nat → α) :
    DumpInv (growDump a junk s) ∧ (growDump a junk s).view = s.view ∧
      (growDump a junk s).map = s.map ∧ s.map.count < (growDump a junk s).buf.cap ∧
      (growDump a junk s).buf.isNull = false := by
  have hnext := lt_nextBlock s.map.count
  by_cases hfull : s.map.count % ssaTableBlockSize = 0
  · rw [growDump, if_pos hfull]
    refine ⟨⟨h.dense, Or.inr (Buf.isNull_realloc _ _ _ _), Nat.le_of_lt hnext,
      Nat.mul_mod_left _ _, h.fits⟩, ?_, rfl, hnext, Buf.isNull_realloc _ _ _ _⟩
    refine Slots.view_realloc h.live a junk fun o ho => ?_
    have hlt := h.dense.bounded o ho
    omega
  · -- the count is between two multiples, so there is a block, and room in it
    have hlt : s.map.count < s.buf.cap := by
      refine Nat.lt_of_le_of_ne h.room fun heq => hfull ?_
      rw [heq]
      exact h.blocks
    have hnull : s.buf.isNull = false := by
      rcases h.live with hzero | hnull
      · exact absurd (by rw [hzero, Nat.zero_mod]) hfull
      · exact hnull
    rw [growDump, if_neg hfull]
    exact ⟨h, rfl, rfl, hlt, hnull⟩

theorem DumpInv.change {s : Slots UInt64 α} (h : DumpInv s) (a : Addr) (junk : Nat → α)
    (key : UInt64) (pRec : α) :
    DumpInv ((growDump a junk s).put key pRec) ∧
      ((growDump a junk s).put key pRec).view = Function.update s.view key (some pRec) := by
  obtain ⟨hinv, hview, hmap, hlt, hnull⟩ := h.grow a junk
  have hcount : ((growDump a junk s).put key pRec).map.count ≤ (growDump a junk s).buf.cap := by
    cases hk : (growDump a junk s).map.get? key with
    | some o =>
        rw [Slots.put_of_some _ hk]
        exact hinv.room
    | none =>
        rw [Slots.put_of_none _ hk]
        show ((growDump a junk s).map.insert key _).count ≤ _
        rw [OrdMap.count_insert_of_none _ hk, hmap]
        omega
  refine ⟨⟨Slots.dense_put pRec hinv.dense, Or.inr ?_, ?_, ?_, ?_⟩, ?_⟩
  · rw [Slots.isNull_put]
    exact hnull
  · rw [Slots.cap_put]
    exact hcount
  · rw [Slots.cap_put]
    exact hinv.blocks
  · exact Slots.fits_put hinv.dense.bounded hinv.fits hcount
  · have hput := Slots.view_put (p := (key, pRec)) (Slots.Room.of_dense hinv.dense [(key, pRec)])
    rw [hview] at hput
    exact hput

end Dump

/-! ## Draining the queue

Each change record goes to one of the two dumps or to none, so to a dump the
queue is the list of the changes of its kind. -/

/-- The block changes, and the top changes, among some change records. -/
def changedBlocks (cs : List SsaDbLftChangeRec) : List (UInt64 × EpLftBlockTblRec) :=
  (cs.filter fun c => decide (c.flags = .block)).map fun c =>
    (lftChangeBlockKey c, lftChangeBlockRec c)

def changedTops (cs : List SsaDbLftChangeRec) : List (UInt64 × EpLftTopTblRec) :=
  (cs.filter fun c => decide (c.flags = .lftTop)).map fun c =>
    (lftChangeTopKey c, lftChangeTopRec c)

theorem changedBlocks_append (cs cs' : List SsaDbLftChangeRec) :
    changedBlocks (cs ++ cs') = changedBlocks cs ++ changedBlocks cs' := by
  rw [changedBlocks, List.filter_append, List.map_append]
  rfl

theorem changedTops_append (cs cs' : List SsaDbLftChangeRec) :
    changedTops (cs ++ cs') = changedTops cs ++ changedTops cs' := by
  rw [changedTops, List.filter_append, List.map_append]
  rfl

section Drain

variable {α : Type}

/-- Store some changes in the dump. -/
def LftStore.changeAll (a : Addr) (junk : Nat → α) (s : LftStore α) (l : List (UInt64 × α)) :
    LftStore α :=
  ⟨s.db, l.foldl (fun dump p => (growDump a junk dump).put p.1 p.2) s.dump⟩

theorem DumpInv.changeAll {s : LftStore α} (h : DumpInv s.dump) (a : Addr) (junk : Nat → α)
    (l : List (UInt64 × α)) :
    DumpInv (s.changeAll a junk l).dump ∧
      (s.changeAll a junk l).dump.view = overlay s.dump.view l := by
  refine loop_induction
    (P := fun l dump => DumpInv dump ∧ dump.view = overlay s.dump.view l) ⟨h, rfl⟩ ?_ l
  intro l p dump ⟨hinv, hview⟩
  obtain ⟨hinv', hview'⟩ := hinv.change a junk p.1 p.2
  refine ⟨hinv', ?_⟩
  rw [hview', hview, overlay_append]
  rfl

theorem look_changeAll {s : LftStore α} (h : DumpInv s.dump) (a : Addr) (junk : Nat → α)
    (l : List (UInt64 × α)) : (s.changeAll a junk l).look = overlay s.look l := by
  rw [LftStore.look, (h.changeAll a junk l).2, layered_overlay]
  rfl

end Drain

private theorem blocks_lftHandleChange (mem : Mem) (l : SsaDbLft) (c : SsaDbLftChangeRec) :
    (lftHandleChange mem l c).blocks
      = l.blocks.changeAll mem.addr mem.lftBlock (changedBlocks [c]) := by
  rw [lftHandleChange, changedBlocks]
  cases hc : c.flags with
  | block =>
      rw [List.filter_cons_of_pos (by rw [hc]; decide)]
      exact congrArg (LftStore.mk l.blocks.db) (dumpChange_eq _ _ l.blocks.dump _ _)
  | lftTop =>
      rw [List.filter_cons_of_neg (by rw [hc]; decide)]
      rfl
  | other flags =>
      rw [List.filter_cons_of_neg (by rw [hc]; simp)]
      rfl

private theorem tops_lftHandleChange (mem : Mem) (l : SsaDbLft) (c : SsaDbLftChangeRec) :
    (lftHandleChange mem l c).tops
      = l.tops.changeAll mem.addr mem.lftTop (changedTops [c]) := by
  rw [lftHandleChange, changedTops]
  cases hc : c.flags with
  | lftTop =>
      rw [List.filter_cons_of_pos (by rw [hc]; decide)]
      exact congrArg (LftStore.mk l.tops.db) (dumpChange_eq _ _ l.tops.dump _ _)
  | block =>
      rw [List.filter_cons_of_neg (by rw [hc]; decide)]
      rfl
  | other flags =>
      rw [List.filter_cons_of_neg (by rw [hc]; simp)]
      rfl

/-- Draining the queue stores its changes in the two dumps, in order. -/
theorem blocks_ssaDbLftHandle (mem : Mem) (ssaDb : SsaDatabase) :
    (ssaDbLftHandle mem ssaDb).pLftDb.blocks
      = ssaDb.pLftDb.blocks.changeAll mem.addr mem.lftBlock
          (changedBlocks ssaDb.lftRecList) := by
  refine loop_induction
    (P := fun cs (l : SsaDbLft) => l.blocks
      = ssaDb.pLftDb.blocks.changeAll mem.addr mem.lftBlock (changedBlocks cs)) rfl ?_
    ssaDb.lftRecList
  intro cs c l h
  rw [blocks_lftHandleChange, h, changedBlocks_append, LftStore.changeAll, LftStore.changeAll,
    LftStore.changeAll, List.foldl_append]

theorem tops_ssaDbLftHandle (mem : Mem) (ssaDb : SsaDatabase) :
    (ssaDbLftHandle mem ssaDb).pLftDb.tops
      = ssaDb.pLftDb.tops.changeAll mem.addr mem.lftTop (changedTops ssaDb.lftRecList) := by
  refine loop_induction
    (P := fun cs (l : SsaDbLft) => l.tops
      = ssaDb.pLftDb.tops.changeAll mem.addr mem.lftTop (changedTops cs)) rfl ?_
    ssaDb.lftRecList
  intro cs c l h
  rw [tops_lftHandleChange, h, changedTops_append, LftStore.changeAll, LftStore.changeAll,
    LftStore.changeAll, List.foldl_append]

/-! ## Counting the new keys

The walk counts an item of the new map when its key turns out not to be in the
old one, and what is left of the new map at the end is counted by a second
loop. -/

private theorem foldl_count {β : Type} (l : List β) (n : Nat) :
    l.foldl (fun newRecs _ => newRecs + 1) n = n + l.length := by
  induction l generalizing n with
  | nil => rfl
  | cons _ rest ih =>
      rw [List.foldl_cons, ih, List.length_cons]
      omega

/-- A key above the first one of a list is looked up behind it. -/
private theorem filter_find_cons {o : EpMapRec} {old new : List EpMapRec}
    (h : ∀ p ∈ new, o.1 < p.1) :
    (new.filter fun p => (OrdMap.find p.1 (o :: old)).isNone)
      = new.filter fun p => (OrdMap.find p.1 old).isNone := by
  refine List.filter_congr fun p hp => ?_
  rw [OrdMap.find_cons, if_neg (ne_of_lt (h p hp))]

theorem newQmapRecsBoth_eq (old new : List EpMapRec) (n : Nat)
    (ho : old.Pairwise fun a b => a.1 < b.1) (hn : new.Pairwise fun a b => a.1 < b.1) :
    (newQmapRecsBoth old new n).2 + (newQmapRecsBoth old new n).1.length
      = n + (new.filter fun p => (OrdMap.find p.1 old).isNone).length := by
  induction old, new, n using newQmapRecsBoth.induct with
  | case1 new n =>
      have hall : (new.filter fun p => (OrdMap.find p.1 ([] : List EpMapRec)).isNone) = new :=
        List.filter_eq_self.mpr fun _ _ => rfl
      rw [newQmapRecsBoth, hall]
  | case2 o old n =>
      rw [newQmapRecsBoth]
      rfl
  | case3 o old q new n hlt ih =>
      have hall : ∀ p ∈ q :: new, o.1 < p.1 := by
        intro p hp
        rcases List.mem_cons.mp hp with rfl | hp
        · exact hlt
        · exact lt_trans hlt ((List.pairwise_cons.mp hn).1 p hp)
      rw [newQmapRecsBoth, if_pos hlt, ih (List.pairwise_cons.mp ho).2 hn,
        filter_find_cons hall]
  | case4 o old q new n hge hlt ih =>
      have hnone : OrdMap.find q.1 (o :: old) = none := by
        rw [OrdMap.find_eq_none]
        intro p hp
        rcases List.mem_cons.mp hp with rfl | hp
        · exact ne_of_gt hlt
        · exact ne_of_gt (lt_trans hlt ((List.pairwise_cons.mp ho).1 p hp))
      rw [newQmapRecsBoth, if_neg hge, if_pos hlt, ih ho (List.pairwise_cons.mp hn).2,
        List.filter_cons_of_pos (by rw [hnone]; rfl), List.length_cons]
      omega
  | case5 o old q new n hge hle ih =>
      have heq : o.1 = q.1 := le_antisymm (not_lt.mp hle) (not_lt.mp hge)
      have hall : ∀ p ∈ new, o.1 < p.1 := by
        intro p hp
        rw [heq]
        exact (List.pairwise_cons.mp hn).1 p hp
      have hskip : ((q :: new).filter fun p => (OrdMap.find p.1 (o :: old)).isNone)
          = new.filter fun p => (OrdMap.find p.1 (o :: old)).isNone := by
        refine List.filter_cons_of_neg ?_
        rw [OrdMap.find_cons, if_pos heq]
        simp
      rw [newQmapRecsBoth, if_neg hge, if_neg hle,
        ih (List.pairwise_cons.mp ho).2 (List.pairwise_cons.mp hn).2, hskip,
        filter_find_cons hall]

/-- `ssa_db_diff_new_qmap_recs` counts the keys that are new. -/
theorem ssaDbDiffNewQmapRecs_eq (pMapOld pMapNew : EpMap) :
    ssaDbDiffNewQmapRecs pMapOld pMapNew = (Slots.newKeys pMapOld pMapNew.items).length := by
  rw [ssaDbDiffNewQmapRecs, foldl_count, newQmapRecsBoth_eq _ _ _ pMapOld.sorted pMapNew.sorted,
    Nat.zero_add]
  rfl

/-! ## Merging the dump into the database -/

section Merge

variable {α : Type}

/-- A copy between LFT stores puts the entries of one into the other. -/
theorem lftQmapCopy_none (recSize : Nat) (s : Slots UInt64 α) (m : EpMap) (tbl : Buf α) :
    lftQmapCopy recSize s.map none s.buf m tbl
      = ⟨(s.putAll (entries m tbl)).map, none, (s.putAll (entries m tbl)).buf⟩ := by
  rw [lftQmapCopy, entries]
  induction m.items generalizing s with
  | nil => rfl
  | cons p rest ih =>
      have hstep : lftQmapCopyRec recSize tbl ⟨s.map, none, s.buf⟩ p
          = ⟨(s.put p.1 (tbl.cell p.2)).map, none, (s.put p.1 (tbl.cell p.2)).buf⟩ := by
        rw [lftQmapCopyRec]
        cases hk : s.map.get? p.1 with
        | some o => rw [Slots.put_of_some _ hk]
        | none =>
            rw [Slots.put_of_none _ hk]
            rfl
      rw [List.foldl_cons, hstep, ih]
      rfl

/-- The new keys of a list of entries are those of the map they come from. -/
theorem length_newKeys_of_entries (dest src : EpMap) (srcTbl : Buf α) :
    (Slots.newKeys dest (entries src srcTbl)).length = ssaDbDiffNewQmapRecs dest src := by
  rw [ssaDbDiffNewQmapRecs_eq, Slots.newKeys, Slots.newKeys, entries, List.filter_map,
    List.length_map]
  rfl

/-- The database with room for the keys the dump brings. -/
def growDb (a : Addr) (junk : Nat → α) (s : LftStore α) : Slots UInt64 α :=
  ⟨s.db.map, growLftTbl a junk s.db.map s.dump.map s.db.buf⟩

def LftStore.merge (a : Addr) (junk : Nat → α) (s : LftStore α) : LftStore α where
  db := (growDb a junk s).putAll (entries s.dump.map s.dump.buf)
  dump := ⟨OrdMap.empty, s.dump.buf⟩

/-- What `ssa_db_compare` leaves of a table, its map and its dump's map. -/
private theorem merge_eq (recSize : Nat) (a : Addr) (junk : Nat → α) (s : LftStore α) :
    let r := lftQmapCopy recSize s.db.map none
      (growLftTbl a junk s.db.map s.dump.map s.db.buf) s.dump.map s.dump.buf
    (⟨⟨r.pDestQmap, r.pDestTbl⟩, ⟨epQmapClear s.dump.map, s.dump.buf⟩⟩ : LftStore α)
      = s.merge a junk := by
  have hcopy := lftQmapCopy_none recSize (growDb a junk s) s.dump.map s.dump.buf
  intro r
  have hr : r = ⟨((growDb a junk s).putAll (entries s.dump.map s.dump.buf)).map, none,
      ((growDb a junk s).putAll (entries s.dump.map s.dump.buf)).buf⟩ := hcopy
  rw [hr]
  rfl

theorem blocks_mergeLftDump (mem : Mem) (l : SsaDbLft) :
    (mergeLftDump mem l).blocks = l.blocks.merge mem.addr mem.lftBlock :=
  merge_eq SsaTableId.lftBlock.recSize mem.addr mem.lftBlock l.blocks

theorem tops_mergeLftDump (mem : Mem) (l : SsaDbLft) :
    (mergeLftDump mem l).tops = l.tops.merge mem.addr mem.lftTop :=
  merge_eq SsaTableId.lftTop.recSize mem.addr mem.lftTop l.tops

/-- How many records a merge appends. -/
def LftStore.newRecs (s : LftStore α) : Nat := ssaDbDiffNewQmapRecs s.db.map s.dump.map

theorem length_newKeys_entries (s : LftStore α) :
    (Slots.newKeys s.db.map (entries s.dump.map s.dump.buf)).length = s.newRecs :=
  length_newKeys_of_entries s.db.map s.dump.map s.dump.buf

theorem growDb_of_pos {s : LftStore α} (a : Addr) (junk : Nat → α) (h : 0 < s.newRecs) :
    growDb a junk s
      = ⟨s.db.map, s.db.buf.realloc a (s.db.map.count + s.newRecs) junk⟩ := by
  rw [growDb, growLftTbl]
  exact congrArg (Slots.mk s.db.map) (if_pos h)

theorem growDb_of_zero {s : LftStore α} (a : Addr) (junk : Nat → α) (h : s.newRecs = 0) :
    growDb a junk s = s.db := by
  rw [growDb, growLftTbl]
  exact congrArg (Slots.mk s.db.map) (if_neg (by rw [← LftStore.newRecs, h]; decide))

/-- The dump's keys can be merged: each has a slot of its own, or there is
none that the next free slots could collide with. -/
def LftStore.MergeRoom (s : LftStore α) : Prop :=
  s.db.Room (entries s.dump.map s.dump.buf)

/-- When every key of the dump is in the database, none is new. -/
theorem newRecs_eq_zero {s : LftStore α}
    (h : ∀ p ∈ entries s.dump.map s.dump.buf, (s.db.map.get? p.1).isSome) : s.newRecs = 0 := by
  rw [← length_newKeys_entries, Slots.newKeys, List.length_eq_zero_iff, List.filter_eq_nil_iff]
  intro p hp hnone
  have hsome := h p hp
  rw [Option.isNone_iff_eq_none.mp hnone] at hsome
  cases hsome

theorem view_growDb {s : LftStore α} (hroom : s.MergeRoom) (hlive : s.db.Live) (a : Addr)
    (junk : Nat → α) : (growDb a junk s).view = s.db.view := by
  rcases Nat.eq_zero_or_pos s.newRecs with hzero | hpos
  · rw [growDb_of_zero a junk hzero]
  · rw [growDb_of_pos a junk hpos]
    have hb : Bounded s.db.map := by
      rcases hroom.2 with hall | hb
      · have := newRecs_eq_zero hall
        omega
      · exact hb
    refine Slots.view_realloc hlive a junk fun o ho => ?_
    have hlt := hb o ho
    omega

/-- Merging overlays the database with the dump. -/
theorem view_merge {s : LftStore α} (hroom : s.MergeRoom) (hlive : s.db.Live) (a : Addr)
    (junk : Nat → α) : (s.merge a junk).db.view = s.look := by
  have hput : ((growDb a junk s).putAll (entries s.dump.map s.dump.buf)).view
      = overlay (growDb a junk s).view (entries s.dump.map s.dump.buf) :=
    Slots.view_putAll hroom
  rw [view_growDb hroom hlive, overlay_entries] at hput
  exact hput

theorem look_merge {s : LftStore α} (hroom : s.MergeRoom) (hlive : s.db.Live) (a : Addr)
    (junk : Nat → α) : (s.merge a junk).look = s.look := by
  have hview := view_merge hroom hlive a junk
  rw [LftStore.look, hview]
  rfl

/-- Merged into an empty database, the dump is all there is. -/
theorem view_merge_of_empty {s : LftStore α} (h : s.db.map = OrdMap.empty) (hlive : s.db.Live)
    (a : Addr) (junk : Nat → α) : (s.merge a junk).db.view = s.dump.view := by
  have hdense : Dense s.db.map := by
    rw [h]
    exact dense_empty
  rw [view_merge (Slots.Room.of_dense hdense _) hlive, LftStore.look, Slots.view, h, view_empty,
    layered_none_left]

/-- A merge of an empty dump does not touch the map of the database. -/
theorem map_merge_of_empty {s : LftStore α} (h : s.dump.map = OrdMap.empty) (a : Addr)
    (junk : Nat → α) : (s.merge a junk).db.map = s.db.map := by
  rw [LftStore.merge, h]
  rfl

theorem count_merge (s : LftStore α) (a : Addr) (junk : Nat → α) :
    (s.merge a junk).db.map.count = s.db.map.count + s.newRecs := by
  have hcount := Slots.count_putAll (s := growDb a junk s)
    (entries_sorted s.dump.map s.dump.buf)
  rw [show (growDb a junk s).map = s.db.map from rfl, length_newKeys_entries] at hcount
  exact hcount

theorem live_merge {s : LftStore α} (hlive : s.db.Live) (a : Addr) (junk : Nat → α) :
    (s.merge a junk).db.Live := by
  have hnull : (s.merge a junk).db.buf.isNull = (growDb a junk s).buf.isNull :=
    Slots.isNull_putAll _ _
  rw [Slots.Live, count_merge, hnull]
  rcases Nat.eq_zero_or_pos s.newRecs with hzero | hpos
  · rw [growDb_of_zero a junk hzero, hzero]
    exact hlive
  · rw [growDb_of_pos a junk hpos]
    exact Or.inr (Buf.isNull_realloc _ _ _ _)

/-- The database: the slots in use are those below the count. -/
structure DbInv (s : Slots UInt64 α) : Prop where
  dense : Dense s.map
  live : s.Live

/-- Its block covers them, and has been written inside. -/
structure DbRoom (s : Slots UInt64 α) : Prop where
  room : s.map.count ≤ s.buf.cap
  fits : s.buf.fits = true

theorem DbInv.merge {s : LftStore α} (h : DbInv s.db) (a : Addr) (junk : Nat → α) :
    DbInv (s.merge a junk).db :=
  ⟨Slots.dense_putAll _ h.dense, live_merge h.live a junk⟩

theorem DbInv.mergeRoom {s : LftStore α} (h : DbInv s.db) : s.MergeRoom :=
  Slots.Room.of_dense h.dense _

theorem DbRoom.merge {s : LftStore α} (h : DbRoom s.db) (hinv : DbInv s.db) (a : Addr)
    (junk : Nat → α) : DbRoom (s.merge a junk).db := by
  have hcap : (s.merge a junk).db.buf.cap = (growDb a junk s).buf.cap := Slots.cap_putAll _ _
  have hroom : s.db.map.count + s.newRecs ≤ (growDb a junk s).buf.cap := by
    rcases Nat.eq_zero_or_pos s.newRecs with hzero | hpos
    · rw [growDb_of_zero a junk hzero, hzero]
      exact h.room
    · rw [growDb_of_pos a junk hpos]
      exact Nat.le_refl _
  have hfits : (growDb a junk s).buf.fits = true := by
    rcases Nat.eq_zero_or_pos s.newRecs with hzero | hpos
    · rw [growDb_of_zero a junk hzero]
      exact h.fits
    · rw [growDb_of_pos a junk hpos]
      exact h.fits
  refine ⟨?_, ?_⟩
  · rw [count_merge, hcap]
    exact hroom
  · refine Slots.fits_putAll hinv.dense hfits ?_
    have hcount := count_merge s a junk
    rw [LftStore.merge] at hcount
    rw [hcount]
    exact hroom

end Merge

end Ibssa
