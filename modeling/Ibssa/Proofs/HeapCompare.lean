import Ibssa.Proofs.Heap

/-!
# A comparison and the memory it works in

`ssa_db_compare` builds a diff that `ssa_db_run` destroys as soon as it has been
pushed, so a comparison ends with the blocks it began with, but for what the
merge of the LFT dump has moved: items for the keys that are new to the database,
none in the dump, and tables that have grown. That nothing is lost on the way
has two reasons. The walks put every key into a map once, as the maps they walk
over are ordered; and the copies between LFT maps look the key up first.
-/

namespace Ibssa.Heap

open Lifetime Keyed ByteOrder Machine
open Lifetime.Ledger (Trades)
open Alloc (Ptr)

/-! ## The diff and its SMDB -/

def smdbBlocks : Option Alloc.SsaDb → List (Block UInt64)
  | none => []
  | some p => p.held p.dataTblCnt []

def SsaDbDiff.items (d : SsaDbDiff) : List (Block UInt64) :=
  d.epGuidToLidTblAdded.blocks ++ (d.epGuidToLidTblRemoved.blocks ++ (d.epNodeTblAdded.blocks ++
    (d.epNodeTblRemoved.blocks ++ (d.epPortTblAdded.blocks ++ (d.epPortTblRemoved.blocks ++
      (d.epLinkTblAdded.blocks ++ (d.epLinkTblRemoved.blocks ++ (d.epLftBlockTbl.blocks ++
        d.epLftTopTbl.blocks))))))))

def SsaDbDiff.blocks (d : SsaDbDiff) : List (Block UInt64) :=
  smdbBlocks d.pSmdb ++ (d.items ++ [d.pSsaDbDiff])

theorem held_append (p : Alloc.SsaDb) (len : UInt64) (owned : List (Block UInt64)) :
    p.held len owned = p.held len [] ++ owned := by
  simp only [Alloc.SsaDb.held, Alloc.SsaDb.held8, Alloc.SsaDb.held7, Alloc.SsaDb.held6,
    Alloc.SsaDb.held5, Alloc.SsaDb.held4, Alloc.SsaDb.held3, Alloc.SsaDb.held2,
    List.append_assoc, List.append_nil]

theorem trades_ssaDbDestroy (p : Option Alloc.SsaDb) (l : Ledger UInt64) :
    Trades l (Alloc.ssaDbDestroy p l) (smdbBlocks p) [] 0 := by
  intro owned h
  refine ⟨[], rfl, ?_⟩
  rw [List.append_nil]
  cases p with
  | none => exact h
  | some p =>
      rw [smdbBlocks, ← held_append] at h
      exact Alloc.ssaDbDestroy_holds h rfl

theorem trades_ssaDbSmdbInit (host : Host) (numRecs : List Nat) (l : Ledger UInt64) :
    Trades l (ssaDbSmdbInit host numRecs l).2 []
      (smdbBlocks (ssaDbSmdbInit host numRecs l).1) 0 := by
  intro owned h
  refine ⟨[], rfl, ?_⟩
  have hout : Alloc.Outcome (UInt64.ofNat ssaTableIdMax) owned l (ssaDbSmdbInit host numRecs l) :=
    Alloc.ssaDbCreate_outcome h
  rw [Alloc.Outcome] at hout
  generalize ssaDbSmdbInit host numRecs l = r at hout ⊢
  obtain ⟨db, l'⟩ := r
  rw [List.append_nil]
  cases db with
  | none => exact hout
  | some db =>
      obtain ⟨hheld, -, hcnt⟩ := hout
      rw [smdbBlocks, ← held_append, hcnt]
      exact hheld

theorem trades_ssaDbDiffInit (host : Host) (numRecs : List Nat) (l : Ledger UInt64) :
    Trades l (ssaDbDiffInit host numRecs l).2 [] (ssaDbDiffInit host numRecs l).1.blocks 0 := by
  refine ((Trades.get host.ssaDbDiff l).par (trades_ssaDbSmdbInit host numRecs _)).perm
    (List.Perm.refl _) ?_
  exact List.perm_append_comm

theorem trades_ssaDbDiffDestroy (d : SsaDbDiff) (l : Ledger UInt64) :
    Trades l (ssaDbDiffDestroy d l) d.blocks [] 0 := by
  have hmaps : Trades (Alloc.ssaDbDestroy d.pSmdb l) (ssaDbDiffDestroy d l)
      (d.items ++ [d.pSsaDbDiff]) [] 0 := by
    simp only [SsaDbDiff.items, List.append_assoc]
    exact Items.drop_then (Items.drop_then (Items.drop_then (Items.drop_then (Items.drop_then
      (Items.drop_then (Items.drop_then (Items.drop_then (Items.drop_then (Items.drop_then
        (Trades.free (some _) _))))))))))
  exact ((trades_ssaDbDestroy d.pSmdb l).frame _).trans hmaps

/-! ## The walks -/

section Walks

variable (host : Host)

def TblDiff.items (st : TblDiff) : List (Block UInt64) :=
  st.pMapAdded.blocks ++ st.pMapRemoved.blocks

/-- Keys that are put into a map once each are all new to it. -/
theorem trades_walkOps (ops : List (WalkOp UInt64 Nat)) (st : TblDiff)
    (hremoved : ((removedOf ops).map Prod.fst).Nodup)
    (hadded : ((addedOf ops).map Prod.fst).Nodup)
    (hold : ∀ k ∈ (removedOf ops).map Prod.fst, k ∉ st.pMapRemoved.keys)
    (hnew : ∀ k ∈ (addedOf ops).map Prod.fst, k ∉ st.pMapAdded.keys) :
    Trades st.ledger
      (ops.foldl (WalkOp.apply (TblDiff.remove host) (TblDiff.add host)) st).ledger st.items
      (ops.foldl (WalkOp.apply (TblDiff.remove host) (TblDiff.add host)) st).items 0 := by
  induction ops generalizing st with
  | nil => exact Trades.refl _ _
  | cons op ops ih =>
      cases op with
      | remove p =>
          rw [removedOf, List.map_cons] at hremoved hold
          obtain ⟨hp, hrest⟩ := List.nodup_cons.mp hremoved
          have hnone := OrdMap.get?_eq_none.mpr (hold p.1 List.mem_cons_self)
          have hitem := Items.trades_add host.epMapRec st.ledger hnone
          have hround : Trades st.ledger (st.remove host p).ledger st.items
              (st.remove host p).items 0 :=
            (hitem.frame st.pMapAdded.blocks).perm List.perm_append_comm List.perm_append_comm
          refine hround.trans (ih (st.remove host p) hrest hadded ?_ hnew)
          intro k hk hmem
          rcases (Items.mem_keys_insert _).mp hmem with rfl | hmem
          · exact hp hk
          · exact hold k (List.mem_cons_of_mem _ hk) hmem
      | add p =>
          rw [addedOf, List.map_cons] at hadded hnew
          obtain ⟨hp, hrest⟩ := List.nodup_cons.mp hadded
          have hnone := OrdMap.get?_eq_none.mpr (hnew p.1 List.mem_cons_self)
          have hround : Trades st.ledger (st.add host p).ledger st.items (st.add host p).items 0 :=
            (Items.trades_add host.epMapRec st.ledger hnone).frame st.pMapRemoved.blocks
          refine hround.trans (ih (st.add host p) hremoved hrest hold ?_)
          intro k hk hmem
          rcases (Items.mem_keys_insert _).mp hmem with rfl | hmem
          · exact hp hk
          · exact hnew k (List.mem_cons_of_mem _ hk) hmem

theorem trades_tableCmp (cmp : EpMapRec → EpMapRec → Bool) (pMapOld pMapNew : EpMap)
    (l : Ledger UInt64) :
    Trades l (tableCmp host cmp pMapOld pMapNew ⟨OrdMap.empty, OrdMap.empty, l⟩).ledger []
      (tableCmp host cmp pMapOld pMapNew ⟨OrdMap.empty, OrdMap.empty, l⟩).items 0 := by
  rw [tableCmp, walk_eq]
  exact trades_walkOps host _ ⟨OrdMap.empty, OrdMap.empty, l⟩
    (removed_keys_nodup pMapOld.sorted pMapNew.sorted)
    (added_keys_nodup pMapOld.sorted pMapNew.sorted) (fun _ _ hk => absurd hk List.not_mem_nil)
    (fun _ _ hk => absurd hk List.not_mem_nil)

end Walks

/-! ## Copies between LFT maps -/

section Copies

variable (host : Host)

/-- A key is looked up before an item is made for it. -/
theorem trades_lftQmapCopyRec (st : QMap × Ledger UInt64) (key : UInt64) :
    Trades st.2 (lftQmapCopyRec host st key).2 st.1.blocks
      (lftQmapCopyRec host st key).1.blocks 0 := by
  rw [lftQmapCopyRec]
  cases hk : st.1.get? key with
  | some b => exact Trades.refl _ _
  | none => exact Items.trades_add _ st.2 hk

theorem trades_lftQmapCopy (pDestQmap pSrcQmap : QMap) (l : Ledger UInt64) :
    Trades l (lftQmapCopy host pDestQmap pSrcQmap l).2 pDestQmap.blocks
      (lftQmapCopy host pDestQmap pSrcQmap l).1.blocks 0 := by
  have hkeys : ∀ (keys : List UInt64) (st : QMap × Ledger UInt64),
      Trades st.2 (keys.foldl (lftQmapCopyRec host) st).2 st.1.blocks
        (keys.foldl (lftQmapCopyRec host) st).1.blocks 0 := by
    intro keys
    induction keys with
    | nil => exact fun st => Trades.refl _ _
    | cons key keys ih => exact fun st => (trades_lftQmapCopyRec host st key).trans (ih _)
  exact hkeys pSrcQmap.keys (pDestQmap, l)

variable {α : Type} {t : SsaTableId}

theorem lftQmapCopyRec_mirrors {st : QMap × Ledger UInt64} {p : Ptr} {v : LftCopy α}
    (hkeys : st.1.keys = v.pDestQmap.keys) (hlies : Lies t p v.pDestTbl) (recSize : Nat)
    (pSrcTbl : Buf α) (pMapRec : EpMapRec) :
    (lftQmapCopyRec host st pMapRec.1).1.keys
        = (Ibssa.lftQmapCopyRec recSize pSrcTbl v pMapRec).pDestQmap.keys ∧
      Lies t p (Ibssa.lftQmapCopyRec recSize pSrcTbl v pMapRec).pDestTbl := by
  have hthere := Items.isNone_get?_congr hkeys pMapRec.1
  rw [lftQmapCopyRec, Ibssa.lftQmapCopyRec]
  cases hv : v.pDestQmap.get? pMapRec.1 with
  | some offset =>
      rw [hv] at hthere
      obtain ⟨b, hb⟩ := Option.isSome_iff_exists.mp hthere
      rw [hb]
      exact ⟨hkeys, hlies.write _ _⟩
  | none =>
      rw [hv] at hthere
      have hb : st.1.get? pMapRec.1 = none := by simpa using hthere
      rw [hb]
      exact ⟨Items.keys_insert_congr _ _ _ hkeys, hlies.write _ _⟩

/-- The copy makes an item where the copy of the data makes an entry. -/
theorem lftQmapCopy_mirrors {dest src : QMap} {p : Ptr} {vdest vsrc : EpMap} {vtbl : Buf α}
    (hdest : dest.keys = vdest.keys) (hsrc : src.keys = vsrc.keys) (hlies : Lies t p vtbl)
    (l : Ledger UInt64) (recSize : Nat) (ds : Option DbDataset) (pSrcTbl : Buf α) :
    (lftQmapCopy host dest src l).1.keys
        = (Ibssa.lftQmapCopy recSize vdest ds vtbl vsrc pSrcTbl).pDestQmap.keys ∧
      Lies t p (Ibssa.lftQmapCopy recSize vdest ds vtbl vsrc pSrcTbl).pDestTbl := by
  have hitems : vsrc.keys = vsrc.items.map Prod.fst := rfl
  rw [lftQmapCopy, Ibssa.lftQmapCopy, hsrc, hitems, List.foldl_map]
  exact List.foldl_rel
    (r := fun (st : QMap × Ledger UInt64) (v : LftCopy α) =>
      st.1.keys = v.pDestQmap.keys ∧ Lies t p v.pDestTbl)
    ⟨hdest, hlies⟩ fun pMapRec _ _ _ hr =>
      lftQmapCopyRec_mirrors host hr.1 hr.2 recSize pSrcTbl pMapRec

theorem trades_growLftTbl (map : QMap) (newRecs : Nat) (tbl : Ptr) (l : Ledger UInt64) :
    Trades l (growLftTbl t map newRecs tbl l).2 tbl.toList
      (growLftTbl t map newRecs tbl l).1.toList 0 := by
  rw [growLftTbl]
  split
  · exact Trades.regrow tbl _ l
  · exact Trades.refl l _

theorem growLftTbl_mirrors {map : QMap} {tbl : Ptr} {vmap : EpMap} {vtbl : Buf α}
    (hkeys : map.keys = vmap.keys) (hlies : Lies t tbl vtbl) (vdump : EpMap) (l : Ledger UInt64)
    (a : Addr) (junk : Nat → α) :
    Lies t (growLftTbl t map (ssaDbDiffNewQmapRecs vmap vdump) tbl l).1
      (Ibssa.growLftTbl a junk vmap vdump vtbl) := by
  rw [growLftTbl, Ibssa.growLftTbl, Items.count_of_keys_eq hkeys]
  dsimp only
  split
  · exact lies_realloc tbl l vtbl a _ junk
  · exact hlies

theorem mergeLftDump_spec {p : SsaDbLft} {d : Ibssa.SsaDbLft} (hp : p.Mirrors d) (mem : Mem)
    (l : Ledger UInt64) :
    (mergeLftDump host d p l).1.Mirrors (Ibssa.mergeLftDump mem d) ∧
      Trades l (mergeLftDump host d p l).2 p.blocks (mergeLftDump host d p l).1.blocks 0 := by
  rw [mergeLftDump, Ibssa.mergeLftDump]
  dsimp only
  have hlies₁ := growLftTbl_mirrors hp.epDbLftTopTbl hp.pDbLftTopTbl d.epDumpLftTopTbl l mem.addr
    mem.lftTop
  have hgrow₁ := trades_growLftTbl (t := .lftTop) p.epDbLftTopTbl
    (ssaDbDiffNewQmapRecs d.epDbLftTopTbl d.epDumpLftTopTbl) p.pDbLftTopTbl l
  generalize growLftTbl .lftTop p.epDbLftTopTbl
    (ssaDbDiffNewQmapRecs d.epDbLftTopTbl d.epDumpLftTopTbl) p.pDbLftTopTbl l = top
    at hlies₁ hgrow₁ ⊢
  have hlies₂ := growLftTbl_mirrors hp.epDbLftBlockTbl hp.pDbLftBlockTbl d.epDumpLftBlockTbl top.2
    mem.addr mem.lftBlock
  have hgrow₂ := trades_growLftTbl (t := .lftBlock) p.epDbLftBlockTbl
    (ssaDbDiffNewQmapRecs d.epDbLftBlockTbl d.epDumpLftBlockTbl) p.pDbLftBlockTbl top.2
  generalize growLftTbl .lftBlock p.epDbLftBlockTbl
    (ssaDbDiffNewQmapRecs d.epDbLftBlockTbl d.epDumpLftBlockTbl) p.pDbLftBlockTbl top.2 = block
    at hlies₂ hgrow₂ ⊢
  obtain ⟨hblocks, hblockTbl⟩ := lftQmapCopy_mirrors host hp.epDbLftBlockTbl
    hp.epDumpLftBlockTbl hlies₂ block.2 SsaTableId.lftBlock.recSize none d.pDumpLftBlockTbl
  have hcopy₁ := trades_lftQmapCopy host p.epDbLftBlockTbl p.epDumpLftBlockTbl block.2
  generalize lftQmapCopy host p.epDbLftBlockTbl p.epDumpLftBlockTbl block.2 = blockItems
    at hblocks hcopy₁ ⊢
  obtain ⟨htops, htopTbl⟩ := lftQmapCopy_mirrors host hp.epDbLftTopTbl hp.epDumpLftTopTbl
    hlies₁ blockItems.2 SsaTableId.lftTop.recSize none d.pDumpLftTopTbl
  have hcopy₂ := trades_lftQmapCopy host p.epDbLftTopTbl p.epDumpLftTopTbl blockItems.2
  generalize lftQmapCopy host p.epDbLftTopTbl p.epDumpLftTopTbl blockItems.2 = topItems
    at htops hcopy₂ ⊢
  refine ⟨{ hp with
    pDbLftTopTbl := htopTbl
    pDbLftBlockTbl := hblockTbl
    epDbLftBlockTbl := hblocks
    epDbLftTopTbl := htops
    epDumpLftBlockTbl := rfl
    epDumpLftTopTbl := rfl }, ?_⟩
  have hclear := (Items.trades_drop p.epDumpLftBlockTbl topItems.2).par
    (Items.trades_drop p.epDumpLftTopTbl _)
  refine ((hgrow₁.par (hgrow₂.par (hcopy₁.par (hcopy₂.par hclear)))).frame
    (p.pDumpLftBlockTbl.toList ++ (p.pDumpLftTopTbl.toList ++ [p.pLftDb]))).perm
    (perm_of_count fun b => ?_) (perm_of_count fun b => ?_)
  · simp only [SsaDbLft.blocks, SsaDbLft.items, SsaDbLft.tables, List.count_append]
    omega
  · simp only [SsaDbLft.blocks, SsaDbLft.items, SsaDbLft.tables, Items.blocks_empty,
      List.count_append, List.count_nil]
    omega

end Copies

/-! ## `ssa_db_compare` -/

section Compare

variable (host : Host) (mem : Mem)

theorem trades_ssaDbDiffCompareSubnetTables (numRecs : List Nat)
    (pPreviousDb pCurrentDb : Ibssa.SsaDbExtract) (l₀ l : Ledger UInt64) :
    let d := (ssaDbDiffInit host numRecs l₀).1
    let r := ssaDbDiffCompareSubnetTables host mem pPreviousDb pCurrentDb d l
    Trades l r.2 d.blocks r.1.blocks 0 ∧ r.1.epLftBlockTbl = OrdMap.empty ∧
      r.1.epLftTopTbl = OrdMap.empty := by
  intro d r
  refine ⟨?_, rfl, rfl⟩
  have hwalks := (trades_tableCmp host (fun pItemOld pItemNew => ssaDbGuidToLidCmp pItemOld
      pPreviousDb.pGuidToLidTbl pItemNew pCurrentDb.pGuidToLidTbl)
      pPreviousDb.epGuidToLidTbl pCurrentDb.epGuidToLidTbl l).par
    ((trades_tableCmp host (fun pItemOld pItemNew => ssaDbNodeCmp pItemOld pPreviousDb.pNodeTbl
      pItemNew pCurrentDb.pNodeTbl) pPreviousDb.epNodeTbl pCurrentDb.epNodeTbl _).par
    ((trades_tableCmp host (fun pItemOld pItemNew => ssaDbLinkCmp pItemOld pPreviousDb.pLinkTbl
      pItemNew pCurrentDb.pLinkTbl) pPreviousDb.epLinkTbl pCurrentDb.epLinkTbl _).par
    (trades_tableCmp host (fun pItemOld pItemNew => ssaDbPortCmp mem pItemOld
      pPreviousDb.pPortTbl pPreviousDb.pPkeyTbl pItemNew pCurrentDb.pPortTbl pCurrentDb.pPkeyTbl)
      pPreviousDb.epPortTbl pCurrentDb.epPortTbl _)))
  refine (hwalks.frame d.blocks).perm (List.Perm.refl _) (perm_of_count fun b => ?_)
  simp only [d, r, ssaDbDiffCompareSubnetTables, ssaDbDiffInit, SsaDbDiff.blocks, SsaDbDiff.items,
    TblDiff.items, Items.blocks_empty, List.count_append, List.count_nil]
  omega

theorem trades_lftIntoDiff (d : SsaDbDiff) (blockMap topMap : QMap) (l : Ledger UInt64) :
    Trades l (lftIntoDiff host d blockMap topMap l).2 d.blocks
      (lftIntoDiff host d blockMap topMap l).1.blocks 0 := by
  rw [lftIntoDiff]
  dsimp only
  refine (((trades_lftQmapCopy host d.epLftBlockTbl blockMap l).par
    (trades_lftQmapCopy host d.epLftTopTbl topMap _)).frame
    (smdbBlocks d.pSmdb ++ (d.epGuidToLidTblAdded.blocks ++ (d.epGuidToLidTblRemoved.blocks ++
      (d.epNodeTblAdded.blocks ++ (d.epNodeTblRemoved.blocks ++ (d.epPortTblAdded.blocks ++
        (d.epPortTblRemoved.blocks ++ (d.epLinkTblAdded.blocks ++ (d.epLinkTblRemoved.blocks ++
          [d.pSsaDbDiff])))))))))).perm (perm_of_count fun b => ?_) (perm_of_count fun b => ?_)
  all_goals
    simp only [SsaDbDiff.blocks, SsaDbDiff.items, List.count_append]
    omega

variable {m : Memory} {ssaDb : Ibssa.SsaDatabase} (firstTimeSubnetUp : Bool)

theorem buildDiff_spec (hm : m.Mirrors ssaDb) :
    (buildDiff host mem firstTimeSubnetUp ssaDb m).2.Mirrors
        { ssaDb with pLftDb := (Ibssa.buildDiff mem firstTimeSubnetUp ssaDb).2 } ∧
      Trades m.ledger (buildDiff host mem firstTimeSubnetUp ssaDb m).2.ledger m.blocks
        ((buildDiff host mem firstTimeSubnetUp ssaDb m).1.blocks ++
          (buildDiff host mem firstTimeSubnetUp ssaDb m).2.blocks) 0 := by
  have hinit := trades_ssaDbDiffInit host (numRecsArr ssaDb) m.ledger
  obtain ⟨htables, -, -⟩ := trades_ssaDbDiffCompareSubnetTables host mem (numRecsArr ssaDb)
    ssaDb.pPreviousDb ssaDb.pCurrentDb m.ledger
    (ssaDbDiffInit host (numRecsArr ssaDb) m.ledger).2
  have hdiff := hinit.trans htables
  rw [buildDiff]
  dsimp only
  generalize ssaDbDiffCompareSubnetTables host mem ssaDb.pPreviousDb ssaDb.pCurrentDb
    (ssaDbDiffInit host (numRecsArr ssaDb) m.ledger).1
    (ssaDbDiffInit host (numRecsArr ssaDb) m.ledger).2 = d at hdiff ⊢
  rw [Ibssa.buildDiff_snd]
  cases firstTimeSubnetUp with
  | true =>
      rw [if_pos rfl, if_pos rfl]
      refine ⟨{ hm with }, ?_⟩
      exact (hdiff.trans (trades_lftIntoDiff host d.1 m.pLftDb.epDbLftBlockTbl
        m.pLftDb.epDbLftTopTbl d.2)).frame m.blocks
  | false =>
      rw [if_neg Bool.false_ne_true, if_neg Bool.false_ne_true]
      have hcopy := hdiff.trans (trades_lftIntoDiff host d.1 m.pLftDb.epDumpLftBlockTbl
        m.pLftDb.epDumpLftTopTbl d.2)
      generalize lftIntoDiff host d.1 m.pLftDb.epDumpLftBlockTbl m.pLftDb.epDumpLftTopTbl d.2 = e
        at hcopy ⊢
      obtain ⟨hmirrors, hmerge⟩ := mergeLftDump_spec host hm.pLftDb mem e.2
      refine ⟨{ hm with pLftDb := hmirrors }, ?_⟩
      refine ((hcopy.par hmerge).frame (m.pDumpDb.blocks ++ (m.pPreviousDb.blocks ++
        (m.pCurrentDb.blocks ++ (m.lftRecList.map Prod.snd ++ [m.ssaDb, m.ssa]))))).perm
        (perm_of_count fun b => ?_) (perm_of_count fun b => ?_)
      · simp only [Memory.blocks, List.count_append, List.count_nil]
        omega
      · simp only [Memory.blocks, List.count_append]
        omega

/-- A comparison ends with the memory of the data it leaves, its diff destroyed. -/
theorem compareAndPush_spec (hm : m.Mirrors ssaDb) (alloc : Bool) :
    (compareAndPush host mem alloc firstTimeSubnetUp ssaDb m).Mirrors
        (Ibssa.ssaDbCompare mem alloc firstTimeSubnetUp ssaDb).2 ∧
      Trades m.ledger (compareAndPush host mem alloc firstTimeSubnetUp ssaDb m).ledger m.blocks
        (compareAndPush host mem alloc firstTimeSubnetUp ssaDb m).blocks 0 := by
  obtain ⟨hmirrors, htrades⟩ := buildDiff_spec host mem firstTimeSubnetUp hm
  cases alloc with
  | false => exact ⟨hm, Trades.refl _ _⟩
  | true =>
      rw [Ibssa.ssaDbCompare_true, compareAndPush, ssaDbCompare, Bool.not_true,
        if_neg Bool.false_ne_true]
      generalize buildDiff host mem firstTimeSubnetUp ssaDb m = r at hmirrors htrades ⊢
      have hdestroy := htrades.trans ((trades_ssaDbDiffDestroy r.1 r.2.ledger).frame r.2.blocks)
      -- whoever destroys the diff, it is destroyed
      by_cases hdirty : (Ibssa.buildDiff mem firstTimeSubnetUp ssaDb).1.dirty = 0
      · rw [if_pos hdirty]
        exact ⟨{ hmirrors with }, hdestroy⟩
      · rw [if_neg hdirty]
        exact ⟨{ hmirrors with }, hdestroy⟩

end Compare

end Ibssa.Heap
