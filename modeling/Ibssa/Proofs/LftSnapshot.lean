import Ibssa.Proofs.LftRuns

/-!
# Extracted LFT blocks and reported ones are the same

A block of a switch's LFT gets into the core in two ways. The first extraction
copies every block of the table, and later `report` copies the block an event
names, and each has its own code for the key, for the byte order of LID and
block number, and for where the 64 bytes start. `lftChange_eq_lftBlockEntry` puts
the two results side by side; what surrounds it is where the records end up.

The extracted blocks tile the table. That needs a table of whole blocks: what
is left over at its end gets no record.
-/

namespace Ibssa

open Keyed ByteOrder Machine

/-- The key of the block that has the entry of a LID. -/
def lftBlockKey (n : OsmNode) (block : Nat) : UInt64 :=
  epRecGenKey (ntohs (n.baseLid 0)) (UInt16.ofNat block)

/-- The LFT database has every entry of every switch's table, in the block and
at the place that the destination LID says, and no other blocks. -/
structure LftExtracted (s : OsmSubn) (l : SsaDbLft) : Prop where
  entry : ∀ n ∈ s.nodes, n.isSwitch = true → ∀ lid < n.sw.lftSize.toNat,
    ∃ pRec, l.blocks.db.view (lftBlockKey n (lid / 64)) = some pRec ∧
      pRec.block.get ⟨lid % 64, Nat.mod_lt _ (by decide)⟩ = n.sw.lft lid ∧
      ntohs pRec.lid = ntohs (n.baseLid 0) ∧ ntohs pRec.blockNum = UInt16.ofNat (lid / 64)
  others : ∀ k ∈ l.epDbLftBlockTbl.keys, ∃ n ∈ s.nodes, n.isSwitch = true ∧
    ∃ lid < n.sw.lftSize.toNat, k = lftBlockKey n (lid / 64)

/-- The event for a block of a switch. -/
def blockEvent (pSw : OsmNode) (lftTop : UInt16) (block : Nat) : OsmEpiLftChangeEvent :=
  ⟨some pSw, .block, lftTop, UInt32.ofNat block⟩

/-- The switch has the same base LID and the same table. -/
structure SameLft (n n' : OsmNode) : Prop where
  lid : n'.baseLid 0 = n.baseLid 0
  lft : ∀ lid < n.sw.lftSize.toNat, n'.sw.lft lid = n.sw.lft lid

/-- Whenever a block of the same table is reported and then drained into the
dump, it is found there under the key of the extracted block, and is the same
record. -/
def EventsAgree (s : OsmSubn) (l : SsaDbLft) : Prop :=
  ∀ n ∈ s.nodes, n.isSwitch = true → ∀ block < n.sw.lftSize.toNat / 64,
    ∀ n' lftTop, SameLft n n' →
      lftChangeBlockKey (lftChangeRec n' (blockEvent n' lftTop block)) = lftBlockKey n block ∧
      ∀ es w mem, run workerStep workerInit es = some w →
        ∃ pRec, l.blocks.db.view (lftBlockKey n block) = some pRec ∧
          (ssaDbLftHandle mem
              (reportLftChange w.ssaDb (some (blockEvent n' lftTop block)))).pLftDb.blocks.dump.view
            (lftBlockKey n block) = some pRec

/-! ## One record, made twice -/

section Entry

variable {n n' : OsmNode} {block : Nat}

theorem toUInt16_ofNat (block : Nat) : (UInt32.ofNat block).toUInt16 = UInt16.ofNat block := by
  refine UInt16.toNat_inj.mp ?_
  rw [UInt32.toNat_toUInt16, UInt32.toNat_ofNat', UInt16.toNat_ofNat']
  omega

/-- Both copies start at the same entry and read the same 64. -/
theorem block_lftChangeRec (hn : SameLft n n') (hblock : block < n.sw.lftSize.toNat / 64)
    (lftTop : UInt16) :
    (lftChangeRec n' (blockEvent n' lftTop block)).block
      = lftBlockAt n.sw.lft (UInt16.ofNat block).toNat := by
  have hsize : n.sw.lftSize.toNat < 2 ^ 16 := n.sw.lftSize.toNat_lt
  have hstart : (UInt32.ofNat block * UInt32.ofNat ibSmpDataSize).toNat = block * 64 := by
    rw [UInt32.toNat_mul, UInt32.toNat_ofNat', UInt32.toNat_ofNat',
      show ibSmpDataSize = 64 from rfl]
    omega
  have hnum : (UInt16.ofNat block).toNat = block := by
    rw [UInt16.toNat_ofNat']
    omega
  refine Vector.ext ?_
  intro i hi
  show (Vector.ofFn fun i : Fin 64 => n'.sw.lft
    ((UInt32.ofNat block * UInt32.ofNat ibSmpDataSize).toNat + i))[i] = _
  rw [lftBlockAt, Vector.getElem_ofFn, Vector.getElem_ofFn, hstart, hnum]
  exact hn.lft (block * 64 + i) (by omega)

/-- The record that `report` and the drain make of a block is the one that the
extraction makes of it, under the same key. -/
theorem lftChange_eq_lftBlockEntry (hn : SameLft n n')
    (hblock : block < n.sw.lftSize.toNat / 64) (lftTop : UInt16) :
    (lftChangeBlockKey (lftChangeRec n' (blockEvent n' lftTop block)),
        lftChangeBlockRec (lftChangeRec n' (blockEvent n' lftTop block)))
      = lftBlockEntry n block := by
  have hlid : (lftChangeRec n' (blockEvent n' lftTop block)).lid = n.baseLid 0 := hn.lid
  have hnum : (lftChangeRec n' (blockEvent n' lftTop block)).blockNum.toUInt16
      = UInt16.ofNat block := toUInt16_ofNat block
  rw [lftChangeBlockKey, lftChangeBlockRec, hlid, hnum, block_lftChangeRec hn hblock]
  rfl

/-- The extracted block of an entry has it at the entry's place. -/
theorem get_lftBlockAt {lid : Nat} (hlid : lid < n.sw.lftSize.toNat) :
    (lftBlockAt n.sw.lft (UInt16.ofNat (lid / 64)).toNat).get
        ⟨lid % 64, Nat.mod_lt _ (by decide)⟩
      = n.sw.lft lid := by
  have hsize : n.sw.lftSize.toNat < 2 ^ 16 := n.sw.lftSize.toNat_lt
  have hnum : (UInt16.ofNat (lid / 64)).toNat = lid / 64 := by
    rw [UInt16.toNat_ofNat']
    omega
  have hplace : lid % 64 < 64 := Nat.mod_lt _ (by decide)
  show (lftBlockAt n.sw.lft (UInt16.ofNat (lid / 64)).toNat)[lid % 64] = _
  rw [lftBlockAt, Vector.getElem_ofFn, hnum]
  show n.sw.lft (lid / 64 * 64 + lid % 64) = _
  rw [Nat.div_add_mod']

theorem lftBlockEntry_mem (hblock : block < n.sw.lftSize.toNat / 64) {ns : List OsmNode}
    (hn : n ∈ ns) (hsw : n.isSwitch = true) : lftBlockEntry n block ∈ lftBlocks ns :=
  List.mem_flatMap.mpr ⟨n, List.mem_filter.mpr ⟨hn, hsw⟩,
    List.mem_map_of_mem (List.mem_range.mpr hblock)⟩

end Entry

/-! ## Where the records end up -/

section FirstExtraction

variable {s : OsmSubn} {l : SsaDbLft} {b₀ : Buf EpLftBlockTblRec}

theorem view_lftBlockKey (hst : Stored (lftBlocks s.nodes) l.blocks.db.map b₀ l.blocks.db.buf)
    (hlids : DistinctLids s.nodes) {n : OsmNode} (hn : n ∈ s.nodes) (hsw : n.isSwitch = true)
    {block : Nat} (hblock : block < n.sw.lftSize.toNat / 64) :
    l.blocks.db.view (lftBlockKey n block) = some (lftBlockEntry n block).2 :=
  hst.view_of_mem (lftBlocks_nodup hlids) (lftBlockEntry_mem hblock hn hsw)

theorem lftExtracted_of_stored
    (hst : Stored (lftBlocks s.nodes) l.blocks.db.map b₀ l.blocks.db.buf)
    (hlids : DistinctLids s.nodes)
    (hwhole : ∀ n ∈ s.nodes, n.isSwitch = true → n.sw.lftSize.toNat % 64 = 0) :
    LftExtracted s l := by
  constructor
  · intro n hn hsw lid hlid
    have hmul := hwhole n hn hsw
    refine ⟨_, view_lftBlockKey hst hlids hn hsw (by omega), get_lftBlockAt hlid, rfl, rfl⟩
  · intro k hk
    obtain ⟨e, he, rfl⟩ := List.mem_map.mp (hst.mem_keys.mp hk)
    obtain ⟨n, hn, hentry⟩ := List.mem_flatMap.mp he
    obtain ⟨hn, hsw⟩ := List.mem_filter.mp hn
    obtain ⟨block, hblock, rfl⟩ := List.mem_map.mp hentry
    have hblock : block < n.sw.lftSize.toNat / 64 := List.mem_range.mp hblock
    refine ⟨n, hn, hsw, block * 64, by omega, ?_⟩
    rw [Nat.mul_div_cancel _ (by decide)]
    rfl

/-- What a drain stores last under a key is what the dump has under it. -/
theorem view_dump_ssaDbLftHandle {es : List Event} {w : Worker}
    (hrun : run workerStep workerInit es = some w) (mem : Mem) {pSw : OsmNode}
    {lftTop : UInt16} {block : Nat} {k : UInt64} {pRec : EpLftBlockTblRec}
    (hrec : (lftChangeBlockKey (lftChangeRec pSw (blockEvent pSw lftTop block)),
      lftChangeBlockRec (lftChangeRec pSw (blockEvent pSw lftTop block))) = (k, pRec)) :
    (ssaDbLftHandle mem
        (reportLftChange w.ssaDb (some (blockEvent pSw lftTop block)))).pLftDb.blocks.dump.view k
      = some pRec := by
  have hchanged : changedBlocks (reportedRecs (some (blockEvent pSw lftTop block)))
      = [(k, pRec)] := by
    rw [← hrec]
    rfl
  rw [blocks_ssaDbLftHandle, reportLftChange_eq,
    ((runOk hrun).blocks.dump.changeAll _ _ _).2, changedBlocks_append, hchanged, overlay_append]
  exact Function.update_self _ _ _

theorem eventsAgree_of_stored
    (hst : Stored (lftBlocks s.nodes) l.blocks.db.map b₀ l.blocks.db.buf)
    (hlids : DistinctLids s.nodes) : EventsAgree s l := by
  intro n hn hsw block hblock n' lftTop hsame
  have hentry := lftChange_eq_lftBlockEntry hsame hblock lftTop
  refine ⟨(Prod.mk.inj hentry).1, ?_⟩
  intro es w mem hrun
  exact ⟨_, view_lftBlockKey hst hlids hn hsw hblock,
    view_dump_ssaDbLftHandle hrun mem hentry⟩

end FirstExtraction

/-- In every run the first extraction has all of every switch's table, and what
is reported of the same table later, or was before, is the same. -/
theorem lft_extracted_as_reported {es : List Event} {w : Worker}
    (hrun : run workerStep workerInit es = some w) (hfirst : (history es).first = none)
    (mem : Mem) {s : OsmSubn} (hlids : DistinctLids s.nodes)
    (hwhole : ∀ n ∈ s.nodes, n.isSwitch = true → n.sw.lftSize.toNat % 64 = 0) :
    ∃ w', workerStep w (.extract mem s) = some w' ∧ LftExtracted s w'.ssaDb.pLftDb ∧
      EventsAgree s w'.ssaDb.pLftDb := by
  have hok := runOk hrun
  obtain ⟨htrue, hidle⟩ := hok.first.mp hfirst
  obtain ⟨hst, _⟩ := ssaDbExtract_first mem s (hok.noBlocks hfirst) (hok.noTops hfirst)
  refine ⟨_, workerStep_extract.mpr ⟨hidle, rfl⟩, ?_⟩
  rw [htrue]
  exact ⟨lftExtracted_of_stored hst hlids hwhole, eventsAgree_of_stored hst hlids⟩

theorem lft_extracted_as_reported_twoSwitches :
    ∃ w', workerStep workerInit
        (.extract default (OsmSubn.ofNodes [plainSwitch 1 1 0, plainSwitch 2 2 0])) = some w' ∧
      LftExtracted (OsmSubn.ofNodes [plainSwitch 1 1 0, plainSwitch 2 2 0]) w'.ssaDb.pLftDb ∧
      EventsAgree (OsmSubn.ofNodes [plainSwitch 1 1 0, plainSwitch 2 2 0]) w'.ssaDb.pLftDb := by
  have hrun : run workerStep workerInit [] = some workerInit := rfl
  exact lft_extracted_as_reported hrun rfl default (by decide) (by decide)

end Ibssa
