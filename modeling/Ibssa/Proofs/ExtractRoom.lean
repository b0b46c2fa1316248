import Ibssa.Proofs.FaithfulSnapshot

/-!
# An extraction stays inside its blocks

Each table of an extraction is a log, and a log that is not longer than its
block was written inside it. So every bound is an inequality between two
numbers: the length of a list read off the subnet, and the count that was
computed beforehand, from other data, in 16, 32 or 64 bits.

The counts come from OpenSM's bookkeeping (a switch says how many ports it
has, the LID table says how large a forwarding table can be) and the lists from
the objects themselves. `OsmProvides` is what ties the two together. The port
table is where they are furthest apart: room is made for the ports of the
switches among the nodes, and the records are written for the switches among
the port objects.
-/

namespace Ibssa

open Keyed ByteOrder Machine

/-! ## Sizes -/

/-- The ports of all switches, by what each says of itself. -/
def switchPortsTotal (ns : List OsmNode) : Nat :=
  ((ns.filter OsmNode.isSwitch).map fun n => n.sw.numPorts.toNat).sum

/-- The number of LFT blocks that hold an entry for each of `lids` LIDs. -/
def blocksFor (lids : Nat) : Nat := (lids + 63) / 64

/-- What OpenSM provides: a switch has as many ports as its node, and one port
object; the switches are in `sw_guid_tbl`, fewer than 65536; a forwarding table
covers no more blocks than the LIDs, which are 16-bit numbers; `1 << lmc` is an
`int`; and the counters stay below 2^32. -/
structure OsmProvides (s : OsmSubn) : Prop where
  numPorts : ∀ n ∈ s.switches, (s.deref n).sw.numPorts.toNat = (s.deref n).physpTblSize.toNat
  onePort : ((s.ports.filter (onSwitch s)).map fun p => p.pPhysp.node).Perm s.switches
  swGuid : s.switches.length ≤ s.swGuidTblCount
  fewSwitches : s.swGuidTblCount < 65536
  lftSize : ∀ n ∈ s.switches,
    (s.deref n).sw.lftSize.toNat / ibSmpDataSize ≤ blocksFor s.portLidTblSize
  lids : s.portLidTblSize < 65536
  lmc : s.lmc.toNat < 31
  nodes : s.nodeGuidTbl.count < 2 ^ 32
  ports : s.portGuidTbl.count + switchPortsTotal s.nodes < 2 ^ 32
  pkeys : pkeysTotal s s.ports < 2 ^ 32

/-- Every computed size is the number it stands for. -/
structure SizesExact (s : OsmSubn) (st : NodeLoop) : Prop where
  nodes : (UInt32.ofNat s.nodeGuidTbl.count).toNat = s.nodeGuidTbl.count
  lids : (UInt16.ofNat s.portLidTblSize).toNat = s.portLidTblSize
  lftTops : (UInt16.ofNat s.swGuidTblCount).toNat = s.swGuidTblCount
  lftBlocks : (lftBlocksNum s).toNat
    = s.swGuidTblCount * blocksFor s.portLidTblSize * 2 ^ s.lmc.toNat
  guids : (UInt32.ofNat s.portGuidTbl.count).toNat = s.portGuidTbl.count
  switchPorts : st.switchPortsNum.toNat = switchPortsTotal s.nodes
  ports : (UInt32.ofNat s.portGuidTbl.count + st.switchPortsNum).toNat
    = s.portGuidTbl.count + switchPortsTotal s.nodes
  pkeys : (portPkeysNum s).toNat = pkeysTotal s s.ports

/-- No write of the extraction fell outside its block. The LFT tables are those
of the database, so what was written before counts too. -/
structure WritesFit (before after : SsaDatabase) : Prop where
  node : after.pDumpDb.pNodeTbl.fits = true
  guidToLid : after.pDumpDb.pGuidToLidTbl.fits = true
  link : after.pDumpDb.pLinkTbl.fits = true
  port : after.pDumpDb.pPortTbl.fits = true
  pkey : after.pDumpDb.pPkeyTbl.fits = true
  lftTop : before.pLftDb.pDbLftTopTbl.fits = true → after.pLftDb.pDbLftTopTbl.fits = true
  lftBlock : before.pLftDb.pDbLftBlockTbl.fits = true → after.pLftDb.pDbLftBlockTbl.fits = true

theorem fits_mallocIfNull {α : Type} {b : Buf α} (h : b.fits = true) (a : Addr) (n : Nat)
    (junk : Nat → α) : (mallocIfNull b a n junk).fits = true := by
  rw [mallocIfNull]
  split
  · rfl
  · exact h

/-! ## The counts -/

section Counts

variable {s : OsmSubn}

theorem switches_map_deref (s : OsmSubn) :
    s.switches.map s.deref = s.nodes.filter OsmNode.isSwitch := by
  have hnodes : s.nodes = (s.nodeGuidTbl.items.map Prod.snd).map s.deref := by
    rw [OsmSubn.nodes, List.map_map]
    rfl
  rw [hnodes, List.filter_map]
  rfl

theorem switchPortsTotal_cons (n : OsmNode) (ns : List OsmNode) :
    switchPortsTotal (n :: ns)
      = (if n.isSwitch then n.sw.numPorts.toNat else 0) + switchPortsTotal ns := by
  rw [switchPortsTotal, switchPortsTotal]
  by_cases hsw : n.isSwitch = true
  · rw [List.filter_cons_of_pos hsw, List.map_cons, List.sum_cons, if_pos hsw]
  · rw [List.filter_cons_of_neg hsw, if_neg hsw, Nat.zero_add]

theorem switchPortsNum_foldl_addLftBlock (pSw : OsmSwitch) (l : List Nat) (st : NodeLoop) :
    (l.foldl (addLftBlock pSw) st).switchPortsNum = st.switchPortsNum := by
  induction l generalizing st with
  | nil => rfl
  | cons i rest ih => exact ih _

/-- The body counts a switch's ports, whatever it does about the LFT. -/
theorem switchPortsNum_nodeLoopBody (firstTimeSubnetUp : Bool) (st : NodeLoop) (n : OsmNode) :
    (nodeLoopBody firstTimeSubnetUp st n).switchPortsNum = (addNode st n).switchPortsNum := by
  rw [nodeLoopBody]
  split
  · rfl
  · split
    · rw [addLft, switchPortsNum_foldl_addLftBlock]
      rfl
    · rfl

/-- The count of switch ports, in 32 bits. -/
theorem toNat_switchPortsNum (firstTimeSubnetUp : Bool) (ns : List OsmNode) (st : NodeLoop) :
    (ns.foldl (nodeLoopBody firstTimeSubnetUp) st).switchPortsNum.toNat
      = (st.switchPortsNum.toNat + switchPortsTotal ns) % 2 ^ 32 := by
  induction ns generalizing st with
  | nil => exact (Nat.mod_eq_of_lt st.switchPortsNum.toNat_lt).symm
  | cons n ns ih =>
      rw [List.foldl_cons, ih, switchPortsNum_nodeLoopBody, switchPortsTotal_cons, addNode]
      by_cases hsw : n.isSwitch = true
      · simp only [if_pos hsw, UInt32.toNat_add, UInt8.toNat_toUInt32]
        omega
      · simp only [if_neg hsw, Nat.zero_add]

theorem OsmProvides.toNat_lftBlocksNum (h : OsmProvides s) :
    (lftBlocksNum s).toNat = s.swGuidTblCount * blocksFor s.portLidTblSize * 2 ^ s.lmc.toNat := by
  have hlids := h.lids
  have hsw := h.fewSwitches
  have hper : (if (UInt16.ofNat s.portLidTblSize).toNat % ibSmpDataSize ≠ 0 then
        (UInt16.ofNat s.portLidTblSize).toNat / ibSmpDataSize + 1
      else (UInt16.ofNat s.portLidTblSize).toNat / ibSmpDataSize)
      = blocksFor s.portLidTblSize := by
    rw [UInt16.toNat_ofNat', Nat.mod_eq_of_lt (show s.portLidTblSize < 2 ^ 16 from hlids),
      blocksFor, show ibSmpDataSize = 64 from rfl]
    split <;> omega
  have hblocks : blocksFor s.portLidTblSize ≤ 1024 := by
    rw [blocksFor]
    omega
  have hpow : 2 ^ s.lmc.toNat ≤ 2 ^ 30 := Nat.pow_le_pow_right (by decide) (by have := h.lmc; omega)
  have hshift : ((1 : UInt64) <<< s.lmc.toUInt64).toNat = 2 ^ s.lmc.toNat := by
    have hmod : s.lmc.toNat % 64 = s.lmc.toNat := Nat.mod_eq_of_lt (by have := h.lmc; omega)
    rw [UInt64.toNat_shiftLeft, UInt8.toNat_toUInt64, hmod, UInt64.toNat_one, Nat.shiftLeft_eq,
      Nat.one_mul]
    exact Nat.mod_eq_of_lt (by omega)
  have hprod : s.swGuidTblCount * blocksFor s.portLidTblSize ≤ 65536 * 1024 :=
    Nat.mul_le_mul (by omega) hblocks
  have hall : s.swGuidTblCount * blocksFor s.portLidTblSize * 2 ^ s.lmc.toNat
      ≤ 65536 * 1024 * 2 ^ 30 := Nat.mul_le_mul hprod hpow
  rw [lftBlocksNum]
  simp only [hper]
  rw [UInt64.toNat_mul, UInt64.toNat_mul, hshift, UInt16.toNat_toUInt64, UInt16.toNat_ofNat',
    UInt64.toNat_ofNat', Nat.mod_eq_of_lt (show s.swGuidTblCount < 2 ^ 16 from hsw),
    Nat.mod_eq_of_lt (show blocksFor s.portLidTblSize < 2 ^ 64 by omega),
    Nat.mod_eq_of_lt (show s.swGuidTblCount * blocksFor s.portLidTblSize < 2 ^ 64 by omega),
    Nat.mod_eq_of_lt (by omega)]

theorem OsmProvides.sizesExact (h : OsmProvides s) (mem : Mem) (firstTimeSubnetUp : Bool)
    (ssaDb : SsaDatabase) : SizesExact s (nodeLoop mem firstTimeSubnetUp ssaDb s) := by
  have hports := h.ports
  have hguids : (UInt32.ofNat s.portGuidTbl.count).toNat = s.portGuidTbl.count := by
    rw [UInt32.toNat_ofNat']
    exact Nat.mod_eq_of_lt (by omega)
  have hswitch : (nodeLoop mem firstTimeSubnetUp ssaDb s).switchPortsNum.toNat
      = switchPortsTotal s.nodes := by
    rw [nodeLoop, toNat_switchPortsNum]
    show (0 + switchPortsTotal s.nodes) % 2 ^ 32 = _
    rw [Nat.zero_add]
    exact Nat.mod_eq_of_lt (by omega)
  refine ⟨?_, ?_, ?_, h.toNat_lftBlocksNum, hguids, hswitch, ?_, ?_⟩
  · rw [UInt32.toNat_ofNat']
    exact Nat.mod_eq_of_lt h.nodes
  · rw [UInt16.toNat_ofNat']
    exact Nat.mod_eq_of_lt h.lids
  · rw [UInt16.toNat_ofNat']
    exact Nat.mod_eq_of_lt h.fewSwitches
  · rw [UInt32.toNat_add, hguids, hswitch]
    exact Nat.mod_eq_of_lt hports
  · rw [toNat_portPkeysNum]
    exact Nat.mod_eq_of_lt h.pkeys

end Counts

/-! ## What is written -/

section Lengths

variable {s : OsmSubn}

/-- The records of an end port: on a switch no more than its node has ports. -/
theorem length_endPhysps_le (p : OsmPort) :
    (endPhysps s p).length
      ≤ if onSwitch s p then (s.deref p.pPhysp.node).physpTblSize.toNat else 1 := by
  cases hsw : onSwitch s p with
  | true =>
      rw [endPhysps_of_switch hsw, validPhysps, List.length_map, if_pos rfl]
      refine Nat.le_trans (List.length_filter_le _ _) (Nat.le_of_eq List.length_range)
  | false =>
      rw [endPhysps_of_endPort hsw]
      exact Nat.le_refl 1

theorem recPlace_le (ps : List OsmPort) :
    recPlace s ps ≤ ps.length + (((ps.filter (onSwitch s)).map fun p => p.pPhysp.node).map
      fun n => (s.deref n).physpTblSize.toNat).sum := by
  induction ps with
  | nil => exact Nat.le_refl 0
  | cons p ps ih =>
      have hp := length_endPhysps_le (s := s) p
      rw [recPlace, List.map_cons, List.sum_cons, ← recPlace, List.length_cons]
      cases hsw : onSwitch s p with
      | true =>
          rw [hsw, if_pos rfl] at hp
          rw [List.filter_cons_of_pos hsw, List.map_cons, List.map_cons, List.sum_cons]
          omega
      | false =>
          rw [hsw, if_neg Bool.false_ne_true] at hp
          rw [List.filter_cons_of_neg (by rw [hsw]; decide)]
          omega

/-- The switches among the port objects are those among the nodes, so their
records fit in what the switches say of themselves. -/
theorem OsmProvides.length_portRun_le (h : OsmProvides s) (c : PortCursor) :
    (portRun s c s.ports).length ≤ s.portGuidTbl.count + switchPortsTotal s.nodes := by
  have hle := recPlace_le (s := s) s.ports
  have hperm := (h.onePort.map fun n => (s.deref n).physpTblSize.toNat).sum_eq
  have hnum : s.switches.map (fun n => (s.deref n).physpTblSize.toNat)
      = (s.switches.map s.deref).map fun n => n.sw.numPorts.toNat := by
    rw [List.map_map]
    exact List.map_congr_left fun n hn => (h.numPorts n hn).symm
  rw [hperm, hnum, switches_map_deref] at hle
  rw [length_portRun]
  rw [OsmSubn.ports, List.length_map] at hle
  exact hle

theorem length_linkRun_le (c : PortCursor) (ps : List OsmPort) :
    (linkRun s c ps).length ≤ (portRun s c ps).length := by
  induction ps generalizing c with
  | nil => exact Nat.le_refl 0
  | cons p ps ih =>
      have hp : (linkEntries s c p).length ≤ (portEntries s c p).length := by
        rw [portEntries, List.length_map]
        exact List.length_filterMap_le _ _
      rw [linkRun, portRun, List.length_append, List.length_append]
      exact Nat.add_le_add hp (ih _)

theorem length_ownPkeys_le (ps : List OsmPort) :
    (ps.flatMap (ownPkeys s)).length ≤ pkeysTotal s ps := by
  rw [List.length_flatMap, pkeysTotal]
  refine List.sum_le_sum ?_
  intro p _
  rw [ownPkeys]
  split
  · exact Nat.zero_le _
  · exact Nat.le_refl _

theorem OsmProvides.length_lftTops_le (h : OsmProvides s) :
    (lftTops s.nodes).length ≤ s.swGuidTblCount := by
  rw [lftTops, List.length_map, ← switches_map_deref, List.length_map]
  exact h.swGuid

theorem OsmProvides.length_lftBlocks_le (h : OsmProvides s) :
    (lftBlocks s.nodes).length ≤ s.swGuidTblCount * blocksFor s.portLidTblSize := by
  have hsum := List.sum_le_card_nsmul
    ((s.nodes.filter OsmNode.isSwitch).map fun n => n.sw.lftSize.toNat / ibSmpDataSize)
    (blocksFor s.portLidTblSize) (by
      intro x hx
      rw [← switches_map_deref, List.map_map] at hx
      obtain ⟨n, hn, rfl⟩ := List.mem_map.mp hx
      exact h.lftSize n hn)
  rw [List.length_map, ← switches_map_deref, List.length_map, smul_eq_mul] at hsum
  have hlen : (lftBlocks s.nodes).length = ((s.nodes.filter OsmNode.isSwitch).map
      fun n => n.sw.lftSize.toNat / ibSmpDataSize).sum := by
    rw [lftBlocks, List.length_flatMap]
    refine congrArg List.sum (List.map_congr_left ?_)
    intro n _
    rw [lftBlockEntries, List.length_map, List.length_range]
  rw [hlen, ← switches_map_deref]
  exact Nat.le_trans hsum (Nat.mul_le_mul_right _ h.swGuid)

end Lengths

/-- What the bound asks of the database is so whenever a START_EXTRACT begins:
the dump is fresh, and before the first one there are no LFT records. -/
theorem fresh_of_idle {es : List Event} {w : Worker}
    (hrun : run workerStep workerInit es = some w) (hidle : w.phase = .idle) :
    w.ssaDb.pDumpDb = ssaDbExtractInit ∧
      (w.firstTimeSubnetUp = true →
        w.ssaDb.pLftDb.blocks.db = emptyDb ∧ w.ssaDb.pLftDb.tops.db = emptyDb) := by
  have hok := runOk hrun
  refine ⟨(rotation hrun).fresh (Or.inl hidle), fun hfirst => ?_⟩
  have hnone := hok.first.mpr ⟨hfirst, hidle⟩
  exact ⟨hok.noBlocks hnone, hok.noTops hnone⟩

/-- With what OpenSM provides no size computation of an extraction wraps and no
write leaves its block. -/
theorem writesFit_ssaDbExtract (mem : Mem) (firstTimeSubnetUp : Bool) {ssaDb : SsaDatabase}
    (hfresh : ssaDb.pDumpDb = ssaDbExtractInit)
    (hlft : firstTimeSubnetUp = true →
      ssaDb.pLftDb.blocks.db = emptyDb ∧ ssaDb.pLftDb.tops.db = emptyDb)
    {s : OsmSubn} (h : OsmProvides s) :
    SizesExact s (nodeLoop mem firstTimeSubnetUp ssaDb s) ∧
      WritesFit ssaDb (ssaDbExtract mem firstTimeSubnetUp ssaDb s) := by
  have hsizes := h.sizesExact mem firstTimeSubnetUp ssaDb
  have hlogs := snapshotLogs_ssaDbExtract mem firstTimeSubnetUp s hfresh
  have hports : ∀ c, (portRun s c s.ports).length
      ≤ (UInt32.ofNat s.portGuidTbl.count +
        (nodeLoop mem firstTimeSubnetUp ssaDb s).switchPortsNum).toNat := by
    intro c
    rw [hsizes.ports]
    exact h.length_portRun_le c
  refine ⟨hsizes, ⟨hlogs.node.fits rfl ?_, hlogs.guidToLid.fits rfl ?_, hlogs.link.fits rfl ?_,
    hlogs.port.fits rfl (hports _), hlogs.pkey.fits rfl ?_, ?_, ?_⟩⟩
  · show _ ≤ (UInt32.ofNat s.nodeGuidTbl.count).toNat
    rw [hsizes.nodes, List.length_map, OsmSubn.nodes, List.length_map]
    exact Nat.le_refl _
  · show _ ≤ (UInt32.ofNat s.portGuidTbl.count).toNat
    rw [hsizes.guids, List.length_map, OsmSubn.ports, List.length_map]
    exact Nat.le_refl _
  · exact Nat.le_trans (length_linkRun_le _ _) (hports _)
  · show _ ≤ (portPkeysNum s).toNat
    rw [hsizes.pkeys]
    exact length_ownPkeys_le s.ports
  · intro hfits
    cases firstTimeSubnetUp with
    | true =>
        obtain ⟨hblocks, htops⟩ := hlft rfl
        obtain ⟨_, _, htop, _⟩ := ssaDbExtract_first mem s hblocks htops
        refine htop.fits rfl ?_
        show _ ≤ (UInt16.ofNat s.swGuidTblCount).toNat
        rw [hsizes.lftTops]
        exact h.length_lftTops_le
    | false =>
        have hbuf := congrArg (fun l => l.db.buf.fits) (ssaDbExtract_later mem ssaDb s).2
        exact hbuf.trans (fits_mallocIfNull hfits _ _ _)
  · intro hfits
    cases firstTimeSubnetUp with
    | true =>
        obtain ⟨hblocks, htops⟩ := hlft rfl
        obtain ⟨hblock, _⟩ := ssaDbExtract_first mem s hblocks htops
        refine hblock.fits rfl ?_
        show _ ≤ (lftBlocksNum s).toNat
        rw [hsizes.lftBlocks]
        exact Nat.le_trans h.length_lftBlocks_le
          (Nat.le_mul_of_pos_right _ (Nat.pow_pos (by decide)))
    | false =>
        have hbuf := congrArg (fun l => l.db.buf.fits) (ssaDbExtract_later mem ssaDb s).1
        exact hbuf.trans (fits_mallocIfNull hfits _ _ _)

theorem osmProvides_smallFabric : OsmProvides smallFabric :=
  ⟨by decide, by decide, by decide, by decide, by decide, by decide, by decide, by decide,
    by decide, by decide⟩

theorem writesFit_smallFabric :
    SizesExact smallFabric (nodeLoop default true ssaDatabaseInit smallFabric) ∧
      WritesFit ssaDatabaseInit (ssaDbExtract default true ssaDatabaseInit smallFabric) :=
  writesFit_ssaDbExtract default true rfl (fun _ => ⟨rfl, rfl⟩) osmProvides_smallFabric

end Ibssa
