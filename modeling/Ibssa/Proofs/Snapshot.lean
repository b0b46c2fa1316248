import Ibssa.Proofs.PortLoop

/-!
# What a snapshot holds

`ssa_db_extract` appends to each of its tables in the order of an OpenSM map,
and records every entry under a key. So each table is a log of a list that can
be read off the subnet, and these lists are what this file is about: the
nodes, the tops and blocks of the switches' LFTs, the GUIDs of the ports, and
the port records with the pkeys they designate.

What the port records say about their pkeys follows from the list of port
entries alone: `pkeyRuns` counts what the two running offsets count, with the
pkeys of an unlinked port carried over to the next record.
-/

namespace Ibssa

open Keyed ByteOrder Machine

/-! ## Keys -/

theorem toNat_epRecGenKey (base index : UInt16) :
    (epRecGenKey base index).toNat = index.toNat * 65536 + base.toNat := by
  have hb : base.toNat < 2 ^ 16 := base.toNat_lt
  have hi : index.toNat < 2 ^ 16 := index.toNat_lt
  have hshift : (index.toUInt64 <<< 16).toNat = index.toNat <<< 16 := by
    rw [UInt64.toNat_shiftLeft, UInt16.toNat_toUInt64]
    show index.toNat <<< 16 % 2 ^ 64 = _
    rw [Nat.shiftLeft_eq]
    exact Nat.mod_eq_of_lt (by omega)
  rw [epRecGenKey, UInt64.toNat_or, hshift, UInt16.toNat_toUInt64, Nat.or_comm,
    ← Nat.shiftLeft_add_eq_or_of_lt hb, Nat.shiftLeft_eq]

/-- A record key is made of a LID and an index, and says both. -/
theorem epRecGenKey_inj {base base' index index' : UInt16}
    (h : epRecGenKey base index = epRecGenKey base' index') : base = base' ∧ index = index' := by
  have hb : base.toNat < 2 ^ 16 := base.toNat_lt
  have hb' : base'.toNat < 2 ^ 16 := base'.toNat_lt
  have hn := congrArg UInt64.toNat h
  rw [toNat_epRecGenKey, toNat_epRecGenKey] at hn
  exact ⟨UInt16.toNat_inj.mp (by omega), UInt16.toNat_inj.mp (by omega)⟩

/-! ## What the loop over the nodes appends -/

/-- The node's entry in the node table. -/
def nodeEntry (n : OsmNode) : UInt64 × EpNodeTblRec := (n.nodeGuid, epNodeTblRecInit n)

/-- The entry of a switch in the table of LFT tops, under its base LID. -/
def lftTopEntry (n : OsmNode) : UInt64 × EpLftTopTblRec :=
  ((ntohs (n.baseLid 0)).toUInt64, epLftTopTblRecInit (ntohs (n.baseLid 0)) n.sw.lftSize)

/-- The entry of one LFT block of a switch. -/
def lftBlockEntry (n : OsmNode) (i : Nat) : UInt64 × EpLftBlockTblRec :=
  (epRecGenKey (ntohs (n.baseLid 0)) (UInt16.ofNat i),
    epLftBlockTblRecInit n.sw (ntohs (n.baseLid 0)) (UInt16.ofNat i))

def lftBlockEntries (n : OsmNode) : List (UInt64 × EpLftBlockTblRec) :=
  (List.range (n.sw.lftSize.toNat / ibSmpDataSize)).map (lftBlockEntry n)

/-- The LFT tops and blocks of all switches among the nodes, in loop order. -/
def lftTops (ns : List OsmNode) : List (UInt64 × EpLftTopTblRec) :=
  (ns.filter OsmNode.isSwitch).map lftTopEntry

def lftBlocks (ns : List OsmNode) : List (UInt64 × EpLftBlockTblRec) :=
  (ns.filter OsmNode.isSwitch).flatMap lftBlockEntries

/-- The nodes of a subnet, in the order of `node_guid_tbl`. -/
def OsmSubn.nodes (s : OsmSubn) : List OsmNode := s.nodeGuidTbl.items.map fun p => s.deref p.2

/-- The end ports of a subnet, in the order of `port_guid_tbl`. -/
def OsmSubn.ports (s : OsmSubn) : List OsmPort := s.portGuidTbl.items.map Prod.snd

theorem lftTops_concat (ns : List OsmNode) (n : OsmNode) :
    lftTops (ns ++ [n]) = if n.isSwitch then lftTops ns ++ [lftTopEntry n] else lftTops ns := by
  rw [lftTops, List.filter_append, List.map_append]
  by_cases h : n.isSwitch = true
  · rw [if_pos h, List.filter_cons_of_pos h]
    rfl
  · rw [if_neg h, List.filter_cons_of_neg h]
    simp [lftTops]

theorem lftBlocks_concat (ns : List OsmNode) (n : OsmNode) :
    lftBlocks (ns ++ [n])
      = if n.isSwitch then lftBlocks ns ++ lftBlockEntries n else lftBlocks ns := by
  rw [lftBlocks, List.filter_append, List.flatMap_append]
  by_cases h : n.isSwitch = true
  · rw [if_pos h, List.filter_cons_of_pos h]
    simp [lftBlocks]
  · rw [if_neg h, List.filter_cons_of_neg h]
    simp [lftBlocks]

/-- The base LIDs of the switches are distinct. -/
def DistinctLids (ns : List OsmNode) : Prop :=
  ((ns.filter OsmNode.isSwitch).map fun n => ntohs (n.baseLid 0)).Nodup

instance (ns : List OsmNode) : Decidable (DistinctLids ns) :=
  inferInstanceAs (Decidable (List.Nodup _))

theorem lftTops_nodup {ns : List OsmNode} (h : DistinctLids ns) :
    ((lftTops ns).map Prod.fst).Nodup := by
  have hinj : Function.Injective UInt16.toUInt64 := by
    intro a b hab
    have hn := congrArg UInt64.toNat hab
    rw [UInt16.toNat_toUInt64, UInt16.toNat_toUInt64] at hn
    exact UInt16.toNat_inj.mp hn
  have hmap := List.Nodup.map hinj h
  rw [List.map_map] at hmap
  rw [lftTops, List.map_map]
  exact hmap

private theorem lftBlockEntries_lid {n : OsmNode} {e : UInt64 × EpLftBlockTblRec}
    (he : e ∈ lftBlockEntries n) :
    ∃ i, e.1 = epRecGenKey (ntohs (n.baseLid 0)) i := by
  obtain ⟨i, _, rfl⟩ := List.mem_map.mp he
  exact ⟨UInt16.ofNat i, rfl⟩

private theorem lftBlockEntries_nodup (n : OsmNode) :
    ((lftBlockEntries n).map Prod.fst).Nodup := by
  have hsize : n.sw.lftSize.toNat < 2 ^ 16 := n.sw.lftSize.toNat_lt
  have hblock : ibSmpDataSize = 64 := rfl
  rw [lftBlockEntries, List.map_map]
  refine (List.nodup_map_iff_inj_on List.nodup_range).mpr ?_
  intro i hi j hj heq
  rw [List.mem_range] at hi hj
  have hij : UInt16.ofNat i = UInt16.ofNat j := (epRecGenKey_inj heq).2
  have hn := congrArg UInt16.toNat hij
  rw [UInt16.toNat_ofNat', UInt16.toNat_ofNat'] at hn
  rw [hblock] at hi hj
  omega

/-- Distinct base LIDs make distinct block keys. -/
theorem lftBlocks_nodup {ns : List OsmNode} (h : DistinctLids ns) :
    ((lftBlocks ns).map Prod.fst).Nodup := by
  rw [lftBlocks, List.map_flatMap, List.nodup_flatMap]
  refine ⟨fun n _ => lftBlockEntries_nodup n, ?_⟩
  refine (List.pairwise_map.mp h).imp ?_
  intro n n' hne k hk hk'
  obtain ⟨e, he, rfl⟩ := List.mem_map.mp hk
  obtain ⟨e', he', heq⟩ := List.mem_map.mp hk'
  obtain ⟨i, hi⟩ := lftBlockEntries_lid he
  obtain ⟨i', hi'⟩ := lftBlockEntries_lid he'
  rw [hi, hi'] at heq
  exact hne (epRecGenKey_inj heq).1.symm

/-! ## The loop over the nodes

The node table grows in every extraction. The LFT tables grow in the first one
only, and are not touched in any other. -/

/-- The node table after some nodes, in a loop that started from `st₀`. -/
structure NodesDone (st₀ : NodeLoop) (ns : List OsmNode) (st : NodeLoop) : Prop where
  node : Stored (ns.map nodeEntry) st.pSsa.epNodeTbl st₀.pSsa.pNodeTbl st.pSsa.pNodeTbl
  nodeOffset : st.nodeOffset = ns.length
  frame : st.pSsa =
    { st₀.pSsa with epNodeTbl := st.pSsa.epNodeTbl, pNodeTbl := st.pSsa.pNodeTbl }

@[simp] theorem pSsa_foldl_addLftBlock (pSw : OsmSwitch) (l : List Nat) (st : NodeLoop) :
    (l.foldl (addLftBlock pSw) st).pSsa = st.pSsa := by
  induction l generalizing st with
  | nil => rfl
  | cons i rest ih => exact ih _

@[simp] theorem nodeOffset_foldl_addLftBlock (pSw : OsmSwitch) (l : List Nat) (st : NodeLoop) :
    (l.foldl (addLftBlock pSw) st).nodeOffset = st.nodeOffset := by
  induction l generalizing st with
  | nil => rfl
  | cons i rest ih => exact ih _

/-- The body writes the node's record, whatever it does about the LFT. -/
private theorem nodeLoopBody_node (firstTimeSubnetUp : Bool) (st : NodeLoop) (n : OsmNode) :
    (nodeLoopBody firstTimeSubnetUp st n).pSsa = (addNode st n).pSsa ∧
      (nodeLoopBody firstTimeSubnetUp st n).nodeOffset = st.nodeOffset + 1 := by
  rw [nodeLoopBody]
  split
  · exact ⟨rfl, rfl⟩
  · split
    · rw [addLft, pSsa_foldl_addLftBlock, nodeOffset_foldl_addLftBlock]
      exact ⟨rfl, rfl⟩
    · exact ⟨rfl, rfl⟩

theorem nodesDone_loop (firstTimeSubnetUp : Bool) {st₀ : NodeLoop}
    (hempty : st₀.pSsa.epNodeTbl = OrdMap.empty) (hoff : st₀.nodeOffset = 0)
    (ns : List OsmNode) :
    NodesDone st₀ ns (ns.foldl (nodeLoopBody firstTimeSubnetUp) st₀) := by
  have hstart : NodesDone st₀ [] st₀ := by
    refine ⟨?_, hoff, rfl⟩
    rw [hempty]
    exact Stored.nil _
  refine loop_induction hstart ?_ ns
  intro l n st ⟨hnode, hn, hframe⟩
  obtain ⟨hssa, hnext⟩ := nodeLoopBody_node firstTimeSubnetUp st n
  have hpush := hnode.push n.nodeGuid (epNodeTblRecInit n)
  rw [List.length_map, ← hn] at hpush
  refine ⟨?_, ?_, ?_⟩
  · rw [hssa, List.map_append]
    exact hpush
  · rw [hnext, hn, List.length_append, List.length_singleton]
  · rw [hssa, addNode, hframe]

/-- After the first time the loop leaves the LFT database alone. -/
theorem pLftDb_loop_later (ns : List OsmNode) (st₀ : NodeLoop) :
    (ns.foldl (nodeLoopBody false) st₀).pLftDb = st₀.pLftDb := by
  refine loop_induction (P := fun _ (st : NodeLoop) => st.pLftDb = st₀.pLftDb) rfl ?_ ns
  intro l n st h
  exact h

/-- The two LFT tables of the database while they are filled for the first
time, and what is not touched. -/
structure LftDone (l₀ : SsaDbLft) (tops : List (UInt64 × EpLftTopTblRec))
    (blocks : List (UInt64 × EpLftBlockTblRec)) (st : NodeLoop) : Prop where
  top : Stored tops st.pLftDb.epDbLftTopTbl l₀.pDbLftTopTbl st.pLftDb.pDbLftTopTbl
  block : Stored blocks st.pLftDb.epDbLftBlockTbl l₀.pDbLftBlockTbl st.pLftDb.pDbLftBlockTbl
  topOffset : st.lftTopOffset = tops.length
  blockOffset : st.lftBlockOffset = blocks.length
  frame : st.pLftDb =
    { l₀ with
      epDbLftTopTbl := st.pLftDb.epDbLftTopTbl
      pDbLftTopTbl := st.pLftDb.pDbLftTopTbl
      epDbLftBlockTbl := st.pLftDb.epDbLftBlockTbl
      pDbLftBlockTbl := st.pLftDb.pDbLftBlockTbl }

section FirstTime

variable {l₀ : SsaDbLft} {tops : List (UInt64 × EpLftTopTblRec)}
  {blocks : List (UInt64 × EpLftBlockTblRec)} {st : NodeLoop}

private theorem LftDone.addLftTop (h : LftDone l₀ tops blocks st) (n : OsmNode) :
    LftDone l₀ (tops ++ [lftTopEntry n]) blocks (addLftTop st n) := by
  have hpush := h.top.push (lftTopEntry n).1 (lftTopEntry n).2
  rw [← h.topOffset] at hpush
  refine ⟨hpush, h.block, ?_, h.blockOffset, ?_⟩
  · rw [Ibssa.addLftTop, h.topOffset, List.length_append, List.length_singleton]
  · rw [Ibssa.addLftTop, h.frame]

private theorem LftDone.addLftBlock (h : LftDone l₀ tops blocks st) {n : OsmNode}
    (hlid : st.lidHo = ntohs (n.baseLid 0)) (i : Nat) :
    LftDone l₀ tops (blocks ++ [lftBlockEntry n i]) (addLftBlock n.sw st i) := by
  have hpush := h.block.push (lftBlockEntry n i).1 (lftBlockEntry n i).2
  rw [← h.blockOffset] at hpush
  refine ⟨h.top, ?_, h.topOffset, ?_, ?_⟩
  · rw [Ibssa.addLftBlock, hlid]
    exact hpush
  · rw [Ibssa.addLftBlock, h.blockOffset, List.length_append, List.length_singleton]
  · rw [Ibssa.addLftBlock, h.frame]

/-- One switch: its top, then its blocks in order, under one LID. -/
private theorem LftDone.addLft (h : LftDone l₀ tops blocks st) (n : OsmNode) :
    LftDone l₀ (tops ++ [lftTopEntry n]) (blocks ++ lftBlockEntries n) (addLft st n) := by
  have hstart : LftDone l₀ (tops ++ [lftTopEntry n])
      (blocks ++ [].map (lftBlockEntry n)) (Ibssa.addLftTop st n) := by
    rw [List.map_nil, List.append_nil]
    exact h.addLftTop n
  have hloop := loop_induction
    (P := fun l st' =>
      LftDone l₀ (tops ++ [lftTopEntry n]) (blocks ++ l.map (lftBlockEntry n)) st' ∧
        st'.lidHo = ntohs (n.baseLid 0))
    (f := Ibssa.addLftBlock n.sw) ⟨hstart, rfl⟩ (by
      intro l i st' ⟨hdone, hlid⟩
      refine ⟨?_, hlid⟩
      rw [List.map_append, ← List.append_assoc]
      exact hdone.addLftBlock hlid i)
  exact (hloop (List.range (n.sw.lftSize.toNat / ibSmpDataSize))).1

end FirstTime

/-- The first time the LFT tables hold the tops and blocks of all switches. -/
theorem lftDone_loop {st₀ : NodeLoop} (htop : st₀.pLftDb.epDbLftTopTbl = OrdMap.empty)
    (hblock : st₀.pLftDb.epDbLftBlockTbl = OrdMap.empty) (htopOff : st₀.lftTopOffset = 0)
    (hblockOff : st₀.lftBlockOffset = 0) (ns : List OsmNode) :
    LftDone st₀.pLftDb (lftTops ns) (lftBlocks ns) (ns.foldl (nodeLoopBody true) st₀) := by
  have hstart : LftDone st₀.pLftDb (lftTops []) (lftBlocks []) st₀ := by
    refine ⟨?_, ?_, htopOff, hblockOff, rfl⟩
    · rw [htop]
      exact Stored.nil _
    · rw [hblock]
      exact Stored.nil _
  refine loop_induction (P := fun l st => LftDone st₀.pLftDb (lftTops l) (lftBlocks l) st)
    hstart ?_ ns
  intro l n st h
  have hnode : LftDone st₀.pLftDb (lftTops l) (lftBlocks l) (addNode st n) :=
    ⟨h.top, h.block, h.topOffset, h.blockOffset, h.frame⟩
  rw [lftTops_concat, lftBlocks_concat]
  show LftDone _ _ _ (if n.isSwitch then addLft (addNode st n) n else addNode st n)
  by_cases hsw : n.isSwitch = true
  · rw [if_pos hsw, if_pos hsw, if_pos hsw]
    exact hnode.addLft n
  · rw [if_neg hsw, if_neg hsw, if_neg hsw]
    exact hnode

/-! ## The GUID table -/

/-- The port's entry in the table from GUIDs to LIDs. -/
def guidToLidEntry (s : OsmSubn) (p : OsmPort) : UInt64 × EpGuidToLidTblRec :=
  ((s.physp p.pPhysp).portGuid, epGuidToLidTblRecInit s p)

/-- The GUID table after some ports, and what no port touches. -/
structure GuidsDone (s : OsmSubn) (st₀ : PortLoop) (ps : List OsmPort) (st : PortLoop) :
    Prop where
  guidToLid : Stored (ps.map (guidToLidEntry s)) st.pSsa.epGuidToLidTbl
    st₀.pSsa.pGuidToLidTbl st.pSsa.pGuidToLidTbl
  guidToLidOffset : st.guidToLidOffset = ps.length
  epNodeTbl : st.pSsa.epNodeTbl = st₀.pSsa.epNodeTbl
  pNodeTbl : st.pSsa.pNodeTbl = st₀.pSsa.pNodeTbl
  pkeyTblRecNum : st.pSsa.pkeyTblRecNum = st₀.pSsa.pkeyTblRecNum
  pkeyAddr : st.pSsa.pPkeyTbl.addr = st₀.pSsa.pPkeyTbl.addr

theorem guidsDone_loop (s : OsmSubn) {st₀ : PortLoop}
    (hempty : st₀.pSsa.epGuidToLidTbl = OrdMap.empty) (hoff : st₀.guidToLidOffset = 0)
    (ps : List OsmPort) : GuidsDone s st₀ ps (ps.foldl (portLoopBody s) st₀) := by
  have hstart : GuidsDone s st₀ [] st₀ := by
    refine ⟨?_, hoff, rfl, rfl, rfl, rfl⟩
    rw [hempty]
    exact Stored.nil _
  refine loop_induction hstart ?_ ps
  intro l p st h
  have hframe := portFrame_portLoopBody s st p
  have hpush := h.guidToLid.push (guidToLidEntry s p).1 (guidToLidEntry s p).2
  rw [List.length_map, ← h.guidToLidOffset] at hpush
  refine ⟨?_, ?_, ?_, ?_, ?_, ?_⟩
  · rw [hframe.epGuidToLidTbl, hframe.pGuidToLidTbl, List.map_append]
    exact hpush
  · rw [hframe.guidToLidOffset, addGuidToLid, h.guidToLidOffset, List.length_append,
      List.length_singleton]
  · rw [hframe.epNodeTbl]
    exact h.epNodeTbl
  · rw [hframe.pNodeTbl]
    exact h.pNodeTbl
  · rw [hframe.pkeyTblRecNum]
    exact h.pkeyTblRecNum
  · rw [hframe.pkeyAddr]
    exact h.pkeyAddr

/-! ## How many pkeys a port record is given

A record's size counts what `pkey_cur_offset` counts: the port's own pkeys,
and those of the ports before it whose `continue` left the count standing. -/

/-- The numbers of pkeys in the records of one end port, one for each record,
when `carry` pkeys were left standing before it. -/
def portRuns (s : OsmSubn) (carry : Nat) (p : OsmPort) : List Nat :=
  let own := (s.physp p.pPhysp).pkeys.length
  if (s.nodeOf p.pPhysp).isSwitch then
    ((List.range (s.nodeOf p.pPhysp).physpTblSize.toNat).filter fun i =>
        (s.physp ⟨p.pPhysp.node, i⟩).valid).map
      fun i => if i = 0 then carry + own else 0
  else [carry + own]

/-- The pkeys left standing after an end port. -/
def carryAfter (s : OsmSubn) (carry : Nat) (p : OsmPort) : Nat :=
  if (s.nodeOf p.pPhysp).isSwitch || (s.physp p.pPhysp).remote.isSome then 0
  else carry + (s.physp p.pPhysp).pkeys.length

/-- The numbers of pkeys in all port records, in the order of the records. -/
def pkeyRuns (s : OsmSubn) : Nat → List OsmPort → List Nat
  | _, [] => []
  | carry, p :: ps => portRuns s carry p ++ pkeyRuns s (carryAfter s carry p) ps

private theorem pkeySizes_validPhysps {s : OsmSubn} {p : OsmPort}
    (hsw : (s.nodeOf p.pPhysp).isSwitch = true) (lid : UInt16) (base cur : Nat) (l : List Nat) :
    ((validPhysps s p.pPhysp.node l).map (portEntry s lid base cur)).map
        (fun e => ntohs e.2.pkeyTblSize)
      = ((l.filter fun i => (s.physp ⟨p.pPhysp.node, i⟩).valid).map fun i =>
          if i = 0 then cur else 0).map runSize := by
  rw [validPhysps, List.map_map, List.map_map, List.map_map]
  refine List.map_congr_left ?_
  intro i _
  show ntohs (portRec s lid base cur ⟨p.pPhysp.node, i⟩).pkeyTblSize = _
  rw [portRec]
  by_cases hi : i = 0
  · rw [if_neg (fun hc => hc.2 hi)]
    simp only [Function.comp_apply, if_pos hi]
    rfl
  · rw [if_pos ⟨hsw, hi⟩]
    simp only [Function.comp_apply, if_neg hi]
    rfl

/-- The sizes that the records of one end port give. -/
private theorem pkeySizes_portEntries (s : OsmSubn) (c : PortCursor) (p : OsmPort) :
    (portEntries s c p).map (fun e => ntohs e.2.pkeyTblSize)
      = (portRuns s c.cur p).map runSize := by
  rw [portEntries, endPhysps, portRuns]
  cases hsw : (s.nodeOf p.pPhysp).isSwitch with
  | true =>
      rw [if_pos rfl, if_pos rfl, pkeySizes_validPhysps hsw]
      congr 1
      refine List.map_congr_left ?_
      intro i hi
      by_cases h0 : i = 0
      · -- a record of port 0 means that the pkeys were copied
        subst h0
        obtain ⟨hrange, hvalid⟩ := List.mem_filter.mp hi
        have hport0 : (s.nodeOf p.pPhysp).hasPort0 = true :=
          hasPort0_iff.mpr ⟨List.mem_range.mp hrange, hvalid⟩
        rw [ownPkeys, hsw, hport0]
        rfl
      · rw [if_neg h0, if_neg h0]
  | false =>
      rw [if_neg Bool.false_ne_true, if_neg Bool.false_ne_true, ownPkeys, hsw]
      simp only [List.map_cons, List.map_nil, portEntry, portRec, hsw]
      rfl

theorem cur_after (s : OsmSubn) (c : PortCursor) (p : OsmPort) :
    (c.after s p).cur = carryAfter s c.cur p := by
  rw [PortCursor.after, carryAfter, closesRun]
  cases hsw : (s.nodeOf p.pPhysp).isSwitch with
  | true => rfl
  | false =>
      rw [ownPkeys, hsw]
      rfl

theorem pkeySizes_portRun (s : OsmSubn) (c : PortCursor) (ps : List OsmPort) :
    (portRun s c ps).map (fun e => ntohs e.2.pkeyTblSize)
      = (pkeyRuns s c.cur ps).map runSize := by
  induction ps generalizing c with
  | nil => rfl
  | cons p ps ih =>
      rw [portRun, pkeyRuns, List.map_append, List.map_append, pkeySizes_portEntries, ih,
        cur_after]

/-! ## The snapshot -/

/-- A table and its map hold the records of a list, each under its key. -/
def Holds {α : Type} (m : EpMap) (b : Buf α) (l : List (UInt64 × α)) : Prop :=
  view m b = fun k => OrdMap.find k l

/-- What an extraction from a subnet puts in a snapshot. -/
structure SnapshotOf (s : OsmSubn) (db : SsaDbExtract) : Prop where
  node : Holds db.epNodeTbl db.pNodeTbl (s.nodes.map nodeEntry)
  guidToLid : Holds db.epGuidToLidTbl db.pGuidToLidTbl (s.ports.map (guidToLidEntry s))
  pkeySize : ∀ k o, db.epPortTbl.get? k = some o →
    ∃ h : o < (pkeyRuns s 0 s.ports).length,
      ntohs (db.pPortTbl.cell o).pkeyTblSize = runSize (pkeyRuns s 0 s.ports)[o]
  portApart : Apart db.epPortTbl
  pkeyTblRecNum : db.pkeyTblRecNum = (portPkeysNum s).toNat
  pkeyTbl : db.pPkeyTbl.isNull = false
  initialized : db.initialized = true

theorem isNull_mallocIfNull {α : Type} (b : Buf α) (a : Addr) (n : Nat) (junk : Nat → α) :
    (mallocIfNull b a n junk).isNull = false := by
  rw [mallocIfNull]
  split
  · exact Buf.isNull_malloc a n junk
  · next h => simpa using h

section Extract

variable (mem : Mem) (firstTimeSubnetUp : Bool) {ssaDb : SsaDatabase} (s : OsmSubn)

theorem nodesDone_nodeLoop (hfresh : ssaDb.pDumpDb = ssaDbExtractInit) :
    NodesDone (nodeLoopInit mem ssaDb s) s.nodes (nodeLoop mem firstTimeSubnetUp ssaDb s) :=
  nodesDone_loop firstTimeSubnetUp (by rw [nodeLoopInit, hfresh]; rfl) rfl s.nodes

/-- The loop over the nodes leaves the rest of the database fresh. -/
private theorem pSsa_nodeLoop (hfresh : ssaDb.pDumpDb = ssaDbExtractInit) :
    ∃ pSsa : SsaDbExtract, (nodeLoop mem firstTimeSubnetUp ssaDb s).pSsa = pSsa ∧
      pSsa.epGuidToLidTbl = OrdMap.empty ∧ pSsa.epPortTbl = OrdMap.empty ∧
      pSsa.epLinkTbl = OrdMap.empty ∧ pSsa.pGuidToLidTbl = Buf.null ∧
      pSsa.pPortTbl = Buf.null ∧ pSsa.pLinkTbl = Buf.null ∧ pSsa.pPkeyTbl = Buf.null := by
  refine ⟨_, rfl, ?_⟩
  rw [(nodesDone_nodeLoop mem firstTimeSubnetUp s hfresh).frame, nodeLoopInit, hfresh]
  exact ⟨rfl, rfl, rfl, rfl, rfl, rfl, rfl⟩

/-- The cursor before the first end port. -/
def PortCursor.start (lidHo : UInt16) : PortCursor := ⟨lidHo, 0, 0⟩

/-- The tables of a snapshot are logs of lists read off the subnet, in the blocks
that were allocated for them. `nodes` is how the loop over the nodes ended. -/
structure SnapshotLogs (mem : Mem) (s : OsmSubn) (nodes : NodeLoop) (db : SsaDbExtract) :
    Prop where
  node : Stored (s.nodes.map nodeEntry) db.epNodeTbl
    (Buf.malloc mem.addr (UInt32.ofNat s.nodeGuidTbl.count).toNat mem.node) db.pNodeTbl
  guidToLid : Stored (s.ports.map (guidToLidEntry s)) db.epGuidToLidTbl
    (Buf.malloc mem.addr (UInt32.ofNat s.portGuidTbl.count).toNat mem.guidToLid) db.pGuidToLidTbl
  port : Stored (portRun s (PortCursor.start nodes.lidHo) s.ports) db.epPortTbl
    (Buf.malloc mem.addr (UInt32.ofNat s.portGuidTbl.count + nodes.switchPortsNum).toNat mem.port)
    db.pPortTbl
  link : Stored (linkRun s (PortCursor.start nodes.lidHo) s.ports) db.epLinkTbl
    (Buf.malloc mem.addr (UInt32.ofNat s.portGuidTbl.count + nodes.switchPortsNum).toNat mem.link)
    db.pLinkTbl
  pkey : Logged (s.ports.flatMap (ownPkeys s))
    (Buf.malloc mem.pkeyAddr (portPkeysNum s).toNat mem.pkey) db.pPkeyTbl
  pkeyTblRecNum : db.pkeyTblRecNum = (portPkeysNum s).toNat
  initialized : db.initialized = true

theorem snapshotLogs_ssaDbExtract (hfresh : ssaDb.pDumpDb = ssaDbExtractInit) :
    SnapshotLogs mem s (nodeLoop mem firstTimeSubnetUp ssaDb s)
      (ssaDbExtract mem firstTimeSubnetUp ssaDb s).pDumpDb := by
  have hnodes := nodesDone_nodeLoop mem firstTimeSubnetUp s hfresh
  obtain ⟨pSsa, hssa, hguid, hport, hlink, hguidTbl, hportTbl, hlinkTbl, hpkeyTbl⟩ :=
    pSsa_nodeLoop mem firstTimeSubnetUp s hfresh
  have hdb : (ssaDbExtract mem firstTimeSubnetUp ssaDb s).pDumpDb
      = { (portLoop mem s (nodeLoop mem firstTimeSubnetUp ssaDb s)).pSsa with
          initialized := true } := rfl
  rw [hdb]
  generalize nodeLoop mem firstTimeSubnetUp ssaDb s = nodes at hnodes hssa ⊢
  have hguids : GuidsDone s (portLoopInit mem s nodes) s.ports (portLoop mem s nodes) := by
    refine guidsDone_loop s ?_ rfl s.ports
    rw [portLoopInit, hssa]
    exact hguid
  have hstart : PortsHold (portLoopInit mem s nodes) [] [] [] (PortCursor.start nodes.lidHo)
      (portLoopInit mem s nodes) := by
    refine ⟨?_, ?_, Logged.nil _, rfl, rfl, rfl, rfl⟩
    · rw [portLoopInit, hssa, hport]
      exact Stored.nil _
    · rw [portLoopInit, hssa, hlink]
      exact Stored.nil _
  have hports : PortsHold (portLoopInit mem s nodes) _ _ _ _ (portLoop mem s nodes) :=
    hstart.loop s s.ports
  -- every block was null before, so every block is a new one
  have hnode := hnodes.node
  have hguidToLid := hguids.guidToLid
  have hports' := hports.port
  have hlinks := hports.link
  have hpkeys := hports.pkey
  rw [nodeLoopInit, hfresh] at hnode
  rw [portLoopInit, hssa, hguidTbl] at hguidToLid
  rw [portLoopInit, hssa, hportTbl] at hports'
  rw [portLoopInit, hssa, hlinkTbl] at hlinks
  rw [portLoopInit, hssa, hpkeyTbl] at hpkeys
  refine ⟨?_, hguidToLid, hports', hlinks, hpkeys, hguids.pkeyTblRecNum, rfl⟩
  show Stored _ (portLoop mem s nodes).pSsa.epNodeTbl _ (portLoop mem s nodes).pSsa.pNodeTbl
  rw [hguids.epNodeTbl, hguids.pNodeTbl]
  exact hnode

end Extract

/-- `ssa_db_extract` into a fresh database takes a snapshot of the subnet. -/
theorem snapshotOf_ssaDbExtract (mem : Mem) (firstTimeSubnetUp : Bool) {ssaDb : SsaDatabase}
    (hfresh : ssaDb.pDumpDb = ssaDbExtractInit) (s : OsmSubn) :
    SnapshotOf s (ssaDbExtract mem firstTimeSubnetUp ssaDb s).pDumpDb := by
  have hlogs := snapshotLogs_ssaDbExtract mem firstTimeSubnetUp s hfresh
  have hsizes : (portRun s _ s.ports).map (fun e => ntohs e.2.pkeyTblSize)
      = (pkeyRuns s 0 s.ports).map runSize :=
    pkeySizes_portRun s (PortCursor.start (nodeLoop mem firstTimeSubnetUp ssaDb s).lidHo) s.ports
  refine ⟨hlogs.node.view_eq, hlogs.guidToLid.view_eq, ?_, hlogs.port.laid.apart,
    hlogs.pkeyTblRecNum, ?_, hlogs.initialized⟩
  · intro k o ho
    obtain ⟨hlt, hcell⟩ := hlogs.port.cell_of_get? ho
    have hlen := congrArg List.length hsizes
    rw [List.length_map, List.length_map] at hlen
    refine ⟨by omega, ?_⟩
    have hget := congrArg (fun m : List UInt16 => m[o]?) hsizes
    simp only [List.getElem?_map, List.getElem?_eq_getElem hlt,
      List.getElem?_eq_getElem (show o < (pkeyRuns s 0 s.ports).length by omega),
      Option.map_some, Option.some.injEq] at hget
    rw [hcell]
    exact hget
  · rw [Buf.isNull, hlogs.pkey.addr_eq]
    exact Buf.isNull_malloc _ _ _

end Ibssa
