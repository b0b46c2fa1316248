import Ibssa.Proofs.PkeyRoom

/-!
# Where the ports' pkeys are

Every end port has one record that designates pkeys: its own record, or the one
of port 0 for a switch. The pkeys themselves are copied in order, each port's
behind those of the ports before it, whatever happens; it is the records that
can be wrong. A port record tells of its port's own pkeys when nothing is left
standing in `pkey_cur_offset` before the port, and the only ports that leave
something are the unlinked ones with pkeys. So the layout is right exactly when
such a port can only be the last.
-/

namespace Ibssa

open Keyed ByteOrder Machine

/-! ## The layout -/

section Layout

variable (s : OsmSubn) (db : SsaDbExtract)

/-- The record that says where the pkeys of the `k`-th end port are. -/
def pkeyRec (k : Nat) : EpPortTblRec := db.pPortTbl.cell (recPlace s (s.ports.take k))

/-- Where they start, and how many there are, in entries. -/
def pkeyStart (k : Nat) : Nat := ntohll (pkeyRec s db k).pkeyTblOffset

def pkeyCount (k : Nat) : Nat :=
  (ntohs (pkeyRec s db k).pkeyTblSize).toNat / SsaTableId.pkey.recSize

/-- Every end port's record designates the port's own pkeys, the ranges follow
each other and fill the table, and the other records of a switch designate
none. `record` says whose record is whose. -/
structure PkeyLayout : Prop where
  record : ∀ k (hk : k < s.ports.length) j (hj : j < (endPhysps s s.ports[k]).length),
    ∃ lid, { db.pPortTbl.cell (recPlace s (s.ports.take k) + j) with
        pkeyTblOffset := htonll 0
        pkeyTblSize := htons 0 } = plainPortRec s lid (endPhysps s s.ports[k])[j]
  size : ∀ k (hk : k < s.ports.length),
    (ntohs (pkeyRec s db k).pkeyTblSize).toNat
      = (s.physp s.ports[k].pPhysp).pkeys.length * SsaTableId.pkey.recSize
  own : ∀ k (hk : k < s.ports.length) j (hj : j < (s.physp s.ports[k].pPhysp).pkeys.length),
    db.pPkeyTbl.cell (pkeyStart s db k + j) = (s.physp s.ports[k].pPhysp).pkeys[j]
  first : s.ports ≠ [] → pkeyStart s db 0 = 0
  next : ∀ k, k + 1 < s.ports.length →
    pkeyStart s db (k + 1) = pkeyStart s db k + pkeyCount s db k
  fills : ((List.range s.ports.length).map (pkeyCount s db)).sum = db.pkeyTblRecNum
  others : ∀ k (hk : k < s.ports.length) j, 0 < j → j < (endPhysps s s.ports[k]).length →
    ntohs (db.pPortTbl.cell (recPlace s (s.ports.take k) + j)).pkeyTblSize = 0

end Layout

/-- What OpenSM sees to: no port has 32768 pkeys or more, and the end port of a
switch is its port 0, which the switch has. -/
structure PkeyPorts (s : OsmSubn) : Prop where
  few : ∀ p ∈ s.ports, (s.physp p.pPhysp).pkeys.length < 32768
  port0 : ∀ p ∈ s.ports, (s.nodeOf p.pPhysp).isSwitch = true →
    p.pPhysp.port = 0 ∧ (s.nodeOf p.pPhysp).hasPort0 = true

/-! ## What the extraction writes -/

/-- The port records and the pkeys of a snapshot, by place. -/
structure PortRecords (s : OsmSubn) (c : PortCursor) (db : SsaDbExtract) : Prop where
  port : ∀ k (hk : k < s.ports.length) j (hj : j < (endPhysps s s.ports[k]).length),
    db.pPortTbl.cell (recPlace s (s.ports.take k) + j)
      = portRec s (lidOf s (cursorAfter s c (s.ports.take k)) s.ports[k])
          (cursorAfter s c (s.ports.take k)).base
          ((cursorAfter s c (s.ports.take k)).cur + (ownPkeys s s.ports[k]).length)
          (endPhysps s s.ports[k])[j]
  pkey : ∀ k (hk : k < s.ports.length) j (hj : j < (ownPkeys s s.ports[k]).length),
    db.pPkeyTbl.cell (((s.ports.take k).flatMap (ownPkeys s)).length + j)
      = (ownPkeys s s.ports[k])[j]
  recNum : db.pkeyTblRecNum = pkeysTotal s s.ports % 2 ^ 32

theorem portRecords_ssaDbExtract (mem : Mem) (firstTimeSubnetUp : Bool) {ssaDb : SsaDatabase}
    (hfresh : ssaDb.pDumpDb = ssaDbExtractInit) (s : OsmSubn) :
    ∃ lidHo, PortRecords s (PortCursor.start lidHo)
      (ssaDbExtract mem firstTimeSubnetUp ssaDb s).pDumpDb := by
  have hlogs := snapshotLogs_ssaDbExtract mem firstTimeSubnetUp s hfresh
  refine ⟨(nodeLoop mem firstTimeSubnetUp ssaDb s).lidHo, ?_, ?_, ?_⟩
  · intro k hk j hj
    obtain ⟨hlt, hget⟩ := List.getElem?_eq_some_iff.mp
      (getElem?_portRun s (PortCursor.start (nodeLoop mem firstTimeSubnetUp ssaDb s).lidHo) hk hj)
    have hcell := hlogs.port.laid.cells _ hlt
    rw [hget] at hcell
    exact hcell
  · intro k hk j hj
    obtain ⟨hlt, hget⟩ := List.getElem?_eq_some_iff.mp (getElem?_ownPkeys s hk hj)
    have hcell := hlogs.pkey.cells _ hlt
    rw [hget] at hcell
    exact hcell
  · rw [hlogs.pkeyTblRecNum, toNat_portPkeysNum]

/-! ## Whose record it is -/

section EndPort

variable {s : OsmSubn} {p : OsmPort}

theorem ownPkeys_eq (h : (s.nodeOf p.pPhysp).isSwitch = true →
    (s.nodeOf p.pPhysp).hasPort0 = true) : ownPkeys s p = (s.physp p.pPhysp).pkeys := by
  rw [ownPkeys]
  cases hsw : (s.nodeOf p.pPhysp).isSwitch with
  | true =>
      rw [h hsw]
      rfl
  | false => rfl

/-- The first record of an end port is the one that designates pkeys. -/
theorem endPhysps_eq_cons (h : (s.nodeOf p.pPhysp).isSwitch = true →
    (s.nodeOf p.pPhysp).hasPort0 = true) :
    ∃ r rest, endPhysps s p = r :: rest ∧ ¬ ((s.nodeOf r).isSwitch = true ∧ r.port ≠ 0) ∧
      ∀ r' ∈ rest, (s.nodeOf r').isSwitch = true ∧ r'.port ≠ 0 := by
  cases hsw : (s.nodeOf p.pPhysp).isSwitch with
  | true =>
      obtain ⟨hpos, hvalid⟩ := hasPort0_iff.mp (h hsw)
      have hvalid' : (s.physp ⟨p.pPhysp.node, 0⟩).valid = true := hvalid
      obtain ⟨n, hn⟩ := Nat.exists_eq_succ_of_ne_zero (Nat.pos_iff_ne_zero.mp hpos)
      refine ⟨⟨p.pPhysp.node, 0⟩, validPhysps s p.pPhysp.node ((List.range n).map Nat.succ), ?_,
        fun hc => hc.2 rfl, ?_⟩
      · rw [endPhysps_of_switch hsw, hn, Nat.succ_eq_add_one, List.range_succ_eq_map,
          validPhysps_cons_of_valid hvalid']
      · intro r' hr'
        obtain ⟨i, hi, rfl⟩ := List.mem_map.mp hr'
        obtain ⟨i', _, rfl⟩ := List.mem_map.mp (List.mem_filter.mp hi).1
        exact ⟨hsw, Nat.succ_ne_zero i'⟩
  | false =>
      refine ⟨p.pPhysp, [], endPhysps_of_endPort hsw, ?_, ?_⟩
      · rintro ⟨hc, _⟩
        rw [hsw] at hc
        cases hc
      · intro r' hr'
        cases hr'

end EndPort

section PortRecords

variable {s : OsmSubn} {lidHo : UInt16} {db : SsaDbExtract}

/-- The cursor before the `k`-th end port. -/
private def cursorAt (s : OsmSubn) (lidHo : UInt16) (k : Nat) : PortCursor :=
  cursorAfter s (PortCursor.start lidHo) (s.ports.take k)

private theorem PkeyPorts.ownPkeys_eq (hok : PkeyPorts s) {k : Nat} (hk : k < s.ports.length) :
    ownPkeys s s.ports[k] = (s.physp s.ports[k].pPhysp).pkeys :=
  Ibssa.ownPkeys_eq fun hsw => (hok.port0 _ (List.getElem_mem hk) hsw).2

/-- What the record of the `k`-th end port says of its pkeys. -/
private theorem PortRecords.pkeyRec_eq (h : PortRecords s (PortCursor.start lidHo) db)
    (hok : PkeyPorts s) {k : Nat} (hk : k < s.ports.length) :
    pkeyStart s db k = (cursorAt s lidHo k).base ∧
      (ntohs (pkeyRec s db k).pkeyTblSize).toNat
        = ((cursorAt s lidHo k).cur + (s.physp s.ports[k].pPhysp).pkeys.length) * 2 % 65536 := by
  obtain ⟨r, rest, hphysps, hfirst, _⟩ :=
    endPhysps_eq_cons fun hsw => (hok.port0 _ (List.getElem_mem hk) hsw).2
  have hpos : 0 < (endPhysps s s.ports[k]).length := by
    rw [hphysps]
    exact Nat.succ_pos _
  have hhead : (endPhysps s s.ports[k])[0] = r := by simp only [hphysps, List.getElem_cons_zero]
  have hcell := h.port k hk 0 hpos
  rw [Nat.add_zero, hhead, portRec, if_neg hfirst, hok.ownPkeys_eq hk] at hcell
  rw [pkeyStart, pkeyRec, hcell]
  refine ⟨rfl, ?_⟩
  show (runSize _).toNat = _
  rw [runSize, UInt16.toNat_ofNat']
  rfl

private theorem cur_cursorAt_succ {k : Nat} (hk : k < s.ports.length) :
    (cursorAt s lidHo (k + 1)).cur = carryAfter s (cursorAt s lidHo k).cur s.ports[k] := by
  rw [cursorAt, List.take_succ_eq_append_getElem hk, cursorAfter_concat, cur_after]
  rfl

private theorem getElem_mem_dropLast {k : Nat} (hk : k + 1 < s.ports.length) :
    s.ports[k] ∈ s.ports.dropLast := by
  rw [List.mem_iff_getElem]
  exact ⟨k, by rw [List.length_dropLast]; omega, List.getElem_dropLast _⟩

/-- Sizes that are right leave no room for a pkey left standing. -/
private theorem cur_eq_zero_of_sizes (h : PortRecords s (PortCursor.start lidHo) db)
    (hok : PkeyPorts s)
    (hsize : ∀ k (hk : k < s.ports.length), (ntohs (pkeyRec s db k).pkeyTblSize).toNat
      = (s.physp s.ports[k].pPhysp).pkeys.length * SsaTableId.pkey.recSize) :
    ∀ k, k < s.ports.length → (cursorAt s lidHo k).cur = 0 := by
  intro k
  induction k with
  | zero => intro _; rfl
  | succ k ih =>
      intro hk
      have hprev := ih (by omega)
      have hrec : SsaTableId.pkey.recSize = 2 := rfl
      have hown := hsize (k + 1) hk
      rw [(h.pkeyRec_eq hok hk).2, hrec] at hown
      have hfew := hok.few _ (List.getElem_mem hk)
      have hfewPrev := hok.few _ (List.getElem_mem (show k < s.ports.length by omega))
      have hcur : (cursorAt s lidHo (k + 1)).cur = _ := cur_cursorAt_succ (by omega)
      have hle : (cursorAt s lidHo (k + 1)).cur < 32768 := by
        rw [hcur, carryAfter, hprev]
        split <;> omega
      omega

/-- Nor does an unlinked port that can only be the last. -/
private theorem cur_eq_zero_of_linked (hlinked : PkeysLinked s s.ports.dropLast) :
    ∀ k, k < s.ports.length → (cursorAt s lidHo k).cur = 0 := by
  intro k
  induction k with
  | zero => intro _; rfl
  | succ k ih =>
      intro hk
      rw [cur_cursorAt_succ (by omega), ih (by omega)]
      exact carryAfter_eq_zero.mpr (hlinked _ (getElem_mem_dropLast hk))

private theorem map_range_eq_map {α β : Type} {f : Nat → β} {g : α → β} {l : List α}
    (h : ∀ k (hk : k < l.length), f k = g l[k]) : (List.range l.length).map f = l.map g := by
  refine List.ext_getElem (by simp) ?_
  intro k hk hk'
  rw [List.length_map] at hk'
  rw [List.getElem_map, List.getElem_map, List.getElem_range, h k hk']

private theorem pkeyCount_eq {k : Nat} {hk : k < s.ports.length}
    (hsize : (ntohs (pkeyRec s db k).pkeyTblSize).toNat
      = (s.physp s.ports[k].pPhysp).pkeys.length * SsaTableId.pkey.recSize) :
    pkeyCount s db k = (s.physp s.ports[k].pPhysp).pkeys.length := by
  rw [pkeyCount, hsize]
  exact Nat.mul_div_cancel _ (by decide)

private theorem sum_pkeyCount
    (hsize : ∀ k (hk : k < s.ports.length), (ntohs (pkeyRec s db k).pkeyTblSize).toNat
      = (s.physp s.ports[k].pPhysp).pkeys.length * SsaTableId.pkey.recSize) :
    ((List.range s.ports.length).map (pkeyCount s db)).sum = pkeysTotal s s.ports := by
  rw [pkeysTotal]
  exact congrArg List.sum (map_range_eq_map fun k hk => pkeyCount_eq (hsize k hk))

theorem PortRecords.linked_of_layout (h : PortRecords s (PortCursor.start lidHo) db)
    (hok : PkeyPorts s) (hl : PkeyLayout s db) :
    PkeysLinked s s.ports.dropLast ∧ pkeysTotal s s.ports < 2 ^ 32 := by
  have hcur := cur_eq_zero_of_sizes h hok hl.size
  constructor
  · intro p hp
    obtain ⟨k, hk, rfl⟩ := List.mem_iff_getElem.mp hp
    rw [List.length_dropLast] at hk
    have hcarry : (cursorAt s lidHo (k + 1)).cur = _ := cur_cursorAt_succ (by omega)
    rw [hcur k (by omega), hcur (k + 1) (by omega)] at hcarry
    rw [List.getElem_dropLast]
    exact carryAfter_eq_zero.mp hcarry.symm
  · have hfills := hl.fills
    rw [sum_pkeyCount hl.size, h.recNum] at hfills
    rw [hfills]
    exact Nat.mod_lt _ (by decide)

theorem PortRecords.layout_of_linked (h : PortRecords s (PortCursor.start lidHo) db)
    (hok : PkeyPorts s) (hlinked : PkeysLinked s s.ports.dropLast)
    (htotal : pkeysTotal s s.ports < 2 ^ 32) : PkeyLayout s db := by
  have hcur : ∀ k, k < s.ports.length → (cursorAt s lidHo k).cur = 0 :=
    cur_eq_zero_of_linked hlinked
  have hrec : SsaTableId.pkey.recSize = 2 := rfl
  have hsize : ∀ k (hk : k < s.ports.length), (ntohs (pkeyRec s db k).pkeyTblSize).toNat
      = (s.physp s.ports[k].pPhysp).pkeys.length * SsaTableId.pkey.recSize := by
    intro k hk
    have hfew := hok.few _ (List.getElem_mem hk)
    rw [(h.pkeyRec_eq hok hk).2, hcur k hk, hrec]
    omega
  have hstart : ∀ k, k < s.ports.length →
      pkeyStart s db k = ((s.ports.take k).flatMap (ownPkeys s)).length := by
    intro k hk
    have hfull := full_cursorAfter s (PortCursor.start lidHo) (s.ports.take k)
    have hzero := hcur k hk
    rw [(h.pkeyRec_eq hok hk).1]
    rw [cursorAt] at hzero ⊢
    rw [hzero, Nat.add_zero] at hfull
    rw [hfull]
    exact Nat.zero_add _
  refine ⟨?_, hsize, ?_, ?_, ?_, ?_, ?_⟩
  · intro k hk j hj
    refine ⟨lidOf s (cursorAt s lidHo k) s.ports[k], ?_⟩
    rw [h.port k hk j hj, portRec]
    split <;> rfl
  · intro k hk j hj
    have hown := hok.ownPkeys_eq hk
    have hcell := h.pkey k hk j (by rw [hown]; exact hj)
    rw [hstart k hk, hcell]
    simp only [hown]
  · intro hne
    rw [hstart 0 (List.length_pos_iff.mpr hne), List.take_zero]
    rfl
  · intro k hk
    have hk' : k < s.ports.length := by omega
    rw [hstart (k + 1) hk, hstart k hk', pkeyCount_eq (hsize k hk'),
      List.take_succ_eq_append_getElem hk', List.flatMap_append, List.length_append,
      List.flatMap_singleton, hok.ownPkeys_eq hk']
  · rw [sum_pkeyCount hsize, h.recNum, Nat.mod_eq_of_lt htotal]
  · intro k hk j hpos hj
    obtain ⟨r, rest, hphysps, _, hrest⟩ :=
      endPhysps_eq_cons fun hsw => (hok.port0 _ (List.getElem_mem hk) hsw).2
    obtain ⟨i, rfl⟩ := Nat.exists_eq_succ_of_ne_zero (Nat.pos_iff_ne_zero.mp hpos)
    have hmem : (endPhysps s s.ports[k])[i.succ] ∈ rest := by
      simp only [hphysps, List.getElem_cons_succ]
      exact List.getElem_mem _
    rw [h.port k hk _ hj, portRec, if_pos (hrest _ hmem)]
    rfl

end PortRecords

/-- After an extraction the port records lay out the pkeys exactly when only the
last end port may be unlinked and have pkeys, and the 32-bit count of the pkeys
did not overflow. -/
theorem pkeyLayout_iff (mem : Mem) (firstTimeSubnetUp : Bool) {ssaDb : SsaDatabase}
    (hfresh : ssaDb.pDumpDb = ssaDbExtractInit) {s : OsmSubn} (hok : PkeyPorts s) :
    PkeyLayout s (ssaDbExtract mem firstTimeSubnetUp ssaDb s).pDumpDb ↔
      PkeysLinked s s.ports.dropLast ∧ pkeysTotal s s.ports < 2 ^ 32 := by
  obtain ⟨lidHo, h⟩ := portRecords_ssaDbExtract mem firstTimeSubnetUp hfresh s
  exact ⟨h.linked_of_layout hok, fun hc => h.layout_of_linked hok hc.1 hc.2⟩

/-- A switch with port 0 and an external port, where a channel adapter's port is
plugged in. -/
def fabricSwitch : OsmNode :=
  { (default : OsmNode) with
    nodeGuid := 1
    nodeType := ibNodeTypeSwitch
    sw := { numPorts := 2, lftSize := 64, lft := fun _ => 0, isEnhancedPort0 := 0 }
    physpTblSize := 2
    physpTable := fun i =>
      { (default : OsmPhysp) with
        valid := true
        portGuid := 1
        portNum := UInt8.ofNat i
        baseLid := if i = 0 then htons 1 else htons 0
        pkeys := if i = 0 then [0xffff] else []
        remote := if i = 1 then some ⟨1, 1⟩ else none } }

def fabricCa : OsmNode :=
  { (default : OsmNode) with
    nodeGuid := 2
    nodeType := 1
    physpTblSize := 2
    physpTable := fun i =>
      { (default : OsmPhysp) with
        valid := i == 1
        portGuid := 2
        portNum := UInt8.ofNat i
        baseLid := htons 2
        pkeys := [0xffff, 0x8001]
        remote := if i = 1 then some ⟨0, 1⟩ else none } }

/-- The two, and behind them a port without a peer. -/
def smallFabric : OsmSubn := OsmSubn.ofNodes [fabricSwitch, fabricCa, unlinkedCa 3 3]

theorem pkeyPorts_smallFabric : PkeyPorts smallFabric := ⟨by decide, by decide⟩

theorem pkeyLayout_iff_smallFabric :
    PkeyLayout smallFabric (ssaDbExtract default true ssaDatabaseInit smallFabric).pDumpDb ↔
      PkeysLinked smallFabric smallFabric.ports.dropLast ∧
        pkeysTotal smallFabric smallFabric.ports < 2 ^ 32 :=
  pkeyLayout_iff default true rfl pkeyPorts_smallFabric

/-- Of two unlinked ports with one pkey each, the second's record claims both. -/
theorem pkeyLayout_fails_unlinkedCas :
    PkeyPorts unlinkedCas ∧
      ¬ PkeyLayout unlinkedCas
        (ssaDbExtract default true ssaDatabaseInit unlinkedCas).pDumpDb := by
  refine ⟨⟨by decide, by decide⟩, ?_⟩
  intro h
  exact absurd (h.size 1 (by decide)) (by decide)

end Ibssa
